import TimestampChain.Bytes

/-!
# Input of a node

Input is cut into lines at line feeds. What follows the last line feed is a line only if there is
anything. The environment is a row of variables with a zero byte behind each.
-/

namespace TimestampChain.Input

def pieces (mark : UInt8) : Bytes → List Bytes
  | [] => [[]]
  | byte :: rest =>
    if byte = mark then [] :: pieces mark rest
    else
      match pieces mark rest with
      | [] => [[byte]]
      | first :: others => (byte :: first) :: others

/-- The pieces that end at a mark or at the end of the byte string. -/
def records (mark : UInt8) (bytes : Bytes) : List Bytes :=
  let all := pieces mark bytes
  if all.getLast? = some [] then all.dropLast else all

def lines (input : Bytes) : List Bytes := records 10 input

def text? (line : Bytes) : Option String := String.fromUTF8? ⟨line.toArray⟩

def assignment? (record : Bytes) : Option (String × String) := do
  let name ← text? (record.takeWhile (· ≠ 61))
  let value ← text? ((record.dropWhile (· ≠ 61)).drop 1)
  return (name, value)

/-- The variables of an environment. Those that are not UTF-8 are left out. -/
def environment (block : Bytes) : List (String × String) :=
  (records 0 block).filterMap assignment?

end TimestampChain.Input
