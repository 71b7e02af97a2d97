import TimestampChain.Text.Numbered
import TimestampChain.Text.Pattern.Mode

/-!
# Escapes of regular expressions

What a backslash and the characters behind it stand for: a character, a class, or a position.
-/

namespace TimestampChain.Pattern

inductive Escape where
  | letter (c : Char)
  | category
  | position
deriving DecidableEq

def number? (mode : Mode) : Nat → Nat → List Char → Option (Nat × List Char)
  | 0, n, text => some (n, text)
  | count + 1, n, text =>
    match mode.skip text with
    | [] => none
    | c :: rest => (hexValue? c).bind fun digit => number? mode count (16 * n + digit) rest

def numbered? (mode : Mode) (count : Nat) (text : List Char) : Option (Char × List Char) := do
  let (n, rest) ← number? mode count 0 text
  return (← charOfNumber? n, rest)

/-- A character by its number of two digits, which may be a byte. -/
def short? (mode : Mode) (text : List Char) : Option (Char × List Char) :=
  (numbered? mode 2 text).filter fun (c, _) => mode.unicode || decide (c.toNat < 128)

def standsForItself (c : Char) : Bool :=
  decide (c.toNat < 128) && !c.isAlphanum && c != '<' && c != '>'

/-- An escape, after its backslash. Classes and the ends of words are known among bytes only. -/
def escape? (mode : Mode) : List Char → Option (Escape × List Char)
  | [] => none
  | c :: rest =>
    if c = 'x' then (short? mode rest).map fun (c, rest) => (.letter c, rest)
    else if c = 'u' then (numbered? mode 4 rest).map fun (c, rest) => (.letter c, rest)
    else if c = 'U' then (numbered? mode 8 rest).map fun (c, rest) => (.letter c, rest)
    else if c = 'a' then some (.letter '\x07', rest)
    else if c = 'f' then some (.letter '\x0c', rest)
    else if c = 't' then some (.letter '\t', rest)
    else if c = 'n' then some (.letter '\n', rest)
    else if c = 'r' then some (.letter '\r', rest)
    else if c = 'v' then some (.letter '\x0b', rest)
    else if c = 'A' ∨ c = 'z' then some (.position, rest)
    else if c = 'd' ∨ c = 's' ∨ c = 'w' then if mode.unicode then none else some (.category, rest)
    else if c = 'b' ∨ c = 'B' ∨ c = '<' ∨ c = '>' then
      if mode.unicode then none else some (.position, rest)
    else if standsForItself c then some (.letter c, rest)
    else none

def Escape.isMember (mode : Mode) : Escape → Bool
  | letter c => mode.allowsMember c
  | category => true
  | position => false

end TimestampChain.Pattern
