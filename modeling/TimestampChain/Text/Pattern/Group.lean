import TimestampChain.Text.Alphanumeric
import TimestampChain.Text.Pattern.Mode

/-!
# Groups of regular expressions

What an opening parenthesis begins: a group, perhaps with a name or with flags of its own, or flags
for what follows.
-/

namespace TimestampChain.Pattern

/-- The flags that may be changed, and the mark that turns those behind it off. -/
def flagChars : List Char := "imsUuRx-".toList

/-- Flags up to a closing parenthesis or to a colon, where the group begins that they are for. No
flag and no mark is given twice, and none is left out behind a mark. -/
def flags? (mode : Mode) (on : Bool) (seen : List Char) :
    List Char → Option (Mode × Bool × List Char)
  | [] => none
  | ':' :: rest => if seen.head? = some '-' then none else some (mode, true, rest)
  | ')' :: rest =>
    if seen.head? = some '-' ∨ seen = [] then none else some (mode, false, rest)
  | c :: rest =>
    if c ∈ seen ∨ c ∉ flagChars then none
    else flags? (mode.set c on) (on && c != '-') (c :: seen) rest

def isGroupName : List Char → Bool
  | [] => false
  | c :: rest =>
    (c = '_' || isLetter c)
      && rest.all fun c => isAlphanumeric c || c = '_' || c = '.' || c = '[' || c = ']'

def groupName? (text : List Char) : Option (List Char × List Char) :=
  let name := text.takeWhile (· ≠ '>')
  match text.drop name.length with
  | '>' :: rest => if isGroupName name then some (name, rest) else none
  | _ => none

inductive Opening where
  | group (mode : Mode) (name : Option (List Char))
  | flags (mode : Mode)

def opening? (mode : Mode) (text : List Char) : Option (Opening × List Char) :=
  match mode.skip text with
  | '?' :: 'P' :: '<' :: rest =>
    (groupName? rest).map fun (name, rest) => (.group mode (some name), rest)
  | '?' :: '<' :: rest =>
    (groupName? rest).map fun (name, rest) => (.group mode (some name), rest)
  | '?' :: rest =>
    (flags? mode true [] rest).map fun (mode, opens, rest) =>
      (if opens then .group mode none else .flags mode, rest)
  | rest => some (.group mode none, rest)

end TimestampChain.Pattern
