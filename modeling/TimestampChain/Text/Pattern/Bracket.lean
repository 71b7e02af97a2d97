import TimestampChain.Text.Pattern.Escape
import TimestampChain.Text.Pattern.Nesting

/-!
# Classes in brackets

A class has members: characters, ranges of them, escapes, named classes and other classes in
brackets. Operators stand between the parts of a class and are taken from left to right.
-/

namespace TimestampChain.Pattern

/-! ## Members -/

def classNames : List String :=
  ["alnum", "alpha", "ascii", "blank", "cntrl", "digit", "graph", "lower", "print", "punct",
    "space", "upper", "word", "xdigit"]

def namedClass? : List Char → Option (Bool × List Char)
  | ':' :: rest =>
    let negated := rest.head? == some '^'
    let rest := if negated then rest.drop 1 else rest
    let name := rest.takeWhile (· ≠ ':')
    match rest.drop name.length with
    | ':' :: ']' :: rest => if String.ofList name ∈ classNames then some (negated, rest) else none
    | _ => none
  | _ => none

def member? (mode : Mode) : List Char → Option (Escape × List Char)
  | [] => none
  | '\\' :: rest => escape? mode rest
  | c :: rest => some (.letter c, rest)

/-- The rest behind a member of a class, or behind two of them with a hyphen between them, in order.
A hyphen in front of a closing bracket or of another hyphen makes no range. -/
def range? (mode : Mode) (text : List Char) : Option (List Char) := do
  let (first, rest) ← member? mode text
  let single := if first.isMember mode then some rest else none
  match mode.skip rest with
  | '-' :: next =>
    if mode.peek? next = some ']' ∨ mode.peek? next = some '-' then single
    else
      match first, ← member? mode (mode.skip next) with
      | .letter low, (.letter high, rest) =>
        if low ≤ high ∧ mode.allowsMember low ∧ mode.allowsMember high then return rest else none
      | _, _ => none
  | _ => single

/-! ## Classes -/

/-- A class that is read: the height of what is in front of its last operator, and the heights of
the members behind it. -/
structure Bracket where
  left : Option Nat
  members : List Nat

namespace Bracket

def height (bracket : Bracket) : Nat :=
  match bracket.left with
  | none => rowHeight bracket.members
  | some left => 1 + max left (rowHeight bracket.members)

def add (bracket : Bracket) (height : Nat) : Bracket :=
  { bracket with members := height :: bracket.members }

def operate (bracket : Bracket) : Bracket := ⟨some bracket.height, []⟩

end Bracket

def hyphens (mode : Mode) : Nat → List Char → Nat × List Char
  | 0, text => (0, text)
  | fuel + 1, text =>
    match mode.skip text with
    | '-' :: rest =>
      let (count, rest) := hyphens mode fuel rest
      (count + 1, rest)
    | text => (0, text)

/-- Open a class, after its opening bracket. A caret turns it round, and hyphens or a closing
bracket in front of all members stand for themselves. -/
def openBracket? (mode : Mode) (text : List Char) : Option (Bracket × List Char) :=
  let text := mode.skip text
  let negated := text.head? == some '^'
  if negated && !mode.allowsNegation then none
  else
    match hyphens mode text.length (if negated then text.drop 1 else text) with
    | (0, ']' :: rest) => if mode.allowsMember ']' then some (⟨none, [0]⟩, rest) else none
    | (0, rest) => some (⟨none, []⟩, rest)
    | (count, rest) =>
      if mode.allowsMember '-' then some (⟨none, List.replicate count 0⟩, rest) else none

/-- The height of a class and the rest behind it, from inside the given classes. -/
def bracketTail? (mode : Mode) :
    Nat → Bracket → List Bracket → List Char → Option (Nat × List Char)
  | 0, _, _, _ => none
  | fuel + 1, bracket, outer, text =>
    match mode.skip text with
    | [] => none
    | ']' :: rest =>
      match outer with
      | [] => some (1 + bracket.height, rest)
      | next :: outer => bracketTail? mode fuel (next.add (1 + bracket.height)) outer rest
    | '[' :: rest =>
      match namedClass? rest with
      | some (negated, rest) =>
        if mode.allowsNamed negated then bracketTail? mode fuel (bracket.add 0) outer rest else none
      | none =>
        (openBracket? mode rest).bind fun (inner, rest) =>
          bracketTail? mode fuel inner (bracket :: outer) rest
    | '&' :: '&' :: rest => bracketTail? mode fuel bracket.operate outer rest
    | '-' :: '-' :: rest => bracketTail? mode fuel bracket.operate outer rest
    | '~' :: '~' :: rest => bracketTail? mode fuel bracket.operate outer rest
    | text => (range? mode text).bind (bracketTail? mode fuel (bracket.add 0) outer)

def bracket? (mode : Mode) (text : List Char) : Option (Nat × List Char) :=
  (openBracket? mode text).bind fun (bracket, rest) =>
    bracketTail? mode (text.length + 1) bracket [] rest

end TimestampChain.Pattern
