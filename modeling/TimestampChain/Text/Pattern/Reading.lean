import TimestampChain.Text.Pattern.Bracket
import TimestampChain.Text.Pattern.Group

/-!
# Regular expressions

Which texts are regular expressions: groups close, repetitions have something to repeat, every item
is one that can be read, and nothing is nested too deep. A repetition with counts in braces is
refused, as is everything that looks around.
-/

namespace TimestampChain.Pattern

/-- An item of a row: a change of flags, or something of a height that can be repeated. -/
inductive Item where
  | flags
  | part (height : Nat)

def Item.height : Item → Nat
  | flags => 0
  | part height => height

/-! ## Groups that are open -/

/-- A group that is read: how its rest is read, the heights of its finished branches, and the items
of the last branch, the last one first. -/
structure Group where
  mode : Mode
  branches : List Nat
  items : List Item

namespace Group

def start (mode : Mode) : Group := ⟨mode, [], []⟩

def add (group : Group) (item : Item) : Group := { group with items := item :: group.items }

def branchHeight (group : Group) : Nat := rowHeight (group.items.map Item.height)

def branch (group : Group) : Group :=
  { group with branches := group.branchHeight :: group.branches, items := [] }

def height (group : Group) : Nat := rowHeight (group.branchHeight :: group.branches)

def repeatLast? (group : Group) : Option Group :=
  match group.items with
  | .part height :: items => some { group with items := .part (1 + height) :: items }
  | _ => none

end Group

/-! ## Whole expressions -/

/-- What has been read of a regular expression: the innermost group, those around it, and the names
of groups. -/
structure Front where
  group : Group
  outer : List Group
  names : List (List Char)

namespace Front

def start : Front := ⟨.start .initial, [], []⟩

def add (front : Front) (height : Nat) : Front :=
  { front with group := front.group.add (.part height) }

def enter? (front : Front) : Opening → Option Front
  | .flags mode => some { front with group := { front.group.add .flags with mode := mode } }
  | .group mode none =>
    some { front with group := .start mode, outer := front.group :: front.outer }
  | .group mode (some name) =>
    if name ∈ front.names then none
    else some ⟨.start mode, front.group :: front.outer, name :: front.names⟩

def leave? (front : Front) : Option Front :=
  match front.outer with
  | [] => none
  | group :: outer => some ⟨group.add (.part (1 + front.group.height)), outer, front.names⟩

def isComplete (front : Front) : Bool :=
  front.outer.isEmpty && decide (front.group.height ≤ heightLimit)

def next? (front : Front) (c : Char) (rest : List Char) : Option (Front × List Char) :=
  let mode := front.group.mode
  if c = '(' then do
    let (opening, rest) ← opening? mode rest
    return (← front.enter? opening, rest)
  else if c = ')' then do return (← front.leave?, rest)
  else if c = '|' then some ({ front with group := front.group.branch }, rest)
  else if c = '*' ∨ c = '+' ∨ c = '?' then do
    let group ← front.group.repeatLast?
    return ({ front with group := group }, if rest.head? = some '?' then rest.drop 1 else rest)
  else if c = '\x7b' then none
  else if c = '[' then do
    let (height, rest) ← bracket? mode rest
    return (front.add height, rest)
  else if c = '.' then if mode.unicode then some (front.add 0, rest) else none
  else if c = '^' ∨ c = '$' then some (front.add 0, rest)
  else if c = '\\' then do
    match ← escape? mode rest with
    | (.letter _, rest) => if mode.allowsChar then return (front.add 0, rest) else none
    | (_, rest) => return (front.add 0, rest)
  else if mode.allowsChar then some (front.add 0, rest)
  else none

end Front

def isTail : Nat → Front → List Char → Bool
  | 0, _, _ => false
  | fuel + 1, front, text =>
    match front.group.mode.skip text with
    | [] => front.isComplete
    | c :: rest => (front.next? c rest).any fun (front, rest) => isTail fuel front rest

def isValid (text : List Char) : Bool := isTail (text.length + 1) .start text

end TimestampChain.Pattern
