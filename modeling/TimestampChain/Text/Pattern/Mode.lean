import TimestampChain.Text.Blank

/-!
# How a regular expression is read

The flags of a regular expression, and what they let stand in it. There are no tables of the classes
of Unicode and of the cases of its letters, so that what would need one is refused. Bytes are those
of characters, so that nothing may stand for a byte that is not ASCII.
-/

namespace TimestampChain.Pattern

structure Mode where
  /-- Letters of either case are alike. -/
  caseless : Bool
  /-- The items are characters of Unicode, not bytes. -/
  unicode : Bool
  /-- Blanks and comments between items do not count. -/
  spaced : Bool
deriving DecidableEq

/-- Skip blanks and comments, from inside a comment or not. A comment starts with a number sign and
goes to the end of its line. -/
def skipComments : Bool → List Char → List Char
  | _, [] => []
  | true, c :: rest => skipComments (c != '\n') rest
  | false, c :: rest =>
    if isBlank c then skipComments false rest
    else if c = '#' then skipComments true rest
    else c :: rest

namespace Mode

def initial : Mode := ⟨false, true, false⟩

/-- The mode with one of its flags changed. The other flags do not matter for what is accepted. -/
def set (mode : Mode) (flag : Char) (on : Bool) : Mode :=
  if flag = 'i' then { mode with caseless := on }
  else if flag = 'u' then { mode with unicode := on }
  else if flag = 'x' then { mode with spaced := on }
  else mode

def skip (mode : Mode) (text : List Char) : List Char :=
  if mode.spaced then skipComments false text else text

/-- The character that a hyphen is followed by. Among spaced items that is the first one that is no
blank, not counting one number sign, and if there is none the one right behind the hyphen. -/
def peek? (mode : Mode) (text : List Char) : Option Char :=
  if mode.spaced then
    let next := text.dropWhile isBlank
    let next := if next.head? = some '#' then (next.drop 1).dropWhile isBlank else next
    next.head?.or text.head?
  else text.head?

def allowsChar (mode : Mode) : Bool := !(mode.caseless && mode.unicode)

def allowsMember (mode : Mode) (c : Char) : Bool :=
  if mode.unicode then !mode.caseless else decide (c.toNat < 128)

def allowsNegation (mode : Mode) : Bool := mode.unicode

def allowsNamed (mode : Mode) (negated : Bool) : Bool :=
  if mode.unicode then !mode.caseless else !negated

end Mode

end TimestampChain.Pattern
