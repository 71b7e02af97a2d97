import TimestampChain.Number.Decimal
import TimestampChain.Text.Alphanumeric
import TimestampChain.Text.Blank
import TimestampChain.Text.Pattern.Reading

/-!
# Log filters

What is logged is chosen by directives with commas between them. A directive is a level, or a target
with an optional span in brackets and an optional level behind an equals sign. A span may have a
field in braces, with a value that is a number or a regular expression.

Blanks around a directive are passed over when its characters are looked at, but they count when
its parts are cut out. A directive with blanks in front of it is therefore cut in the wrong places,
and such a cut may even fall inside a character.
-/

namespace TimestampChain.LogFilter

inductive Fault where
  | invalid
  /-- A part cannot be cut out, because the cut falls inside a character. -/
  | torn
deriving DecidableEq

/-! ## Levels and fields -/

def levels : List String := ["off", "error", "warn", "info", "debug", "trace"]

def isLevelNumber (text : List Char) : Bool :=
  let digits := if text.head? = some '+' then text.drop 1 else text
  !digits.isEmpty && digits.all Decimal.isDigit && decide (Decimal.value digits < levels.length)

/-- Whether a text is nothing or a level: its name, in letters of either case, or its number. -/
def isLevel (text : List Char) : Bool :=
  text.isEmpty || levels.any (fun level => level.toList = text.map Char.toLower)
    || isLevelNumber text

def isFieldValue (text : List Char) : Bool := Decimal.isNumeral text || Pattern.isValid text

/-- Whether a text is a field: a name, and perhaps a value behind an equals sign. What follows a
second equals sign does not count. -/
def isField (text : List Char) : Bool :=
  match text, text.dropWhile (· ≠ '=') with
  | [], _ => false
  | _, [] => true
  | _, _ :: rest => isFieldValue (rest.takeWhile (· ≠ '='))

/-! ## Parts of a text -/

/-- A text before and behind a count of bytes, if no character stands across the cut. -/
def cut? : List Char → Nat → Option (List Char × List Char)
  | text, 0 => some ([], text)
  | [], _ + 1 => none
  | c :: rest, count + 1 =>
    if count + 1 < c.utf8Size then none
    else (cut? rest (count + 1 - c.utf8Size)).map fun (front, back) => (c :: front, back)

def byteCount (text : List Char) : Nat := text.foldr (fun c n => c.utf8Size + n) 0

def part (text : List Char) (first last : Nat) : Except Fault (List Char) :=
  match (cut? text last).bind fun (front, _) => cut? front first with
  | some (_, part) => .ok part
  | none => .error .torn

def pieces : List Char → List (List Char)
  | [] => [[]]
  | c :: rest =>
    if c = ',' then [] :: pieces rest
    else
      match pieces rest with
      | [] => [[c]]
      | first :: others => (c :: first) :: others

/-! ## Directives -/

/-- How far a directive has been read, and the byte position where its open part began. -/
inductive Stage where
  | start
  | target (first : Nat)
  | span (first : Nat)
  | field (first : Nat)
  | fieldEnd
  | spanEnd
  | level (first : Nat)
deriving DecidableEq

def isTargetStart (c : Char) : Bool := c = '-' || c = ':' || c = '_' || isAlphanumeric c

def Stage.next (text : List Char) (stage : Stage) (position : Nat) (c : Char) :
    Except Fault Stage := do
  match stage with
  | start =>
    if c = '[' then return .span (position + 1)
    else if isTargetStart c then return .target position
    else throw .invalid
  | target first =>
    if c = '=' then
      let _ ← part text first position
      return .level (position + 1)
    else if c = '[' then
      let _ ← part text first position
      return .span (position + 1)
    else return .target first
  | span first =>
    if c = ']' then
      let _ ← part text first position
      return .spanEnd
    else if c = '\x7b' then
      let _ ← part text first position
      return .field (position + 1)
    else return .span first
  | field first =>
    if c = '\x7d' then
      if isField (← part text first position) then return .fieldEnd else throw .invalid
    else return .field first
  | fieldEnd => if c = ']' then return .spanEnd else throw .invalid
  | spanEnd => if c = '=' then return .level (position + 1) else throw .invalid
  | level first => return .level first

def Stage.readAll (text : List Char) : Stage → Nat → List Char → Except Fault Stage
  | stage, _, [] => .ok stage
  | stage, position, c :: rest => do
    readAll text (← stage.next text position c) (position + c.utf8Size) rest

def Stage.finish (text : List Char) : Stage → Except Fault Unit
  | target _ => .ok ()
  | spanEnd => .ok ()
  | level first => do
    if isLevel (← part text first (byteCount text)) then return () else throw .invalid
  | _ => .error .invalid

def checkDirective (text : List Char) : Except Fault Unit := do
  (← Stage.readAll text .start 0 (trimBlanks text)).finish text

/-- Check a filter. Pieces of no characters do not count, and the first fault is found. -/
def check (text : String) : Except Fault Unit :=
  ((pieces text.toList).filter fun piece => !piece.isEmpty).forM checkDirective

end TimestampChain.LogFilter
