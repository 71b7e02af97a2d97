import TimestampChain.Settings.Value
import TimestampChain.Text.Json.Parser

/-!
# Sources of settings

A source gives values to names. It is read from a file or from the environment. When a source gives
several values to one name, the last of them counts.
-/

namespace TimestampChain

abbrev SettingSource := List (String × SettingValue)

namespace SettingSource

def value? (source : SettingSource) (name : String) : Option SettingValue :=
  (source.reverse.find? fun entry => entry.1 = name).map Prod.snd

/-! ## Names with steps -/

def isNameChar (c : Char) : Bool := c.isAlphanum || c = '_' || c = '-'

def skipPadding (text : List Char) : List Char := text.dropWhile fun c => c = ' ' || c = '\t'

/-- The rest behind a whole number and its closing bracket, after the opening one. The number is
that of a signed sixty-four-bit integer. -/
def indexTail? (text : List Char) : Option (List Char) :=
  let text := skipPadding text
  let negative := text.head? = some '-'
  let (digits, rest) := Decimal.span (if negative then text.drop 1 else text)
  match skipPadding rest with
  | ']' :: rest =>
    if digits.isEmpty || !SettingValue.inIntegerRange (Decimal.integer negative digits) then none
    else some rest
  | _ => none

/-- Whether a text is a row of steps into tables and lists, at most `fuel` of them: a point and a
name, or a whole number in brackets. -/
def isStepRow : Nat → List Char → Bool
  | _, [] => true
  | fuel + 1, '.' :: rest =>
    !(rest.takeWhile isNameChar).isEmpty && isStepRow fuel (rest.dropWhile isNameChar)
  | fuel + 1, '[' :: rest => (indexTail? rest).any (isStepRow fuel)
  | _, _ => false

/-- A name with steps behind it makes a table or a list of the setting in front of them. -/
def entry (name : String) (value : SettingValue) : String × SettingValue :=
  let head := name.toList.takeWhile isNameChar
  let steps := name.toList.drop head.length
  if head.isEmpty ∨ steps.isEmpty ∨ isStepRow steps.length steps = false then (name, value)
  else (String.ofList head, .table)

/-! ## JSON -/

def ofJsonValue : Json → SettingValue
  | .null => .null
  | .bool b => .switch b
  | .number (.whole n) => .integer n
  | .number (.real x) => .real x
  | .string s => .text s
  | .array _ => .list
  | .object _ => .table

/-- Read a JSON text. Only an object is a source. -/
def ofJson? (text : String) : Option SettingSource :=
  match Json.parse? text with
  | some (.object members) => some (members.map fun (name, value) => entry name (ofJsonValue value))
  | _ => none

/-! ## Environment -/

def variableMark : List Char := "tsvm_".toList

/-- The lowercase form of a letter. Of the letters beyond ASCII, only the sign of the kelvin has one
in ASCII, and the others do not matter for names. -/
def lowercase (c : Char) : Char := if c = '\u212a' then 'k' else c.toLower

/-- The setting that an environment variable names. Letters of either case are alike. -/
def variableName? (name : String) : Option String :=
  let name := name.toList.map lowercase
  if variableMark.isPrefixOf name then some (String.ofList (name.drop variableMark.length))
  else none

def ofEnvironment (environment : List (String × String)) : SettingSource :=
  environment.filterMap fun (name, value) =>
    (variableName? name).map fun setting => entry setting (.text value)

end SettingSource

end TimestampChain
