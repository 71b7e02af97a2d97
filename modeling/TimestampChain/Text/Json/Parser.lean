import TimestampChain.Text.Json.Basic
import TimestampChain.Text.Numbered

/-!
# Reading JSON text

A text is read as one value with blanks around it. Nothing outside the standard is accepted: no
leading zeros, no control characters inside strings, no lone surrogates, no numbers beyond the range
of floating point. Values may be nested 127 deep.
-/

namespace TimestampChain.Json

def isSpace (c : Char) : Bool := c = ' ' || c = '\t' || c = '\n' || c = '\r'

def skipSpace (text : List Char) : List Char := text.dropWhile isSpace

/-- The character of an escape by number, after the `u`. A leading surrogate needs its other
half. -/
def unicodeEscape? (text : List Char) : Option (Char × List Char) := do
  let (high, rest) ← hexNumber? 4 text
  if 0xd800 ≤ high ∧ high < 0xdc00 then
    match rest with
    | '\\' :: 'u' :: rest => do
      let (low, rest) ← hexNumber? 4 rest
      if 0xdc00 ≤ low ∧ low < 0xe000 then
        return (Char.ofNat (0x10000 + (high - 0xd800) * 0x400 + (low - 0xdc00)), rest)
      else none
    | _ => none
  else if 0xdc00 ≤ high ∧ high < 0xe000 then none
  else return (Char.ofNat high, rest)

def letterEscape? (c : Char) : Option Char :=
  if c = '"' ∨ c = '\\' ∨ c = '/' then some c
  else if c = 'b' then some '\x08'
  else if c = 'f' then some '\x0c'
  else if c = 'n' then some '\n'
  else if c = 'r' then some '\r'
  else if c = 't' then some '\t'
  else none

def stringTail? : Nat → List Char → Option (List Char × List Char)
  | 0, _ => none
  | _ + 1, [] => none
  | _ + 1, '"' :: rest => some ([], rest)
  | fuel + 1, '\\' :: 'u' :: rest => do
    let (c, rest) ← unicodeEscape? rest
    let (cs, rest) ← stringTail? fuel rest
    return (c :: cs, rest)
  | fuel + 1, '\\' :: c :: rest => do
    let c ← letterEscape? c
    let (cs, rest) ← stringTail? fuel rest
    return (c :: cs, rest)
  | fuel + 1, c :: rest =>
    if c.toNat < 32 ∨ c = '\\' then none
    else do
      let (cs, rest) ← stringTail? fuel rest
      return (c :: cs, rest)

def string? (text : List Char) : Option (String × List Char) :=
  (stringTail? (text.length + 1) text).map fun (cs, rest) => (String.ofList cs, rest)

def fraction? : List Char → Option (Option (List Char) × List Char)
  | '.' :: rest =>
    let (digits, rest) := Decimal.span rest
    if digits.isEmpty then none else some (some digits, rest)
  | text => some (none, text)

def exponent? (text : List Char) : Option (Option Int × List Char) :=
  match text with
  | c :: rest =>
    if c = 'e' ∨ c = 'E' then
      let (negative, rest) :=
        match rest with
        | '-' :: rest => (true, rest)
        | '+' :: rest => (false, rest)
        | rest => (false, rest)
      let (digits, rest) := Decimal.span rest
      if digits.isEmpty then none
      else some (some (Decimal.integer negative digits), rest)
    else some (none, text)
  | [] => some (none, [])

/-- A number. Its digits before the point have no leading zero, and it is in range. -/
def number? (text : List Char) : Option (JsonNumber × List Char) := do
  let (negative, text) :=
    match text with
    | '-' :: rest => (true, rest)
    | text => (false, text)
  let (front, rest) := Decimal.span text
  if front.isEmpty ∨ (front.head? = some '0' ∧ 1 < front.length) then none
  else
    let (back, rest) ← fraction? rest
    let (exponent, rest) ← exponent? rest
    let number ←
      match back, exponent with
      | none, none => JsonNumber.ofDigits? negative front
      | back, exponent => JsonNumber.ofParts? negative front (back.getD []) (exponent.getD 0)
    return (number, rest)

def word? (word text : List Char) : Option (List Char) :=
  if word.isPrefixOf text then some (text.drop word.length) else none

mutual

def value? : Nat → Nat → List Char → Option (Json × List Char)
  | 0, _, _ => none
  | fuel + 1, depth, text =>
    match skipSpace text with
    | [] => none
    | '"' :: rest => (string? rest).map fun (s, rest) => (.string s, rest)
    | '[' :: rest =>
      if depth ≤ 1 then none
      else
        match skipSpace rest with
        | ']' :: rest => some (.array [], rest)
        | rest => (items? fuel (depth - 1) rest).map fun (items, rest) => (.array items, rest)
    | '\x7b' :: rest =>
      if depth ≤ 1 then none
      else
        match skipSpace rest with
        | '\x7d' :: rest => some (.object [], rest)
        | rest =>
          (members? fuel (depth - 1) rest).map fun (members, rest) => (.object members, rest)
    | c :: rest =>
      if c = 'n' then (word? "ull".toList rest).map fun rest => (.null, rest)
      else if c = 't' then (word? "rue".toList rest).map fun rest => (.bool true, rest)
      else if c = 'f' then (word? "alse".toList rest).map fun rest => (.bool false, rest)
      else (number? (c :: rest)).map fun (n, rest) => (.number n, rest)

def items? : Nat → Nat → List Char → Option (List Json × List Char)
  | 0, _, _ => none
  | fuel + 1, depth, text => do
    let (item, rest) ← value? fuel depth text
    match skipSpace rest with
    | ']' :: rest => return ([item], rest)
    | ',' :: rest => do
      let (items, rest) ← items? fuel depth rest
      return (item :: items, rest)
    | _ => none

def members? : Nat → Nat → List Char → Option (List (String × Json) × List Char)
  | 0, _, _ => none
  | fuel + 1, depth, text =>
    match skipSpace text with
    | '"' :: rest => do
      let (name, rest) ← string? rest
      match skipSpace rest with
      | ':' :: rest => do
        let (value, rest) ← value? fuel depth rest
        match skipSpace rest with
        | '\x7d' :: rest => return ([(name, value)], rest)
        | ',' :: rest => do
          let (members, rest) ← members? fuel depth rest
          return ((name, value) :: members, rest)
        | _ => none
      | _ => none
    | _ => none

end

/-- How deep values may be nested, counting the outermost one as well as the innermost. -/
def depthLimit : Nat := 128

/-- Read a text as one value. Every step of the reader passes over a character at least every second
time, which bounds their number. -/
def parse? (text : String) : Option Json :=
  let chars := text.toList
  match value? (2 * chars.length + 2) depthLimit chars with
  | some (value, rest) => if (skipSpace rest).isEmpty then some value else none
  | none => none

end TimestampChain.Json
