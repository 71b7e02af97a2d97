import TimestampChain.Settings.Value
import TimestampChain.Text.DateTime
import TimestampChain.Text.Numbered

/-!
# Scalars of TOML text

Values without quotes or brackets: switches, numbers, and dates and times, which are texts.
-/

namespace TimestampChain.Toml

/-- A row of digits in which single underscores may stand between digits. -/
def plainDigits? (isDigit : Char → Bool) (text : List Char) : Option (List Char) :=
  let rec go : Bool → List Char → Option (List Char)
    | afterDigit, [] => if afterDigit then some [] else none
    | afterDigit, c :: rest =>
      if isDigit c then (go true rest).map (c :: ·)
      else if c = '_' ∧ afterDigit = true ∧ (rest.head?.map isDigit).getD false then go false rest
      else none
  go false text

def bounded? (n : Int) : Option SettingValue :=
  if SettingValue.inIntegerRange n then some (.integer n) else none

def based? (base : Nat) (text : List Char) : Option SettingValue := do
  let digits ← plainDigits? (fun c => ((hexValue? c).map (decide <| · < base)).getD false) text
  bounded? (digits.foldl (fun n c => base * n + ((hexValue? c).getD 0 : Int)) 0)

/-- A decimal number, after its sign. A number that is too large is none. -/
def decimal? (negative : Bool) (text : List Char) : Option SettingValue := do
  let frontText := text.takeWhile fun c => Decimal.isDigit c || c = '_'
  let front ← plainDigits? Decimal.isDigit frontText
  if front.head? = some '0' ∧ 1 < front.length then none
  else
    let rest := text.drop frontText.length
    if rest.isEmpty then
      bounded? (Decimal.integer negative front)
    else
      let (back, rest) ←
        match rest with
        | '.' :: rest => do
          let backText := rest.takeWhile fun c => Decimal.isDigit c || c = '_'
          let back ← plainDigits? Decimal.isDigit backText
          pure (back, rest.drop backText.length)
        | rest => pure ([], rest)
      let exponent ←
        match rest with
        | [] => pure 0
        | mark :: rest =>
          if mark = 'e' ∨ mark = 'E' then
            let (down, rest) :=
              match rest with
              | '-' :: rest => (true, rest)
              | '+' :: rest => (false, rest)
              | rest => (false, rest)
            (plainDigits? Decimal.isDigit rest).map (Decimal.integer down)
          else none
      let x := Binary64.ofDecimal (Decimal.ofParts negative front back exponent)
      if x.isInfinite then none else return .real x

def wordValue? (text : List Char) : Option SettingValue :=
  match text with
  | ['t', 'r', 'u', 'e'] => some (.switch true)
  | ['f', 'a', 'l', 's', 'e'] => some (.switch false)
  | '0' :: 'x' :: rest => based? 16 rest
  | '0' :: 'o' :: rest => based? 8 rest
  | '0' :: 'b' :: rest => based? 2 rest
  | _ =>
    let (negative, rest) :=
      match text with
      | '-' :: rest => (true, rest)
      | '+' :: rest => (false, rest)
      | rest => (false, rest)
    match rest with
    | ['i', 'n', 'f'] => some (.real (.infinite negative))
    | ['n', 'a', 'n'] => some (.real .nan)
    | rest => (decimal? negative rest).or ((DateTime.parse? text).map fun t => .text t.text)

def endsWord (c : Char) : Bool :=
  c = ' ' || c = '\t' || c = '\n' || c = '\r' || c = ',' || c = '#' || c = ']' || c = '\x7d'

/-- The word that a text starts with. A date and a time behind a single space are one word. -/
def leadingWord (text : List Char) : List Char :=
  let word := text.takeWhile fun c => !endsWord c
  match text.drop word.length with
  | ' ' :: rest =>
    let next := rest.takeWhile fun c => !endsWord c
    if (DateTime.parse? (word ++ ' ' :: next)).isSome then word ++ ' ' :: next else word
  | _ => word

end TimestampChain.Toml
