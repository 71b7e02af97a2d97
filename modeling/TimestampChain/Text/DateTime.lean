import TimestampChain.Number.Decimal

/-!
# Dates and times

The written form of a date, of a time of day, or of both with an offset. Writing a moment that was
read gives one form of it: the date and the time have a `T` between them, at most nine digits of a
fraction count, and zeros at its end go. Seconds that were left out stay out.
-/

namespace TimestampChain

structure CalendarDay where
  year : Nat
  month : Nat
  day : Nat
deriving DecidableEq

structure DaySecond where
  second : Nat
  nanosecond : Option Nat
deriving DecidableEq

/-- A time of day, which may be given to the minute only. -/
structure DayTime where
  hour : Nat
  minute : Nat
  second : Option DaySecond
deriving DecidableEq

inductive UniversalOffset where
  | zulu
  | minutes (behind : Bool) (count : Nat)
deriving DecidableEq

/-- A day, a time of day, or a day with a time and perhaps an offset. -/
inductive DateTime where
  | onDay (day : CalendarDay)
  | atTime (time : DayTime)
  | moment (day : CalendarDay) (time : DayTime) (offset : Option UniversalOffset)
deriving DecidableEq

namespace DateTime

/-! ## Reading -/

def digits? (count : Nat) (text : List Char) : Option (Nat × List Char) :=
  let row := text.take count
  if row.length = count ∧ row.all Decimal.isDigit then some (Decimal.value row, text.drop count)
  else none

def after? (c : Char) : List Char → Option (List Char)
  | first :: rest => if first = c then some rest else none
  | [] => none

def monthLength (year month : Nat) : Nat :=
  if month = 2 then
    if year % 4 = 0 ∧ (year % 100 ≠ 0 ∨ year % 400 = 0) then 29 else 28
  else if month = 4 ∨ month = 6 ∨ month = 9 ∨ month = 11 then 30
  else 31

def day? (text : List Char) : Option (CalendarDay × List Char) := do
  let (year, text) ← digits? 4 text
  let (month, text) ← digits? 2 (← after? '-' text)
  let (day, text) ← digits? 2 (← after? '-' text)
  if 1 ≤ month ∧ month ≤ 12 ∧ 1 ≤ day ∧ day ≤ monthLength year month then
    return (⟨year, month, day⟩, text)
  else none

/-- The nanoseconds of a fraction of a second, of which nine digits count. -/
def fraction? : List Char → Option (Option Nat × List Char)
  | '.' :: rest =>
    let row := rest.takeWhile Decimal.isDigit
    if row.isEmpty then none
    else some (some (Decimal.value ((row ++ List.replicate 9 '0').take 9)), rest.drop row.length)
  | text => some (none, text)

def second? : List Char → Option (Option DaySecond × List Char)
  | ':' :: rest => do
    let (second, rest) ← digits? 2 rest
    let (nanosecond, rest) ← fraction? rest
    if second ≤ 60 then return (some ⟨second, nanosecond⟩, rest) else none
  | text => some (none, text)

def time? (text : List Char) : Option (DayTime × List Char) := do
  let (hour, text) ← digits? 2 text
  let (minute, text) ← digits? 2 (← after? ':' text)
  let (second, text) ← second? text
  if hour ≤ 23 ∧ minute ≤ 59 then return (⟨hour, minute, second⟩, text) else none

def signedOffset? (behind : Bool) (text : List Char) : Option UniversalOffset := do
  let (hour, text) ← digits? 2 text
  let (minute, text) ← digits? 2 (← after? ':' text)
  if text.isEmpty ∧ hour ≤ 23 ∧ minute ≤ 59 then return .minutes behind (60 * hour + minute)
  else none

def offset? : List Char → Option (Option UniversalOffset)
  | [] => some none
  | ['Z'] => some (some .zulu)
  | ['z'] => some (some .zulu)
  | '+' :: rest => (signedOffset? false rest).map some
  | '-' :: rest => (signedOffset? true rest).map some
  | _ => none

def isSeparator (c : Char) : Bool := c = 'T' || c = 't' || c = ' '

def parse? (text : List Char) : Option DateTime :=
  match day? text with
  | some (day, []) => some (.onDay day)
  | some (day, c :: rest) => do
    if isSeparator c then
      let (time, rest) ← time? rest
      return .moment day time (← offset? rest)
    else none
  | none =>
    match time? text with
    | some (time, []) => some (.atTime time)
    | _ => none

/-! ## Writing -/

def padded (width n : Nat) : List Char :=
  let row := Nat.toDigits 10 n
  List.replicate (width - row.length) '0' ++ row

def ofDay (d : CalendarDay) : List Char :=
  padded 4 d.year ++ '-' :: padded 2 d.month ++ '-' :: padded 2 d.day

/-- The written form of a fraction of a second. One digit of it stays. -/
def ofFraction (nanosecond : Nat) : List Char :=
  match ((padded 9 nanosecond).reverse.dropWhile (· = '0')).reverse with
  | [] => ['.', '0']
  | row => '.' :: row

def ofSecond (s : DaySecond) : List Char :=
  ':' :: (padded 2 s.second ++ (s.nanosecond.map ofFraction).getD [])

def ofTime (t : DayTime) : List Char :=
  padded 2 t.hour ++ ':' :: padded 2 t.minute ++ (t.second.map ofSecond).getD []

/-- The written form of an offset. An offset of no minutes is not behind. -/
def ofOffset : UniversalOffset → List Char
  | .zulu => ['Z']
  | .minutes behind count =>
    let sign := if behind ∧ count ≠ 0 then '-' else '+'
    sign :: padded 2 (count / 60) ++ ':' :: padded 2 (count % 60)

def text : DateTime → String
  | onDay d => String.ofList (ofDay d)
  | atTime t => String.ofList (ofTime t)
  | moment d t offset =>
    String.ofList (ofDay d ++ 'T' :: ofTime t ++ (offset.map ofOffset).getD [])

end DateTime

end TimestampChain
