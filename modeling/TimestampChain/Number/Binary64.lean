import TimestampChain.Number.Decimal

/-!
# Binary floating-point numbers

The sixty-four-bit floating-point number nearest to a decimal numeral, and the fewest decimal digits
that read back as a given number. Everything is exact arithmetic on natural numbers.
-/

namespace TimestampChain

/-- A sixty-four-bit floating-point number: `mantissa · 2^exponent` with a sign, an infinity, or no
number at all. -/
inductive Binary64 where
  | finite (negative : Bool) (mantissa : Nat) (exponent : Int)
  | infinite (negative : Bool)
  | nan
deriving DecidableEq

namespace Binary64

def leastMantissa : Nat := 0x10000000000000

/-- The quotient rounded to the nearest whole number, a half to the even one. -/
def roundQuotient (numerator denominator : Nat) : Nat :=
  let q := numerator / denominator
  let twice := 2 * (numerator % denominator)
  if twice < denominator then q
  else if denominator < twice then q + 1
  else if q % 2 = 0 then q
  else q + 1

def scale (n base : Nat) (exponent : Int) : Nat × Nat :=
  if 0 ≤ exponent then (n * Nat.pow base exponent.toNat, 1)
  else (n, Nat.pow base (-exponent).toNat)

def ofQuotient (negative : Bool) (numerator denominator : Nat) : Binary64 :=
  let guess : Int := Nat.log2 numerator - Nat.log2 denominator - 52
  let least := scale (leastMantissa * denominator) 2 guess
  let fit := if numerator * least.2 < least.1 then guess - 1 else guess
  let exponent := max fit (-1074)
  let divisor := scale denominator 2 exponent
  let mantissa := roundQuotient (numerator * divisor.2) divisor.1
  if exponent ≥ 971 ∧ 2 * leastMantissa ≤ (scale mantissa 2 (exponent - 971)).1 then
    .infinite negative
  else if mantissa = 2 * leastMantissa then .finite negative leastMantissa (exponent + 1)
  else .finite negative mantissa exponent

/-- The number nearest to a numeral. Numerals far out of range are judged by their size. -/
def ofDecimal (d : Decimal) : Binary64 :=
  let size : Int := (Nat.toDigits 10 d.digits).length + d.exponent
  if d.digits = 0 ∨ size < -400 then .finite d.negative 0 0
  else if 400 < size then .infinite d.negative
  else
    let (numerator, denominator) := scale d.digits 10 d.exponent
    ofQuotient d.negative numerator denominator

def ofScaled (negative : Bool) (mantissa : Nat) (exponent : Int) (divisor : Nat) : Binary64 :=
  if mantissa = 0 then .finite negative 0 0
  else
    let (numerator, denominator) := scale mantissa 2 exponent
    ofQuotient negative numerator (denominator * divisor)

def ofNat (n : Nat) : Binary64 := ofScaled false n 0 1

def multiply : Binary64 → Binary64 → Binary64
  | finite s m e, finite t n f => ofScaled (s != t) (m * n) (e + f) 1
  | finite s m _, infinite t => if m = 0 then nan else infinite (s != t)
  | infinite s, finite t n _ => if n = 0 then nan else infinite (s != t)
  | infinite s, infinite t => infinite (s != t)
  | nan, _ => nan
  | _, nan => nan

def divide : Binary64 → Binary64 → Binary64
  | finite s m e, finite t n f =>
    if n = 0 then if m = 0 then nan else infinite (s != t)
    else ofScaled (s != t) m (e - f) n
  | finite s _ _, infinite t => finite (s != t) 0 0
  | infinite s, finite t _ _ => infinite (s != t)
  | infinite _, infinite _ => nan
  | nan, _ => nan
  | _, nan => nan

def negate : Binary64 → Binary64
  | finite s m e => finite (!s) m e
  | infinite s => infinite (!s)
  | nan => nan

def isZero : Binary64 → Bool
  | finite _ mantissa _ => mantissa = 0
  | _ => false

def isInfinite : Binary64 → Bool
  | infinite _ => true
  | _ => false

def comparePowers (c : Nat) (k : Int) (n : Nat) (e : Int) : Ordering :=
  let left := scale c 10 k
  let right := scale n 2 e
  compare (left.1 * right.2) (right.1 * left.2)

/-- Whether `c · 10^k` reads back as `mantissa · 2^exponent`: it lies between the middles to the two
neighbours, the middles included when the mantissa is even. -/
def readsBack (mantissa : Nat) (exponent : Int) (c : Nat) (k : Int) : Bool :=
  let below :=
    if mantissa = leastMantissa ∧ -1074 < exponent then 4 * mantissa - 1 else 4 * mantissa - 2
  let low := comparePowers c k below (exponent - 2)
  let high := comparePowers c k (4 * mantissa + 2) (exponent - 2)
  let even := mantissa % 2 = 0
  (low == .gt || (low == .eq && even)) && (high == .lt || (high == .eq && even))

def gridFloor (mantissa : Nat) (exponent k : Int) : Nat :=
  let value := scale mantissa 2 exponent
  let unit := scale 1 10 k
  (value.1 * unit.2) / (value.2 * unit.1)

/-- The number of digits before the point of a positive number, counted down below one. -/
def magnitude (mantissa : Nat) (exponent : Int) : Int :=
  let guess := ((Nat.log2 mantissa + exponent) * 30103).fdiv 100000
  if gridFloor mantissa exponent (guess + 1) = 0 then guess + 1 else guess + 2

/-- The point of the grid of `10^k` that reads back as `mantissa · 2^exponent`, if there is one. Of
two such points the nearer is taken, and the upper one if they are equally near. -/
def gridPoint? (mantissa : Nat) (exponent k : Int) : Option Nat :=
  let c := gridFloor mantissa exponent k
  match readsBack mantissa exponent c k, readsBack mantissa exponent (c + 1) k with
  | true, false => some c
  | false, true => some (c + 1)
  | false, false => none
  | true, true =>
    if comparePowers (2 * c + 1) k (2 * mantissa) exponent == .gt then some c else some (c + 1)

/-- The fewest decimal digits that read back as a positive number, and their exponent. Seventeen
digits always do. -/
def shortest (mantissa : Nat) (exponent : Int) : Nat × Int :=
  let top := magnitude mantissa exponent
  let found := (List.range 17).findSome? fun (n : Nat) =>
    let k := top - (n + 1)
    (gridPoint? mantissa exponent k).map fun c => (c, k)
  found.getD (mantissa, 0)

/-- Digits without an exponent: filled up with zeros before the point, or cut by the point. -/
def positional (digits : Nat) (exponent : Int) : String :=
  let row := Nat.toDigits 10 digits
  if 0 ≤ exponent then String.ofList (row ++ List.replicate exponent.toNat '0')
  else
    let places := (-exponent).toNat
    let row := List.replicate (places + 1 - row.length) '0' ++ row
    let front := row.take (row.length - places)
    let back := (row.drop (row.length - places)).reverse.dropWhile (· = '0')
    if back.isEmpty then String.ofList front
    else String.ofList (front ++ '.' :: back.reverse)

/-- The shortest text that reads back as the number, never with an exponent. -/
def text : Binary64 → String
  | finite negative mantissa exponent =>
    let sign := if negative then "-" else ""
    if mantissa = 0 then sign ++ "0"
    else
      let (digits, power) := shortest mantissa exponent
      sign ++ positional digits power
  | infinite negative => if negative then "-inf" else "inf"
  | nan => "NaN"

end Binary64

end TimestampChain
