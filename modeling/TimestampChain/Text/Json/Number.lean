import TimestampChain.Number.Binary64

/-!
# JSON numbers

A number of JSON text is a whole number of sixty-four bits, signed or not, where it is written as
one, and a floating-point number otherwise. A floating-point number is made of a significand of
sixty-four bits and a power of ten, and every step that makes it rounds.
-/

namespace TimestampChain

inductive JsonNumber where
  | whole (value : Int)
  | real (value : Binary64)
deriving DecidableEq

namespace JsonNumber

/-- Add digits to a significand up to the first that sixty-four bits do not hold. The second number
counts the digits that are left. -/
def gather (significand : Nat) : List Char → Nat × Nat
  | [] => (significand, 0)
  | c :: rest =>
    let next := 10 * significand + (Decimal.digit? c).getD 0
    if next < UInt64.size then gather next rest else (significand, rest.length + 1)

/-- The exponent of the greatest power of ten that is a floating-point number. -/
def topExponent : Nat := 308

def powerOfTen (n : Nat) : Binary64 := .ofNat (Nat.pow 10 n)

/-- The significand times a power of ten: one product, or one quotient for every step of
`topExponent` down. There is no number where the product is too large. -/
def scaled? (significand : Nat) (exponent : Int) : Option Binary64 :=
  let x := Binary64.ofNat significand
  if topExponent < exponent then if significand = 0 then some x else none
  else if 0 ≤ exponent then
    let product := x.multiply (powerOfTen exponent.toNat)
    if product.isInfinite then none else some product
  else
    let steps := exponent.natAbs
    if steps ≤ topExponent then some (x.divide (powerOfTen steps))
    else if steps ≤ 2 * topExponent then
      some ((x.divide (powerOfTen topExponent)).divide (powerOfTen (steps - topExponent)))
    else some (.ofNat 0)

def real? (negative : Bool) (significand : Nat) (exponent : Int) : Option JsonNumber :=
  (scaled? significand exponent).map fun x => .real (if negative then x.negate else x)

/-- A number written as digits alone. A negative zero is no whole number, and neither is a number
that sixty-four bits do not hold. -/
def ofDigits? (negative : Bool) (digits : List Char) : Option JsonNumber :=
  let (significand, left) := gather 0 digits
  if left ≠ 0 then real? negative significand left
  else if negative = false then some (.whole significand)
  else if 1 ≤ significand ∧ -(significand : Int) ≥ Int64.minValue.toInt then
    some (.whole (-significand))
  else real? true significand 0

/-- A number written with a point or an exponent: the digits before the point, those behind it, and
the exponent. Digits before the point that the significand does not hold count in the exponent, and
those behind the point do not count. -/
def ofParts? (negative : Bool) (front back : List Char) (exponent : Int) : Option JsonNumber :=
  let (significand, left) := gather 0 front
  let (significand, dropped) := gather significand back
  real? negative significand (exponent + left - (back.length - dropped : Nat))

def write : JsonNumber → List Char
  | whole n => (if n < 0 then ['-'] else []) ++ Nat.toDigits 10 n.natAbs
  | real x => x.text.toList

end JsonNumber

end TimestampChain
