/-!
# Decimal numerals

A numeral as it is written: a sign and a row of digits with the place of the point. Numerals in text
are read by the digit readers here.
-/

namespace TimestampChain

structure Decimal where
  negative : Bool
  digits : Nat
  exponent : Int
deriving DecidableEq

namespace Decimal

def digit? (c : Char) : Option Nat :=
  if '0' ≤ c ∧ c ≤ '9' then some (c.toNat - 48) else none

def isDigit (c : Char) : Bool := (digit? c).isSome

def value (digits : List Char) : Nat :=
  digits.foldl (fun n c => 10 * n + (digit? c).getD 0) 0

def span (text : List Char) : List Char × List Char :=
  (text.takeWhile isDigit, text.dropWhile isDigit)

def unsigned : List Char → List Char
  | '+' :: rest => rest
  | '-' :: rest => rest
  | text => text

/-- Whether a text is a word for something beyond the numbers, in letters of either case. -/
def isWord (text : List Char) : Bool :=
  ["inf", "infinity", "nan"].any fun word => word.toList = text.map Char.toLower

def isExponentPart : List Char → Bool
  | [] => true
  | mark :: rest =>
    let digits := unsigned rest
    (mark = 'e' || mark = 'E') && !digits.isEmpty && digits.all isDigit

/-- Whether a text is a numeral: digits, which may have a point before, among or behind them, and
perhaps a sign and an exponent. -/
def isNumeral (text : List Char) : Bool :=
  let (front, rest) := span (unsigned text)
  let (back, rest) :=
    match rest with
    | '.' :: rest => span rest
    | rest => ([], rest)
  isWord (unsigned text) || (!(front.isEmpty && back.isEmpty) && isExponentPart rest)

def integer (negative : Bool) (digits : List Char) : Int :=
  if negative then -(value digits : Int) else value digits

def ofParts (negative : Bool) (front back : List Char) (exponent : Int) : Decimal where
  negative := negative
  digits := value (front ++ back)
  exponent := exponent - back.length

end Decimal

end TimestampChain
