import TimestampChain.Bytes

/-!
# Hexadecimal text

A byte string is written with two lowercase digits per byte. Reading accepts digits of both cases
and looks at the bytes of the text: an odd number of them is the first thing it refuses, then the
first byte that is no digit.
-/

namespace TimestampChain

inductive HexError where
  | oddLength
  | invalidDigit (byte : UInt8) (position : Nat)
deriving DecidableEq

namespace Hex

/-- The two digits of a byte, the high one first. -/
def digits (byte : UInt8) : List Char :=
  [Nat.digitChar (byte.toNat / 16), Nat.digitChar (byte.toNat % 16)]

def encode (bytes : Bytes) : String := String.ofList (bytes.flatMap digits)

def value? (byte : UInt8) : Option Nat :=
  let n := byte.toNat
  if 48 ≤ n ∧ n ≤ 57 then some (n - 48)
  else if 97 ≤ n ∧ n ≤ 102 then some (n - 87)
  else if 65 ≤ n ∧ n ≤ 70 then some (n - 55)
  else none

def digit (byte : UInt8) (position : Nat) : Except HexError Nat :=
  match value? byte with
  | some n => .ok n
  | none => .error (.invalidDigit byte position)

/-- Read digits two by two, the first of them at the given position. -/
def decodePairs : Nat → Bytes → Except HexError Bytes
  | position, high :: low :: rest => do
    let a ← digit high position
    let b ← digit low (position + 1)
    let bytes ← decodePairs (position + 2) rest
    return UInt8.ofNat (16 * a + b) :: bytes
  | _, _ => .ok []

def decode (text : Bytes) : Except HexError Bytes :=
  if text.length % 2 = 1 then .error .oddLength else decodePairs 0 text

end Hex

end TimestampChain
