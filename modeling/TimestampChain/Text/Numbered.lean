/-!
# Numbered characters

Characters that are written by their numbers, in hexadecimal digits.
-/

namespace TimestampChain

def hexValue? (c : Char) : Option Nat :=
  if '0' ≤ c ∧ c ≤ '9' then some (c.toNat - 48)
  else if 'a' ≤ c ∧ c ≤ 'f' then some (c.toNat - 87)
  else if 'A' ≤ c ∧ c ≤ 'F' then some (c.toNat - 55)
  else none

def hexNumber? (count : Nat) (text : List Char) : Option (Nat × List Char) := do
  let digits := text.take count
  if digits.length < count then none
  else
    let values ← digits.mapM hexValue?
    return (values.foldl (fun n d => 16 * n + d) 0, text.drop count)

/-- The character with a number. Numbers of surrogates and numbers that are too large have none. -/
def charOfNumber? (n : Nat) : Option Char :=
  if n < 0xd800 ∨ (0xe000 ≤ n ∧ n < 0x110000) then some (Char.ofNat n) else none

def numberedChar? (count : Nat) (text : List Char) : Option (Char × List Char) := do
  let (n, rest) ← hexNumber? count text
  return (← charOfNumber? n, rest)

end TimestampChain
