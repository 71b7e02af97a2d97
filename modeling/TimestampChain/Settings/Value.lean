import TimestampChain.Number.Binary64

/-!
# Setting values

A setting as a source gives it, and its readings as a text and as a switch.
-/

namespace TimestampChain

/-- A value that a source gives to a setting. Lists and tables give none of them a meaning. -/
inductive SettingValue where
  | null
  | switch (value : Bool)
  | integer (value : Int)
  | real (value : Binary64)
  | text (value : String)
  | list
  | table
deriving DecidableEq

namespace SettingValue

def inIntegerRange (n : Int) : Bool := Int64.minValue.toInt ≤ n ∧ n ≤ Int64.maxValue.toInt

def integerText (n : Int) : String :=
  if n < 0 then "-" ++ toString n.natAbs else toString n.natAbs

def asText? : SettingValue → Option String
  | null => none
  | switch true => some "true"
  | switch false => some "false"
  | integer n => some (integerText n)
  | real x => some x.text
  | text s => some s
  | list => none
  | table => none

def switchWord? (word : String) : Option Bool :=
  let word := String.ofList (word.toList.map Char.toLower)
  if word = "1" ∨ word = "true" ∨ word = "on" ∨ word = "yes" then some true
  else if word = "0" ∨ word = "false" ∨ word = "off" ∨ word = "no" then some false
  else none

/-- The value read as a switch. A number is on unless it is zero. -/
def asSwitch? : SettingValue → Option Bool
  | null => none
  | switch b => some b
  | integer n => some (n ≠ 0)
  | real x => some (!x.isZero)
  | text s => switchWord? s
  | list => none
  | table => none

end SettingValue

end TimestampChain
