/-!
# Byte strings

Byte strings are lists of bytes, ordered lexicographically. A block identifier and a block payload
have a fixed width of thirty-two bytes, which `Bytes32` keeps in its type.
-/

namespace TimestampChain

abbrev Bytes := List UInt8

def Bytes.ofText (text : String) : Bytes := text.toUTF8.data.toList

structure Bytes32 where
  toBytes : Bytes
  length_eq : toBytes.length = 32
deriving DecidableEq

namespace Bytes32

def zero : Bytes32 := ⟨List.replicate 32 0, by simp⟩

/-- Read a byte string of the right length. -/
def ofBytes? (bytes : Bytes) : Option Bytes32 :=
  if h : bytes.length = 32 then some ⟨bytes, h⟩ else none

/-- Fill a byte string of at most thirty-two bytes with zeros at its end. -/
def pad (bytes : Bytes) (h : bytes.length ≤ 32) : Bytes32 :=
  ⟨bytes ++ List.replicate (32 - bytes.length) 0, by simp; omega⟩

instance : Inhabited Bytes32 := ⟨zero⟩

@[ext] theorem ext {left right : Bytes32} (h : left.toBytes = right.toBytes) : left = right := by
  cases left
  cases right
  simpa using h

@[simp] theorem length_toBytes (bytes : Bytes32) : bytes.toBytes.length = 32 := bytes.length_eq

@[simp] theorem ofBytes?_toBytes (bytes : Bytes32) : ofBytes? bytes.toBytes = some bytes := by
  simp [ofBytes?, bytes.length_eq]

theorem ofBytes?_eq_some_iff {bytes : Bytes} {word : Bytes32} :
    ofBytes? bytes = some word ↔ word.toBytes = bytes := by
  constructor
  · intro h
    unfold ofBytes? at h
    split at h
    · cases h
      rfl
    · contradiction
  · intro h
    subst h
    simp

theorem ofBytes?_eq_none_iff {bytes : Bytes} : ofBytes? bytes = none ↔ bytes.length ≠ 32 := by
  simp [ofBytes?]

end Bytes32

end TimestampChain
