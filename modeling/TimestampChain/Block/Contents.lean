import TimestampChain.Block.Error
import TimestampChain.Bytes.Hex
import TimestampChain.Bytes.LittleEndian

/-!
# Block contents and their encoding

The contents of a block are written as eighty-two bytes: a two-byte version, the parent's
identifier, the height, the timestamp and the payload, all numbers little-endian. Decoding undoes
encoding, and encoding undoes decoding, so every block has exactly one written form.
-/

namespace TimestampChain

/-- A block identifier: the SHA-256 digest of the block's encoding. -/
abbrev BlockId := Bytes32

abbrev Payload := Bytes32

namespace BlockId

/-- The identifier that stands for no block. -/
def none : BlockId := Bytes32.zero

/-- The sixty-four lowercase digits of an identifier. -/
def toHex (id : BlockId) : String := Hex.encode id.toBytes

end BlockId

namespace Payload

def size : Nat := 32

/-- The payload that holds the given data, filled up with zeros. -/
def ofData (data : Bytes) : Except BlockError Payload :=
  if h : data.length ≤ size then .ok (Bytes32.pad data h)
  else .error (.payloadTooLong data.length size)

end Payload

structure Contents where
  parent : BlockId
  height : UInt64
  timestamp : UInt64
  payload : Payload
deriving DecidableEq

namespace Contents

def version : UInt16 := 0

def encodedSize : Nat := 82

def encode (c : Contents) : Bytes :=
  LittleEndian.encode 2 version.toNat ++ c.parent.toBytes
    ++ LittleEndian.encode 8 c.height.toNat ++ LittleEndian.encode 8 c.timestamp.toNat
    ++ c.payload.toBytes

/-! ## Reading fields -/

def read (count : Nat) (bytes : Bytes) : Except BlockError (Bytes × Bytes) :=
  if count ≤ bytes.length then .ok (bytes.take count, bytes.drop count)
  else .error .endOfData

def readUInt16 (bytes : Bytes) : Except BlockError (UInt16 × Bytes) := do
  let (field, rest) ← read 2 bytes
  return (UInt16.ofNat (LittleEndian.decode field), rest)

def readUInt64 (bytes : Bytes) : Except BlockError (UInt64 × Bytes) := do
  let (field, rest) ← read 8 bytes
  return (UInt64.ofNat (LittleEndian.decode field), rest)

def readBytes32 (bytes : Bytes) : Except BlockError (Bytes32 × Bytes) :=
  if h : 32 ≤ bytes.length then
    .ok (⟨bytes.take 32, by rw [List.length_take]; omega⟩, bytes.drop 32)
  else .error .endOfData

/-- Read contents from their written form. The version is judged before anything behind it. -/
def decode (bytes : Bytes) : Except BlockError Contents := do
  let (found, bytes) ← readUInt16 bytes
  if found ≠ version then .error (.unsupportedVersion found)
  else
    let (parent, bytes) ← readBytes32 bytes
    let (height, bytes) ← readUInt64 bytes
    let (timestamp, bytes) ← readUInt64 bytes
    let (payload, bytes) ← readBytes32 bytes
    if bytes = [] then return { parent, height, timestamp, payload }
    else .error (.trailing bytes.length)

/-! ## What a field reader takes and leaves -/

theorem read_append {field : Bytes} {count : Nat} (rest : Bytes) (h : field.length = count) :
    read count (field ++ rest) = .ok (field, rest) := by
  subst h
  simp [read]

theorem read_sound {count : Nat} {bytes field rest : Bytes}
    (h : read count bytes = .ok (field, rest)) : field.length = count ∧ bytes = field ++ rest := by
  unfold read at h
  split at h
  · cases h
    exact ⟨by rw [List.length_take]; omega, (List.take_append_drop count bytes).symm⟩
  · contradiction

theorem readUInt16_append (n : UInt16) (rest : Bytes) :
    readUInt16 (LittleEndian.encode 2 n.toNat ++ rest) = .ok (n, rest) := by
  have fits : n.toNat < LittleEndian.capacity 2 := n.toNat_lt
  simp [readUInt16, read_append rest (LittleEndian.length_encode 2 n.toNat), bind, Except.bind,
    LittleEndian.decode_encode_of_lt fits, pure, Except.pure]

theorem readUInt16_sound {bytes rest : Bytes} {n : UInt16}
    (h : readUInt16 bytes = .ok (n, rest)) : bytes = LittleEndian.encode 2 n.toNat ++ rest := by
  unfold readUInt16 at h
  cases taken : read 2 bytes with
  | error e => simp [taken, bind, Except.bind] at h
  | ok pair =>
    rcases pair with ⟨field, tail⟩
    obtain ⟨width, split⟩ := read_sound taken
    simp only [taken, bind, Except.bind, pure, Except.pure, Except.ok.injEq, Prod.mk.injEq] at h
    obtain ⟨rfl, rfl⟩ := h
    have bound := LittleEndian.decode_lt field
    rw [width] at bound
    have value : (UInt16.ofNat (LittleEndian.decode field)).toNat = LittleEndian.decode field :=
      UInt16.toNat_ofNat_of_lt bound
    rw [value, ← width, LittleEndian.encode_decode]
    exact split

theorem readUInt64_append (n : UInt64) (rest : Bytes) :
    readUInt64 (LittleEndian.encode 8 n.toNat ++ rest) = .ok (n, rest) := by
  have fits : n.toNat < LittleEndian.capacity 8 := n.toNat_lt
  simp [readUInt64, read_append rest (LittleEndian.length_encode 8 n.toNat), bind, Except.bind,
    LittleEndian.decode_encode_of_lt fits, pure, Except.pure]

theorem readUInt64_sound {bytes rest : Bytes} {n : UInt64}
    (h : readUInt64 bytes = .ok (n, rest)) : bytes = LittleEndian.encode 8 n.toNat ++ rest := by
  unfold readUInt64 at h
  cases taken : read 8 bytes with
  | error e => simp [taken, bind, Except.bind] at h
  | ok pair =>
    rcases pair with ⟨field, tail⟩
    obtain ⟨width, split⟩ := read_sound taken
    simp only [taken, bind, Except.bind, pure, Except.pure, Except.ok.injEq, Prod.mk.injEq] at h
    obtain ⟨rfl, rfl⟩ := h
    have bound := LittleEndian.decode_lt field
    rw [width] at bound
    have value : (UInt64.ofNat (LittleEndian.decode field)).toNat = LittleEndian.decode field :=
      UInt64.toNat_ofNat_of_lt bound
    rw [value, ← width, LittleEndian.encode_decode]
    exact split

theorem readBytes32_append (word : Bytes32) (rest : Bytes) :
    readBytes32 (word.toBytes ++ rest) = .ok (word, rest) := by
  have width := word.length_eq
  have long : 32 ≤ (word.toBytes ++ rest).length := by simp [width]
  simp only [readBytes32, dif_pos long, Except.ok.injEq, Prod.mk.injEq]
  exact ⟨Bytes32.ext (List.take_left' width), List.drop_left' width⟩

theorem readBytes32_sound {bytes rest : Bytes} {word : Bytes32}
    (h : readBytes32 bytes = .ok (word, rest)) : bytes = word.toBytes ++ rest := by
  unfold readBytes32 at h
  split at h
  · cases h
    exact (List.take_append_drop 32 bytes).symm
  · contradiction

/-! ## Encoding and decoding -/

@[simp] theorem length_encode (c : Contents) : c.encode.length = encodedSize := by
  simp [encode, encodedSize]

theorem decode_encode (c : Contents) : decode c.encode = .ok c := by
  have last := readBytes32_append c.payload []
  rw [List.append_nil] at last
  simp [decode, encode, readUInt16_append, readBytes32_append, readUInt64_append, last, bind,
    Except.bind, pure, Except.pure]

theorem encode_of_decode {bytes : Bytes} {c : Contents} (h : decode bytes = .ok c) :
    c.encode = bytes := by
  unfold decode at h
  cases first : readUInt16 bytes with
  | error e => simp [first, bind, Except.bind] at h
  | ok pair =>
    rcases pair with ⟨found, rest₁⟩
    simp only [first, bind, Except.bind] at h
    split at h
    · contradiction
    · next known =>
      have known : found = version := Decidable.of_not_not known
      cases second : readBytes32 rest₁ with
      | error e => simp [second] at h
      | ok pair =>
        rcases pair with ⟨parent, rest₂⟩
        simp only [second] at h
        cases third : readUInt64 rest₂ with
        | error e => simp [third] at h
        | ok pair =>
          rcases pair with ⟨height, rest₃⟩
          simp only [third] at h
          cases fourth : readUInt64 rest₃ with
          | error e => simp [fourth] at h
          | ok pair =>
            rcases pair with ⟨timestamp, rest₄⟩
            simp only [fourth] at h
            cases fifth : readBytes32 rest₄ with
            | error e => simp [fifth] at h
            | ok pair =>
              rcases pair with ⟨payload, rest₅⟩
              simp only [fifth, pure, Except.pure] at h
              split at h
              · next done =>
                cases h
                rw [readUInt16_sound first, readBytes32_sound second, readUInt64_sound third,
                  readUInt64_sound fourth, readBytes32_sound fifth, done, known]
                simp [encode]
              · contradiction

end Contents

end TimestampChain
