import TimestampChain.Block.Basic

/-!
# The layout of a block

The fields of a block stand at fixed places among eighty-two bytes. Whatever is laid out like this is read
as the contents that stand there, and nothing else is read, so contents and their written forms correspond
one to one.
-/

namespace TimestampChain

def Bytes.field (bytes : Bytes) (start width : Nat) : Bytes := (bytes.drop start).take width

theorem Bytes.length_field {bytes : Bytes} {start width : Nat} (inside : start + width ≤ bytes.length) :
    (bytes.field start width).length = width := by
  rw [field, List.length_take, List.length_drop]
  omega

theorem LittleEndian.eq_encode_of_decode {bytes : Bytes} {width n : Nat} (length : bytes.length = width)
    (value : decode bytes = n) : bytes = encode width n := by
  rw [← value, ← length, encode_decode]

namespace Contents

/-- The fields of the contents stand at their places, and nothing else is there. -/
structure LaidOut (c : Contents) (bytes : Bytes) : Prop where
  length : bytes.length = 82
  version : bytes.take 2 = [0, 0]
  parent : bytes.field 2 32 = c.parent.toBytes
  height : LittleEndian.decode (bytes.field 34 8) = c.height.toNat
  timestamp : LittleEndian.decode (bytes.field 42 8) = c.timestamp.toNat
  payload : bytes.field 50 32 = c.payload.toBytes

/-- Eighty-two bytes are the five fields one after another. -/
theorem fields_of_length {bytes : Bytes} (length : bytes.length = 82) :
    bytes.take 2 ++ bytes.field 2 32 ++ bytes.field 34 8 ++ bytes.field 42 8 ++ bytes.field 50 32 =
      bytes := by
  simp only [Bytes.field, ← List.take_add]
  exact List.take_of_length_le (by omega)

theorem encode_of_laidOut {c : Contents} {bytes : Bytes} (laid : c.LaidOut bytes) : c.encode = bytes := by
  have length := laid.length
  have height : bytes.field 34 8 = LittleEndian.encode 8 c.height.toNat :=
    LittleEndian.eq_encode_of_decode (Bytes.length_field (by omega)) laid.height
  have timestamp : bytes.field 42 8 = LittleEndian.encode 8 c.timestamp.toNat :=
    LittleEndian.eq_encode_of_decode (Bytes.length_field (by omega)) laid.timestamp
  have fields := fields_of_length length
  rw [laid.version, laid.parent, height, timestamp, laid.payload] at fields
  exact fields

theorem laidOut_encode (c : Contents) : c.LaidOut c.encode := by
  have length : c.encode.length = 82 := length_encode c
  -- The fields that stand at the places are as wide as those that were written.
  have fields := fields_of_length length
  obtain ⟨fields, payload⟩ := List.append_inj' fields (by
    rw [Bytes.length_field (by omega), Bytes32.length_toBytes])
  obtain ⟨fields, timestamp⟩ := List.append_inj' fields (by
    rw [Bytes.length_field (by omega), LittleEndian.length_encode])
  obtain ⟨fields, height⟩ := List.append_inj' fields (by
    rw [Bytes.length_field (by omega), LittleEndian.length_encode])
  obtain ⟨version, parent⟩ := List.append_inj' fields (by
    rw [Bytes.length_field (by omega), Bytes32.length_toBytes])
  refine ⟨length, version, parent, ?_, ?_, payload⟩
  · rw [height]
    exact LittleEndian.decode_encode_of_lt c.height.toNat_lt
  · rw [timestamp]
    exact LittleEndian.decode_encode_of_lt c.timestamp.toNat_lt

theorem laidOut_iff {c : Contents} {bytes : Bytes} : c.LaidOut bytes ↔ c.encode = bytes := by
  constructor
  · exact encode_of_laidOut
  · rintro rfl
    exact laidOut_encode c

/-- Any eighty-two bytes that start with the version are laid out like some contents. -/
theorem exists_laidOut {bytes : Bytes} (length : bytes.length = 82) (version : bytes.take 2 = [0, 0]) :
    ∃ c : Contents, c.LaidOut bytes := by
  have height := LittleEndian.decode_lt (bytes.field 34 8)
  have timestamp := LittleEndian.decode_lt (bytes.field 42 8)
  rw [Bytes.length_field (by omega)] at height timestamp
  let c : Contents := {
    parent := ⟨bytes.field 2 32, Bytes.length_field (by omega)⟩
    height := UInt64.ofNat (LittleEndian.decode (bytes.field 34 8))
    timestamp := UInt64.ofNat (LittleEndian.decode (bytes.field 42 8))
    payload := ⟨bytes.field 50 32, Bytes.length_field (by omega)⟩ }
  refine ⟨c, length, version, rfl, ?_, ?_, rfl⟩
  · exact (UInt64.toNat_ofNat_of_lt height).symm
  · exact (UInt64.toNat_ofNat_of_lt timestamp).symm

/-! ## Reading -/

theorem decode_eq_ok_iff {bytes : Bytes} {c : Contents} : decode bytes = .ok c ↔ c.encode = bytes := by
  constructor
  · exact encode_of_decode
  · rintro rfl
    exact decode_encode c

theorem exists_decode_iff {bytes : Bytes} :
    (∃ c, decode bytes = .ok c) ↔ bytes.length = 82 ∧ bytes.take 2 = [0, 0] := by
  constructor
  · rintro ⟨c, read⟩
    have laid := laidOut_iff.mpr (decode_eq_ok_iff.mp read)
    exact ⟨laid.length, laid.version⟩
  · rintro ⟨length, version⟩
    obtain ⟨c, laid⟩ := exists_laidOut length version
    exact ⟨c, decode_eq_ok_iff.mpr (laidOut_iff.mp laid)⟩

theorem encode_inj {left right : Contents} : left.encode = right.encode ↔ left = right := by
  constructor
  · intro same
    have read := decode_encode left
    rw [same, decode_encode] at read
    exact (Except.ok.inj read).symm
  · rintro rfl
    rfl

/-- Contents are written as eighty-two bytes with each field at its place and are read back from them.
Nothing else is read, no other contents are written alike, and no other bytes are read alike. So a block
has one written form and one identifier. -/
theorem one_written_form :
    (∀ c : Contents, c.encode.length = 82 ∧ decode c.encode = .ok c) ∧
      (∀ bytes (c : Contents), decode bytes = .ok c ↔ c.encode = bytes) ∧
      (∀ bytes (c : Contents), decode bytes = .ok c ↔ c.LaidOut bytes) ∧
      (∀ bytes, (∃ c, decode bytes = .ok c) ↔ bytes.length = 82 ∧ bytes.take 2 = [0, 0]) ∧
      (∀ left right : Contents, left.encode = right.encode ↔ left = right) ∧
      (∀ left right, (∃ c, decode left = .ok c ∧ decode right = .ok c) ↔
        left = right ∧ ∃ c, decode left = .ok c) ∧
      ∀ block : Block, block.bytes = block.contents.encode ∧
        block.id = Sha256.hash block.contents.encode := by
  refine ⟨?_, fun _ _ => decode_eq_ok_iff, ?_, fun _ => exists_decode_iff, fun _ _ => encode_inj, ?_, ?_⟩
  · exact fun c => ⟨length_encode c, decode_encode c⟩
  · intro bytes c
    rw [decode_eq_ok_iff, laidOut_iff]
  · intro left right
    constructor
    · rintro ⟨c, first, second⟩
      have same := (decode_eq_ok_iff.mp first).symm.trans (decode_eq_ok_iff.mp second)
      exact ⟨same, c, first⟩
    · rintro ⟨rfl, c, read⟩
      exact ⟨c, read, read⟩
  · intro block
    have written := block.bytes_eq
    exact ⟨written, written ▸ block.id_eq⟩

end Contents

end TimestampChain
