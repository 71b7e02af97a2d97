import TimestampChain.Proofs.Bytes.Spelling
import TimestampChain.Service

/-!
# The texts of requests

Clients write byte strings in digits of either case, with or without one mark in front. A text is read as
the byte string that it denotes, and one that denotes none is refused for what it has instead: an odd number
of bytes, or a byte that is no digit.
-/

namespace TimestampChain.Service

open TimestampChain.Hex

variable {text : String} {bytes : Bytes} {id : BlockId} {e : HexError}

/-! ## The mark -/

/-- The characters of a text without the mark `0x` in front, of which only one is taken off. -/
def unmarked (text : String) : List Char :=
  match text.toList with
  | '0' :: 'x' :: rest => rest
  | characters => characters

theorem unmarked_mark (text : String) : unmarked ("0x" ++ text) = text.toList := by
  rw [unmarked, String.toList_append]
  rfl

theorem unmarked_of_digits (all : ∀ c ∈ text.toList, IsDigit c.toNat) :
    unmarked text = text.toList := by
  unfold unmarked
  split
  · next rest marked =>
    rw [marked] at all
    exact absurd (all 'x' (by simp)) (by decide)
  · rfl

/-- An ASCII byte in front is a character in front. -/
theorem exists_cons_of_octets {characters : List Char} {b : UInt8} {rest : Bytes}
    (ascii : b.toNat < 128) (front : characters.flatMap String.utf8EncodeChar = b :: rest) :
    ∃ c tail, characters = c :: tail ∧ c.toNat = b.toNat ∧
      tail.flatMap String.utf8EncodeChar = rest := by
  cases characters with
  | nil => cases front
  | cons c tail =>
      rw [List.flatMap_cons] at front
      cases written : String.utf8EncodeChar c with
      | nil => exact absurd written String.utf8EncodeChar_ne_nil
      | cons first others =>
          rw [written, List.cons_append] at front
          obtain ⟨rfl, behind⟩ := List.cons_eq_cons.mp front
          have here : first ∈ String.utf8EncodeChar c := written ▸ List.mem_cons_self
          obtain ⟨same, alone⟩ := Bytes.encode_of_mem here ascii
          rw [written] at alone
          obtain rfl := (List.cons_eq_cons.mp alone).2
          exact ⟨c, tail, rfl, same, behind⟩

theorem stripMark_ofText (text : String) : stripMark (Bytes.ofText text) = octets (unmarked text) := by
  rw [octets_eq, Bytes.ofText_eq]
  unfold unmarked
  split
  · next rest marked =>
    rw [marked]
    rfl
  · next unmarked =>
    unfold stripMark
    split
    · next bytes marked =>
      obtain ⟨first, tail, split, zero, marked⟩ := exists_cons_of_octets (by decide) marked
      obtain ⟨second, rest, rfl, cross, -⟩ := exists_cons_of_octets (by decide) marked
      have first_eq : first = '0' := Char.toNat_inj.mp zero
      have second_eq : second = 'x' := Char.toNat_inj.mp cross
      exact (unmarked rest (by rw [split, first_eq, second_eq])).elim
    · rfl

/-! ## Reading -/

/-- The text spells the byte string, perhaps behind a mark. -/
def Denotes (text : String) (bytes : Bytes) : Prop := Spells (unmarked text) bytes

instance (text : String) (bytes : Bytes) : Decidable (Denotes text bytes) :=
  inferInstanceAs (Decidable (Spells _ _))

theorem decodeText_eq (text : String) : decodeText text = decode (octets (unmarked text)) := by
  rw [decodeText, stripMark_ofText]

theorem decodeText_eq_ok_iff : decodeText text = .ok bytes ↔ Denotes text bytes := by
  rw [decodeText_eq, decode_eq_ok_iff, Denotes]

theorem exists_denotes_iff :
    (∃ bytes, Denotes text bytes) ↔
      (unmarked text).length % 2 = 0 ∧ ∀ c ∈ unmarked text, IsDigit c.toNat :=
  exists_spells_iff

/-- Digits of either case denote the same, and one mark in front of them changes nothing. -/
theorem denotes_of_recased (recased : text.toList.map Char.toLower = (encode bytes).toList) :
    Denotes text bytes ∧ Denotes ("0x" ++ text) bytes := by
  have spelt : Spells text.toList bytes := recased
  rw [Denotes, Denotes, unmarked_mark, unmarked_of_digits spelt.all_digits]
  exact ⟨spelt, spelt⟩

theorem denotes_encode (bytes : Bytes) :
    Denotes (encode bytes) bytes ∧ Denotes ("0x" ++ encode bytes) bytes :=
  denotes_of_recased (spells_encode bytes)

/-- Why a text denotes no byte string. An odd number of bytes comes before everything else. -/
inductive Unreadable (text : String) : HexError → Prop
  | odd (odd : (octets (unmarked text)).length % 2 = 1) : Unreadable text .oddLength
  | stray {stray : UInt8} {place : Nat} (even : (octets (unmarked text)).length % 2 = 0)
      (found : FirstStray (octets (unmarked text)) stray place) :
      Unreadable text (.invalidDigit stray place)

theorem decodeText_of_unreadable (unreadable : Unreadable text e) : decodeText text = .error e := by
  rw [decodeText_eq]
  cases unreadable with
  | odd odd => exact decode_of_odd odd
  | stray even found => exact decode_of_stray even found

theorem exists_unreadable (unreadable : ¬ ∃ bytes, Denotes text bytes) : ∃ e, Unreadable text e := by
  by_cases odd : (octets (unmarked text)).length % 2 = 1
  · exact ⟨_, .odd odd⟩
  · have even : (octets (unmarked text)).length % 2 = 0 := by omega
    have alien : ∃ b ∈ octets (unmarked text), ¬ IsDigit b.toNat := by
      apply Classical.byContradiction
      intro none
      obtain ⟨bytes, read⟩ := decode_of_digits even fun b member =>
        Classical.not_not.mp fun alien => none ⟨b, member, alien⟩
      exact unreadable ⟨bytes, decode_eq_ok_iff.mp read⟩
    obtain ⟨stray, place, found⟩ := exists_firstStray alien
    exact ⟨_, .stray even found⟩

/-! ## Names of blocks -/

def Names (text : String) (id : BlockId) : Prop := Denotes text id.toBytes

instance (text : String) (id : BlockId) : Decidable (Names text id) :=
  inferInstanceAs (Decidable (Denotes _ _))

/-- A block is named by its identifier as it is shown, with or without a mark. -/
theorem names_toHex (id : BlockId) : Names id.toHex id ∧ Names ("0x" ++ id.toHex) id :=
  denotes_encode id.toBytes

theorem Names.unique {other : BlockId} (named : Names text id) (named' : Names text other) :
    id = other :=
  Bytes32.ext (Spells.unique named named')

theorem exists_names_iff :
    (∃ id, Names text id) ↔
      (unmarked text).length = 64 ∧ ∀ c ∈ unmarked text, IsDigit c.toNat := by
  constructor
  · rintro ⟨id, named⟩
    have counted := Spells.length_eq named
    rw [id.length_toBytes] at counted
    exact ⟨counted, Spells.all_digits named⟩
  · rintro ⟨counted, all⟩
    obtain ⟨bytes, spelt⟩ := exists_spells_iff.mpr ⟨by rw [counted], all⟩
    have length : bytes.length = 32 := by
      have twice := spelt.length_eq
      omega
    exact ⟨⟨bytes, length⟩, spelt⟩

theorem parseId_of_names (named : Names text id) : parseId text = .ok id := by
  rw [parseId, decodeText_eq_ok_iff.mpr named]
  dsimp only
  rw [Bytes32.ofBytes?_toBytes]

theorem parseId_of_unreadable (unreadable : Unreadable text e) :
    parseId text = .error (.badRequest s!"couldn't parse block id: {e.message}") := by
  rw [parseId, decodeText_of_unreadable unreadable]

theorem parseId_of_size (written : Denotes text bytes) (size : bytes.length ≠ 32) :
    parseId text = .error (.badRequest s!"block id must be 32 bytes, got {bytes.length}") := by
  rw [parseId, decodeText_eq_ok_iff.mpr written]
  dsimp only
  rw [Bytes32.ofBytes?_eq_none_iff.mpr size]

end TimestampChain.Service
