import TimestampChain.Bytes.Hex
import TimestampChain.Proofs.Answers

/-!
# Texts that spell byte strings

A row of digits spells a byte string if in lowercase it is what the byte string is written as. Reading
a text yields exactly the byte string that its characters spell, although it looks at bytes and a
character may take several of them. A text that spells nothing is refused for the first of two reasons: it
has an odd number of bytes, or it has a byte that is no digit, and then the first such byte is named.
-/

namespace TimestampChain

/-! ## Characters and their bytes -/

namespace Bytes

variable {c : Char} {b : UInt8}

theorem ofText_ofList (characters : List Char) :
    ofText (String.ofList characters) = characters.flatMap String.utf8EncodeChar := by
  rw [ofText, String.toUTF8, String.toByteArray_ofList, List.utf8Encode, List.data_toByteArray]

theorem ofText_eq (text : String) : ofText text = text.toList.flatMap String.utf8EncodeChar := by
  rw [← ofText_ofList, String.ofList_toList]

theorem ofText_injective {left right : String} (same : ofText left = ofText right) : left = right := by
  apply String.toByteArray_inj.mp
  apply ByteArray.ext
  apply Array.toList_inj.mp
  exact same

theorem encode_of_ascii (ascii : c.toNat < 128) :
    String.utf8EncodeChar c = [UInt8.ofNat c.toNat] := by
  have small : c.val.toNat ≤ 127 := Nat.le_of_lt_succ ascii
  simp only [String.utf8EncodeChar, if_pos small]
  rfl

/-- A character beyond ASCII has no ASCII byte. -/
theorem le_of_mem_encode (beyond : 128 ≤ c.toNat) (member : b ∈ String.utf8EncodeChar c) :
    128 ≤ b.toNat := by
  have large : ¬ c.val.toNat ≤ 127 := Nat.not_le.mpr beyond
  simp only [String.utf8EncodeChar, if_neg large] at member
  split at member
  · simp only [List.mem_cons, List.not_mem_nil, or_false] at member
    rcases member with rfl | rfl <;> simp only [UInt8.toNat_ofNat'] <;> omega
  · split at member
    · simp only [List.mem_cons, List.not_mem_nil, or_false] at member
      rcases member with rfl | rfl | rfl <;> simp only [UInt8.toNat_ofNat'] <;> omega
    · simp only [List.mem_cons, List.not_mem_nil, or_false] at member
      rcases member with rfl | rfl | rfl | rfl <;> simp only [UInt8.toNat_ofNat'] <;> omega

/-- An ASCII byte is a whole character. -/
theorem encode_of_mem (member : b ∈ String.utf8EncodeChar c) (ascii : b.toNat < 128) :
    c.toNat = b.toNat ∧ String.utf8EncodeChar c = [b] := by
  have plain : c.toNat < 128 := Nat.lt_of_not_le fun beyond =>
    Nat.not_le.mpr ascii (le_of_mem_encode beyond member)
  rw [encode_of_ascii plain] at member ⊢
  obtain rfl := List.mem_singleton.mp member
  exact ⟨by simp only [UInt8.toNat_ofNat']; omega, rfl⟩

def lowercase (b : UInt8) : UInt8 := if 65 ≤ b.toNat ∧ b.toNat ≤ 90 then b + 32 else b

theorem toLower_of_beyond (beyond : 128 ≤ c.toNat) : c.toLower = c := by
  refine dif_neg fun upper => ?_
  have le : c.toNat ≤ 90 := UInt32.le_iff_toNat_le.mp upper.2
  omega

theorem map_lowercase_encode (c : Char) :
    (String.utf8EncodeChar c).map lowercase = String.utf8EncodeChar c.toLower := by
  by_cases ascii : c.toNat < 128
  · have all : ∀ n < 128, (String.utf8EncodeChar (Char.ofNat n)).map lowercase =
        String.utf8EncodeChar (Char.ofNat n).toLower := by decide +kernel
    have here := all c.toNat ascii
    rwa [Char.ofNat_toNat] at here
  · have beyond : 128 ≤ c.toNat := Nat.le_of_not_lt ascii
    have kept : ∀ b ∈ String.utf8EncodeChar c, lowercase b = b := by
      intro b member
      have large := le_of_mem_encode beyond member
      exact if_neg (by omega)
    rw [toLower_of_beyond beyond, List.map_congr_left kept, List.map_id']

theorem map_lowercase_ofText (characters : List Char) :
    (ofText (String.ofList characters)).map lowercase =
      ofText (String.ofList (characters.map Char.toLower)) := by
  rw [ofText_ofList, ofText_ofList, List.map_flatMap, List.flatMap_map]
  simp only [map_lowercase_encode]

end Bytes

namespace Hex

variable {text : Bytes} {bytes : Bytes} {digits : List Char} {position : Nat}

/-! ## One digit -/

def IsDigit (code : Nat) : Prop :=
  48 ≤ code ∧ code ≤ 57 ∨ 65 ≤ code ∧ code ≤ 70 ∨ 97 ≤ code ∧ code ≤ 102

instance (code : Nat) : Decidable (IsDigit code) :=
  inferInstanceAs (Decidable (_ ∨ _))

theorem IsDigit.ascii {code : Nat} (digit : IsDigit code) : code < 128 := by
  unfold IsDigit at digit
  omega

def digitByte (n : Nat) : UInt8 := UInt8.ofNat (Nat.digitChar n).toNat

theorem value?_cases (b : UInt8) :
    (∃ n < 16, value? b = some n ∧ IsDigit b.toNat ∧ Bytes.lowercase b = digitByte n) ∨
      value? b = none ∧ ¬ IsDigit b.toNat := by
  have all : ∀ n < 256,
      (∃ k < 16, value? (UInt8.ofNat n) = some k ∧ IsDigit (UInt8.ofNat n).toNat ∧
          Bytes.lowercase (UInt8.ofNat n) = digitByte k) ∨
        value? (UInt8.ofNat n) = none ∧ ¬ IsDigit (UInt8.ofNat n).toNat := by
    decide +kernel
  have here := all b.toNat b.toNat_lt
  rwa [UInt8.ofNat_toNat] at here

theorem isDigit_of_lowercase {b : UInt8} {n : Nat} (small : n < 16)
    (written : Bytes.lowercase b = digitByte n) : IsDigit b.toNat := by
  have all : ∀ code < 256, ∀ n < 16, Bytes.lowercase (UInt8.ofNat code) = digitByte n →
      IsDigit (UInt8.ofNat code).toNat := by
    decide +kernel
  rw [← UInt8.ofNat_toNat (x := b)] at written ⊢
  exact all b.toNat b.toNat_lt n small written

theorem digitByte_injective {m n : Nat} (small : m < 16) (small' : n < 16)
    (same : digitByte m = digitByte n) : m = n := by
  have all : ∀ m < 16, ∀ n < 16, digitByte m = digitByte n → m = n := by decide +kernel
  exact all m small n small' same

theorem digit_eq_ok_iff {b : UInt8} {n : Nat} :
    digit b position = .ok n ↔ n < 16 ∧ Bytes.lowercase b = digitByte n := by
  unfold digit
  rcases value?_cases b with ⟨k, small, value, -, written⟩ | ⟨value, stray⟩
  · rw [value, written]
    constructor
    · intro done
      cases done
      exact ⟨small, rfl⟩
    · rintro ⟨small', same⟩
      rw [digitByte_injective small small' same]
  · rw [value]
    refine iff_of_false nofun ?_
    rintro ⟨small, written⟩
    exact stray (isDigit_of_lowercase small written)

theorem digit_cases (b : UInt8) (position : Nat) :
    (∃ n, digit b position = .ok n) ∧ IsDigit b.toNat ∨
      digit b position = .error (.invalidDigit b position) ∧ ¬ IsDigit b.toNat := by
  unfold digit
  rcases value?_cases b with ⟨n, -, value, digit, -⟩ | ⟨value, alien⟩
  · rw [value]
    exact Or.inl ⟨⟨n, rfl⟩, digit⟩
  · rw [value]
    exact Or.inr ⟨rfl, alien⟩

/-! ## Rows of digits -/

def digitBytes (b : UInt8) : Bytes := [digitByte (b.toNat / 16), digitByte (b.toNat % 16)]

theorem digitBytes_of_values {m n : Nat} (small : m < 16) (small' : n < 16) :
    digitBytes (UInt8.ofNat (16 * m + n)) = [digitByte m, digitByte n] := by
  have value : (UInt8.ofNat (16 * m + n)).toNat = 16 * m + n := by
    rw [UInt8.toNat_ofNat']
    omega
  rw [digitBytes, value, Nat.mul_add_div (by omega), Nat.mul_add_mod, Nat.div_eq_of_lt small',
    Nat.mod_eq_of_lt small', Nat.add_zero]

theorem decodePairs_of_digits {high low : UInt8} {m n : Nat} (first : digit high position = .ok m)
    (second : digit low (position + 1) = .ok n) (rest : Bytes) :
    decodePairs position (high :: low :: rest) =
      (decodePairs (position + 2) rest).map (UInt8.ofNat (16 * m + n) :: ·) := by
  rw [decodePairs, first, second]
  cases decodePairs (position + 2) rest <;> rfl

theorem decodePairs_of_first {high : UInt8} {e : HexError} (failed : digit high position = .error e)
    (low : UInt8) (rest : Bytes) : decodePairs position (high :: low :: rest) = .error e := by
  rw [decodePairs, failed]
  rfl

theorem decodePairs_of_second {high low : UInt8} {m : Nat} {e : HexError}
    (first : digit high position = .ok m) (failed : digit low (position + 1) = .error e)
    (rest : Bytes) : decodePairs position (high :: low :: rest) = .error e := by
  rw [decodePairs, first, failed]
  rfl

theorem eq_nil_of_even (even : text.length % 2 = 0)
    (single : ∀ high low rest, text = high :: low :: rest → False) : text = [] := by
  match text, single, even with
  | [], _, _ => rfl
  | [_], _, even => cases even
  | _ :: _ :: _, single, _ => exact (single _ _ _ rfl).elim

/-- Digits read two by two are those that the bytes are written as, in letters of either case. -/
theorem decodePairs_eq_ok_iff (even : text.length % 2 = 0) :
    decodePairs position text = .ok bytes ↔ text.map Bytes.lowercase = bytes.flatMap digitBytes := by
  fun_induction decodePairs position text generalizing bytes with
  | case1 position high low rest ih =>
      have even' : rest.length % 2 = 0 := by
        simp only [List.length_cons] at even
        omega
      simp only [bind_eq_ok_iff, digit_eq_ok_iff, ih even', List.map_cons]
      constructor
      · rintro ⟨m, ⟨small, high⟩, n, ⟨small', low⟩, rest, read, made⟩
        cases made
        rw [List.flatMap_cons, digitBytes_of_values small small', high, low, read]
        rfl
      · intro written
        cases bytes with
        | nil => cases written
        | cons b rest =>
            obtain ⟨high, tail⟩ := List.cons_eq_cons.mp written
            obtain ⟨low, read⟩ := List.cons_eq_cons.mp tail
            have below := b.toNat_lt
            refine ⟨_, ⟨by omega, high⟩, _, ⟨by omega, low⟩, rest, read, ?_⟩
            rw [show 16 * (b.toNat / 16) + b.toNat % 16 = b.toNat by omega, UInt8.ofNat_toNat]
            rfl
  | case2 text position single =>
      obtain rfl := eq_nil_of_even even single
      cases bytes with
      | nil => exact iff_of_true rfl rfl
      | cons b rest => exact iff_of_false nofun nofun

/-- The first byte of a text that is no digit, and its place. -/
def FirstStray (text : Bytes) (stray : UInt8) (place : Nat) : Prop :=
  ∃ front back, text = front ++ stray :: back ∧ front.length = place ∧
    (∀ b ∈ front, IsDigit b.toNat) ∧ ¬ IsDigit stray.toNat

variable {b stray : UInt8} {place : Nat} {e : HexError}

theorem not_firstStray_nil : ¬ FirstStray [] stray place := by
  rintro ⟨front, back, split, -⟩
  cases front <;> cases split

theorem firstStray_of_alien (alien : ¬ IsDigit b.toNat) :
    FirstStray (b :: text) stray place ↔ stray = b ∧ place = 0 := by
  constructor
  · rintro ⟨front, back, split, counted, digits, -⟩
    cases front with
    | nil =>
        cases split
        exact ⟨rfl, counted.symm⟩
    | cons first front =>
        cases split
        exact absurd (digits _ List.mem_cons_self) alien
  · rintro ⟨rfl, rfl⟩
    exact ⟨[], text, rfl, rfl, nofun, alien⟩

theorem firstStray_of_digit (digit : IsDigit b.toNat) :
    FirstStray (b :: text) stray place ↔ ∃ later, FirstStray text stray later ∧ place = later + 1 := by
  constructor
  · rintro ⟨front, back, split, counted, digits, alien⟩
    cases front with
    | nil =>
        cases split
        exact absurd digit alien
    | cons first front =>
        cases split
        have others := fun d member => digits d (List.mem_cons_of_mem _ member)
        exact ⟨front.length, ⟨front, back, rfl, rfl, others, alien⟩, counted.symm⟩
  · rintro ⟨_, ⟨front, back, rfl, rfl, digits, alien⟩, rfl⟩
    exact ⟨b :: front, back, rfl, rfl, List.forall_mem_cons.mpr ⟨digit, digits⟩, alien⟩

theorem exists_firstStray (alien : ∃ b ∈ text, ¬ IsDigit b.toNat) :
    ∃ stray place, FirstStray text stray place := by
  induction text with
  | nil =>
      obtain ⟨b, member, -⟩ := alien
      cases member
  | cons first text ih =>
      by_cases digit : IsDigit first.toNat
      · obtain ⟨b, member, alien⟩ := alien
        have later : b ∈ text := by
          rcases List.mem_cons.mp member with rfl | later
          · exact absurd digit alien
          · exact later
        obtain ⟨stray, place, found⟩ := ih ⟨b, later, alien⟩
        exact ⟨stray, place + 1, (firstStray_of_digit digit).mpr ⟨place, found, rfl⟩⟩
      · exact ⟨first, 0, (firstStray_of_alien digit).mpr ⟨rfl, rfl⟩⟩

/-- Digits read two by two are refused for the first byte that is none. -/
theorem decodePairs_eq_error_iff (even : text.length % 2 = 0) :
    decodePairs position text = .error e ↔
      ∃ stray place, FirstStray text stray place ∧ e = .invalidDigit stray (position + place) := by
  induction position, text using decodePairs.induct with
  | case1 position high low rest ih =>
      have even' : rest.length % 2 = 0 := by
        simp only [List.length_cons] at even
        omega
      rcases digit_cases high position with ⟨⟨m, first⟩, digit⟩ | ⟨failed, alien⟩
      · rcases digit_cases low (position + 1) with ⟨⟨n, second⟩, digit'⟩ | ⟨failed, alien⟩
        · have later : ∀ place, position + 2 + place = position + (place + 1 + 1) := by omega
          rw [decodePairs_of_digits first second, map_eq_error_iff, ih even']
          simp only [firstStray_of_digit digit, firstStray_of_digit digit', later]
          constructor
          · rintro ⟨stray, place, found, rfl⟩
            exact ⟨stray, _, ⟨_, ⟨place, found, rfl⟩, rfl⟩, rfl⟩
          · rintro ⟨stray, _, ⟨_, ⟨place, found, rfl⟩, rfl⟩, rfl⟩
            exact ⟨stray, place, found, rfl⟩
        · rw [decodePairs_of_second first failed]
          simp only [firstStray_of_digit digit, firstStray_of_alien alien]
          constructor
          · rintro ⟨⟩
            exact ⟨low, _, ⟨0, ⟨rfl, rfl⟩, rfl⟩, rfl⟩
          · rintro ⟨stray, _, ⟨_, ⟨rfl, rfl⟩, rfl⟩, rfl⟩
            rfl
      · rw [decodePairs_of_first failed]
        simp only [firstStray_of_alien alien]
        constructor
        · rintro ⟨⟩
          exact ⟨high, 0, ⟨rfl, rfl⟩, rfl⟩
        · rintro ⟨stray, place, ⟨rfl, rfl⟩, rfl⟩
          rfl
  | case2 text position single =>
      obtain rfl := eq_nil_of_even even single
      refine iff_of_false nofun ?_
      rintro ⟨stray, place, found, -⟩
      exact not_firstStray_nil found

/-! ## Spelling -/

/-- The digits, in lowercase, are those that the byte string is written as. -/
def Spells (digits : List Char) (bytes : Bytes) : Prop :=
  digits.map Char.toLower = (encode bytes).toList

instance (digits : List Char) (bytes : Bytes) : Decidable (Spells digits bytes) :=
  inferInstanceAs (Decidable (_ = _))

def octets (digits : List Char) : Bytes := Bytes.ofText (String.ofList digits)

theorem ofText_encode (bytes : Bytes) : Bytes.ofText (encode bytes) = bytes.flatMap digitBytes := by
  have all : ∀ n < 256, (Hex.digits (UInt8.ofNat n)).flatMap String.utf8EncodeChar =
      digitBytes (UInt8.ofNat n) := by
    decide +kernel
  have one : ∀ b : UInt8, (Hex.digits b).flatMap String.utf8EncodeChar = digitBytes b := by
    intro b
    have here := all b.toNat b.toNat_lt
    rwa [UInt8.ofNat_toNat] at here
  rw [encode, Bytes.ofText_ofList, List.flatMap_assoc]
  simp only [one]

theorem spells_iff :
    Spells digits bytes ↔ (octets digits).map Bytes.lowercase = bytes.flatMap digitBytes := by
  rw [octets, Bytes.map_lowercase_ofText, ← ofText_encode, Spells]
  constructor
  · intro same
    rw [same, String.ofList_toList]
  · intro same
    rw [← Bytes.ofText_injective same, String.toList_ofList]

theorem length_flatMap_two {α : Type} {f : UInt8 → List α} (two : ∀ b, (f b).length = 2)
    (bytes : Bytes) : (bytes.flatMap f).length = 2 * bytes.length := by
  induction bytes with
  | nil => rfl
  | cons b bytes ih =>
      rw [List.flatMap_cons, List.length_append, ih, two, List.length_cons, Nat.mul_succ, Nat.add_comm]

theorem decode_of_even (even : text.length % 2 = 0) : decode text = decodePairs 0 text :=
  if_neg (by omega)

/-- What a text is read as is what its characters spell. -/
theorem decode_eq_ok_iff : decode (octets digits) = .ok bytes ↔ Spells digits bytes := by
  by_cases even : (octets digits).length % 2 = 0
  · rw [decode_of_even even, decodePairs_eq_ok_iff even, spells_iff]
  · rw [decode, if_pos (by omega), spells_iff]
    refine iff_of_false nofun fun same => ?_
    have counted := congrArg List.length same
    rw [List.length_map, length_flatMap_two fun _ => rfl] at counted
    omega

theorem decode_of_odd (odd : text.length % 2 = 1) : decode text = .error .oddLength := if_pos odd

theorem decode_of_stray (even : text.length % 2 = 0) (found : FirstStray text stray place) :
    decode text = .error (.invalidDigit stray place) := by
  rw [decode_of_even even]
  refine (decodePairs_eq_error_iff even).mpr ⟨stray, place, found, ?_⟩
  rw [Nat.zero_add]

theorem FirstStray.alien (found : FirstStray text stray place) :
    stray ∈ text ∧ ¬ IsDigit stray.toNat := by
  obtain ⟨front, back, rfl, -, -, alien⟩ := found
  exact ⟨List.mem_append_right _ List.mem_cons_self, alien⟩

theorem decode_of_digits (even : text.length % 2 = 0) (all : ∀ b ∈ text, IsDigit b.toNat) :
    ∃ bytes, decode text = .ok bytes := by
  rw [decode_of_even even]
  cases read : decodePairs 0 text with
  | ok bytes => exact ⟨bytes, rfl⟩
  | error e =>
      obtain ⟨stray, place, found, -⟩ := (decodePairs_eq_error_iff even).mp read
      exact absurd (all stray found.alien.1) found.alien.2

/-! ## Which rows of digits spell something -/

theorem octets_eq (digits : List Char) : octets digits = digits.flatMap String.utf8EncodeChar :=
  Bytes.ofText_ofList digits

theorem exists_mem_encode (c : Char) : ∃ b, b ∈ String.utf8EncodeChar c := by
  cases written : String.utf8EncodeChar c with
  | nil => exact absurd written String.utf8EncodeChar_ne_nil
  | cons b rest => exact ⟨b, List.mem_cons_self⟩

theorem forall_octets_iff :
    (∀ b ∈ octets digits, IsDigit b.toNat) ↔ ∀ c ∈ digits, IsDigit c.toNat := by
  rw [octets_eq]
  constructor
  · intro all c member
    obtain ⟨b, within⟩ := exists_mem_encode c
    have digit := all b (List.mem_flatMap.mpr ⟨c, member, within⟩)
    rw [(Bytes.encode_of_mem within digit.ascii).1]
    exact digit
  · intro all b member
    obtain ⟨c, within, member⟩ := List.mem_flatMap.mp member
    have digit := all c within
    rw [Bytes.encode_of_ascii digit.ascii, List.mem_singleton] at member
    rw [member, UInt8.toNat_ofNat', Nat.mod_eq_of_lt (Nat.lt_trans digit.ascii (by decide))]
    exact digit

theorem length_octets (all : ∀ c ∈ digits, IsDigit c.toNat) :
    (octets digits).length = digits.length := by
  rw [octets_eq]
  induction digits with
  | nil => rfl
  | cons c digits ih =>
      obtain ⟨digit, others⟩ := List.forall_mem_cons.mp all
      rw [List.flatMap_cons, List.length_append, Bytes.encode_of_ascii digit.ascii, ih others,
        List.length_cons, Nat.add_comm]
      rfl

theorem Spells.length_eq (spelt : Spells digits bytes) : digits.length = 2 * bytes.length := by
  have counted := congrArg List.length spelt
  rwa [List.length_map, encode, String.toList_ofList, length_flatMap_two fun _ => rfl] at counted

theorem Spells.all_digits (spelt : Spells digits bytes) : ∀ c ∈ digits, IsDigit c.toNat := by
  refine forall_octets_iff.mp fun b member => ?_
  have within : Bytes.lowercase b ∈ bytes.flatMap digitBytes := by
    rw [← spells_iff.mp spelt]
    exact List.mem_map_of_mem member
  obtain ⟨a, -, written⟩ := List.mem_flatMap.mp within
  have below := a.toNat_lt
  rcases List.mem_cons.mp written with high | low
  · exact isDigit_of_lowercase (by omega) high
  · exact isDigit_of_lowercase (by omega) (List.mem_singleton.mp low)

/-- Exactly the rows of an even number of digits, of either case, spell a byte string. -/
theorem exists_spells_iff :
    (∃ bytes, Spells digits bytes) ↔ digits.length % 2 = 0 ∧ ∀ c ∈ digits, IsDigit c.toNat := by
  constructor
  · rintro ⟨bytes, spelt⟩
    exact ⟨by rw [spelt.length_eq]; omega, spelt.all_digits⟩
  · rintro ⟨even, all⟩
    rw [← length_octets all] at even
    obtain ⟨bytes, read⟩ := decode_of_digits even (forall_octets_iff.mpr all)
    exact ⟨bytes, decode_eq_ok_iff.mp read⟩

theorem Spells.unique {other : Bytes} (spelt : Spells digits bytes) (spelt' : Spells digits other) :
    bytes = other :=
  Except.ok.inj ((decode_eq_ok_iff.mpr spelt).symm.trans (decode_eq_ok_iff.mpr spelt'))

theorem spells_encode (bytes : Bytes) : Spells (encode bytes).toList bytes := by
  have all : ∀ n < 256, (Hex.digits (UInt8.ofNat n)).map Char.toLower = Hex.digits (UInt8.ofNat n) := by
    decide +kernel
  have one : ∀ b : UInt8, (Hex.digits b).map Char.toLower = Hex.digits b := by
    intro b
    have here := all b.toNat b.toNat_lt
    rwa [UInt8.ofNat_toNat] at here
  rw [Spells, encode, String.toList_ofList, List.map_flatMap]
  simp only [one]

theorem encode_injective {other : Bytes} (same : encode bytes = encode other) : bytes = other :=
  (spells_encode bytes).unique (same ▸ spells_encode other)

theorem decode_encode (bytes : Bytes) : decode (Bytes.ofText (encode bytes)) = .ok bytes := by
  have read := decode_eq_ok_iff.mpr (spells_encode bytes)
  rwa [octets, String.ofList_toList] at read

end Hex

end TimestampChain
