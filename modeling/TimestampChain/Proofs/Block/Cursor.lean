import TimestampChain.Proofs.Answers
import TimestampChain.Proofs.Block.Layout

/-!
# Reading a block with a cursor

Bytes are read field by field, from the place behind the field before. However the reads are refused, the
length of the bytes and their version alone tell what is refused and why. A cursor that takes its fields by
place reads the same, and none of its reads leaves the bytes.
-/

namespace TimestampChain

namespace Contents

variable {α β : Type} {m n : Nat}

/-! ## What a reader takes -/

/-- The reader takes as many bytes as the width says, and is refused if there are fewer. -/
structure Takes (width : Nat) (r : Bytes → Except BlockError (α × Bytes)) : Prop where
  short : ∀ bytes, bytes.length < width → r bytes = .error .endOfData
  long : ∀ bytes, width ≤ bytes.length → ∃ a, r bytes = .ok (a, bytes.drop width)

theorem takes_read (width : Nat) : Takes width (read width) := by
  constructor
  case short =>
    intro bytes short
    rw [read, if_neg (by omega)]
  case long =>
    intro bytes long
    exact ⟨_, by rw [read, if_pos long]⟩

theorem takes_pure (a : α) : Takes 0 fun bytes => .ok (a, bytes) := by
  constructor
  case short =>
    intro bytes short
    omega
  case long =>
    intro bytes long
    exact ⟨a, rfl⟩

/-- Two readers one after another take what both take, wherever the bytes end. -/
theorem Takes.bind {r : Bytes → Except BlockError (α × Bytes)}
    {s : α → Bytes → Except BlockError (β × Bytes)} (first : Takes m r) (next : ∀ a, Takes n (s a)) :
    Takes (m + n) fun bytes => r bytes >>= fun p => s p.1 p.2 := by
  constructor
  case short =>
    intro bytes short
    by_cases reached : m ≤ bytes.length
    · obtain ⟨a, taken⟩ := first.long bytes reached
      have rest : (bytes.drop m).length < n := by
        rw [List.length_drop]
        omega
      rw [taken]
      exact (next a).short _ rest
    · rw [first.short bytes (by omega)]
      rfl
  case long =>
    intro bytes long
    obtain ⟨a, taken⟩ := first.long bytes (by omega)
    obtain ⟨b, last⟩ := (next a).long (bytes.drop m) (by rw [List.length_drop]; omega)
    rw [List.drop_drop] at last
    exact ⟨b, by rw [taken]; exact last⟩

theorem takes_readUInt16 : Takes 2 readUInt16 :=
  (takes_read 2).bind fun field => takes_pure (UInt16.ofNat (LittleEndian.decode field))

theorem takes_readUInt64 : Takes 8 readUInt64 :=
  (takes_read 8).bind fun field => takes_pure (UInt64.ofNat (LittleEndian.decode field))

theorem takes_readBytes32 : Takes 32 readBytes32 := by
  constructor
  case short =>
    intro bytes short
    rw [readBytes32, dif_neg (by omega)]
  case long =>
    intro bytes long
    exact ⟨_, by rw [readBytes32, dif_pos long]⟩

/-! ## Reading in stages -/

def readFields (bytes : Bytes) : Except BlockError (Contents × Bytes) :=
  readBytes32 bytes >>= fun parent =>
    readUInt64 parent.2 >>= fun height =>
      readUInt64 height.2 >>= fun timestamp =>
        readBytes32 timestamp.2 >>= fun payload =>
          .ok (⟨parent.1, height.1, timestamp.1, payload.1⟩, payload.2)

def readEnd (bytes : Bytes) : Except BlockError (Unit × Bytes) :=
  if bytes = [] then .ok ((), bytes) else .error (.trailing bytes.length)

def readBehind (found : UInt16) (bytes : Bytes) : Except BlockError (Contents × Bytes) :=
  if found ≠ version then .error (.unsupportedVersion found)
  else readFields bytes >>= fun fields => readEnd fields.2 >>= fun last => .ok (fields.1, last.2)

theorem bind_readEnd (bytes : Bytes) (f : Unit × Bytes → Except BlockError α) :
    readEnd bytes >>= f = if bytes = [] then f ((), bytes) else .error (.trailing bytes.length) := by
  unfold readEnd
  split <;> rfl

theorem decode_eq_stages (bytes : Bytes) :
    decode bytes = Prod.fst <$> (readUInt16 bytes >>= fun p => readBehind p.1 p.2) := by
  unfold decode readBehind readFields
  simp only [map_bind, apply_ite (Prod.fst <$> ·), LawfulMonad.bind_assoc, bind_readEnd]
  rfl

theorem takes_readFields : Takes 80 readFields :=
  takes_readBytes32.bind fun _ => takes_readUInt64.bind fun _ => takes_readUInt64.bind fun _ =>
    takes_readBytes32.bind fun _ => takes_pure _

/-! ## How bytes are judged -/

variable {bytes : Bytes}

def versionOf (bytes : Bytes) : UInt16 := UInt16.ofNat (LittleEndian.decode (bytes.take 2))

theorem toNat_versionOf (long : 2 ≤ bytes.length) :
    (versionOf bytes).toNat = LittleEndian.decode (bytes.take 2) := by
  have bound := LittleEndian.decode_lt (bytes.take 2)
  rw [List.length_take_of_le long] at bound
  exact UInt16.toNat_ofNat_of_lt bound

theorem readUInt16_of_long (long : 2 ≤ bytes.length) :
    readUInt16 bytes = .ok (versionOf bytes, bytes.drop 2) := by
  rw [readUInt16, read, if_pos long]
  rfl

/-- Behind a version of two bytes, the rest is judged by that version. -/
theorem decode_of_long (long : 2 ≤ bytes.length) :
    decode bytes = Prod.fst <$> readBehind (versionOf bytes) (bytes.drop 2) := by
  rw [decode_eq_stages, readUInt16_of_long long]
  rfl

theorem decode_of_unversioned (short : bytes.length < 2) : decode bytes = .error .endOfData := by
  rw [decode_eq_stages, takes_readUInt16.short bytes short]
  rfl

theorem decode_of_foreign (long : 2 ≤ bytes.length) (foreign : versionOf bytes ≠ version) :
    decode bytes = .error (.unsupportedVersion (versionOf bytes)) := by
  rw [decode_of_long long, readBehind, if_pos foreign]
  rfl

theorem decode_of_short (known : versionOf bytes = version) (short : bytes.length < 82) :
    decode bytes = .error .endOfData := by
  by_cases long : 2 ≤ bytes.length
  · have rest : (bytes.drop 2).length < 80 := by
      rw [List.length_drop]
      omega
    rw [decode_of_long long, readBehind, if_neg (not_not_intro known), takes_readFields.short _ rest]
    rfl
  · exact decode_of_unversioned (by omega)

/-- Once all fields are there, it is what is left behind them that decides. -/
theorem decode_of_fields (known : versionOf bytes = version) (long : 82 ≤ bytes.length) :
    ∃ c, decode bytes = Prod.fst <$> (readEnd (bytes.drop 82) >>= fun last => .ok (c, last.2)) := by
  obtain ⟨c, taken⟩ := takes_readFields.long (bytes.drop 2) (by rw [List.length_drop]; omega)
  rw [List.drop_drop] at taken
  refine ⟨c, ?_⟩
  rw [decode_of_long (by omega), readBehind, if_neg (not_not_intro known), taken]
  rfl

theorem decode_of_exact (known : versionOf bytes = version) (exact : bytes.length = 82) :
    ∃ c, decode bytes = .ok c := by
  obtain ⟨c, decoded⟩ := decode_of_fields known (by omega)
  refine ⟨c, ?_⟩
  rw [decoded, bind_readEnd, if_pos (List.drop_eq_nil_of_le (by omega))]
  rfl

theorem decode_of_trailing (known : versionOf bytes = version) (long : 82 < bytes.length) :
    decode bytes = .error (.trailing (bytes.length - 82)) := by
  obtain ⟨c, decoded⟩ := decode_of_fields known (by omega)
  have left : bytes.drop 82 ≠ [] := by
    rw [ne_eq, List.drop_eq_nil_iff]
    omega
  rw [decoded, bind_readEnd, if_neg left, List.length_drop]
  rfl

/-- How bytes are judged, by the version in front of them and by their length. -/
structure Judged (bytes : Bytes) : Prop where
  unversioned : bytes.length < 2 → decode bytes = .error (.malformed "unexpected end of data")
  version : 2 ≤ bytes.length → (versionOf bytes).toNat = LittleEndian.decode (bytes.take 2)
  foreign : 2 ≤ bytes.length → LittleEndian.decode (bytes.take 2) ≠ 0 →
    decode bytes = .error (.unsupportedVersion (versionOf bytes))
  short : LittleEndian.decode (bytes.take 2) = 0 → bytes.length < 82 →
    decode bytes = .error (.malformed "unexpected end of data")
  long : LittleEndian.decode (bytes.take 2) = 0 → 82 < bytes.length →
    decode bytes = .error (.malformed s!"{bytes.length - 82} trailing bytes")
  exact : (∃ c, decode bytes = .ok c) ↔
    LittleEndian.decode (bytes.take 2) = 0 ∧ bytes.length = 82

theorem versionOf_eq_version_iff (long : 2 ≤ bytes.length) :
    versionOf bytes = version ↔ LittleEndian.decode (bytes.take 2) = 0 := by
  rw [← toNat_versionOf long, ← UInt16.toNat_inj]
  rfl

theorem judged (bytes : Bytes) : Judged bytes := by
  constructor
  case unversioned => exact decode_of_unversioned
  case version => exact toNat_versionOf
  case foreign =>
    intro long foreign
    exact decode_of_foreign long (mt (versionOf_eq_version_iff long).mp foreign)
  case short =>
    intro known short
    by_cases long : 2 ≤ bytes.length
    · exact decode_of_short ((versionOf_eq_version_iff long).mpr known) short
    · exact decode_of_unversioned (by omega)
  case long =>
    intro known long
    exact decode_of_trailing ((versionOf_eq_version_iff (by omega)).mpr known) long
  case exact =>
    constructor
    · intro decoded
      obtain ⟨length, zeros⟩ := exists_decode_iff.mp decoded
      exact ⟨by rw [zeros]; rfl, length⟩
    · rintro ⟨known, exact⟩
      exact decode_of_exact ((versionOf_eq_version_iff (by omega)).mpr known) exact

end Contents

/-! ## The cursor -/

structure Cursor where
  bytes : Bytes
  place : Nat

namespace Cursor

open TimestampChain.Action

variable {α β : Type}

/-- Why reading stops: the bytes are refused, or bytes are asked for that are not there. -/
inductive Stop where
  | refused (cause : BlockError)
  | outside

def start (bytes : Bytes) : Cursor := ⟨bytes, 0⟩

def rest (c : Cursor) : Bytes := c.bytes.drop c.place

def remaining (c : Cursor) : Nat := c.bytes.length - c.place

def slice (width : Nat) : Action Cursor Stop Bytes := do
  let c ← state
  if c.place + width ≤ c.bytes.length then return c.bytes.field c.place width
  else fail .outside

def take (width : Nat) : Action Cursor Stop Bytes := do
  let c ← state
  if c.remaining < width then fail (.refused .endOfData)
  else
    let field ← slice width
    update fun c => { c with place := c.place + width }
    return field

def takeNumber (ofNat : Nat → α) (width : Nat) : Action Cursor Stop α := do
  let field ← take width
  if field.length = width then return ofNat (LittleEndian.decode field) else fail .outside

def takeBytes32 : Action Cursor Stop Bytes32 := do
  let field ← take 32
  match Bytes32.ofBytes? field with
  | some word => return word
  | none => fail .outside

def takeFields : Action Cursor Stop Contents := do
  let parent ← takeBytes32
  let height ← takeNumber UInt64.ofNat 8
  let timestamp ← takeNumber UInt64.ofNat 8
  let payload ← takeBytes32
  return { parent, height, timestamp, payload }

def finish : Action Cursor Stop Unit := do
  let c ← state
  if c.remaining = 0 then return () else fail (.refused (.trailing c.remaining))

def takeContents : Action Cursor Stop Contents := do
  let found ← takeNumber UInt16.ofNat 2
  if found ≠ Contents.version then fail (.refused (.unsupportedVersion found))
  else
    let contents ← takeFields
    finish
    return contents

def Inside (c : Cursor) : Prop := c.place ≤ c.bytes.length

structure Advances (c d : Cursor) : Prop where
  bytes : d.bytes = c.bytes
  forward : c.place ≤ d.place
  inside : d.Inside

theorem Advances.refl {c : Cursor} (inside : c.Inside) : Advances c c := ⟨rfl, Nat.le_refl _, inside⟩

theorem Advances.trans {c d e : Cursor} (first : Advances c d) (second : Advances d e) :
    Advances c e :=
  ⟨second.bytes.trans first.bytes, Nat.le_trans first.forward second.forward, second.inside⟩

/-- From any place inside the bytes, the program takes what the reader reads off the rest, it is refused
when the reader is, and it does not leave the bytes. -/
structure Tracks (x : Action Cursor Stop α) (r : Bytes → Except BlockError (α × Bytes)) : Prop where
  refused : ∀ c, c.Inside → ∀ cause, r c.rest = .error cause →
    ∃ d, x.run c = (.error (.refused cause), d) ∧ Advances c d
  taken : ∀ c, c.Inside → ∀ a left, r c.rest = .ok (a, left) →
    ∃ d, x.run c = (.ok a, d) ∧ Advances c d ∧ d.rest = left

theorem tracks_pure (a : α) : Tracks (pure a) fun bytes => .ok (a, bytes) := by
  constructor
  case refused =>
    intro c inside cause refused
    cases refused
  case taken =>
    intro c inside b left taken
    cases taken
    exact ⟨c, rfl, .refl inside, rfl⟩

theorem tracks_refused (cause : BlockError) :
    Tracks (fail (.refused cause) : Action Cursor Stop α) fun _ => .error cause := by
  constructor
  case refused =>
    intro c inside other refused
    cases refused
    exact ⟨c, rfl, .refl inside⟩
  case taken =>
    intro c inside a left taken
    cases taken

/-- What is taken first decides what is taken next, on both sides. -/
theorem Tracks.bind {x : Action Cursor Stop α} {r : Bytes → Except BlockError (α × Bytes)}
    {y : α → Action Cursor Stop β} {s : α → Bytes → Except BlockError (β × Bytes)}
    (first : Tracks x r) (next : ∀ a, Tracks (y a) (s a)) :
    Tracks (x >>= y) fun bytes => r bytes >>= fun p => s p.1 p.2 := by
  constructor
  case refused =>
    intro c inside cause refused
    obtain early | ⟨⟨a, left⟩, early, late⟩ := bind_eq_error refused
    · obtain ⟨d, run, moved⟩ := first.refused c inside cause early
      exact ⟨d, run_bind_error run, moved⟩
    · obtain ⟨d, run, moved, rfl⟩ := first.taken c inside a left early
      obtain ⟨e, stopped, further⟩ := (next a).refused d moved.inside cause late
      exact ⟨e, (run_bind_ok run).trans stopped, moved.trans further⟩
  case taken =>
    intro c inside b left taken
    obtain ⟨⟨a, middle⟩, early, late⟩ := bind_eq_ok_iff.mp taken
    obtain ⟨d, run, moved, rfl⟩ := first.taken c inside a middle early
    obtain ⟨e, done, further, behind⟩ := (next a).taken d moved.inside b left late
    exact ⟨e, (run_bind_ok run).trans done, moved.trans further, behind⟩

/-! ## One read -/

variable {c : Cursor} {width : Nat}

theorem length_rest (c : Cursor) : c.rest.length = c.remaining := List.length_drop

/-- Having moved behind a field, the cursor is still inside, since the field was there. -/
theorem advances_place (inside : c.Inside) (long : width ≤ c.remaining) :
    Advances c { c with place := c.place + width } := by
  refine ⟨rfl, Nat.le_add_right _ _, ?_⟩
  unfold Inside at inside
  unfold remaining at long
  show c.place + width ≤ c.bytes.length
  omega

theorem run_take_of_short (short : c.remaining < width) :
    (take width).run c = (.error (.refused .endOfData), c) := by
  rw [take, run_bind_ok (run_state c), if_pos short]
  rfl

theorem run_take_of_long (inside : c.Inside) (long : width ≤ c.remaining) :
    (take width).run c = (.ok (c.rest.take width), { c with place := c.place + width }) := by
  have there : c.place + width ≤ c.bytes.length := (advances_place inside long).inside
  have sliced : (slice width).run c = (.ok (c.rest.take width), c) := by
    rw [slice, run_bind_ok (run_state c), if_pos there]
    rfl
  rw [take, run_bind_ok (run_state c), if_neg (by omega), run_bind_ok sliced]
  rfl

/-- A field is read like the bytes at the front of the rest, if what is done with these cannot fail. -/
theorem tracks_take_bind {f : Bytes → Action Cursor Stop α} {r : Bytes → Except BlockError (α × Bytes)}
    (short : ∀ bytes, bytes.length < width → r bytes = .error .endOfData)
    (long : ∀ bytes, width ≤ bytes.length →
      ∃ a, f (bytes.take width) = pure a ∧ r bytes = .ok (a, bytes.drop width)) :
    Tracks (take width >>= f) r := by
  constructor
  case refused =>
    intro c inside cause refused
    by_cases there : width ≤ c.remaining
    · obtain ⟨a, -, taken⟩ := long c.rest (by rw [length_rest]; exact there)
      rw [taken] at refused
      cases refused
    · rw [short c.rest (by rw [length_rest]; omega)] at refused
      cases refused
      exact ⟨c, run_bind_error (run_take_of_short (by omega)), .refl inside⟩
  case taken =>
    intro c inside a left taken
    by_cases there : width ≤ c.remaining
    · obtain ⟨b, done, read⟩ := long c.rest (by rw [length_rest]; exact there)
      rw [read] at taken
      cases taken
      refine ⟨_, ?_, advances_place inside there, List.drop_drop.symm⟩
      rw [run_bind_ok (run_take_of_long inside there), done]
      rfl
    · rw [short c.rest (by rw [length_rest]; omega)] at taken
      cases taken

theorem tracks_takeNumber (ofNat : Nat → α) (width : Nat) :
    Tracks (takeNumber ofNat width) fun bytes =>
      Contents.read width bytes >>= fun p => .ok (ofNat (LittleEndian.decode p.1), p.2) := by
  refine tracks_take_bind (fun bytes short => ?_) fun bytes long =>
    ⟨ofNat (LittleEndian.decode (bytes.take width)), ?_, ?_⟩
  · rw [(Contents.takes_read width).short bytes short]
    rfl
  · rw [if_pos (List.length_take_of_le long)]
  · rw [Contents.read, if_pos long]
    rfl

theorem tracks_takeBytes32 : Tracks takeBytes32 Contents.readBytes32 := by
  refine tracks_take_bind Contents.takes_readBytes32.short fun bytes long => ?_
  refine ⟨⟨bytes.take 32, List.length_take_of_le long⟩, ?_, ?_⟩
  · rw [Bytes32.ofBytes?, dif_pos (List.length_take_of_le long)]
  · rw [Contents.readBytes32, dif_pos long]

theorem tracks_takeFields : Tracks takeFields Contents.readFields :=
  tracks_takeBytes32.bind fun _ => (tracks_takeNumber UInt64.ofNat 8).bind fun _ =>
    (tracks_takeNumber UInt64.ofNat 8).bind fun _ => tracks_takeBytes32.bind fun _ => tracks_pure _

theorem rest_eq_nil_iff : c.rest = [] ↔ c.remaining = 0 := by
  rw [← List.length_eq_zero_iff, length_rest]

theorem tracks_finish : Tracks finish Contents.readEnd := by
  constructor
  case refused =>
    intro c inside cause refused
    unfold Contents.readEnd at refused
    split at refused
    · cases refused
    · next left =>
      cases refused
      refine ⟨c, ?_, .refl inside⟩
      rw [finish, run_bind_ok (run_state c), if_neg (mt rest_eq_nil_iff.mpr left), length_rest]
      rfl
  case taken =>
    intro c inside _ left taken
    unfold Contents.readEnd at taken
    split at taken
    · next done =>
      cases taken
      refine ⟨c, ?_, .refl inside, rfl⟩
      rw [finish, run_bind_ok (run_state c), if_pos (rest_eq_nil_iff.mp done)]
      rfl
    · cases taken

theorem tracks_takeContents :
    Tracks takeContents fun bytes =>
      Contents.readUInt16 bytes >>= fun p => Contents.readBehind p.1 p.2 := by
  refine (tracks_takeNumber UInt16.ofNat 2).bind fun found => ?_
  unfold Contents.readBehind
  by_cases foreign : found ≠ Contents.version
  · simp only [if_pos foreign]
    exact tracks_refused _
  · simp only [if_neg foreign]
    exact tracks_takeFields.bind fun _ => tracks_finish.bind fun _ => tracks_pure _

/-! ## The whole run -/

/-- A cursor at the start of any bytes decides about them as they are judged, and it never asks for bytes
that are not there. -/
theorem run_takeContents (bytes : Bytes) :
    ∃ d, takeContents.run (start bytes) = ((Contents.decode bytes).mapError .refused, d) ∧
      Advances (start bytes) d := by
  have inside : (start bytes).Inside := Nat.zero_le _
  have rest : (start bytes).rest = bytes := List.drop_zero
  rw [Contents.decode_eq_stages]
  cases read : Contents.readUInt16 bytes >>= fun p => Contents.readBehind p.1 p.2 with
  | error cause => exact tracks_takeContents.refused _ inside cause (by rw [rest, read])
  | ok pair =>
      obtain ⟨d, run, moved, -⟩ :=
        tracks_takeContents.taken _ inside pair.1 pair.2 (by rw [rest, read])
      exact ⟨d, run, moved⟩

theorem run_takeContents_ne_outside (bytes : Bytes) :
    (takeContents.run (start bytes)).1 ≠ .error .outside := by
  obtain ⟨d, run, -⟩ := run_takeContents bytes
  rw [run]
  cases Contents.decode bytes with
  | error cause => exact nofun
  | ok contents => exact nofun

end Cursor

namespace Contents

/-- All bytes are judged by their version and their length, in this order: fewer than two bytes end too
soon, another version is refused whatever stands behind it, and eighty-two bytes are the only length that is
neither too short nor leaves bytes behind. The fields can be taken by place, one after another, without ever
asking for bytes that are not there. -/
theorem every_input_judged (bytes : Bytes) :
    Judged bytes ∧
      (∃ d, Cursor.takeContents.run (.start bytes) = ((decode bytes).mapError .refused, d) ∧
        Cursor.Advances (.start bytes) d) ∧
      (Cursor.takeContents.run (.start bytes)).1 ≠ .error .outside :=
  ⟨judged bytes, Cursor.run_takeContents bytes, Cursor.run_takeContents_ne_outside bytes⟩

/-- A single byte, another version with one byte behind it, a version alone, and one byte too many. -/
theorem inputs_refused :
    decode [0] = .error (.malformed "unexpected end of data") ∧
      decode [1, 0, 7] = .error (.unsupportedVersion 1) ∧
      decode [0, 0] = .error (.malformed "unexpected end of data") ∧
      decode (List.replicate 83 0) = .error (.malformed "1 trailing bytes") ∧
      ∃ c, decode (List.replicate 82 0) = .ok c := by
  refine ⟨?_, ?_, ?_, ?_, ?_⟩
  · exact (every_input_judged [0]).1.unversioned (by decide)
  · exact (every_input_judged [1, 0, 7]).1.foreign (by decide) (by decide)
  · exact (every_input_judged [0, 0]).1.short (by decide) (by decide)
  · exact (every_input_judged (List.replicate 83 0)).1.long (by decide) (by decide)
  · exact (every_input_judged (List.replicate 82 0)).1.exact.mpr ⟨by decide, by decide⟩

end Contents

end TimestampChain
