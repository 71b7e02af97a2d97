import TimestampChain.Proofs.Chain.Decisions
import TimestampChain.Proofs.Instances.Truth
import TimestampChain.Proofs.Store.WriteOnce

/-!
# Sound look-ups

Whatever a backend holds, a block is found only under the digest of its bytes. A record that is no written
form of such a block is reported as damage wherever it is come across, and is never taken for a block that
is missing, since what has a record is not among the verified blocks.
-/

namespace TimestampChain

open TimestampChain.Action

namespace ChainState

variable {s : ChainState} {id : BlockId} {bytes : Bytes} {contents : Contents} {cause : StoreError}

/-! ## One record -/

/-- What is wrong with a record: it cannot be read, or it was written for another block. -/
inductive Damaged (id : BlockId) (bytes : Bytes) : StoreError → Prop
  | corrupt {cause : BlockError} (unreadable : Contents.decode bytes = .error cause) :
      Damaged id bytes (.corrupt cause)
  | integrity {contents : Contents} (readable : Contents.decode bytes = .ok contents)
      (other : Sha256.hash bytes ≠ id) : Damaged id bytes (.integrity id)

theorem decodeRecord_of_damaged (damaged : Damaged id bytes cause) :
    decodeRecord id bytes = .error cause := by
  cases damaged with
  | corrupt unreadable => rw [decodeRecord, Block.parse_eq_error_iff.mpr unreadable]
  | @integrity contents readable other =>
      have named : (Block.ofContents contents).id = Sha256.hash bytes :=
        congrArg Sha256.hash (Contents.encode_of_decode readable)
      rw [decodeRecord, Block.parse_of_decode readable]
      exact if_neg fun same => other (named.symm.trans same)

theorem decodeRecord_of_named (readable : Contents.decode bytes = .ok contents)
    (named : Sha256.hash bytes = id) :
    decodeRecord id bytes = .ok (Block.ofContents contents).asAccepted := by
  have bytes_eq := Contents.encode_of_decode readable
  subst bytes_eq
  subst named
  exact decodeRecord_bytes (Block.ofContents contents)

theorem decodeRecord_eq_error_iff : decodeRecord id bytes = .error cause ↔ Damaged id bytes cause := by
  refine ⟨fun failed => ?_, decodeRecord_of_damaged⟩
  cases decoded : Contents.decode bytes with
  | error unreadable =>
      cases (decodeRecord_of_damaged (.corrupt decoded)).symm.trans failed
      exact .corrupt decoded
  | ok contents =>
      by_cases named : Sha256.hash bytes = id
      · cases (decodeRecord_of_named decoded named).symm.trans failed
      · cases (decodeRecord_of_damaged (.integrity decoded named)).symm.trans failed
        exact .integrity decoded named

theorem lookup_of_record_missing {other : BlockId} (missing : s.record id = .error (.notFound other)) :
    other = id ∧ s.lookup (Key.block id) = .ok none := by
  cases closed : s.closed with
  | true =>
      rw [record, lookup_of_closed closed] at missing
      cases missing
  | false =>
      have looked := lookup_eq_value closed (Key.block id)
      rw [record, looked] at missing
      rw [looked]
      cases value : s.layers.value (Key.block id) with
      | none =>
          rw [value] at missing
          cases missing
          exact ⟨rfl, rfl⟩
      | some bytes =>
          rw [value] at missing
          cases decodeRecord_eq_error_iff.mp missing

theorem getBlock_of_readable (readable : s.Readable (Key.block id)) :
    ((getBlock id).run s).1 =
      match s.layers.value (Key.block id) with
      | none => .error (.notFound id)
      | some bytes => decodeRecord id bytes := by
  obtain ⟨n, looked⟩ := run_read_of_readable readable
  rw [getBlock, run_bind_ok looked]
  cases s.layers.value (Key.block id) <;> rfl

/-- What looking a block up says about what is there under its identifier. -/
structure Reads (s : ChainState) (id : BlockId) : Prop where
  missing : ((getBlock id).run s).1 = .error (.notFound id) ↔ s.layers.value (0 :: id.toBytes) = none
  corrupt : ∀ cause, ((getBlock id).run s).1 = .error (.corrupt cause) ↔
    ∃ bytes, s.layers.value (0 :: id.toBytes) = some bytes ∧ Contents.decode bytes = .error cause
  integrity : ((getBlock id).run s).1 = .error (.integrity id) ↔
    ∃ bytes contents, s.layers.value (0 :: id.toBytes) = some bytes ∧
      Contents.decode bytes = .ok contents ∧ Sha256.hash bytes ≠ id
  found : (∃ block, ((getBlock id).run s).1 = .ok block) ↔
    ∃ bytes contents, s.layers.value (0 :: id.toBytes) = some bytes ∧
      Contents.decode bytes = .ok contents ∧ Sha256.hash bytes = id
  block : ∀ block, ((getBlock id).run s).1 = .ok block →
    s.layers.value (0 :: id.toBytes) = some block.bytes ∧ block.id = id ∧ block.status = .accepted

theorem reads_of_readable (readable : s.Readable (Key.block id)) : s.Reads id := by
  have result := getBlock_of_readable readable
  have named : s.layers.value (0 :: id.toBytes) = s.layers.value (Key.block id) := rfl
  cases value : s.layers.value (Key.block id) with
  | none =>
      rw [value] at result named
      constructor <;> simp [result, named]
  | some bytes =>
      rw [value] at result named
      cases decoded : Contents.decode bytes with
      | error cause =>
          have damaged : decodeRecord id bytes = _ := decodeRecord_of_damaged (.corrupt decoded)
          constructor <;> simp [result, named, decoded, damaged]
      | ok contents =>
          by_cases digest : Sha256.hash bytes = id
          · have read := decodeRecord_of_named decoded digest
            obtain ⟨same, kept, status⟩ := decodeRecord_eq_ok read
            constructor <;> simp [result, named, decoded, read, digest, same, kept, status]
          · have damaged := decodeRecord_of_damaged (.integrity decoded digest)
            constructor <;> simp [result, named, decoded, damaged, digest]

end ChainState

namespace Controller

variable {c : Controller} {id other : BlockId} {block : Block} {bytes : Bytes} {cause : StoreError}
  {e : ControllerError}

/-! ## What a look-up fails with -/

theorem find_error_cases (failed : c.find id = .error e) : e = .notFound id ∨ ∃ cause, e = .store cause := by
  unfold find at failed
  cases known : c.verified? id with
  | some kept =>
      rw [known] at failed
      cases failed
  | none =>
      rw [known] at failed
      cases read : c.store.record id with
      | ok block =>
          rw [read] at failed
          cases failed
      | error cause =>
          rw [read] at failed
          cases cause with
          | notFound other =>
              cases failed
              rw [(ChainState.lookup_of_record_missing read).1]
              exact Or.inl rfl
          | _ =>
              cases failed
              exact Or.inr ⟨_, rfl⟩

theorem getBlock_error_cases (failed : ((getBlock id).run c).1 = .error e) :
    e = .notFound id ∨ ∃ cause, e = .store cause := by
  obtain ⟨n, done | ⟨_, ⟨text, -, rfl⟩, stopped⟩⟩ := getBlock_answers id c
  · rw [done] at failed
    exact find_error_cases failed
  · rw [stopped] at failed
    cases failed
    exact Or.inr ⟨_, rfl⟩

/-- What is not found is nowhere. -/
theorem nowhere_of_getBlock_missing (tidy : c.Tidy)
    (missing : ((getBlock id).run c).1 = .error (.notFound other)) :
    other = id ∧ c.verified? id = none ∧ c.table.get? (Key.block id) = none := by
  have absent := find_of_getBlock_missing (run_eq missing)
  refine ⟨?_, ?_, absent_of_notFound tidy absent⟩
  · obtain named | ⟨cause, damage⟩ := find_error_cases absent
    · cases named
      rfl
    · cases damage
  · unfold find at absent
    cases known : c.verified? id with
    | none => rfl
    | some kept =>
        rw [known] at absent
        cases absent

theorem run_resolveParent (id : BlockId) (c : Controller) :
    (resolveParent id).run c =
      (match ((getBlock id).run c).1 with
        | .error (.notFound _) => .error (.missingParent id)
        | outcome => outcome, ((getBlock id).run c).2) := by
  rw [resolveParent, run_mapError]
  rcases outcome : ((getBlock id).run c).1 with e | block
  · obtain rfl | ⟨cause, rfl⟩ := getBlock_error_cases outcome <;> rfl
  · rfl

/-! ## Reading a block -/

def parsing (c : Controller) (bytes : Bytes) : Except ControllerError Block :=
  match Block.parse bytes with
  | .error cause => .error (.ofBlock cause)
  | .ok block =>
    match c.find block.id with
    | .error (.notFound _) => .ok block
    | outcome => outcome

theorem run_parseBlock {new : Block} (parsed : Block.parse bytes = .ok new) (c : Controller) :
    (parseBlock bytes).run c =
      (match ((getBlock new.id).run c).1 with
        | .error (.notFound _) => .ok new
        | outcome => outcome, ((getBlock new.id).run c).2) := by
  rw [parseBlock, parsed]
  refine (run_bind_ok rfl).trans ?_
  rw [run_bind_ok (run_attempt _ _)]
  rcases (getBlock new.id).run c with ⟨(_ | _) | _, _⟩ <;> rfl

theorem parseBlock_answers (bytes : Bytes) (c : Controller) :
    (parseBlock bytes).Answers c (c.parsing bytes) := by
  unfold parsing
  cases parsed : Block.parse bytes with
  | error cause =>
      rw [parseBlock, parsed]
      exact answers_fail _ _
  | ok new =>
      obtain ⟨n, done | ⟨_, ⟨text, fails, rfl⟩, stopped⟩⟩ := getBlock_answers new.id c
      · exact ⟨n, Or.inl (by rw [run_parseBlock parsed, done])⟩
      · exact ⟨n, Or.inr ⟨_, ⟨text, fails, rfl⟩, by rw [run_parseBlock parsed, stopped]⟩⟩

theorem hash_of_find (tidy : c.Tidy) (found : c.find id = .ok block) : Sha256.hash block.bytes = id :=
  block.id_eq.symm.trans (id_of_find tidy found)

theorem hash_of_parsing (tidy : c.Tidy) (read : c.parsing bytes = .ok block) :
    Sha256.hash block.bytes = Sha256.hash bytes := by
  unfold parsing at read
  cases parsed : Block.parse bytes with
  | error cause =>
      rw [parsed] at read
      cases read
  | ok new =>
      obtain ⟨kept, -⟩ := Block.parse_eq_ok_iff.mp parsed
      rw [parsed] at read
      dsimp only at read
      rcases found : c.find new.id with e | known
      · rw [found] at read
        obtain rfl | ⟨cause, rfl⟩ := find_error_cases found <;> cases read
        rw [kept]
      · rw [found] at read
        cases read
        rw [hash_of_find tidy found, new.id_eq, kept]

/-! ## Damage -/

/-- The action fails with an error of the store, and with the given one while the store is open and no
request of the action fails. -/
def Reports {α : Type} (c : Controller) (x : Step α) (cause : StoreError) : Prop :=
  (∃ e, (x.run c).1 = .error (.store e)) ∧
    (c.store.closed = false → Unfailing x c → (x.run c).1 = .error (.store cause))

def seen (c : Controller) (cause : StoreError) : ControllerError :=
  .store (if c.store.closed then .closed else cause)

theorem reports_of_answers {α : Type} {x : Step α} (answers : x.Answers c (.error (c.seen cause))) :
    c.Reports x cause := by
  constructor
  · obtain ⟨n, done | ⟨_, ⟨text, -, rfl⟩, stopped⟩⟩ := answers
    · exact ⟨_, congrArg Prod.fst done⟩
    · exact ⟨_, congrArg Prod.fst stopped⟩
  · intro opened works
    obtain ⟨n, done⟩ := run_of_unfailing answers works
    rw [done, seen, opened]
    rfl

theorem holds_of_closed (closed : c.store.closed = true) (id : BlockId) :
    c.store.holds id = .error .closed := by
  rw [ChainState.holds, ChainState.lookup_of_closed closed]
  rfl

section

variable (tidy : c.Tidy) (record : c.table.get? (Key.block id) = some bytes)
  (damaged : ChainState.Damaged id bytes cause)

include tidy record damaged

theorem find_of_damaged : c.find id = .error (c.seen cause) := by
  -- No verified block hides the record, since none has the identifier of a record.
  have unverified := tidy.unverified_of_record record
  cases closed : c.store.closed with
  | true =>
      rw [find, unverified, ChainState.record, ChainState.lookup_of_closed closed, seen, closed]
      rfl
  | false =>
      rw [find_of_recorded unverified closed tidy.quiet record, seen, closed,
        ChainState.decodeRecord_of_damaged damaged]
      cases damaged <;> rfl

theorem findParent_of_damaged : c.findParent id = .error (c.seen cause) := by
  rw [findParent, find_of_damaged tidy record damaged]
  rfl

theorem parsing_of_damaged {written : Bytes} {contents : Contents}
    (decoded : Contents.decode written = .ok contents) (named : Sha256.hash written = id) :
    c.parsing written = .error (c.seen cause) := by
  have identifier : (Block.ofContents contents).id = id := by
    rw [← named, ← Contents.encode_of_decode decoded]
    rfl
  rw [parsing, Block.parse_of_decode decoded]
  dsimp only
  rw [identifier, find_of_damaged tidy record damaged]
  rfl

theorem composition_of_damaged (preferred : c.preferred = id) (payload : Payload) :
    c.composition payload = .error (c.seen cause) := by
  rw [composition, preferred, findParent_of_damaged tidy record damaged]
  rfl

theorem verification_of_damaged (status : block.status = .processing)
    (absent : c.table.get? (Key.block block.id) = none) (named : block.parent = id) :
    c.verification block = .error (c.seen cause) := by
  rw [verification, status]
  cases closed : c.store.closed with
  | true =>
      rw [holds_of_closed closed, seen, closed]
      rfl
  | false =>
      rw [unstored_of_absent tidy.quiet closed absent, named, findParent_of_damaged tidy record damaged]
      rfl

theorem accept_of_damaged (status : block.status = .processing)
    (absent : c.table.get? (Key.block block.id) = none) (named : block.parent = id)
    (marker : (c.table.get? Key.initialized).isSome) :
    (accept block).Answers c (.error (c.seen cause)) := by
  cases closed : c.store.closed with
  | true =>
      have unread := accept_of_unread status (holds_of_closed closed block.id)
      rw [seen, closed]
      exact unread
  | false =>
      have refused : c.admission block = .error (c.seen cause) := by
        rw [admission_of_marker tidy.quiet closed marker, extension, named,
          findParent_of_damaged tidy record damaged]
        rfl
      exact accept_of_refused status tidy.quiet (unstored_of_absent tidy.quiet closed absent)
        (commitAccept_of_unadmitted status refused)

end

structure ReportsDamage (c : Controller) (id : BlockId) (cause : StoreError) : Prop where
  getBlock : c.Reports (getBlock id) cause
  resolveParent : c.Reports (resolveParent id) cause
  parseBlock : ∀ written contents, Contents.decode written = .ok contents →
    Sha256.hash written = id → c.Reports (parseBlock written) cause
  build : c.mempool.queue ≠ [] → c.preferred = id → c.Reports build cause
  verify : ∀ block : Block, block.status = .processing →
    c.table.get? (0 :: block.id.toBytes) = none → block.parent = id → c.Reports (verify block) cause
  accept : ∀ block : Block, block.status = .processing →
    c.table.get? (0 :: block.id.toBytes) = none → block.parent = id → (c.table.get? [2]).isSome →
    c.Reports (accept block) cause

theorem reportsDamage_of_record (tidy : c.Tidy) (record : c.table.get? (Key.block id) = some bytes)
    (damaged : ChainState.Damaged id bytes cause) : c.ReportsDamage id cause := by
  constructor
  case getBlock =>
    have answers := getBlock_answers id c
    rw [find_of_damaged tidy record damaged] at answers
    exact reports_of_answers answers
  case resolveParent =>
    have answers := resolveParent_answers id c
    rw [findParent_of_damaged tidy record damaged] at answers
    exact reports_of_answers answers
  case parseBlock =>
    intro written contents decoded named
    have answers := parseBlock_answers written c
    rw [parsing_of_damaged tidy record damaged decoded named] at answers
    exact reports_of_answers answers
  case build =>
    intro waiting preferred
    obtain ⟨payload, rest, queue⟩ := List.exists_cons_of_ne_nil waiting
    have popped : c.mempool.pop? = some (payload, ⟨rest⟩) := Mempool.pop?_eq_some_iff.mpr queue
    have refused := composition_of_damaged tidy record damaged preferred payload
    exact reports_of_answers (build_of_refused popped refused)
  case verify =>
    intro block status absent named
    have refused := verification_of_damaged tidy record damaged status absent named
    exact reports_of_answers (verify_of_refused refused)
  case accept =>
    intro block status absent named marker
    exact reports_of_answers (accept_of_damaged tidy record damaged status absent named marker)

/-! ## Soundness -/

structure LooksUpSoundly (c : Controller) : Prop where
  getBlock : ∀ id block, ((getBlock id).run c).1 = .ok block → Sha256.hash block.bytes = id
  resolveParent : ∀ id block, ((resolveParent id).run c).1 = .ok block → Sha256.hash block.bytes = id
  parseBlock : ∀ bytes block, ((parseBlock bytes).run c).1 = .ok block →
    Sha256.hash block.bytes = Sha256.hash bytes
  /-- What is not found is nowhere. -/
  missing : ∀ id other, ((Controller.getBlock id).run c).1 = .error (.notFound other) →
    other = id ∧ c.verified? id = none ∧ c.table.get? (0 :: id.toBytes) = none
  /-- Only what is not found makes a parent missing. -/
  parent : ∀ id, (Controller.resolveParent id).run c =
    (match ((Controller.getBlock id).run c).1 with
      | .error (.notFound _) => .error (.missingParent id)
      | outcome => outcome, ((Controller.getBlock id).run c).2)
  parent_missing_iff : ∀ id other,
    ((Controller.resolveParent id).run c).1 = .error (.missingParent other) ↔
      other = id ∧ ((Controller.getBlock id).run c).1 = .error (.notFound id)
  damage : ∀ id bytes cause, c.table.get? (0 :: id.toBytes) = some bytes →
    ChainState.Damaged id bytes cause → c.ReportsDamage id cause

theorem Tidy.looksUpSoundly (tidy : c.Tidy) : c.LooksUpSoundly := by
  constructor
  case getBlock => exact fun id block found => hash_of_find tidy ((getBlock_answers id c).eq_of_ok found)
  case resolveParent =>
    intro id block found
    exact hash_of_find tidy (mapError_eq_ok_iff.mp ((resolveParent_answers id c).eq_of_ok found))
  case parseBlock =>
    exact fun bytes block read => hash_of_parsing tidy ((parseBlock_answers bytes c).eq_of_ok read)
  case missing => exact fun id other missing => nowhere_of_getBlock_missing tidy missing
  case parent => exact fun id => run_resolveParent id c
  case parent_missing_iff =>
    intro id other
    rw [run_resolveParent]
    rcases outcome : ((Controller.getBlock id).run c).1 with e | block
    · obtain rfl | ⟨cause, rfl⟩ := getBlock_error_cases outcome <;> simp [eq_comm]
    · simp
  case damage => exact fun id bytes cause record damaged => reportsDamage_of_record tidy record damaged

/-- Whatever is read of a chain state tells what is there. So over any table and behind any events, a block
is found only under the digest of its bytes, damage is reported as such by whatever comes across it, and
only what is nowhere is missing as a parent. -/
theorem lookups_sound (b : Backend) (channel : Channel) (clock : Clock) (events : List Event) :
    (∀ (s : ChainState) (id : BlockId), s.Readable (0 :: id.toBytes) → s.Reads id) ∧
      ((ofBackend b channel clock).follow events).LooksUpSoundly :=
  ⟨fun _ _ readable => ChainState.reads_of_readable readable,
    (tidy_follow b channel clock events).looksUpSoundly⟩

end Controller

end TimestampChain

namespace TimestampChain.Sample

/-- Over the spoilt record a payload waits to be put on the first block. -/
def waiting : Controller :=
  (Controller.ofBackend spoilt (.ofDepth 1) (.still 20)).follow [
    .call (.propose [2]), .call (.prefer genesis.id), .surround (.ofDepth 1) (.still 20) .never]

end TimestampChain.Sample

namespace TimestampChain.Controller

/-- No look-up takes the spoilt record for a missing block. -/
theorem spoilt_record_reported :
    Sample.waiting.ReportsDamage Sample.genesis.id (.corrupt (.unsupportedVersion 65535)) ∧
      ((parseBlock Sample.genesis.bytes).run Sample.waiting).1 =
        .error (.store (.corrupt (.unsupportedVersion 65535))) ∧
      ((verify Sample.child).run Sample.waiting).1 =
        .error (.store (.corrupt (.unsupportedVersion 65535))) := by
  obtain ⟨-, sound⟩ := lookups_sound Sample.spoilt (.ofDepth 1) (.still 20) [
    .call (.propose [2]), .call (.prefer Sample.genesis.id), .surround (.ofDepth 1) (.still 20) .never]
  have record : Sample.waiting.table.get? (0 :: Sample.genesis.id.toBytes) = some [255, 255, 0] :=
    Table.get?_insert_self ..
  have damaged : ChainState.Damaged Sample.genesis.id [255, 255, 0]
      (.corrupt (.unsupportedVersion 65535)) := .corrupt (by decide +kernel)
  have reports : Sample.waiting.ReportsDamage Sample.genesis.id _ := sound.damage _ _ _ record damaged
  refine ⟨reports, ?_, ?_⟩
  · have decoded : Contents.decode Sample.genesis.bytes = .ok Sample.genesis.contents := by
      rw [Sample.genesis.bytes_eq, Contents.decode_encode]
    exact (reports.parseBlock _ _ decoded Sample.genesis.id_eq.symm).2 rfl fun _ _ _ _ => rfl
  · have absent : Sample.waiting.table.get? (0 :: Sample.child.id.toBytes) = none := by
      decide +kernel
    exact (reports.verify Sample.child rfl absent rfl).2 rfl fun _ _ _ _ => rfl

end TimestampChain.Controller
