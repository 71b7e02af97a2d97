import Mathlib.Control.Monad.Basic
import TimestampChain.Proofs.Chain.AnyOrder

/-!
# Records that are not the block's

A record is kept under the identifier of its block, but a backend may have been given anything. Staging a
block compares what is there with the block. Accepting one only looks whether anything is there, so a
record that is something else passes for the block, which then cannot be read back.
-/

namespace TimestampChain

open TimestampChain.Action

namespace ChainState

def mended (s : ChainState) : ChainState := { s with backend := { s.backend with faults := .never } }

def readBack (s : ChainState) (id : BlockId) : Except StoreError Block :=
  ((getBlock id).run s.mended).1

theorem readBack_eq {s : ChainState} (opened : s.closed = false) (quiet : s.staged = .empty)
    (id : BlockId) :
    s.readBack id =
      match s.backend.table.get? (Key.block id) with
      | none => .error (.notFound id)
      | some bytes => decodeRecord id bytes := by
  have looked : s.mended.lookup (Key.block id) = .ok (s.backend.table.get? (Key.block id)) :=
    lookup_of_open (s := s.mended) opened quiet _
  unfold readBack
  obtain ⟨n, done | ⟨_, ⟨text, fails, rfl⟩, -⟩⟩ := getBlock_answers id s.mended
  · rw [done, record, looked]
    rfl
  · exact absurd fails (Backend.not_failsWithin_of_never rfl n text)

end ChainState

/-- The record under the block's identifier is not the block's. -/
def Table.Conflicts (t : Table Bytes) (block : Block) : Prop :=
  ∃ bytes, t.get? (Key.block block.id) = some bytes ∧ bytes ≠ block.bytes

namespace Controller

variable {c d : Controller} {block decided : Block}

def withTable (c : Controller) (t : Table Bytes) : Controller :=
  { c with store := { c.store with backend := { c.store.backend with table := t } } }

/-- The controller stands between two calls, over a backend with any entries, which may have been replaced
by any others at any time. -/
inductive Between : Controller → Prop
  | start (b : Backend) (channel : Channel) (clock : Clock) : Between (ofBackend b channel clock)
  | event {c : Controller} (before : Between c) (event : Event) : Between (c.afterEvent event)
  | replaced {c : Controller} (before : Between c) (t : Table Bytes) : Between (c.withTable t)

theorem Wrote.staged_eq {batch : Batch} (wrote : c.Wrote batch d) : d.store.staged = c.store.staged := by
  obtain ⟨n, store⟩ := wrote.store_eq
  rw [store]

theorem quiet_of_outcome {call : Call} (quiet : c.store.staged = .empty) (outcome : c.Outcome call d) :
    d.store.staged = .empty := by
  cases outcome with
  | idle idle =>
      cases idle with
      | kept store _ =>
          rw [store]
          exact quiet
      | remembered _ => exact quiet
      | closed _ => exact quiet
  | accepted _ _ _ wrote _ => exact wrote.staged_eq.trans quiet
  | founded _ _ _ wrote => exact wrote.staged_eq.trans quiet

theorem Between.quiet (between : c.Between) : c.store.staged = .empty := by
  induction between with
  | start b channel clock => rfl
  | @event c _ event quiet =>
      cases event with
      | call call => exact quiet_of_outcome quiet (afterCall_outcome call quiet)
      | restart channel clock => rfl
      | surround channel clock faults => exact quiet
  | replaced _ t quiet => exact quiet

/-! ## What is read back -/

theorem readBack_of_bytes {bytes : Bytes} (opened : d.store.closed = false)
    (quiet : d.store.staged = .empty) (record : d.table.get? (Key.block block.id) = some bytes) :
    d.store.readBack block.id = .ok block.asAccepted ↔ bytes = block.bytes := by
  have record : d.store.backend.table.get? (Key.block block.id) = some bytes := record
  rw [ChainState.readBack_eq opened quiet, record]
  constructor
  · intro read
    exact (ChainState.decodeRecord_eq_ok read).2.1.symm
  · rintro rfl
    exact ChainState.decodeRecord_bytes block

theorem conflicts_iff_of_record {t : Table Bytes} {bytes : Bytes}
    (record : t.get? (Key.block block.id) = some bytes) :
    t.Conflicts block ↔ bytes ≠ block.bytes := by
  constructor
  · rintro ⟨other, there, different⟩
    rw [record] at there
    cases there
    exact different
  · exact fun different => ⟨bytes, record, different⟩

theorem accept_of_conflict (status : block.status = .processing) (quiet : c.store.staged = .empty)
    (opened : c.store.closed = false) (conflicts : c.table.Conflicts block) :
    (accept block).Does c (.ok block.asAccepted) (fun d => d.forgetting block.id) ∧
      (onStore (ChainState.putBlock block)).Answers c (.error (.store (.integrity block.id))) := by
  obtain ⟨bytes, record, different⟩ := conflicts
  have looked := ChainState.lookup_of_open opened quiet (Key.block block.id)
  have found : c.store.lookup (Key.block block.id) = .ok (some bytes) := looked.trans (congrArg _ record)
  constructor
  · exact accept_of_stored status (ChainState.holds_eq_ok_iff.mpr ⟨_, found, rfl⟩)
  · exact onStore_answers (ChainState.putBlock_of_other found different)

/-- An undecided block that is accepted can be read back afterwards unless a record under its identifier
conflicts with it. Over such a record it is accepted all the same, where staging it is refused. -/
theorem accept_readable_iff_no_conflict (between : c.Between) (status : block.status = .processing) :
    (∀ decided d, (accept block).run c = (.ok decided, d) →
      decided = block.asAccepted ∧
        (d.store.readBack block.id = .ok block.asAccepted ↔ ¬ c.table.Conflicts block)) ∧
    (c.store.closed = false → c.table.Conflicts block →
      (accept block).Does c (.ok block.asAccepted) (fun d => d.forgetting block.id) ∧
        (onStore (ChainState.putBlock block)).Answers c
          (.error (.store (.integrity block.id)))) := by
  have quiet := between.quiet
  refine ⟨fun decided d done => ?_, fun opened => accept_of_conflict status quiet opened⟩
  rcases accept_cases block quiet with ⟨n, e, failed⟩ | ⟨accepted, -⟩ | ⟨-, holds, n, run⟩ |
    ⟨-, unstored, -, d', wrote, run⟩
  · cases failed.symm.trans done
  · rw [status] at accepted
    cases accepted
  · cases run.symm.trans done
    obtain ⟨value, looked, there⟩ := ChainState.holds_eq_ok_iff.mp holds
    have opened := ChainState.open_of_lookup looked
    obtain ⟨bytes, rfl⟩ := Option.isSome_iff_exists.mp there
    rw [ChainState.lookup_of_open opened quiet] at looked
    have record : c.table.get? (Key.block block.id) = some bytes := Except.ok.inj looked
    have kept : ((c.counting n).forgetting block.id).table.get? (Key.block block.id) = some bytes :=
      record
    refine ⟨rfl, ?_⟩
    rw [conflicts_iff_of_record record, not_not]
    exact readBack_of_bytes (d := (c.counting n).forgetting block.id) opened quiet kept
  · cases run.symm.trans done
    have absent := ChainState.absent_of_unstored unstored
    have opened := ChainState.open_of_lookup (ChainState.lookup_of_unstored unstored)
    have table := table_of_accepted wrote
    have record : (d'.adopting block.id).table.get? (Key.block block.id) = some block.bytes := by
      have kept : (d'.adopting block.id).table = d'.table := rfl
      rw [kept, table, Table.record_accepting, if_pos rfl]
    have opened' : (d'.adopting block.id).store.closed = false := by
      obtain ⟨k, -, rfl⟩ := wrote
      exact opened
    refine ⟨rfl, iff_of_true ?_ ?_⟩
    · exact (readBack_of_bytes opened' (wrote.staged_eq.trans quiet) record).mpr rfl
    · rintro ⟨bytes, there, -⟩
      cases absent.symm.trans there

end Controller

end TimestampChain

namespace TimestampChain.Sample

def tampered : Controller :=
  let c := unset.afterCall (.bootstrap [1])
  c.withTable (c.table.insert (Key.block child.id) sibling.bytes)

theorem between_tampered : tampered.Between :=
  .replaced (.event (.start (.ofTable .empty) (.ofDepth 1) (.still 1000)) (.call (.bootstrap [1]))) _

theorem tampered_facts :
    tampered.table.get? (Key.block child.id) = some sibling.bytes ∧ sibling.bytes ≠ child.bytes ∧
      ((Controller.accept child).run tampered).1 = .ok child.asAccepted ∧
      ((Controller.accept child).run tampered).2.store.readBack child.id = .error (.integrity child.id) ∧
      ((Controller.onStore (ChainState.putBlock child)).run tampered).1 =
        .error (.store (.integrity child.id)) := by
  decide +kernel

end TimestampChain.Sample

namespace TimestampChain.Controller

open TimestampChain.Action

theorem tampered_unreadable :
    Sample.tampered.Between ∧ Sample.child.status = .processing ∧
      ∃ d, (accept Sample.child).run Sample.tampered = (.ok Sample.child.asAccepted, d) ∧
        d.store.readBack Sample.child.id ≠ .ok Sample.child.asAccepted := by
  obtain ⟨record, different, accepted, -⟩ := Sample.tampered_facts
  have done := run_eq accepted
  obtain ⟨readable, -⟩ := accept_readable_iff_no_conflict Sample.between_tampered
    (rfl : Sample.child.status = .processing)
  refine ⟨Sample.between_tampered, rfl, _, done, fun read => ?_⟩
  exact (readable _ _ done).2.mp read ⟨_, record, different⟩

/-- A block is accepted over the record of another one, and no look for it finds it. -/
theorem tampered_accepted_over_conflict :
    Sample.tampered.Between ∧ Sample.child.status = .processing ∧
      ((accept Sample.child).run Sample.tampered).1 = .ok Sample.child.asAccepted ∧
      ((accept Sample.child).run Sample.tampered).2.store.readBack Sample.child.id =
        .error (.integrity Sample.child.id) ∧
      ((onStore (ChainState.putBlock Sample.child)).run Sample.tampered).1 =
        .error (.store (.integrity Sample.child.id)) := by
  obtain ⟨-, -, accepted, unread, refused⟩ := Sample.tampered_facts
  exact ⟨Sample.between_tampered, rfl, accepted, unread, refused⟩

end TimestampChain.Controller
