import TimestampChain.Proofs.Causality
import TimestampChain.Proofs.Chain.Growth

/-!
# Stops and restarts

A controller that is stopped at any request leaves the entries of before the call or those of
behind it. A new controller over entries with the marker goes on with their chain, whatever data it
is set up with.
-/

namespace TimestampChain.Controller

open TimestampChain.Action

variable {c d : Controller}

/-! ## Stopping at a request -/

/-- The controller that is stopped once it has made a number of requests. No later one is answered. -/
def stoppedAfter (c : Controller) (answered : Nat) : Controller :=
  Asking.under (fun number =>
    if number < c.store.backend.requests + answered then c.store.backend.faults number
    else fun _ => some "stopped") c

theorem run_of_stopped {α : Type} {x : Step α} (causal : x.Causal) (answered : Nat)
    (enough : (x.run (c.stoppedAfter answered)).2.store.backend.requests ≤
      c.store.backend.requests + answered) :
    x.run c = ((x.run (c.stoppedAfter answered)).1,
      Asking.under c.store.backend.faults (x.run (c.stoppedAfter answered)).2) := by
  have same := causal.run_under (c.stoppedAfter answered) c.store.backend.faults
  apply same
  intro number below
  have early : number < c.store.backend.requests + answered := Nat.lt_of_lt_of_le below enough
  exact (if_pos early).symm

theorem Wrote.requests_le {answered : Nat} {batch : Batch}
    (wrote : (c.stoppedAfter answered).Wrote batch d) :
    d.store.backend.requests ≤ c.store.backend.requests + answered := by
  obtain ⟨n, worked, rfl⟩ := wrote
  have worked : (if c.store.backend.requests + n < c.store.backend.requests + answered then
      c.store.backend.faults (c.store.backend.requests + n) else fun _ => some "stopped")
      (.write batch) = none := worked
  by_cases early : c.store.backend.requests + n < c.store.backend.requests + answered
  · exact early
  · rw [if_neg early] at worked
    cases worked

theorem table_of_begun {data : Bytes} (begun : (initGenesis data).run c = (.ok (), d)) :
    (c.afterCall (.bootstrap data)).table = d.table := by
  obtain ⟨n, preferred, behind⟩ := bootstrap_after begun
  rw [afterCall_eq (x := bootstrap data) rfl, behind]
  rfl

/-- Whenever a call is stopped, the entries are those of before the call or those of behind it. -/
theorem table_of_stopped (quiet : c.store.staged = .empty) (call : Call) (answered : Nat) :
    ((c.stoppedAfter answered).afterCall call).table = c.table ∨
      ((c.stoppedAfter answered).afterCall call).table = (c.afterCall call).table := by
  have outcome := afterCall_outcome (c := c.stoppedAfter answered) call quiet
  generalize behind : (c.stoppedAfter answered).afterCall call = d at outcome ⊢
  cases outcome with
  | idle idle => exact Or.inl idle.table_eq
  | @accepted block d _ _ _ wrote done =>
      -- A write that worked was made before the stop, and nothing is asked after it, so the run
      -- that is not stopped takes the same course.
      have enough := wrote.requests_le
      have same := run_of_stopped (c := c) (causal_accept block) answered
        (by rw [done]; exact enough)
      right
      rw [afterCall_eq (x := accept block) rfl, same, done]
      rfl
  | @founded data genesis recorded d n preferred _ _ _ _ =>
      -- The pointer is read once the first block is written, so the two runs are compared up to
      -- the write only.
      rw [← behind]
      rcases initGenesis_cases (c := c.stoppedAfter answered) data quiet with
        ⟨m, e, failed⟩ | ⟨-, m, begun⟩ | ⟨-, genesis, recorded, e, -, -, wrote, begun⟩
      · left
        rw [afterCall_eq (x := bootstrap data) rfl, bootstrap, run_bind_error failed]
        rfl
      · left
        rw [table_of_begun begun]
        rfl
      · have enough := wrote.requests_le
        have same := run_of_stopped (c := c) (causal_initGenesis data) answered
          (by rw [begun]; exact enough)
        rw [begun] at same
        right
        rw [table_of_begun begun, table_of_begun same]
        rfl

/-! ## Going on with a chain -/

/-- The controller goes on with the chain of a table, and has nothing else in view. -/
structure Resumed (t : Table Bytes) (c : Controller) : Prop where
  table : c.table = t
  tip : ∃ last, t.storedChain.getLast? = some last ∧ c.preferred = last.id ∧
    (lastAccepted.run c).1 = .ok last.id
  mempool : c.mempool = .empty
  verified : c.verified = .empty
  known : ∀ block ∈ t.storedChain, block.status = .accepted ∧
    t.get? (Key.block block.id) = some block.bytes ∧ ((getBlock block.id).run c).1 = .ok block
  unknown : ∀ id, id ∉ t.storedChain.map Block.id →
    ((getBlock id).run c).1 = .error (.notFound id)

theorem find_of_member {blocks : List Block} {block : Block} (verified : c.verified = .empty)
    (opened : c.store.closed = false) (quiet : c.store.staged = .empty)
    (holds : HoldsChain c.table blocks) (member : block ∈ blocks) : c.find block.id = .ok block := by
  have status := holds.accepted block member
  have record := holds.records block member
  have same : block.asAccepted = block := Block.ext_of_bytes rfl status.symm
  have unverified : c.verified? block.id = none := by
    rw [verified?, verified]
    rfl
  rw [find_of_recorded unverified opened quiet record, ChainState.decodeRecord_bytes, same]
  rfl

theorem find_of_not_member {blocks : List Block} {id : BlockId} (verified : c.verified = .empty)
    (opened : c.store.closed = false) (quiet : c.store.staged = .empty)
    (holds : HoldsChain c.table blocks) (other : id ∉ blocks.map Block.id) :
    c.find id = .error (.notFound id) := by
  have unverified : c.verified? id = none := by
    rw [verified?, verified]
    rfl
  apply find_of_unrecorded unverified opened quiet
  cases record : c.table.get? (Key.block id) with
  | none => exact record
  | some bytes =>
      obtain ⟨block, member, named, -⟩ := holds.mem_of_record record
      exact absurd (List.mem_map.mpr ⟨block, member, named⟩) other

theorem resumed_of_holdsChain {blocks : List Block} {last : Block} (quiet : c.store.staged = .empty)
    (opened : c.store.closed = false) (never : c.store.backend.faults = .never)
    (holds : HoldsChain c.table blocks) (final : blocks.getLast? = some last)
    (preferred : c.preferred = last.id) (mempool : c.mempool = .empty)
    (verified : c.verified = .empty) : c.Resumed c.table := by
  have chain := holds.storedChain_eq
  have found : ∀ id, ((getBlock id).run c).1 = c.find id := by
    intro id
    obtain ⟨n, done⟩ := run_of_never (getBlock_answers id c) never
    exact congrArg Prod.fst done
  refine ⟨rfl, ⟨last, ?_, preferred, ?_⟩, mempool, verified, ?_, ?_⟩
  · rw [chain]
    exact final
  · obtain ⟨tail, tail_eq, pointer⟩ := holds.pointer
    rw [final] at tail_eq
    cases tail_eq
    have tip := (tip_eq_ok_iff opened quiet).mpr pointer
    obtain ⟨n, done⟩ := run_of_never (lastAccepted_answers c) never
    rw [done, tip]
  · rw [chain]
    intro block member
    refine ⟨holds.accepted block member, holds.records block member, ?_⟩
    rw [found, find_of_member verified opened quiet holds member]
  · rw [chain]
    intro id other
    rw [found, find_of_not_member verified opened quiet holds other]

/-- A new controller over a chain goes on with it, whatever the data. -/
theorem bootstrap_resumes {b : Backend} {blocks : List Block} (holds : HoldsChain b.table blocks)
    (never : b.faults = .never) (channel : Channel) (clock : Clock) (data : Bytes) :
    ((bootstrap data).run (ofBackend b channel clock)).1 = .ok () ∧
      Resumed b.table ((bootstrap data).run (ofBackend b channel clock)).2 := by
  obtain ⟨last, final, pointer⟩ := holds.pointer
  have marked : (ofBackend b channel clock).store.marked = .ok true := by
    refine ChainState.marked_eq_ok_iff.mpr ⟨_, ChainState.lookup_of_open rfl rfl _, ?_⟩
    show (b.table.get? Key.initialized).isSome = true
    rw [holds.marker]
    rfl
  have tip : (ofBackend b channel clock).tip = .ok last.id := (tip_eq_ok_iff rfl rfl).mpr pointer
  obtain ⟨n, done⟩ := run_of_never (bootstrap_of_marked data marked tip) never
  rw [done]
  refine ⟨rfl, ?_⟩
  exact resumed_of_holdsChain (c := ((ofBackend b channel clock).counting n).preferring last.id)
    rfl rfl never holds final rfl rfl rfl

/-- When a call is stopped after any number of requests, the entries are those of before the call or
those of behind it, for a call writes at most one batch. If the marker is among them, a new
controller over them goes on with their chain, whatever data it is set up with, and the blocks
stored before the call are in it. -/
theorem resumes_after_stop (reached : c.Reached) (call : Call) (ordered : c.InOrder (.call call))
    (answered : Nat) :
    (((c.stoppedAfter answered).afterCall call).table = c.table ∨
        ((c.stoppedAfter answered).afterCall call).table = (c.afterCall call).table) ∧
      (c.afterCall call).store.backend.writes ≤ c.store.backend.writes + 1 ∧
      ∀ durable : Backend, durable.faults = .never →
        durable.table = ((c.stoppedAfter answered).afterCall call).table →
        (durable.table.get? Key.initialized).isSome →
        c.table.storedChain <+: durable.table.storedChain ∧
          ∀ (channel : Channel) (clock : Clock) (data : Bytes),
            ((bootstrap data).run (ofBackend durable channel clock)).1 = .ok () ∧
              Resumed durable.table ((bootstrap data).run (ofBackend durable channel clock)).2 := by
  have settled := reached.settled
  have cut := table_of_stopped settled.tidy.quiet call answered
  have outcome := afterCall_outcome call settled.tidy.quiet
  have behind := settled.afterEvent ordered
  refine ⟨cut, outcome.writes_le, ?_⟩
  intro durable never table marker
  have sound : durable.table.Sound := by
    rw [table]
    rcases cut with same | same
    · rw [same]
      exact settled.sound
    · rw [same]
      exact behind.sound
  have grown : c.table.storedChain <+: durable.table.storedChain := by
    rw [table]
    rcases cut with same | same
    · exact same ▸ List.prefix_refl _
    · rw [same]
      exact settled.storedChain_prefix ordered
  refine ⟨grown, fun channel clock data => ?_⟩
  exact bootstrap_resumes (sound.holdsChain marker) never channel clock data

end TimestampChain.Controller

namespace TimestampChain.Sample

/-- What is left of a run that is stopped while the first child is accepted, before the write. -/
def durable : Backend :=
  .ofTable (((start.follow (events.take 4)).stoppedAfter 5).afterCall (.accept child)).table

end TimestampChain.Sample

namespace TimestampChain.Controller

theorem resumed_durable :
    Resumed Sample.durable.table ((bootstrap (List.replicate 40 9)).run
      (ofBackend Sample.durable (.ofDepth 1) (.still 30))).2 := by
  have orderly : Sample.start.Orderly (Sample.events.take 4 ++ Sample.events.drop 4) := by
    rw [List.take_append_drop]
    exact Sample.orderly
  obtain ⟨before, later⟩ := orderly_append.mp orderly
  have reached := Sample.reached _ before
  have marker : (Sample.durable.table.get? Key.initialized).isSome := by decide +kernel
  have table : Sample.durable.table = (((Sample.start.follow (Sample.events.take 4)).stoppedAfter
      5).afterCall (.accept Sample.child)).table := by
    simp only [Sample.durable, Backend.ofTable]
  obtain ⟨-, -, resumes⟩ := resumes_after_stop reached (.accept Sample.child) later.1 5
  obtain ⟨-, resumed⟩ := resumes Sample.durable rfl table marker
  exact (resumed (.ofDepth 1) (.still 30) (List.replicate 40 9)).2

end TimestampChain.Controller
