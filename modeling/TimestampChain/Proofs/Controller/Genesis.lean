import TimestampChain.Proofs.Controller.Acceptance
import TimestampChain.Proofs.Store.Records

/-!
# Setting the chain up

The first block is written together with the marker, unless the marker is there. Then the chain
that is stored is gone on with, whatever the data.
-/

namespace TimestampChain

namespace ChainState

/-- The state with a block staged, unless its record is there already. -/
def placing (s : ChainState) (block : Block) (recorded : Bool) : ChainState :=
  if recorded then s else s.staging (Key.block block.id) block.bytes

theorem putBlock_of_placed {s : ChainState} {block : Block} {recorded : Bool}
    (opened : s.closed = false)
    (record : s.lookup (Key.block block.id) = .ok (if recorded then some block.bytes else none)) :
    (putBlock block).Does s (.ok ()) fun s => s.placing block recorded := by
  cases recorded with
  | true => exact putBlock_of_same record
  | false => exact putBlock_of_absent opened record

/-- The record under a block's name is missing, is that of the block, or is something else. -/
theorem record_cases {s : ChainState} (opened : s.closed = false) (quiet : s.staged = .empty)
    (block : Block) :
    (∃ recorded : Bool,
      s.lookup (Key.block block.id) = .ok (if recorded then some block.bytes else none)) ∨
      ∃ bytes, s.lookup (Key.block block.id) = .ok (some bytes) ∧ bytes ≠ block.bytes := by
  have record := lookup_of_open opened quiet (Key.block block.id)
  cases found : s.backend.table.get? (Key.block block.id) with
  | none => exact Or.inl ⟨false, by rw [record, found]; rfl⟩
  | some bytes =>
      rw [found] at record
      by_cases same : bytes = block.bytes
      · exact Or.inl ⟨true, by rw [record, same]; rfl⟩
      · exact Or.inr ⟨bytes, record, same⟩

end ChainState

namespace Controller

open TimestampChain.Action

/-! ## Staging the first block -/

section

variable {c : Controller} {genesis : Block} {recorded : Bool}

theorem admission_of_unmarked (unmarked : c.store.marked = .ok false) (block : Block) :
    c.admission block = .ok () := by
  rw [admission, unmarked]
  rfl

theorem commitGenesis_of_unmarked (status : genesis.status = .processing)
    (quiet : c.store.staged = .empty) (unmarked : c.store.marked = .ok false)
    (record : c.store.lookup (Key.block genesis.id) =
      .ok (if recorded then some genesis.bytes else none)) :
    Writes (commitGenesis genesis) c (.ofFirst genesis recorded) (.ok ()) id := by
  have opened := ChainState.open_of_lookup record
  have staged : (stageAccept genesis).Does c (.ok true)
      (stagingLast (fun s => s.placing genesis recorded) genesis) := by
    refine stageAccept_does status (admission_of_unmarked unmarked genesis)
      (fun n => ChainState.putBlock_of_placed (s := c.store.counting n) opened record) fun n => ?_
    cases recorded <;> exact opened
  have marked : (stageAccept genesis >>= fun _ => onStore ChainState.setInitialized).Does c (.ok ())
      fun d => d.withStaged (((c.store.placing genesis recorded).staging Key.lastAccepted
        genesis.id.toBytes).staging Key.initialized initializedMarker).staged := by
    refine staged.then_run fun n => ?_
    have last := run_onStore (c := stagingLast (fun s => s.placing genesis recorded) genesis
      (c.counting n)) (ChainState.run_setInitialized (by cases recorded <;> exact opened))
    refine last.trans ?_
    cases recorded <;> rfl
  have drained : (((c.store.placing genesis recorded).staging Key.lastAccepted
      genesis.id.toBytes).staging Key.initialized initializedMarker).staged.drain.1 =
      .ofFirst genesis recorded := by
    cases recorded with
    | true =>
        show ((c.store.staged.set _ _).set _ _).drain.1 = _
        rw [quiet, WriteBuffer.drain_recorded]
    | false =>
        show (((c.store.staged.set _ _).set _ _).set _ _).drain.1 = _
        rw [quiet, WriteBuffer.drain_first]
  have program : commitGenesis genesis = (stageAccept genesis >>= fun _ =>
      onStore ChainState.setInitialized) >>= fun _ => onStore ChainState.commit :=
    (Action.bind_assoc _ _ _).symm
  rw [program]
  exact Writes.of_staged (a := ()) quiet opened drained (by simp [Batch.ofFirst]) marked
    bind_pure_unit.symm

theorem commitGenesis_of_conflict {bytes : Bytes} (status : genesis.status = .processing)
    (unmarked : c.store.marked = .ok false)
    (record : c.store.lookup (Key.block genesis.id) = .ok (some bytes))
    (different : bytes ≠ genesis.bytes) :
    (commitGenesis genesis).Answers c (.error (.ofStore (.integrity genesis.id))) := by
  have unplaced : (stageAccept genesis).Answers c (.error (.ofStore (.integrity genesis.id))) :=
    stageAccept_of_unplaced status (admission_of_unmarked unmarked genesis)
      fun n => ChainState.putBlock_of_other (s := c.store.counting n) record different
  exact unplaced.bind_error

end

/-! ## Storing the first block -/

section

variable {c : Controller} {data : Bytes} {genesis : Block} {recorded : Bool}

theorem initGenesis_of_unread {cause : StoreError} (unread : c.store.marked = .error cause) :
    (initGenesis data).Answers c (.error (.ofStore cause)) := by
  have answer := isInitialized_answers unread
  exact Answers.bind_error answer

theorem initGenesis_of_marked (data : Bytes) (marked : c.store.marked = .ok true) :
    (initGenesis data).Answers c (.ok ()) := by
  have answer := isInitialized_answers marked
  exact Answers.bind_does answer fun n => answers_pure () _

theorem initGenesis_of_long (unmarked : c.store.marked = .ok false)
    (long : data.length > Payload.size) :
    (initGenesis data).Answers c (.error (.badGenesisData data.length Payload.size)) := by
  have answer := isInitialized_answers unmarked
  refine Answers.bind_does answer fun n => ?_
  rw [if_neg Bool.false_ne_true, if_pos long]
  exact answers_fail _ _

theorem run_initGenesis_of_committed {d d' : Controller}
    (asked : (onStore ChainState.isInitialized).run c = (.ok false, d))
    (made : Block.genesis data = .ok genesis)
    (committed : (commitGenesis genesis).run d = (.ok (), d')) :
    (initGenesis data).run c = (.ok (), d'.adopting genesis.id) := by
  obtain ⟨short, -⟩ := Block.genesis_eq_ok made
  have status := Block.status_of_genesis made
  have converted : (Block.genesis data).mapError ControllerError.ofBlock = .ok genesis := by
    rw [made]
    rfl
  have finished := Decision.run_finishAccept status d'
  have last : (Decision.deciding genesis Decision.finishAccept).run d' =
      (.ok genesis.asAccepted, d'.adopting genesis.id) := by
    rw [Decision.run_deciding, finished]
    rfl
  rw [initGenesis, run_bind_ok asked, if_neg Bool.false_ne_true, if_neg (by omega), converted]
  rw [run_bind_ok (run_ofExcept _ _), run_bind_ok (run_attempt _ _), committed]
  exact run_bind_ok last

theorem run_initGenesis_of_refused {d d' : Controller} {e : ControllerError}
    (asked : (onStore ChainState.isInitialized).run c = (.ok false, d))
    (made : Block.genesis data = .ok genesis)
    (refused : (commitGenesis genesis).run d = (.error e, d')) :
    (initGenesis data).run c = (.error e, d'.withStaged .empty) := by
  obtain ⟨short, -⟩ := Block.genesis_eq_ok made
  have converted : (Block.genesis data).mapError ControllerError.ofBlock = .ok genesis := by
    rw [made]
    rfl
  rw [initGenesis, run_bind_ok asked, if_neg Bool.false_ne_true, if_neg (by omega), converted]
  rw [run_bind_ok (run_ofExcept _ _), run_bind_ok (run_attempt _ _), refused]
  exact run_abandon e d'

theorem initGenesis_of_conflict {bytes : Bytes} (quiet : c.store.staged = .empty)
    (unmarked : c.store.marked = .ok false) (made : Block.genesis data = .ok genesis)
    (record : c.store.lookup (Key.block genesis.id) = .ok (some bytes))
    (different : bytes ≠ genesis.bytes) :
    (initGenesis data).Answers c (.error (.ofStore (.integrity genesis.id))) := by
  have status := Block.status_of_genesis made
  have answer := isInitialized_answers unmarked
  obtain ⟨m, asked | ⟨e, fails, stopped⟩⟩ := answer
  · obtain ⟨n, refused | ⟨e, fails, refused⟩⟩ :=
      commitGenesis_of_conflict (c := c.counting m) status unmarked record different
    · refine ⟨m + n, Or.inl ?_⟩
      rw [run_initGenesis_of_refused asked made refused]
      exact congrArg (Prod.mk _) (withStaged_counting quiet m n)
    · refine ⟨m + n, Or.inr ⟨e, Counted.later fails, ?_⟩⟩
      rw [run_initGenesis_of_refused asked made refused]
      exact congrArg (Prod.mk _) (withStaged_counting quiet m n)
  · exact ⟨m, Or.inr ⟨e, fails, run_bind_error stopped⟩⟩

theorem initGenesis_of_unmarked (quiet : c.store.staged = .empty)
    (unmarked : c.store.marked = .ok false) (made : Block.genesis data = .ok genesis)
    (record : c.store.lookup (Key.block genesis.id) =
      .ok (if recorded then some genesis.bytes else none)) :
    Writes (initGenesis data) c (.ofFirst genesis recorded) (.ok ()) fun c =>
      c.adopting genesis.id := by
  have status := Block.status_of_genesis made
  have answer := isInitialized_answers unmarked
  obtain ⟨m, asked | ⟨e, fails, stopped⟩⟩ := answer
  · obtain ⟨d, wrote, committed⟩ | ⟨n, e, fails, refused⟩ :=
      commitGenesis_of_unmarked (c := c.counting m) status quiet unmarked record
    · exact Or.inl ⟨d, wrote.of_counting, run_initGenesis_of_committed asked made committed⟩
    · refine Or.inr ⟨m + n, e, Counted.later fails, ?_⟩
      rw [run_initGenesis_of_refused asked made refused]
      exact congrArg (Prod.mk _) (withStaged_counting quiet m n)
  · exact Or.inr ⟨m, e, fails, run_bind_error stopped⟩

/-- What storing the first block can come to. -/
theorem initGenesis_cases (data : Bytes) (quiet : c.store.staged = .empty) :
    (∃ n e, (initGenesis data).run c = (.error e, c.counting n)) ∨
      c.store.marked = .ok true ∧ (∃ n, (initGenesis data).run c = (.ok (), c.counting n)) ∨
      c.store.marked = .ok false ∧ ∃ genesis recorded d, Block.genesis data = .ok genesis ∧
        c.store.lookup (Key.block genesis.id) =
          .ok (if recorded = true then some genesis.bytes else none) ∧
        c.Wrote (.ofFirst genesis recorded) d ∧
        (initGenesis data).run c = (.ok (), d.adopting genesis.id) := by
  cases marked : c.store.marked with
  | error cause => exact Or.inl (initGenesis_of_unread marked).refused
  | ok found =>
      cases found with
      | true =>
          obtain failed | done := (initGenesis_of_marked data marked).cases
          · exact Or.inl failed
          · exact Or.inr (Or.inl ⟨rfl, done⟩)
      | false =>
          by_cases short : data.length ≤ Payload.size
          · obtain ⟨payload, made⟩ := Block.genesis_of_short short
            have opened := ChainState.open_of_marked marked
            obtain ⟨recorded, record⟩ | ⟨bytes, record, different⟩ :=
              ChainState.record_cases opened quiet (Block.create BlockId.none 0 payload 0)
            · obtain ⟨d, wrote, done⟩ | ⟨n, e, _, done⟩ :=
                initGenesis_of_unmarked quiet marked made record
              · exact Or.inr (Or.inr ⟨rfl, _, recorded, d, made, record, wrote, done⟩)
              · exact Or.inl ⟨n, e, done⟩
            · exact Or.inl (initGenesis_of_conflict quiet marked made record different).refused
          · exact Or.inl (initGenesis_of_long marked (by omega)).refused

end

/-! ## Going on with the chain -/

def preferring (c : Controller) (id : BlockId) : Controller := { c with preferred := id }

section

variable {c : Controller} {data : Bytes}

theorem bootstrap_of_marked {last : BlockId} (data : Bytes) (marked : c.store.marked = .ok true)
    (tip : c.tip = .ok last) :
    (bootstrap data).Does c (.ok ()) fun c => c.preferring last := by
  refine Answers.bind_does (initGenesis_of_marked data marked) fun n => ?_
  have answer := lastAccepted_answers (c.counting n)
  have tip : (c.counting n).tip = .ok last := tip
  rw [tip] at answer
  exact answer.then_run fun _ => rfl

/-- What setting the chain up leaves behind once the first block is there. -/
theorem bootstrap_after {d : Controller} (begun : (initGenesis data).run c = (.ok (), d)) :
    ∃ n preferred, ((bootstrap data).run c).2 = (d.counting n).preferring preferred := by
  rw [bootstrap, run_bind_ok begun]
  obtain ⟨n, e, stopped⟩ | ⟨n, done⟩ := (lastAccepted_answers d).cases
  · rw [run_bind_error stopped]
    exact ⟨n, d.preferred, rfl⟩
  · cases tip : d.tip with
    | error e =>
        rw [tip] at done
        rw [run_bind_error done]
        exact ⟨n, d.preferred, rfl⟩
    | ok last =>
        rw [tip] at done
        rw [run_bind_ok done]
        exact ⟨n, last, rfl⟩

/-- What setting the chain up can come to. -/
theorem bootstrap_cases (data : Bytes) (quiet : c.store.staged = .empty) :
    (∃ n preferred, ((bootstrap data).run c).2 = (c.counting n).preferring preferred) ∨
      c.store.marked = .ok false ∧ ∃ genesis recorded d, Block.genesis data = .ok genesis ∧
        c.store.lookup (Key.block genesis.id) =
          .ok (if recorded = true then some genesis.bytes else none) ∧
        c.Wrote (.ofFirst genesis recorded) d ∧
        ∃ n preferred, ((bootstrap data).run c).2 =
          ((d.adopting genesis.id).counting n).preferring preferred := by
  obtain ⟨n, e, failed⟩ | ⟨-, n, begun⟩ | ⟨unmarked, genesis, recorded, d, made, record, wrote, begun⟩ :=
    initGenesis_cases data quiet
  · refine Or.inl ⟨n, c.preferred, ?_⟩
    rw [bootstrap, run_bind_error failed]
    rfl
  · obtain ⟨m, preferred, done⟩ := bootstrap_after begun
    rw [counting_counting] at done
    exact Or.inl ⟨n + m, preferred, done⟩
  · exact Or.inr ⟨unmarked, genesis, recorded, d, made, record, wrote, bootstrap_after begun⟩

end

end Controller

end TimestampChain
