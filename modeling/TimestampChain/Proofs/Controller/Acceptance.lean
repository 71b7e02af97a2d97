import TimestampChain.Proofs.Controller.Commit
import TimestampChain.Proofs.Store.Batches

/-!
# Accepting a block

What becomes of a block instance that is to be accepted is decided by looking things up. Only a
fresh one is written, in a single batch, and what is in memory follows the batch. A controller
between two calls has nothing staged, so whatever fails leaves it as it was.
-/

namespace TimestampChain

namespace Block

theorem checkTransition_of_processing {block : Block} (target : Status)
    (status : block.status = .processing) (decided : target ≠ .processing) :
    block.checkTransition target = .ok true := by
  rw [checkTransition, status, if_neg (Ne.symm decided), if_pos rfl]

theorem checkTransition_self {block : Block} {target : Status} (status : block.status = target) :
    block.checkTransition target = .ok false := by
  rw [checkTransition, if_pos status]

theorem checkTransition_of_other {block : Block} {source target : Status}
    (status : block.status = source) (decided : source ≠ .processing)
    (different : source ≠ target) :
    block.checkTransition target = .error (.invalidTransition source target) := by
  rw [checkTransition, status, if_neg different, if_neg decided]

end Block

namespace Controller

open TimestampChain.Action

/-! ## Staging -/

/-- Whether a block may be staged. The chain is looked at only once it has been set up. -/
def admission (c : Controller) (block : Block) : Except ControllerError Unit := do
  let marked ← c.store.marked.mapError .ofStore
  if marked then c.extension block else return ()

def checkAdmission (block : Block) : Step Unit := do
  let marked ← onStore ChainState.isInitialized
  if marked then checkExtension block else return ()

def stageLast (block : Block) : Step Bool := do
  onStore (ChainState.putBlock block)
  onStore (ChainState.setLastAccepted block.id)
  return true

def stagingLast (change : ChainState → ChainState) (block : Block) (c : Controller) : Controller :=
  { c with store := (change c.store).staging Key.lastAccepted block.id.toBytes }

theorem stageAccept_eq {block : Block} (status : block.status = .processing) :
    stageAccept block = checkAdmission block >>= fun _ => stageLast block := by
  have changed : (ofExcept ((block.checkTransition .accepted).mapError .ofBlock) : Step Bool) =
      pure true := by
    rw [Block.checkTransition_of_processing .accepted status (by decide)]
    rfl
  rw [stageAccept, changed, pure_bind, if_pos rfl, checkAdmission, bind_assoc]
  congr 1
  funext marked
  cases marked <;> rfl

theorem checkAdmission_answers (block : Block) (c : Controller) :
    (checkAdmission block).Answers c (c.admission block) := by
  refine (onStore_answers (ChainState.isInitialized_answers _)).bind fun marked n _ => ?_
  cases marked with
  | false => exact answers_pure () _
  | true => exact checkExtension_answers block _

theorem stageLast_does {c : Controller} {block : Block} {change : ChainState → ChainState}
    (put : (ChainState.putBlock block).Does c.store (.ok ()) change)
    (opened : ∀ n, (change (c.store.counting n)).closed = false) :
    (stageLast block).Does c (.ok true) (stagingLast change block) := by
  have stored : (onStore (ChainState.putBlock block)).Does c (.ok ())
      fun c => { c with store := change c.store } := onStore_does put
  refine stored.then_run fun n => ?_
  have last := run_onStore (c := { c.counting n with store := change (c.store.counting n) })
    (ChainState.run_setLastAccepted (opened n) block.id)
  exact run_bind_ok last

theorem stageAccept_does {c : Controller} {block : Block} {change : ChainState → ChainState}
    (status : block.status = .processing) (admitted : c.admission block = .ok ())
    (put : ∀ n, (ChainState.putBlock block).Does (c.store.counting n) (.ok ()) change)
    (opened : ∀ n, (change (c.store.counting n)).closed = false) :
    (stageAccept block).Does c (.ok true) (stagingLast change block) := by
  rw [stageAccept_eq status]
  refine Answers.bind_does (admitted ▸ checkAdmission_answers block c) fun n => ?_
  refine stageLast_does (put n) fun m => ?_
  show (change ((c.store.counting n).counting m)).closed = false
  rw [ChainState.counting_counting]
  exact opened (n + m)

theorem stageAccept_of_unadmitted {c : Controller} {block : Block} {e : ControllerError}
    (status : block.status = .processing) (refused : c.admission block = .error e) :
    (stageAccept block).Answers c (.error e) := by
  rw [stageAccept_eq status]
  exact Answers.bind_error (refused ▸ checkAdmission_answers block c)

theorem stageAccept_of_unplaced {c : Controller} {block : Block} {e : StoreError}
    (status : block.status = .processing) (admitted : c.admission block = .ok ())
    (put : ∀ n, (ChainState.putBlock block).Answers (c.store.counting n) (.error e)) :
    (stageAccept block).Answers c (.error (.ofStore e)) := by
  rw [stageAccept_eq status]
  refine Answers.bind_does (admitted ▸ checkAdmission_answers block c) fun n => ?_
  have unplaced := onStore_answers (c := c.counting n) (put n)
  exact Answers.bind_error unplaced

/-! ## Committing -/

theorem commitAccept_of_refused {c : Controller} {block : Block} {e : ControllerError}
    (refused : (stageAccept block).Answers c (.error e)) :
    (commitAccept block).Answers c (.error e) :=
  refused.bind_error

theorem commitAccept_of_admitted {c : Controller} {block : Block}
    (status : block.status = .processing) (quiet : c.store.staged = .empty)
    (admitted : c.admission block = .ok ())
    (absent : c.store.lookup (Key.block block.id) = .ok none) :
    Writes (commitAccept block) c (.ofAccepted block) (.ok true) id := by
  have opened := ChainState.open_of_lookup absent
  have drained : ((c.store.staged.set (Key.block block.id) block.bytes).set Key.lastAccepted
      block.id.toBytes).drain.1 = .ofAccepted block := by
    rw [quiet, WriteBuffer.drain_accepted]
  refine Writes.of_staged (a := true) quiet opened drained (by simp [Batch.ofAccepted]) ?_ rfl
  exact stageAccept_does status admitted
    (fun n => ChainState.putBlock_of_absent (s := c.store.counting n) opened absent)
    (fun _ => opened)

end Controller

/-! ## Deciding -/

def Controller.adopting (c : Controller) (id : BlockId) : Controller :=
  { c with preferred := id, verified := c.verified.erase id.toBytes }

def Controller.forgetting (c : Controller) (id : BlockId) : Controller :=
  { c with verified := c.verified.erase id.toBytes }

namespace Decision

open TimestampChain.Action

theorem run_onController {α : Type} (x : Controller.Step α) (d : Decision) :
    (onController x).run d = ((x.run d.controller).1, { d with controller := (x.run d.controller).2 }) := by
  rw [onController, run_within]
  rcases x.run d.controller with ⟨_ | _, _⟩ <;> rfl

theorem run_transition {block : Block} (target : Status) (status : block.status = .processing)
    (decided : target ≠ .processing) (c : Controller) :
    (transition target).run ⟨block, c⟩ = (.ok true, ⟨block.withStatus target, c⟩) := by
  have changed := Block.checkTransition_of_processing target status decided
  have moved : (Block.transition target).run block = (.ok true, block.withStatus target) := by
    unfold Block.transition
    rw [run_bind_ok (run_state block), changed]
    rfl
  rw [transition, run_within, moved]
  rfl

theorem run_finishAccept {block : Block} (status : block.status = .processing) (c : Controller) :
    finishAccept.run ⟨block, c⟩ = (.ok (), ⟨block.asAccepted, c.adopting block.id⟩) := by
  have moved := run_transition .accepted status (by decide) c
  rw [finishAccept, run_bind_ok moved]
  rfl

theorem run_isStoredElsewhere {block : Block} (status : block.status = .processing)
    {c d : Controller} {r : Except ControllerError Bool}
    (asked : (Controller.onStore (ChainState.hasBlock block.id)).run c = (r, d)) :
    isStoredElsewhere.run ⟨block, c⟩ = (r, ⟨block, d⟩) := by
  unfold isStoredElsewhere
  rw [run_bind_ok (run_state _), if_pos status, run_onController, asked]

theorem run_isStoredElsewhere_of_decided {block : Block} (status : block.status ≠ .processing)
    (c : Controller) : isStoredElsewhere.run ⟨block, c⟩ = (.ok false, ⟨block, c⟩) := by
  unfold isStoredElsewhere
  rw [run_bind_ok (run_state _), if_neg status]
  rfl

end Decision

namespace Controller

open TimestampChain.Action

section

variable {block : Block} {c d d' : Controller} {e : ControllerError}

theorem run_accept_of_unread
    (asked : Decision.isStoredElsewhere.run ⟨block, c⟩ = (.error e, ⟨block, d⟩)) :
    (accept block).run c = (.error e, d) := by
  rw [accept, Decision.run_deciding, Decision.accept, run_bind_error asked]
  rfl

theorem run_accept_of_stored (status : block.status = .processing)
    (asked : Decision.isStoredElsewhere.run ⟨block, c⟩ = (.ok true, ⟨block, d⟩)) :
    (accept block).run c = (.ok block.asAccepted, d.forgetting block.id) := by
  have moved := Decision.run_transition .accepted status (by decide) d
  rw [accept, Decision.run_deciding, Decision.accept, run_bind_ok asked, run_bind_ok (run_state _)]
  rw [if_pos rfl, run_bind_ok moved]
  rfl

theorem run_accept_of_refused
    (asked : Decision.isStoredElsewhere.run ⟨block, c⟩ = (.ok false, ⟨block, d⟩))
    (refused : (commitAccept block).run d = (.error e, d')) :
    (accept block).run c = (.error e, d'.withStaged .empty) := by
  rw [accept, Decision.run_deciding, Decision.accept, run_bind_ok asked, run_bind_ok (run_state _)]
  rw [if_neg Bool.false_ne_true, run_bind_ok (run_attempt _ _), Decision.run_onController, refused]
  rfl

theorem run_accept_of_unchanged
    (asked : Decision.isStoredElsewhere.run ⟨block, c⟩ = (.ok false, ⟨block, d⟩))
    (unchanged : (commitAccept block).run d = (.ok false, d')) :
    (accept block).run c = (.ok block, d') := by
  rw [accept, Decision.run_deciding, Decision.accept, run_bind_ok asked, run_bind_ok (run_state _)]
  rw [if_neg Bool.false_ne_true, run_bind_ok (run_attempt _ _), Decision.run_onController, unchanged]
  rfl

theorem run_accept_of_committed (status : block.status = .processing)
    (asked : Decision.isStoredElsewhere.run ⟨block, c⟩ = (.ok false, ⟨block, d⟩))
    (committed : (commitAccept block).run d = (.ok true, d')) :
    (accept block).run c = (.ok block.asAccepted, d'.adopting block.id) := by
  rw [accept, Decision.run_deciding, Decision.accept, run_bind_ok asked, run_bind_ok (run_state _)]
  rw [if_neg Bool.false_ne_true, run_bind_ok (run_attempt _ _), Decision.run_onController, committed]
  dsimp only
  rw [Decision.run_finishAccept status d']
  rfl

end

/-! ## What becomes of an instance -/

theorem accept_of_accepted {block : Block} (status : block.status = .accepted) (c : Controller) :
    (accept block).run c = (.ok block, c) := by
  have unchanged : (commitAccept block).run c = (.ok false, c) := by
    have same : (stageAccept block).run c = (.ok false, c) := by
      rw [stageAccept, Block.checkTransition_self status]
      rfl
    rw [commitAccept, run_bind_ok same]
    rfl
  have decided : block.status ≠ .processing := by simp [status]
  have asked := Decision.run_isStoredElsewhere_of_decided decided c
  exact run_accept_of_unchanged asked unchanged

theorem accept_of_rejected {block : Block} (status : block.status = .rejected) {c : Controller}
    (quiet : c.store.staged = .empty) :
    (accept block).run c = (.error (.ofBlock (.invalidTransition .rejected .accepted)), c) := by
  have refused : (stageAccept block).run c =
      (.error (.ofBlock (.invalidTransition .rejected .accepted)), c) := by
    rw [stageAccept, Block.checkTransition_of_other status (by decide) (by decide)]
    rfl
  have decided : block.status ≠ .processing := by simp [status]
  have asked := Decision.run_isStoredElsewhere_of_decided decided c
  rw [run_accept_of_refused asked (run_bind_error refused), withStaged_of_quiet quiet]

section

variable {block : Block} {c : Controller} {e : ControllerError}

theorem accept_of_unread {cause : StoreError} (status : block.status = .processing)
    (unread : c.store.holds block.id = .error cause) :
    (accept block).Answers c (.error (.ofStore cause)) := by
  have answer := hasBlock_answers unread
  obtain ⟨n, asked | ⟨e', fails, asked⟩⟩ := answer
  · exact ⟨n, Or.inl (run_accept_of_unread (Decision.run_isStoredElsewhere status asked))⟩
  · exact ⟨n, Or.inr ⟨e', fails, run_accept_of_unread (Decision.run_isStoredElsewhere status asked)⟩⟩

/-- A block that is stored already is marked as accepted. -/
theorem accept_of_stored (status : block.status = .processing)
    (stored : c.store.holds block.id = .ok true) :
    (accept block).Does c (.ok block.asAccepted) fun c => c.forgetting block.id := by
  have answer := hasBlock_answers stored
  obtain ⟨n, asked | ⟨e, fails, asked⟩⟩ := answer
  · exact ⟨n, Or.inl (run_accept_of_stored status (Decision.run_isStoredElsewhere status asked))⟩
  · exact ⟨n, Or.inr ⟨e, fails, run_accept_of_unread (Decision.run_isStoredElsewhere status asked)⟩⟩

theorem accept_of_refused (status : block.status = .processing) (quiet : c.store.staged = .empty)
    (unstored : c.store.holds block.id = .ok false)
    (refused : ∀ n, (commitAccept block).Answers (c.counting n) (.error e)) :
    (accept block).Answers c (.error e) := by
  have answer := hasBlock_answers unstored
  obtain ⟨m, asked | ⟨e', fails, asked⟩⟩ := answer
  · have asked := Decision.run_isStoredElsewhere status asked
    obtain ⟨n, done | ⟨e', fails, done⟩⟩ := refused m
    · refine ⟨m + n, Or.inl ?_⟩
      rw [run_accept_of_refused asked done]
      exact congrArg (Prod.mk _) (withStaged_counting quiet m n)
    · refine ⟨m + n, Or.inr ⟨e', Counted.later fails, ?_⟩⟩
      rw [run_accept_of_refused asked done]
      exact congrArg (Prod.mk _) (withStaged_counting quiet m n)
  · exact ⟨m, Or.inr ⟨e', fails, run_accept_of_unread (Decision.run_isStoredElsewhere status asked)⟩⟩

/-- A block that extends the chain is written. -/
theorem accept_of_fresh (status : block.status = .processing) (quiet : c.store.staged = .empty)
    (unstored : c.store.holds block.id = .ok false) (admitted : c.admission block = .ok ()) :
    Writes (accept block) c (.ofAccepted block) (.ok block.asAccepted) fun c =>
      c.adopting block.id := by
  have answer := hasBlock_answers unstored
  have absent := ChainState.lookup_of_unstored unstored
  obtain ⟨m, asked | ⟨e, fails, asked⟩⟩ := answer
  · have asked := Decision.run_isStoredElsewhere status asked
    obtain ⟨d, wrote, done⟩ | ⟨n, e, fails, done⟩ :=
      commitAccept_of_admitted (c := c.counting m) status quiet admitted absent
    · exact Or.inl ⟨d, wrote.of_counting, run_accept_of_committed status asked done⟩
    · refine Or.inr ⟨m + n, e, Counted.later fails, ?_⟩
      rw [run_accept_of_refused asked done]
      exact congrArg (Prod.mk _) (withStaged_counting quiet m n)
  · have asked := Decision.run_isStoredElsewhere status asked
    exact Or.inr ⟨m, e, fails, run_accept_of_unread asked⟩

theorem commitAccept_of_unadmitted (status : block.status = .processing)
    (refused : c.admission block = .error e) (n : Nat) :
    (commitAccept block).Answers (c.counting n) (.error e) :=
  commitAccept_of_refused (stageAccept_of_unadmitted (c := c.counting n) status refused)

/-- What accepting a block instance can come to. -/
theorem accept_cases (block : Block) (quiet : c.store.staged = .empty) :
    (∃ n e, (accept block).run c = (.error e, c.counting n)) ∨
      block.status = .accepted ∧ (accept block).run c = (.ok block, c) ∨
      block.status = .processing ∧ c.store.holds block.id = .ok true ∧
        (∃ n, (accept block).run c = (.ok block.asAccepted, (c.counting n).forgetting block.id)) ∨
      block.status = .processing ∧ c.store.holds block.id = .ok false ∧
        c.admission block = .ok () ∧
        ∃ d, c.Wrote (.ofAccepted block) d ∧
          (accept block).run c = (.ok block.asAccepted, d.adopting block.id) := by
  cases status : block.status with
  | accepted => exact Or.inr (Or.inl ⟨rfl, accept_of_accepted status c⟩)
  | rejected => exact Or.inl ⟨0, _, accept_of_rejected status quiet⟩
  | processing =>
      cases holds : c.store.holds block.id with
      | error cause => exact Or.inl (accept_of_unread status holds).refused
      | ok found =>
          cases found with
          | true =>
              obtain failed | done := (accept_of_stored status holds).cases
              · exact Or.inl failed
              · exact Or.inr (Or.inr (Or.inl ⟨rfl, rfl, done⟩))
          | false =>
              cases admitted : c.admission block with
              | error cause =>
                  have refused := commitAccept_of_unadmitted status admitted
                  exact Or.inl (accept_of_refused status quiet holds refused).refused
              | ok =>
                  obtain ⟨d, wrote, done⟩ | ⟨n, e, _, done⟩ :=
                    accept_of_fresh status quiet holds admitted
                  · exact Or.inr (Or.inr (Or.inr ⟨rfl, rfl, rfl, d, wrote, done⟩))
                  · exact Or.inl ⟨n, e, done⟩

end

end Controller

end TimestampChain
