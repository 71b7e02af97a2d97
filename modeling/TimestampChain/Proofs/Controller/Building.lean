import TimestampChain.Proofs.Controller.Memory

/-!
# Queueing and building

A payload that is not too long is put behind the ones that wait. The oldest one goes into a child of
the preferred block. When there is no such child the payload is back at the front, so that nothing
has changed, and that is all that can be left of a failed attempt.
-/

namespace TimestampChain

def Block.successor (parent : Block) (payload : Payload) (time : UInt64) : Block :=
  Block.create parent.id (parent.height + 1) payload time

theorem checkChild_successor {parent : Block} (below : parent.height ≠ maxHeight)
    (payload : Payload) (time : UInt64) :
    checkChild parent (parent.successor payload time) = .ok () := by
  have named : (parent.successor payload time).parent = parent.id := rfl
  have higher : (parent.successor payload time).height = parent.height + 1 := rfl
  rw [checkChild, named, higher, if_neg (not_not_intro rfl), if_neg below, if_neg (not_not_intro rfl)]

namespace Mempool

theorem pushFront_of_pop? {pool rest : Mempool} {payload : Payload}
    (popped : pool.pop? = some (payload, rest)) : rest.pushFront payload = pool := by
  have queue := pop?_eq_some_iff.mp popped
  cases pool
  rw [pushFront, ← queue]

end Mempool

namespace Controller

open TimestampChain.Action

variable {c : Controller} {payload : Payload} {rest : Mempool} {block : Block}
  {e : ControllerError}

/-! ## Queueing -/

def proposing (c : Controller) (payload : Payload) : Controller :=
  { c with mempool := c.mempool.push payload, channel := c.channel.notify.2 }

theorem propose_of_payload {data : Bytes} (fits : Payload.ofData data = .ok payload)
    (c : Controller) : (propose data).run c = (.ok (), c.proposing payload) := by
  rw [propose, fits]
  rfl

theorem propose_of_long {data : Bytes} {cause : BlockError}
    (long : Payload.ofData data = .error cause) (c : Controller) :
    (propose data).run c = (.error (.ofBlock cause), c) := by
  rw [propose, long]
  rfl

/-! ## Building -/

/-- The child of the preferred block with a payload, if there can be one. -/
def composition (c : Controller) (payload : Payload) : Except ControllerError Block := do
  let parent ← c.findParent c.preferred
  if parent.height = maxHeight then .error .heightOverflow
  else return parent.successor payload c.clock.now

theorem composition_eq_ok_iff :
    c.composition payload = .ok block ↔
      ∃ parent, c.findParent c.preferred = .ok parent ∧ parent.height ≠ maxHeight ∧
        block = parent.successor payload c.clock.now := by
  rw [composition, bind_eq_ok_iff]
  constructor
  · rintro ⟨parent, found, made⟩
    split at made
    · cases made
    · next below =>
      cases made
      exact ⟨parent, found, below, rfl⟩
  · rintro ⟨parent, found, below, rfl⟩
    refine ⟨parent, found, ?_⟩
    rw [if_neg below]
    rfl

theorem compose_of_refused (refused : c.composition payload = .error e) :
    (compose payload).Answers c (.error e) := by
  refine Does.of_state ?_
  have answer := resolveParent_answers c.preferred c
  unfold composition at refused
  cases found : c.findParent c.preferred with
  | error cause =>
      rw [found] at answer refused
      cases refused
      exact answer.bind_error
  | ok parent =>
      rw [found] at answer refused
      refine answer.bind_does fun n => ?_
      by_cases highest : parent.height = maxHeight
      · rw [if_pos highest]
        cases (if_pos highest).symm.trans refused
        exact answers_fail _ _
      · cases (if_neg highest).symm.trans refused

theorem compose_of_composed (composed : c.composition payload = .ok block) :
    (compose payload).Does c (.ok block) fun d => { d with clock := d.clock.tick } := by
  obtain ⟨parent, found, below, rfl⟩ := composition_eq_ok_iff.mp composed
  have answer := resolveParent_answers c.preferred c
  rw [found] at answer
  refine Does.of_state (answer.bind_does fun n => does_of_run ?_)
  have checked : (ofExcept (checkChild parent (parent.successor payload c.clock.now)) : Step Unit) =
      pure () := by
    rw [checkChild_successor below]
    rfl
  have read : readClock.run (c.counting n) =
      (.ok c.clock.now, { c.counting n with clock := c.clock.tick }) := rfl
  rw [if_neg below]
  refine (run_bind_ok read).trans ?_
  dsimp only
  rw [← Block.successor, checked]
  rfl

def building (c : Controller) (rest : Mempool) : Controller := {
  c with
  mempool := rest
  clock := c.clock.tick
  channel := if rest.isEmpty then c.channel else c.channel.notify.2 }

theorem build_of_empty (empty : c.mempool.pop? = none) :
    build.run c = (.error .noPendingWork, c) := by
  rw [build, run_bind_ok (run_state c), empty]
  rfl

theorem run_build_of_uncomposed {n : Nat} (popped : c.mempool.pop? = some (payload, rest))
    (failed : (compose payload).run { c with mempool := rest } =
      (.error e, { c.counting n with mempool := rest })) :
    build.run c = (.error e, c.counting n) := by
  have back : { c.counting n with mempool := rest.pushFront payload } = c.counting n := by
    rw [Mempool.pushFront_of_pop? popped]
    rfl
  rw [build, run_bind_ok (run_state c), popped]
  dsimp only
  rw [run_bind_ok (run_update _ _), run_bind_ok (run_attempt _ _), failed]
  exact congrArg (Prod.mk _) back

theorem run_build_of_composed {n : Nat} (popped : c.mempool.pop? = some (payload, rest))
    (made : (compose payload).run { c with mempool := rest } =
      (.ok block, { c.counting n with mempool := rest, clock := c.clock.tick })) :
    build.run c = (.ok block, (c.counting n).building rest) := by
  rw [build, run_bind_ok (run_state c), popped]
  dsimp only
  rw [run_bind_ok (run_update _ _), run_bind_ok (run_attempt _ _), made]
  dsimp only
  unfold building
  cases rest.isEmpty <;> rfl

/-- A payload that goes into no block is where it was. -/
theorem build_of_refused (popped : c.mempool.pop? = some (payload, rest))
    (refused : c.composition payload = .error e) : build.Answers c (.error e) := by
  obtain ⟨n, done | ⟨e', fails, stopped⟩⟩ :=
    compose_of_refused (c := { c with mempool := rest }) refused
  · exact ⟨n, Or.inl (run_build_of_uncomposed popped done)⟩
  · exact ⟨n, Or.inr ⟨e', fails, run_build_of_uncomposed popped stopped⟩⟩

theorem build_of_composed (popped : c.mempool.pop? = some (payload, rest))
    (composed : c.composition payload = .ok block) :
    build.Does c (.ok block) fun d => d.building rest := by
  obtain ⟨n, done | ⟨e, fails, stopped⟩⟩ :=
    compose_of_composed (c := { c with mempool := rest }) composed
  · exact ⟨n, Or.inl (run_build_of_composed popped done)⟩
  · exact ⟨n, Or.inr ⟨e, fails, run_build_of_uncomposed popped stopped⟩⟩

theorem composition_ne_noPendingWork : c.composition payload ≠ .error .noPendingWork := by
  have parent : c.findParent c.preferred ≠ .error .noPendingWork := by
    rw [findParent, find]
    cases c.verified? c.preferred with
    | some block => exact fun same => by cases same
    | none =>
        cases c.store.record c.preferred with
        | ok block => exact fun same => by cases same
        | error cause => cases cause <;> exact fun same => by cases same
  intro refused
  rw [composition] at refused
  cases found : c.findParent c.preferred with
  | error cause =>
      rw [found] at refused parent
      cases refused
      exact parent rfl
  | ok block =>
      rw [found] at refused
      by_cases highest : block.height = maxHeight
      · cases (if_pos highest).symm.trans refused
      · cases (if_neg highest).symm.trans refused

/-- What building a block can come to. That no payload waits is told by its error. -/
theorem build_cases (c : Controller) :
    c.mempool.queue = [] ∧ build.run c = (.error .noPendingWork, c) ∨
      (∃ n e, e ≠ .noPendingWork ∧ build.run c = (.error e, c.counting n)) ∨
      ∃ payload rest block n, c.mempool.queue = payload :: rest.queue ∧
        c.composition payload = .ok block ∧
        build.run c = (.ok block, (c.counting n).building rest) := by
  cases popped : c.mempool.pop? with
  | none => exact Or.inl ⟨Mempool.pop?_eq_none_iff.mp popped, build_of_empty popped⟩
  | some waiting =>
      obtain ⟨payload, rest⟩ := waiting
      have queue := Mempool.pop?_eq_some_iff.mp popped
      cases composed : c.composition payload with
      | error e =>
          have other : e ≠ .noPendingWork := fun same => composition_ne_noPendingWork (same ▸ composed)
          obtain ⟨n, done | ⟨_, ⟨text, -, rfl⟩, stopped⟩⟩ := build_of_refused popped composed
          · exact Or.inr (Or.inl ⟨n, e, other, done⟩)
          · exact Or.inr (Or.inl ⟨n, _, by simp, stopped⟩)
      | ok block =>
          obtain ⟨n, done | ⟨_, ⟨text, -, rfl⟩, stopped⟩⟩ := build_of_composed popped composed
          · exact Or.inr (Or.inr ⟨payload, rest, block, n, queue, composed, done⟩)
          · exact Or.inr (Or.inl ⟨n, _, by simp, stopped⟩)

variable {d : Controller}

theorem build_of_noPendingWork (idle : build.run c = (.error .noPendingWork, d)) :
    c.mempool.queue = [] ∧ d = c := by
  rcases build_cases c with ⟨empty, run⟩ | ⟨n, e, other, run⟩ | ⟨payload, rest, block, n, -, -, run⟩
  · rw [run] at idle
    cases idle
    exact ⟨empty, rfl⟩
  · rw [run] at idle
    cases idle
    exact absurd rfl other
  · rw [run] at idle
    cases idle

theorem build_of_error (failed : build.run c = (.error e, d)) : ∃ n, d = c.counting n := by
  rcases build_cases c with ⟨-, run⟩ | ⟨n, e', -, run⟩ | ⟨_, _, _, n, -, -, run⟩ <;>
    rw [run] at failed <;> cases failed
  · exact ⟨0, rfl⟩
  · exact ⟨n, rfl⟩

/-- A block that is built is a child of the preferred one and carries the oldest payload. -/
theorem build_of_ok (made : build.run c = (.ok block, d)) :
    ∃ parent rest n, c.findParent c.preferred = .ok parent ∧ parent.height ≠ maxHeight ∧
      block = parent.successor block.payload c.clock.now ∧
      c.mempool.queue = block.payload :: rest.queue ∧ d = (c.counting n).building rest := by
  rcases build_cases c with ⟨-, run⟩ | ⟨n, e, -, run⟩ | ⟨payload, rest, block', n, queue, composed, run⟩
  · rw [run] at made
    cases made
  · rw [run] at made
    cases made
  · rw [run] at made
    cases made
    obtain ⟨parent, found, below, rfl⟩ := composition_eq_ok_iff.mp composed
    exact ⟨parent, rest, n, found, below, rfl, queue, rfl⟩

end Controller

end TimestampChain
