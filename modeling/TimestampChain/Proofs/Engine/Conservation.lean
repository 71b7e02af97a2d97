import Mathlib.Control.Monad.Basic
import TimestampChain.Proofs.Chain.Growth
import TimestampChain.Proofs.Engine.Turns

/-!
# Payloads of a drain that fails

Every payload that leaves the queue in a whole turn is in a block that has been settled, and that block
is stored now. When no block can be built, its payload is back at the front. When a block that has been
built is not settled, its payload is gone.
-/

namespace TimestampChain.Engine

open TimestampChain.Action Controller

variable {c d m n : Controller} {block decided : Block} {blocks : List Block} {e : ControllerError}

/-! ## Settling a block -/

/-- A block that is not settled may be verified and preferred, and that is all. -/
theorem settle_of_error (quiet : c.store.staged = .empty)
    (failed : (settle block).run c = (.error e, d)) :
    ∃ n verified preferred, (preferred = c.preferred ∨ preferred = block.id) ∧
      d = { c.counting n with verified := verified, preferred := preferred } := by
  obtain ⟨n, verified, ⟨e', -, whole⟩ | ⟨-, whole⟩⟩ := settle_steps block c <;>
    rw [whole] at failed
  · cases failed
    exact ⟨n, verified, c.preferred, Or.inl rfl, rfl⟩
  · have quiet' : ({ c.counting n with verified := verified, preferred := block.id } :
        Controller).store.staged = .empty := quiet
    rcases accept_cases block quiet' with ⟨k, e', done⟩ | ⟨-, done⟩ | ⟨-, -, k, done⟩ |
      ⟨-, -, -, d', -, done⟩ <;> rw [done] at failed <;> cases failed
    refine ⟨n + k, verified, block.id, Or.inr rfl, ?_⟩
    rw [← counting_counting]
    rfl

/-- An undecided block that is settled is stored behind the others, unless it has been stored. -/
theorem settle_of_ok (reached : c.Reached) (marker : (c.table.get? Key.initialized).isSome)
    (status : block.status = .processing) (done : (settle block).run c = (.ok decided, d)) :
    decided = block.asAccepted ∧ d.mempool = c.mempool ∧
      ((c.table.get? (Key.block block.id)).isSome ∧ d.table = c.table ∨
        c.table.get? (Key.block block.id) = none ∧
          HoldsChain d.table (c.table.storedChain ++ [block.asAccepted])) := by
  have checked := leads_verify block c
  obtain ⟨n, verified, ⟨e', -, whole⟩ | ⟨here, whole⟩⟩ := settle_steps block c <;>
    rw [whole] at done
  · cases done
  · rw [here] at checked
    have behind : ({ c.counting n with verified := verified, preferred := block.id } :
        Controller).Reached := reached.leads (checked.trans (leads_prefer block.id _))
    have quiet := behind.settled.tidy.quiet
    rcases accept_cases block quiet with ⟨k, e', run⟩ | ⟨accepted, -⟩ | ⟨-, holds, k, run⟩ |
      ⟨-, unstored, admitted, d', wrote, run⟩
    · rw [run] at done
      cases done
    · rw [status] at accepted
      cases accepted
    · rw [run] at done
      cases done
      have there := isSome_of_stored quiet holds
      exact ⟨rfl, rfl, Or.inl ⟨there, rfl⟩⟩
    · rw [run] at done
      cases done
      have longer := holdsChain_of_accepted behind.settled.tidy
        (behind.settled.sound.holdsChain marker) unstored admitted wrote
      have absent := ChainState.absent_of_unstored unstored
      have kept : (d'.adopting block.id).mempool = c.mempool := by
        obtain ⟨k, -, rfl⟩ := wrote
        rfl
      exact ⟨rfl, kept, Or.inr ⟨absent, longer⟩⟩

/-! ## Whole turns -/

/-- What whole turns do with the payloads that wait, and with the chain. -/
structure Conserves (c : Controller) (blocks : List Block) (d : Controller) : Prop where
  /-- The payloads that are gone are in the settled blocks. -/
  payloads : c.mempool.queue = blocks.map Block.payload ++ d.mempool.queue
  /-- The settled blocks are stored in order. One that has been stored before is not stored again. -/
  stored : ∃ added, added.Sublist blocks ∧
    d.table.storedChain = c.table.storedChain ++ added ∧
    ((∀ block ∈ blocks, c.table.get? (Key.block block.id) = none) →
      (blocks.map Block.id).Nodup → added = blocks)

theorem record_of_mem {t : Table Bytes} (sound : t.Sound) (member : block ∈ t.storedChain) :
    t.get? (Key.block block.id) = some block.bytes := by
  rcases sound with rfl | ⟨blocks, holds⟩
  · cases member
  · rw [holds.storedChain_eq] at member
    exact holds.records block member

/-- A block of whole turns that has a record had one before, or is settled twice. -/
theorem Conserves.recorded (conserves : Conserves c blocks m) (start : c.Reached) (reached : m.Reached)
    (known : (m.table.get? (Key.block block.id)).isSome) :
    (c.table.get? (Key.block block.id)).isSome ∨ block.id ∈ blocks.map Block.id := by
  obtain ⟨added, sublist, chain, -⟩ := conserves.stored
  obtain ⟨bytes, record⟩ := Option.isSome_iff_exists.mp known
  have sound := reached.settled.sound
  have holds := sound.holdsChain (marker_of_record sound record)
  obtain ⟨old, member, named, -⟩ := holds.mem_of_record record
  rw [chain] at member
  rcases List.mem_append.mp member with earlier | later
  · have first := record_of_mem start.settled.sound earlier
    rw [named] at first
    exact Or.inl (Option.isSome_iff_exists.mpr ⟨_, first⟩)
  · exact Or.inr (List.mem_map.mpr ⟨old, sublist.subset later, named⟩)

theorem Conserves.settled {added : Block} (conserves : Conserves c blocks m) (start : c.Reached)
    (reached : m.Reached) (built : build.run m = (.ok block, n))
    (done : (settle block).run n = (.ok added, d)) :
    Conserves c (blocks ++ [added]) d := by
  have marker := marker_of_built reached.based built
  have behind : n.Reached := reached.leads ((leads_build m).of_run built)
  obtain ⟨parent, rest, k, -, -, composed, queue, rfl⟩ := build_of_ok built
  have status : block.status = .processing := by
    rw [composed]
    rfl
  obtain ⟨rfl, mempool, outcome⟩ := settle_of_ok behind marker status done
  obtain ⟨before, sublist, chain, fresh⟩ := conserves.stored
  refine ⟨?_, ?_⟩
  · have payload : block.asAccepted.payload = block.payload := rfl
    rw [conserves.payloads, queue, mempool, List.map_append, List.append_assoc]
    rfl
  · rcases outcome with ⟨known, same⟩ | ⟨absent, longer⟩
    · have same : d.table = m.table := same
      have known : (m.table.get? (Key.block block.id)).isSome := known
      refine ⟨before, sublist.trans (List.sublist_append_left _ _), ?_, ?_⟩
      · rw [same, chain]
      · intro unstored distinct
        -- It would have been stored before the first turn, or in one of the others.
        rw [List.map_append, List.nodup_append] at distinct
        rcases conserves.recorded start reached known with old | again
        · have absent := unstored block.asAccepted (by simp)
          have absent : c.table.get? (Key.block block.id) = none := absent
          rw [absent] at old
          cases old
        · exact absurd rfl (distinct.2.2 block.id again block.id (List.mem_singleton_self _))
    · have longer : HoldsChain d.table (m.table.storedChain ++ [block.asAccepted]) := longer
      refine ⟨before ++ [block.asAccepted], sublist.append_right _, ?_, ?_⟩
      · rw [longer.storedChain_eq, chain, List.append_assoc]
      · intro unstored distinct
        rw [List.map_append, List.nodup_append] at distinct
        rw [fresh (fun b h => unstored b (List.mem_append_left _ h)) distinct.1]

theorem Turns.conserves (turns : Turns c blocks d) (reached : c.Reached) : Conserves c blocks d := by
  induction turns with
  | none => exact ⟨rfl, [], List.nil_sublist _, (List.append_nil _).symm, fun _ _ => rfl⟩
  | look _ ih => exact ⟨ih.payloads, ih.stored⟩
  | settled before built done ih =>
      exact ih.settled reached (reached.leads (before.leads reached)) built done

/-! ## Drains that fail -/

/-- When a drain fails, what its whole turns took from the queue is stored. Either no block could be
built for the next payload, which is still at the front, or a block was built for it and was not
settled, and then the payload is gone. -/
theorem drain_conserves_whole_turns (reached : c.Reached) (events : List Event)
    (failed : drain.run (follow c events) = (.error e, d)) :
    ∃ settled m added, Turns (follow c events) settled m ∧ added.Sublist settled ∧
      d.table.storedChain = (follow c events).table.storedChain ++ added ∧
      ((∀ block ∈ settled, (follow c events).table.get? (Key.block block.id) = none) →
        (settled.map Block.id).Nodup → added = settled) ∧
      (build.run m = (.error e, d) ∧ e ≠ .noPendingWork ∧
          (follow c events).mempool.queue = settled.map Block.payload ++ d.mempool.queue ∨
        ∃ block n, build.run m = (.ok block, n) ∧ (settle block).run n = (.error e, d) ∧
          (follow c events).mempool.queue =
            settled.map Block.payload ++ block.payload :: d.mempool.queue) := by
  have start := reached.leads (leads_follow reached events)
  have course := drain_course (follow c events)
  rw [failed] at course
  cases course with
  | @broken settled m _ _ turns breaks =>
      have conserves := turns.conserves start
      have behind := start.leads (turns.leads start)
      obtain ⟨added, sublist, chain, fresh⟩ := conserves.stored
      refine ⟨settled, m, added, turns, sublist, ?_⟩
      -- Whole turns lose nothing, so what is lost is lost by the turn that breaks off.
      cases breaks with
      | unbuilt failed other =>
          obtain ⟨n, rfl⟩ := build_of_error failed
          exact ⟨chain, fresh, Or.inl ⟨failed, other, conserves.payloads⟩⟩
      | @unsettled block n built failed =>
          obtain ⟨parent, rest, k, -, -, -, queue, rfl⟩ := build_of_ok built
          have quiet : ((m.counting k).building rest).store.staged = .empty :=
            behind.settled.tidy.quiet
          obtain ⟨j, verified, preferred, -, rfl⟩ := settle_of_error quiet failed
          refine ⟨chain, fresh, Or.inr ⟨block, _, built, failed, ?_⟩⟩
          rw [conserves.payloads, queue]
          rfl

end TimestampChain.Engine

/-! ## A drain that loses a payload -/

namespace TimestampChain.Sample

def engine : Controller := .ofBackend (.ofTable .empty) (.ofDepth 1) (.still 1000)

/-- A payload is queued, and then the backend writes no more. -/
def unwritable : List Engine.Event := [
  .start [], .submit [2],
  .surround (.still 1000) (.byRequest (fun _ => none) (some "injected write failure") none)]

theorem reached_engine : engine.Reached := ⟨_, _, _, [], rfl, trivial, rfl⟩

theorem drain_unwritable : (Engine.drain.run (Engine.follow engine unwritable)).1 =
    .error (.store (.medium "injected write failure")) := by decide +kernel

end TimestampChain.Sample

namespace TimestampChain.Engine

open TimestampChain.Action Controller

theorem unwritable_conserves_whole_turns :
    ∃ e d settled added, drain.run (follow Sample.engine Sample.unwritable) = (.error e, d) ∧
      d.table.storedChain = (follow Sample.engine Sample.unwritable).table.storedChain ++ added ∧
      added.Sublist settled ∧
      ((follow Sample.engine Sample.unwritable).mempool.queue =
          settled.map Block.payload ++ d.mempool.queue ∨
        ∃ payload, (follow Sample.engine Sample.unwritable).mempool.queue =
          settled.map Block.payload ++ payload :: d.mempool.queue) := by
  have failed := run_eq Sample.drain_unwritable
  obtain ⟨settled, m, added, -, sublist, chain, -, outcome⟩ :=
    drain_conserves_whole_turns Sample.reached_engine Sample.unwritable failed
  refine ⟨_, _, settled, added, failed, chain, sublist, ?_⟩
  rcases outcome with ⟨-, -, kept⟩ | ⟨block, n, -, -, lost⟩
  · exact Or.inl kept
  · exact Or.inr ⟨block.payload, lost⟩

/-- The payload of a block that cannot be written is neither stored nor queued any more. -/
theorem unwritable_loses_payload :
    Sample.engine.Reached ∧
      ∃ e d, drain.run (follow Sample.engine Sample.unwritable) = (.error e, d) ∧
        ¬ ∃ appended,
          d.table.storedChain = (follow Sample.engine Sample.unwritable).table.storedChain ++ appended ∧
          (follow Sample.engine Sample.unwritable).mempool.queue =
            appended.map Block.payload ++ d.mempool.queue := by
  have queued : (follow Sample.engine Sample.unwritable).mempool.queue = [Sample.payload 2] := by
    decide +kernel
  have emptied : (drain.run (follow Sample.engine Sample.unwritable)).2.mempool.queue = [] := by
    decide +kernel
  have chain : (drain.run (follow Sample.engine Sample.unwritable)).2.table.storedChain =
      (follow Sample.engine Sample.unwritable).table.storedChain := by decide +kernel
  refine ⟨Sample.reached_engine, _, _, run_eq Sample.drain_unwritable, ?_⟩
  rintro ⟨appended, longer, queue⟩
  rw [chain, List.self_eq_append_right] at longer
  rw [queued, emptied, longer] at queue
  cases queue

end TimestampChain.Engine
