import Mathlib.Data.List.Induction
import TimestampChain.Proofs.Controller.Waiting
import TimestampChain.Proofs.Engine.Conservation
import TimestampChain.Proofs.Engine.Standing

/-!
# Signals for payloads that wait

A payload that waits should have a signal that waits with it, or the next drain does not look at the
queue. A drain takes a signal before it builds. When it was the only one and no block can be built, the
payload is back in the queue and nothing raises another signal for it. That is the only way in which a
signal is missing, and it is missing until something is submitted or a signal is raised from outside.
-/

namespace TimestampChain

open TimestampChain.Action

namespace Controller

variable {c d : Controller}

/-- If a payload waits, so does a signal. -/
def Awake (c : Controller) : Prop := c.mempool.queue ≠ [] → 0 < c.channel.waiting

def Live (c : Controller) : Prop := c.channel.receiving = true ∧ 0 < c.channel.depth

def hearing (c : Controller) : Controller := { c with channel := c.channel.receive.2 }

/-- One signal waits, and once it is taken no block can be built from the payload that waits. -/
def Misses (c : Controller) : Prop :=
  c.channel.waiting = 1 ∧ ∃ e d, e ≠ .noPendingWork ∧
    build.run c.hearing = (.error e, d)

theorem SameWork.awake_iff (same : c.SameWork d) : d.Awake ↔ c.Awake := by
  rw [Awake, Awake, same.mempool, same.channel]

theorem SameWork.live_iff (same : c.SameWork d) : d.Live ↔ c.Live := by
  rw [Live, Live, same.channel]

theorem Live.notify (live : c.Live) (queue : Mempool) :
    ({ c with mempool := queue, channel := c.channel.notify.2 } : Controller).Live ∧
      0 < c.channel.notify.2.waiting := by
  obtain ⟨receiving, slot⟩ := live
  refine ⟨⟨?_, ?_⟩, Channel.waiting_notify_pos receiving slot⟩
  · simpa using receiving
  · simpa using slot

theorem Live.hearing (live : c.Live) : c.hearing.Live := by
  simpa [Live, Controller.hearing] using live

/-! ## Building and settling -/

structure Rouses (c d : Controller) : Prop where
  live : c.Live → d.Live
  awake : c.Live → c.Awake → d.Awake

instance : Std.Refl Rouses := ⟨fun _ => ⟨id, fun _ => id⟩⟩

instance : Trans Rouses Rouses Rouses :=
  ⟨fun first second => ⟨fun live => second.live (first.live live),
    fun live awake => second.awake (first.live live) (first.awake live awake)⟩⟩

theorem SameWork.rouses (same : c.SameWork d) : c.Rouses d :=
  ⟨same.live_iff.mpr, fun _ => same.awake_iff.mpr⟩

/-- While payloads remain behind the one that is built, the signal is raised again. -/
theorem awake_building (live : c.Live) (rest : Mempool) :
    (c.building rest).Live ∧ (c.building rest).Awake := by
  unfold building Awake
  cases empty : rest.isEmpty with
  | true =>
      have none_waits : rest.queue = [] := List.isEmpty_iff.mp empty
      exact ⟨live, fun waits => absurd none_waits waits⟩
  | false =>
      have raised := live.notify rest
      exact ⟨raised.1, fun _ => raised.2⟩

theorem build_rouses : Keeps Rouses build := by
  intro c
  rcases build_cases c with ⟨-, run⟩ | ⟨n, e, -, run⟩ | ⟨_, rest, _, n, -, -, run⟩ <;> rw [run]
  · exact Std.Refl.refl c
  · exact SameWork.rouses ⟨rfl, rfl⟩
  · exact ⟨fun live => (awake_building (c := c.counting n) live rest).1,
      fun live _ => (awake_building (c := c.counting n) live rest).2⟩

end Controller

namespace Engine

open Controller

variable {c d : Controller} {blocks : List Block}

theorem settle_sameWork (block : Block) : Keeps SameWork (settle block) :=
  Keeps.bind (verify_sameWork block) fun _ =>
    Keeps.bind (setPreference_sameWork block.id) fun _ => accept_sameWork block

theorem buildAll_rouses (fuel : Nat) (blocks : List Block) : Keeps Rouses (buildAll fuel blocks) := by
  induction fuel generalizing blocks with
  | zero => exact keeps_pure _
  | succ fuel ih =>
      refine Keeps.bind build_rouses.attempt fun outcome => ?_
      split
      · next block =>
        have settles : Keeps Rouses (settle block) := fun c => (settle_sameWork block c).rouses
        exact Keeps.bind settles fun decided => ih _
      · exact keeps_pure _
      · exact keeps_fail _

/-- A round that ends without an error leaves no payload and makes a block of each. -/
theorem buildAll_of_ok {fuel : Nat} {settled : List Block} (enough : c.mempool.queue.length < fuel)
    (done : (buildAll fuel settled).run c = (.ok blocks, d)) :
    d.mempool.queue = [] ∧ blocks.length = settled.length + c.mempool.queue.length := by
  induction fuel generalizing c settled with
  | zero => omega
  | succ fuel ih =>
      rcases built : build.run c with ⟨e | block, n⟩
      · by_cases idle : e = .noPendingWork
        · subst idle
          obtain ⟨empty, rfl⟩ := build_of_noPendingWork built
          rw [buildAll_of_empty empty] at done
          cases done
          simp [empty]
        · rw [buildAll_of_breaks (.unbuilt built idle)] at done
          cases done
      · rcases turn : (settle block).run n with ⟨e | decided, m⟩
        · rw [buildAll_of_breaks (.unsettled built turn)] at done
          cases done
        · have same := (settle_sameWork block n).mempool
          obtain ⟨-, rest, k, -, -, -, queue, rfl⟩ := build_of_ok built
          rw [turn] at same
          have left : m.mempool.queue = rest.queue := congrArg Mempool.queue same
          rw [buildAll_of_turn built turn] at done
          rw [queue, List.length_cons] at enough ⊢
          obtain ⟨empty, count⟩ := ih (by rw [left]; omega) done
          rw [left, List.length_append, List.length_singleton] at count
          exact ⟨empty, by omega⟩

/-! ## A drain -/

theorem drainSignals_of_silent (silent : c.channel.waiting = 0) (fuel : Nat) (settled : List Block) :
    (drainSignals (fuel + 1) settled).run c = (.ok settled, c) := by
  obtain ⟨unheard, same⟩ := Channel.receive_of_silent silent
  rw [drainSignals, run_bind_ok (run_receive c), same]
  cases heard : c.channel.receive.1 with
  | signal => exact absurd heard unheard
  | nothing => rfl
  | disconnected => rfl

theorem drain_of_silent (silent : c.channel.waiting = 0) : drain.run c = (.ok [], c) :=
  drainSignals_of_silent silent _ []

theorem awake_of_unbuilt {e : ControllerError} (failed : build.run c.hearing = (.error e, d))
    (other : e ≠ .noPendingWork) : d.Awake ↔ c.channel.waiting ≠ 1 ∧ 0 < c.channel.waiting := by
  have waits : c.mempool.queue ≠ [] := by
    intro empty
    have idle : build.run c.hearing = (.error .noPendingWork, c.hearing) :=
      build_of_empty (Mempool.pop?_eq_none_iff.mpr empty)
    cases idle.symm.trans failed
    exact other rfl
  obtain ⟨n, rfl⟩ := build_of_error failed
  have left : (c.hearing.counting n).channel.waiting = c.channel.waiting - 1 :=
    Channel.waiting_receive c.channel
  have queue : (c.hearing.counting n).mempool.queue = c.mempool.queue := rfl
  rw [Awake, queue, left]
  constructor
  · intro awake
    have more := awake waits
    omega
  · intro more _
    omega

theorem awake_of_built {block : Block} {n : Controller} (live : c.Live)
    (built : build.run c.hearing = (.ok block, n)) (fuel : Nat) :
    ((buildAll (fuel + 1) []).run c.hearing).2.Awake := by
  have settles : Keeps Rouses (settle block) := fun c => (settle_sameWork block c).rouses
  have rest : Keeps Rouses (settle block >>= fun decided => buildAll fuel ([] ++ [decided])) :=
    Keeps.bind settles fun decided => buildAll_rouses fuel _
  have run : (buildAll (fuel + 1) []).run c.hearing =
      (settle block >>= fun decided => buildAll fuel ([] ++ [decided])).run n := by
    rw [buildAll, run_bind_ok (run_attempt _ _), built]
  obtain ⟨-, left, k, -, -, -, -, rfl⟩ := build_of_ok built
  obtain ⟨live', awake⟩ := awake_building (c := c.hearing.counting k) live.hearing left
  rw [run]
  exact (rest _).awake live' awake

theorem awake_of_drain (live : c.Live) (waiting : 0 < c.channel.waiting) :
    (drain.run c).2.Awake ↔ ¬ c.Misses := by
  have run : drain.run c = (buildAll (c.mempool.size + 1) [] >>= drainSignals (c.channel.depth + 1)).run
      c.hearing := run_drain_of_signal waiting
  rcases built : build.run c.hearing with ⟨e | block, n⟩
  · by_cases idle : e = .noPendingWork
    · subst idle
      -- Nothing waits, so nothing is built and nothing is missed.
      obtain ⟨empty, rfl⟩ := build_of_noPendingWork built
      obtain ⟨channel, rest, -⟩ := drainSignals_of_empty empty (c.channel.depth + 1) []
      rw [run, run_bind_ok (buildAll_of_empty empty _ _), rest]
      refine iff_of_true (fun waits => absurd empty waits) ?_
      rintro ⟨-, e, d, other, failed⟩
      cases built.symm.trans failed
      exact other rfl
    · rw [run, run_bind_error (buildAll_of_breaks (.unbuilt built idle) _ _)]
      rw [awake_of_unbuilt built idle]
      constructor
      · rintro ⟨more, -⟩ ⟨one, -⟩
        exact more one
      · intro unmissed
        exact ⟨fun one => unmissed ⟨one, e, n, idle, built⟩, waiting⟩
  · have unmissed : ¬ c.Misses := by
      rintro ⟨-, e, d, -, failed⟩
      cases built.symm.trans failed
    refine iff_of_true ?_ unmissed
    have awake := awake_of_built live built c.mempool.size
    rcases round : (buildAll (c.mempool.size + 1) []).run c.hearing with ⟨e | blocks, d⟩ <;>
      rw [round] at awake
    · rw [run, run_bind_error round]
      exact awake
    · obtain ⟨empty, -⟩ := buildAll_of_ok (Nat.lt_succ_self c.hearing.mempool.queue.length) round
      obtain ⟨channel, rest, -⟩ := drainSignals_of_empty empty (c.channel.depth + 1) blocks
      rw [run, run_bind_ok round, rest]
      exact fun waits => absurd empty waits

/-- A drain that takes a signal and does not fail makes a block of every payload that waits. -/
theorem length_of_drain {blocks : List Block} (waiting : 0 < c.channel.waiting)
    (done : drain.run c = (.ok blocks, d)) : blocks.length = c.mempool.queue.length := by
  have run : drain.run c = (buildAll (c.mempool.size + 1) [] >>= drainSignals (c.channel.depth + 1)).run
      c.hearing := run_drain_of_signal waiting
  rw [run] at done
  rcases round : (buildAll (c.mempool.size + 1) []).run c.hearing with ⟨e | settled, n⟩
  · rw [run_bind_error round] at done
    cases done
  · obtain ⟨empty, count⟩ := buildAll_of_ok (Nat.lt_succ_self c.hearing.mempool.queue.length) round
    obtain ⟨channel, rest, -⟩ := drainSignals_of_empty empty (c.channel.depth + 1) settled
    have whole := (run_bind_ok round).trans rest
    rw [whole] at done
    have same : settled = blocks := Except.ok.inj (congrArg Prod.fst done)
    rw [← same, count, List.length_nil, Nat.zero_add]
    rfl

/-! ## Events -/

def Event.Signals : Event → Prop
  | .submit data => data.length ≤ Payload.size
  | .notify => True
  | _ => False

instance : (event : Event) → Decidable event.Signals
  | .submit data => inferInstanceAs (Decidable (data.length ≤ Payload.size))
  | .notify => isTrue trivial
  | .start _ | .drain | .shutdown | .surround .. => isFalse id

theorem start_sameWork (data : Bytes) : Keeps SameWork (start data) :=
  Keeps.bind (setState_sameWork _) fun _ =>
    Keeps.bind (bootstrap_sameWork data) fun _ => setState_sameWork _

theorem Turns.live (turns : Turns c blocks d) (live : c.Live) : d.Live := by
  induction turns with
  | none => exact live
  | look _ ih => exact ih.hearing
  | settled _ built done ih =>
      have waits := ((settle_sameWork _).of_run done).live_iff
      exact waits.mpr ((build_rouses.of_run built).live ih)

theorem live_drain (live : c.Live) : (drain.run c).2.Live := by
  have course := drain_course c
  generalize drain.run c = outcome at course ⊢
  cases course with
  | whole turns => exact turns.live live
  | broken turns breaks =>
      have before := turns.live live
      cases breaks with
      | unbuilt failed _ => exact (build_rouses.of_run failed).live before
      | unsettled built failed =>
          have waits := ((settle_sameWork _).of_run failed).live_iff
          exact waits.mpr ((build_rouses.of_run built).live before)

theorem live_after (live : c.Live) (event : Event) : (after c event).Live := by
  cases event with
  | start data => exact (start_sameWork data c).live_iff.mpr live
  | submit data =>
      show ((propose data).run c).2.Live
      cases fits : Payload.ofData data with
      | error cause =>
          rw [propose_of_long fits]
          exact live
      | ok payload =>
          rw [propose_of_payload fits]
          exact (live.notify _).1
  | drain => exact live_drain live
  | notify => exact (live.notify _).1
  | shutdown => exact (onStore_sameWork ChainState.close c).live_iff.mpr live
  | surround clock faults => exact live

theorem live_follow (live : c.Live) (events : List Event) : (follow c events).Live := by
  induction events generalizing c with
  | nil => exact live
  | cons event events ih => exact ih (live_after live event)

theorem awake_after_of_sameWork {event : Event} (same : c.SameWork (after c event))
    (silent : ¬ event.Signals) (other : event ≠ .drain) :
    (after c event).Awake ↔ event.Signals ∨ c.Awake ∧ ¬ (event = .drain ∧ c.Misses) := by
  simp [same.awake_iff, silent, other]

/-- What an event does to the signal for the payloads that wait. -/
theorem awake_after_iff (live : c.Live) (event : Event) :
    (after c event).Awake ↔ event.Signals ∨ c.Awake ∧ ¬ (event = .drain ∧ c.Misses) := by
  cases event with
  | start data => exact awake_after_of_sameWork (start_sameWork data c) id (by simp)
  | shutdown => exact awake_after_of_sameWork (onStore_sameWork ChainState.close c) id (by simp)
  | surround clock faults => exact awake_after_of_sameWork ⟨rfl, rfl⟩ id (by simp)
  | notify => exact iff_of_true (fun _ => (live.notify c.mempool).2) (Or.inl trivial)
  | submit data =>
      by_cases short : data.length ≤ Payload.size
      · have done := propose_of_payload (dif_pos short) c
        have after_eq : after c (.submit data) = _ := congrArg Prod.snd done
        rw [after_eq]
        exact iff_of_true (fun _ => (live.notify c.mempool).2) (Or.inl short)
      · have refused := propose_of_long (dif_neg short) c
        have same : after c (.submit data) = c := congrArg Prod.snd refused
        refine awake_after_of_sameWork ?_ short (by simp)
        rw [same]
        exact .refl c
  | drain =>
      show (drain.run c).2.Awake ↔ _
      by_cases silent : c.channel.waiting = 0
      · have unmissed : ¬ c.Misses := by
          rintro ⟨one, -⟩
          omega
        simp [drain_of_silent silent, Event.Signals, unmissed]
      · have waiting : 0 < c.channel.waiting := by omega
        have awake : c.Awake := fun _ => waiting
        simp [awake_of_drain live waiting, Event.Signals, awake]

/-! ## Missed signals -/

/-- A drain has missed the payloads that wait, and nothing has raised a signal since. -/
def Missed (c : Controller) (events : List Event) : Prop :=
  ∃ earlier later, events = earlier ++ .drain :: later ∧ (follow c earlier).Misses ∧
    ∀ event ∈ later, ¬ event.Signals

theorem missed_concat {events : List Event} {event : Event} :
    Missed c (events ++ [event]) ↔
      ¬ event.Signals ∧ (Missed c events ∨ event = .drain ∧ (follow c events).Misses) := by
  constructor
  · rintro ⟨earlier, later, split, misses, silent⟩
    rcases later.eq_nil_or_concat with rfl | ⟨later, last, rfl⟩
    · obtain ⟨rfl, same⟩ := List.append_inj' split rfl
      cases same
      exact ⟨id, Or.inr ⟨rfl, misses⟩⟩
    · rw [List.concat_eq_append, ← List.cons_append, ← List.append_assoc] at split
      obtain ⟨rfl, same⟩ := List.append_inj' split rfl
      cases same
      refine ⟨silent event (by simp), Or.inl ⟨earlier, later, rfl, misses, ?_⟩⟩
      exact fun other member => silent other (by simp [member])
  · rintro ⟨silent, ⟨earlier, later, rfl, misses, before⟩ | ⟨rfl, misses⟩⟩
    · refine ⟨earlier, later ++ [event], by simp, misses, ?_⟩
      intro other member
      rcases List.mem_append.mp member with old | new
      · exact before other old
      · cases List.mem_singleton.mp new
        exact silent
    · exact ⟨events, [], rfl, misses, by simp⟩

theorem follow_concat (c : Controller) (events : List Event) (event : Event) :
    follow c (events ++ [event]) = after (follow c events) event := by
  simp [follow]

theorem awake_follow_iff (live : c.Live) (awake : c.Awake) (events : List Event) :
    (follow c events).Awake ↔ ¬ Missed c events := by
  induction events using List.reverseRecOn with
  | nil =>
      refine iff_of_true awake ?_
      rintro ⟨earlier, later, split, -⟩
      simp at split
  | append_singleton events event ih =>
      rw [follow_concat, awake_after_iff (live_follow live events), ih, missed_concat]
      simp only [not_and_or, not_or, not_not]

/-- For every engine whose channel has room, a signal waits with the payloads that wait unless a drain
has taken the only one, could build no block, and nothing has raised a signal since. While one waits, a
drain fails or makes a block of every payload. Once it is missing, a drain does nothing at all. -/
theorem awake_iff_not_missed {b : Backend} {clock : Clock} {depth : Nat} {events : List Event}
    (slot : 0 < depth) (behind : c = follow (.ofBackend b (.ofDepth depth) clock) events) :
    (c.Awake ↔ ¬ Missed (.ofBackend b (.ofDepth depth) clock) events) ∧
      (c.mempool.queue ≠ [] →
        (c.Awake → ∀ blocks d, drain.run c = (.ok blocks, d) →
          blocks.length = c.mempool.queue.length) ∧
        (¬ c.Awake → drain.run c = (.ok [], c))) := by
  have live : (ofBackend b (.ofDepth depth) clock).Live := ⟨rfl, slot⟩
  constructor
  · rw [behind]
    exact awake_follow_iff live (fun waits => absurd rfl waits) events
  · refine fun waits => ⟨fun awake blocks d done => length_of_drain (awake waits) done, ?_⟩
    intro asleep
    refine drain_of_silent ?_
    by_contra waiting
    exact asleep fun _ => by omega

end Engine

end TimestampChain

/-! ## A drain that fails while nothing can be read -/

namespace TimestampChain.Sample

/-- A payload is queued, and one drain finds the backend unreadable. -/
def unreadable : List Engine.Event := [
  .start [], .submit [2],
  .surround (.still 1000) (.byRequest (fun _ => some "injected get failure") none none),
  .drain, .surround (.still 1000) .never]

end TimestampChain.Sample

namespace TimestampChain.Engine

open TimestampChain.Action Controller

theorem missed_unreadable : Missed Sample.engine Sample.unreadable := by
  refine ⟨Sample.unreadable.take 3, Sample.unreadable.drop 4, rfl, ⟨by decide +kernel, ?_⟩, ?_⟩
  · have failed : (build.run (follow Sample.engine (Sample.unreadable.take 3)).hearing).1 =
        .error (.store (.medium "injected get failure")) := by decide +kernel
    exact ⟨_, _, by simp, run_eq failed⟩
  · intro event member
    cases List.mem_singleton.mp member
    exact id

theorem unreadable_asleep :
    0 < 1 ∧ (follow Sample.engine Sample.unreadable).mempool.queue ≠ [] ∧
      ¬ (follow Sample.engine Sample.unreadable).Awake ∧
      drain.run (follow Sample.engine Sample.unreadable) =
        (.ok [], follow Sample.engine Sample.unreadable) := by
  obtain ⟨awake_iff, drains⟩ := awake_iff_not_missed Nat.one_pos
    (rfl : follow Sample.engine Sample.unreadable = follow Sample.engine Sample.unreadable)
  have asleep : ¬ (follow Sample.engine Sample.unreadable).Awake :=
    fun awake => awake_iff.mp awake missed_unreadable
  have waits : (follow Sample.engine Sample.unreadable).mempool.queue ≠ [] := by decide +kernel
  exact ⟨Nat.one_pos, waits, asleep, (drains waits).2 asleep⟩

/-- A payload waits, no signal does, and although no request fails any more, nothing is built. -/
theorem unreadable_lost :
    Sample.engine = .ofBackend (.ofTable .empty) (.ofDepth 1) (.still 1000) ∧
      (follow Sample.engine Sample.unreadable).mempool.queue = [Sample.payload 2] ∧
      (follow Sample.engine Sample.unreadable).channel.waiting = 0 ∧
      (follow Sample.engine Sample.unreadable).Works ∧
      (drain.run (follow Sample.engine Sample.unreadable)).1 = .ok [] := by
  refine ⟨rfl, by decide +kernel, by decide +kernel, fun _ _ _ => rfl, by decide +kernel⟩

end TimestampChain.Engine
