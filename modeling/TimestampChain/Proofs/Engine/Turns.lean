import TimestampChain.Engine
import TimestampChain.Proofs.Chain.Rooted
import TimestampChain.Proofs.Controller.Building

/-!
# Turns of an engine

In one turn an engine has a block built and settles it. A drain is made of whole turns, with looks for
signals between them, and may break off within one more. All of it is a run of the controller, so what
every such run keeps holds of an engine as well.
-/

namespace TimestampChain.Engine

open TimestampChain.Action Controller

variable {c d m : Controller} {block decided : Block} {blocks : List Block} {e : ControllerError}

/-! ## What a drain is made of -/

/-- Whole turns, the blocks that they settled, and where they lead. -/
inductive Turns (c : Controller) : List Block → Controller → Prop
  | none : Turns c [] c
  | look {blocks : List Block} {m : Controller} (before : Turns c blocks m) :
      Turns c blocks (receive.run m).2
  | settled {blocks : List Block} {m n d : Controller} {block decided : Block}
      (before : Turns c blocks m) (built : build.run m = (.ok block, n))
      (done : (settle block).run n = (.ok decided, d)) : Turns c (blocks ++ [decided]) d

/-- A turn that breaks off: a payload waits and no block is built, or the block is not settled. -/
inductive Breaks (c : Controller) (e : ControllerError) (d : Controller) : Prop
  | unbuilt (failed : build.run c = (.error e, d)) (other : e ≠ .noPendingWork)
  | unsettled {block : Block} {n : Controller} (built : build.run c = (.ok block, n))
      (failed : (settle block).run n = (.error e, d))

inductive Course (c : Controller) : Except ControllerError (List Block) × Controller → Prop
  | whole {blocks : List Block} {d : Controller} (turns : Turns c blocks d) : Course c (.ok blocks, d)
  | broken {blocks : List Block} {m d : Controller} {e : ControllerError} (turns : Turns c blocks m)
      (breaks : Breaks m e d) : Course c (.error e, d)

theorem run_receive (c : Controller) :
    receive.run c = (.ok c.channel.receive.1, { c with channel := c.channel.receive.2 }) := rfl

theorem buildAll_of_turn {n : Controller} (built : build.run c = (.ok block, n))
    (done : (settle block).run n = (.ok decided, d)) (fuel : Nat) (blocks : List Block) :
    (buildAll (fuel + 1) blocks).run c = (buildAll fuel (blocks ++ [decided])).run d := by
  rw [buildAll, run_bind_ok (run_attempt _ _), built]
  exact run_bind_ok done

theorem buildAll_of_breaks (breaks : Breaks c e d) (fuel : Nat) (blocks : List Block) :
    (buildAll (fuel + 1) blocks).run c = (.error e, d) := by
  cases breaks with
  | unbuilt failed other =>
      rw [buildAll, run_bind_ok (run_attempt _ _), failed]
      cases e <;> first | rfl | exact absurd rfl other
  | unsettled built failed =>
      rw [buildAll, run_bind_ok (run_attempt _ _), built]
      exact run_bind_error failed

theorem buildAll_of_empty (empty : c.mempool.queue = []) (fuel : Nat) (blocks : List Block) :
    (buildAll fuel blocks).run c = (.ok blocks, c) := by
  cases fuel with
  | zero => rfl
  | succ fuel =>
      have idle := build_of_empty (Mempool.pop?_eq_none_iff.mpr empty)
      rw [buildAll, run_bind_ok (run_attempt _ _), idle]
      rfl

theorem buildAll_course (fuel : Nat) (turns : Turns c blocks m) :
    Course c ((buildAll fuel blocks).run m) := by
  -- The round goes on from wherever the turns before it have led, so these are generalized as well.
  induction fuel generalizing blocks m with
  | zero => exact .whole turns
  | succ fuel ih =>
      rcases built : build.run m with ⟨e | block, n⟩
      · by_cases idle : e = .noPendingWork
        · subst idle
          obtain ⟨empty, rfl⟩ := build_of_noPendingWork built
          rw [buildAll_of_empty empty]
          exact .whole turns
        · rw [buildAll_of_breaks (.unbuilt built idle)]
          exact .broken turns (.unbuilt built idle)
      · rcases done : (settle block).run n with ⟨e | decided, d⟩
        · rw [buildAll_of_breaks (.unsettled built done)]
          exact .broken turns (.unsettled built done)
        · rw [buildAll_of_turn built done]
          exact ih (turns.settled built done)

theorem drainSignals_course (fuel : Nat) (turns : Turns c blocks m) :
    Course c ((drainSignals fuel blocks).run m) := by
  induction fuel generalizing blocks m with
  | zero => exact .whole turns
  | succ fuel ih =>
      have looked := turns.look
      rw [drainSignals, run_bind_ok (run_receive m)]
      rw [run_receive] at looked
      cases m.channel.receive.1 with
      | nothing => exact .whole looked
      | disconnected => exact .whole looked
      | signal =>
          dsimp only
          rw [run_bind_ok (run_state _)]
          have course := buildAll_course (m.mempool.size + 1) looked
          rcases outcome : (buildAll (m.mempool.size + 1) blocks).run
            { m with channel := m.channel.receive.2 } with ⟨e | settled, d⟩ <;> rw [outcome] at course
          · rw [run_bind_error outcome]
            exact course
          · rw [run_bind_ok outcome]
            cases course with
            | whole turns => exact ih turns

/-- Whatever a drain comes to, it is made of whole turns, and breaks off in one more if it fails. -/
theorem drain_course (c : Controller) : Course c (drain.run c) :=
  drainSignals_course _ .none

/-! ## Runs of the controller -/

theorem leads_receive (c : Controller) : c.Leads (receive.run c).2 :=
  ⟨[.surround c.channel.receive.2 c.clock c.store.backend.faults], ⟨trivial, trivial⟩, rfl⟩

theorem leads_build (c : Controller) : c.Leads (build.run c).2 :=
  leads_of_call .build rfl trivial

theorem marker_of_built {n : Controller} (based : c.Based)
    (built : build.run c = (.ok block, n)) : (n.table.get? Key.initialized).isSome := by
  obtain ⟨parent, rest, k, found, -, -, -, rfl⟩ := build_of_ok built
  exact based.marker_of_find (mapError_eq_ok_iff.mp found)

/-- Verifying a block changes nothing but the verified blocks. -/
theorem verify_leaves (block : Block) (c : Controller) :
    ∃ n verified, ((verify block).run c).2 = { c.counting n with verified := verified } := by
  rcases verify_cases block c with ⟨n, same⟩ | ⟨-, n, done⟩
  · exact ⟨n, c.verified, same⟩
  · exact ⟨n, _, congrArg Prod.snd done⟩

/-- A block is settled by accepting it, once it is verified and preferred. -/
theorem settle_steps (block : Block) (c : Controller) :
    ∃ n verified,
      (∃ e, (verify block).run c = (.error e, { c.counting n with verified := verified }) ∧
        (settle block).run c = (.error e, { c.counting n with verified := verified })) ∨
      (verify block).run c = (.ok (), { c.counting n with verified := verified }) ∧
        (settle block).run c =
          (accept block).run { c.counting n with verified := verified, preferred := block.id } := by
  obtain ⟨n, verified, leaves⟩ := verify_leaves block c
  refine ⟨n, verified, ?_⟩
  rcases run_bind_cases (verify block)
    (fun _ => setPreference block.id >>= fun _ => accept block) c with
    ⟨e, d, here, whole⟩ | ⟨_, d, here, whole⟩ <;> rw [here] at leaves <;> subst leaves
  · exact Or.inl ⟨e, here, whole⟩
  · exact Or.inr ⟨here, whole⟩

theorem leads_verify (block : Block) (c : Controller) : c.Leads ((verify block).run c).2 :=
  leads_of_call (.verify block) rfl trivial

theorem leads_prefer (id : BlockId) (c : Controller) : c.Leads (c.preferring id) :=
  leads_afterEvent (.call (.prefer id)) trivial

theorem leads_settle (marker : (c.table.get? Key.initialized).isSome) (block : Block) :
    c.Leads ((settle block).run c).2 := by
  have checked := leads_verify block c
  obtain ⟨n, verified, ⟨e, here, whole⟩ | ⟨here, whole⟩⟩ := settle_steps block c <;>
    rw [here] at checked <;> rw [whole]
  · exact checked
  · have preferred := checked.trans (leads_prefer block.id _)
    exact preferred.trans (leads_of_call (.accept block) rfl marker)

theorem leads_turn {n : Controller} (based : c.Based) (built : build.run c = (.ok block, n)) :
    c.Leads ((settle block).run n).2 := by
  have behind := (leads_build c).of_run built
  exact behind.trans (leads_settle (marker_of_built based built) block)

theorem Turns.leads_of_based (turns : Turns c blocks d) (based : c.Based) : c.Leads d := by
  induction turns with
  | none => exact .refl c
  | look _ ih => exact ih.trans (leads_receive _)
  | settled _ built done ih =>
      have turn := (leads_turn (based.leads ih) built).of_run done
      exact ih.trans turn

theorem Turns.leads (turns : Turns c blocks d) (reached : c.Reached) : c.Leads d :=
  turns.leads_of_based reached.based

theorem Breaks.leads (breaks : Breaks c e d) (based : c.Based) : c.Leads d := by
  cases breaks with
  | unbuilt failed _ => exact (leads_build c).of_run failed
  | unsettled built failed => exact (leads_turn based built).of_run failed

theorem leads_drain (based : c.Based) : c.Leads (drain.run c).2 := by
  have course := drain_course c
  generalize drain.run c = outcome at course ⊢
  cases course with
  | whole turns => exact turns.leads_of_based based
  | broken turns breaks =>
      have before := turns.leads_of_based based
      exact before.trans (breaks.leads (based.leads before))

/-! ## Events -/

inductive Event where
  | start (data : Bytes)
  | submit (data : Bytes)
  | drain
  | notify
  | shutdown
  | surround (clock : Clock) (faults : FaultPolicy)

def after (c : Controller) : Event → Controller
  | .start data => ((start data).run c).2
  | .submit data => ((submit data).run c).2
  | .drain => (drain.run c).2
  | .notify => (Controller.notify.run c).2
  | .shutdown => (shutdown.run c).2
  | .surround clock faults => c.afterEvent (.surround c.channel clock faults)

def follow (c : Controller) (events : List Event) : Controller := events.foldl after c

theorem start_steps (data : Bytes) (c : Controller) :
    (∃ e d, (bootstrap data).run (c.afterCall (.setState .bootstrapping)) = (.error e, d) ∧
        (start data).run c = (.error e, d)) ∨
      ∃ d, (bootstrap data).run (c.afterCall (.setState .bootstrapping)) = (.ok (), d) ∧
        (start data).run c = (.ok (), d.afterCall (.setState .normalOp)) := by
  have begun : (start data).run c = (bootstrap data >>= fun _ => setState .normalOp).run
    (c.afterCall (.setState .bootstrapping)) := rfl
  rcases run_bind_cases (bootstrap data) (fun _ => setState .normalOp)
    (c.afterCall (.setState .bootstrapping)) with ⟨e, d, here, whole⟩ | ⟨_, d, here, whole⟩
  · exact Or.inl ⟨e, d, here, begun.trans whole⟩
  · exact Or.inr ⟨d, here, begun.trans whole⟩

theorem leads_start (data : Bytes) (c : Controller) : c.Leads ((start data).run c).2 := by
  have entered : c.Leads (c.afterCall (.setState .bootstrapping)) :=
    leads_afterEvent (.call (.setState .bootstrapping)) trivial
  have behind : c.Leads ((bootstrap data).run (c.afterCall (.setState .bootstrapping))).2 :=
    entered.trans (leads_of_call (.bootstrap data) rfl trivial)
  rcases start_steps data c with ⟨e, d, here, whole⟩ | ⟨d, here, whole⟩ <;> rw [here] at behind <;>
    rw [whole]
  · exact behind
  · exact behind.trans (leads_afterEvent (.call (.setState .normalOp)) trivial)

/-- Whatever an engine does is a run of its controller. -/
theorem leads_after (based : c.Based) (event : Event) : c.Leads (after c event) := by
  cases event with
  | start data => exact leads_start data c
  | submit data => exact leads_of_call (.propose data) rfl trivial
  | drain => exact leads_drain based
  | notify => exact leads_of_call .notify rfl trivial
  | shutdown => exact leads_of_call .shutdown rfl trivial
  | surround clock faults =>
      exact leads_afterEvent (.surround c.channel clock faults) trivial

theorem leads_follow (reached : c.Reached) (events : List Event) : c.Leads (follow c events) := by
  induction events generalizing c with
  | nil => exact .refl c
  | cons event events ih =>
      have first := leads_after reached.based event
      exact first.trans (ih (reached.leads first))

end TimestampChain.Engine
