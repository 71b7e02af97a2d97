import Mathlib.Control.Monad.Basic
import TimestampChain.Proofs.Controller.Building
import TimestampChain.Proofs.Chain.Invariant
import TimestampChain.Service

/-!
# Calls that fail

A call that fails leaves nothing behind but the requests that it has made: no entry, no staged write,
no payload out of its place, no verified block, no preference and no signal is other than before, and
an instance that was to be decided has its old status. Only setting the chain up is different, since
the pointer is read once the first block is there.
-/

namespace TimestampChain

namespace Action

open Counted

variable {σ ε α β : Type} [Counted σ ε]

def Unchanged (s t : σ) : Prop := ∃ n, t = counting s n

/-- Whenever the action fails, nothing has changed. -/
def Atomic (x : Action σ ε α) (s : σ) : Prop := ∀ e t, x.run s = (.error e, t) → Unchanged s t

theorem Unchanged.refl (s : σ) : Unchanged s s := ⟨0, (counting_zero s).symm⟩

theorem Unchanged.counting (s : σ) (n : Nat) : Unchanged s (Counted.counting s n) := ⟨n, rfl⟩

theorem Unchanged.trans {s t u : σ} (first : Unchanged s t) (second : Unchanged t u) :
    Unchanged s u := by
  obtain ⟨m, rfl⟩ := first
  obtain ⟨n, rfl⟩ := second
  exact ⟨m + n, counting_counting s m n⟩

instance : Std.Refl (Unchanged (σ := σ)) := ⟨Unchanged.refl⟩

instance : Trans (Unchanged (σ := σ)) Unchanged Unchanged := ⟨Unchanged.trans⟩

section

variable {x : Action σ ε α} {s : σ}

theorem Atomic.unchanged {e : ε} (h : x.Atomic s) (failed : (x.run s).1 = .error e) :
    Unchanged s (x.run s).2 :=
  h e _ (run_eq failed)

theorem Atomic.of_ok {t : σ} {a : α} (done : x.run s = (.ok a, t)) : x.Atomic s := by
  intro e t' failed
  rw [done] at failed
  cases failed

theorem Atomic.of_counted {n : Nat} (same : (x.run s).2 = counting s n) : x.Atomic s := by
  intro e t failed
  rw [failed] at same
  exact ⟨n, same⟩

theorem Atomic.of_error {e : ε} {n : Nat} (stopped : x.run s = (.error e, counting s n)) :
    x.Atomic s :=
  .of_counted (congrArg Prod.snd stopped)

theorem Keeps.atomic (h : Keeps Unchanged x) : x.Atomic s := by
  intro e t failed
  have kept := h s
  rw [failed] at kept
  exact kept

theorem Does.atomic {a : α} {change : σ → σ} (h : x.Does s (.ok a) change) : x.Atomic s := by
  obtain ⟨n, e, stopped⟩ | ⟨n, done⟩ := h.cases
  · exact .of_error stopped
  · exact .of_ok done

theorem Answers.atomic {r : Except ε α} (h : x.Answers s r) : x.Atomic s := by
  cases r with
  | ok a => exact Does.atomic h
  | error e =>
      obtain ⟨n, e', stopped⟩ := h.refused
      exact .of_error stopped

theorem Atomic.map (h : x.Atomic s) (f : α → β) : (f <$> x).Atomic s := by
  rcases outcome : x.run s with ⟨e | a, t⟩
  · obtain ⟨n, rfl⟩ := h e t outcome
    exact .of_error (e := e) (n := n) (by rw [run_map, outcome]; rfl)
  · exact .of_ok (a := f a) (t := t) (by rw [run_map, outcome]; rfl)

end

theorem keeps_unchanged_of_answers {x : Action σ ε α} {r : σ → Except ε α}
    (h : ∀ s, x.Answers s (r s)) : Keeps Unchanged x := by
  intro s
  obtain ⟨n, e, stopped⟩ | ⟨n, done⟩ := (h s).cases
  · rw [stopped]
    exact .counting s n
  · rw [done]
    exact .counting s n

end Action

open TimestampChain.Action

namespace Controller

/-! ## Looking something up -/

theorem getBlock_unchanged (id : BlockId) : Keeps Unchanged (getBlock id) :=
  keeps_unchanged_of_answers (getBlock_answers id)

theorem lastAccepted_unchanged : Keeps Unchanged lastAccepted :=
  keeps_unchanged_of_answers lastAccepted_answers

theorem parseBlock_unchanged (bytes : Bytes) : Keeps Unchanged (parseBlock bytes) :=
  parseBlock_keeps getBlock_unchanged bytes

theorem healthCheck_unchanged : Keeps Unchanged healthCheck := by
  refine keeps_state fun c => ?_
  cases c.store.closed <;> exact Unchanged.refl c

theorem service_getBlock_unchanged (id : Option String) : Keeps Unchanged (Service.getBlock id) := by
  cases id with
  | none =>
      refine Keeps.bind lastAccepted_unchanged fun id => ?_
      exact Keeps.bind (getBlock_unchanged id) fun block => keeps_pure _
  | some text =>
      refine Keeps.bind (keeps_ofExcept _) fun id => ?_
      exact Keeps.bind (getBlock_unchanged id) fun block => keeps_pure _

/-! ## Queueing and building -/

variable {c : Controller}

theorem propose_atomic (data : Bytes) (c : Controller) : (propose data).Atomic c := by
  cases fits : Payload.ofData data with
  | error cause => exact .of_error (n := 0) (propose_of_long fits c)
  | ok payload => exact .of_ok (propose_of_payload fits c)

theorem build_atomic (c : Controller) : build.Atomic c := fun _ _ failed => build_of_error failed

theorem service_propose_atomic (text : String) (c : Controller) : (Service.propose text).Atomic c := by
  unfold Service.propose
  cases (Service.decodeText text).mapError fun e =>
      ControllerError.badRequest s!"couldn't decode data: {e.message}" with
  | error e => exact .of_error (e := e) (n := 0) rfl
  | ok data => exact (propose_atomic data c).map fun _ => ProposalReply.mk true

/-! ## Verifying and deciding -/

theorem verify_atomic (block : Block) (c : Controller) : (verify block).Atomic c := by
  rcases verify_cases block c with ⟨n, same⟩ | ⟨-, n, done⟩
  · exact .of_counted same
  · exact .of_ok done

theorem accept_atomic (block : Block) (quiet : c.store.staged = .empty) : (accept block).Atomic c := by
  rcases accept_cases block quiet with ⟨n, e, failed⟩ | ⟨-, done⟩ | ⟨-, -, n, done⟩ |
    ⟨-, -, -, d, -, done⟩
  · exact .of_error failed
  · exact .of_ok done
  · exact .of_ok done
  · exact .of_ok done

theorem reject_atomic (block : Block) (c : Controller) : (reject block).Atomic c := by
  cases status : block.status with
  | accepted => exact .of_error (n := 0) (reject_of_accepted status c)
  | rejected => exact .of_ok (reject_of_rejected status c)
  | processing =>
      cases holds : c.store.holds block.id with
      | error cause => exact (reject_of_unread status holds).atomic
      | ok found =>
          cases found with
          | true => exact (reject_of_stored status holds).atomic
          | false => exact (reject_of_unstored status holds).atomic

theorem shutdown_atomic (quiet : c.store.staged = .empty) : shutdown.Atomic c := by
  rcases shutdown_cases quiet with ⟨n, same⟩ | ⟨-, done⟩
  · exact .of_counted same
  · exact .of_ok done

end Controller

/-! ## The instance that is decided -/

namespace Decision

def SameInstance (d d' : Decision) : Prop := d'.block = d.block

instance : Std.Refl SameInstance := ⟨fun _ => rfl⟩

def Returns {α : Type} (x : Step α) : Prop := ∀ d e d', x.run d = (.error e, d') → d.SameInstance d'

section

variable {α β : Type} {x : Step α} {g : α → Step β}

theorem Returns.of_keeps (h : Keeps SameInstance x) : Returns x := by
  intro d e d' failed
  have kept := h d
  rw [failed] at kept
  exact kept

theorem Returns.bind (first : Keeps SameInstance x) (next : ∀ a, Returns (g a)) :
    Returns (x >>= g) := by
  intro d e d' failed
  have kept := first d
  rcases run_bind_cases x g d with ⟨e', t, here, whole⟩ | ⟨a, t, here, whole⟩
  · rw [here] at kept
    cases whole.symm.trans failed
    exact kept
  · rw [here] at kept
    exact (next a t e d' (whole.symm.trans failed)).trans kept

/-- What cannot fail may change the instance. -/
theorem Returns.bind_total (first : Returns x)
    (next : ∀ a d, ∃ b d', (g a).run d = (.ok b, d')) : Returns (x >>= g) := by
  intro d e d' failed
  rcases run_bind_cases x g d with ⟨_, _, here, whole⟩ | ⟨a, t, here, whole⟩
  · cases whole.symm.trans failed
    exact first d e d' here
  · obtain ⟨b, t', done⟩ := next a t
    cases (whole.trans done).symm.trans failed

theorem onController_keeps_instance (x : Controller.Step α) : Keeps SameInstance (onController x) := by
  intro d
  rw [run_onController]
  rfl

end

theorem transition_returns (target : Status) : Returns (transition target) := by
  intro d e d' failed
  rw [transition, run_within, Block.transition, run_bind_ok (run_state _)] at failed
  cases checked : d.block.checkTransition target with
  | error cause =>
      rw [checked] at failed
      cases failed
      rfl
  | ok changed =>
      rw [checked] at failed
      cases changed <;> cases failed

theorem isStoredElsewhere_keeps_instance : Keeps SameInstance isStoredElsewhere := by
  refine keeps_state fun d => ?_
  split
  · exact onController_keeps_instance _ d
  · rfl

theorem finishAccept_returns : Returns finishAccept :=
  (transition_returns .accepted).bind_total fun _ _ => ⟨_, _, rfl⟩

theorem accept_returns : Returns accept := by
  refine Returns.bind isStoredElsewhere_keeps_instance fun stored => ?_
  refine Returns.bind (keeps_state fun d => rfl) fun d => ?_
  cases stored with
  | true => exact (transition_returns .accepted).bind_total fun _ _ => ⟨_, _, rfl⟩
  | false =>
      refine Returns.bind (onController_keeps_instance _).attempt fun outcome => ?_
      split
      · exact finishAccept_returns
      · exact .of_keeps (keeps_pure _)
      · exact .of_keeps (onController_keeps_instance _)

theorem reject_returns : Returns reject := by
  refine Returns.bind (keeps_state fun d => rfl) fun d => ?_
  split
  · exact .of_keeps (keeps_fail _)
  · exact .of_keeps (onController_keeps_instance _)
  · refine Returns.bind (onController_keeps_instance _) fun stored => ?_
    cases stored with
    | true => exact .of_keeps (keeps_fail _)
    | false =>
        refine Returns.bind (onController_keeps_instance _) fun _ => ?_
        exact (transition_returns .rejected).bind_total fun _ _ => ⟨_, _, rfl⟩

theorem deciding_of_error {x : Step Unit} {block : Block} {c : Controller} {e : ControllerError}
    (failed : (x.run ⟨block, c⟩).1 = .error e) : ((deciding block x).run c).1 = .error e := by
  rw [run_deciding, failed]
  rfl

theorem run_of_deciding_ok {x : Step Unit} {block decided : Block} {c d : Controller}
    (done : (deciding block x).run c = (.ok decided, d)) :
    x.run ⟨block, c⟩ = (.ok (), ⟨decided, d⟩) := by
  rw [run_deciding] at done
  rcases outcome : x.run ⟨block, c⟩ with ⟨e | a, last⟩ <;> rw [outcome] at done <;> cases done
  rfl

theorem run_of_deciding_error {x : Step Unit} (returns : Returns x) {block : Block}
    {c d : Controller} {e : ControllerError} (failed : (deciding block x).run c = (.error e, d)) :
    x.run ⟨block, c⟩ = (.error e, ⟨block, d⟩) := by
  rw [run_deciding] at failed
  rcases outcome : x.run ⟨block, c⟩ with ⟨e' | a, last⟩ <;> rw [outcome] at failed <;> cases failed
  have same : last.block = block := returns _ _ _ outcome
  rw [← same]

theorem atomic_of_deciding {x : Step Unit} {block : Block} {c : Controller} (returns : Returns x)
    (h : (deciding block x).Atomic c) : x.Atomic ⟨block, c⟩ := by
  intro e d failed
  have same : d.block = block := returns _ _ _ failed
  obtain ⟨n, counted⟩ := h.unchanged (deciding_of_error (congrArg Prod.fst failed))
  rw [run_deciding, failed] at counted
  refine ⟨n, ?_⟩
  rw [← same]
  exact congrArg (Decision.mk d.block) counted

end Decision

/-! ## Every call but one -/

namespace Controller

variable {c : Controller}

theorem perform_atomic {call : Call} (other : ∀ data, call ≠ .bootstrap data)
    (quiet : c.store.staged = .empty) : call.perform.Atomic c := by
  cases call with
  | bootstrap data => exact absurd rfl (other data)
  | propose data => exact (propose_atomic data c).map _
  | build => exact (build_atomic c).map _
  | parse bytes => exact (parseBlock_unchanged bytes).atomic.map _
  | get id => exact (getBlock_unchanged id).atomic.map _
  | verify block => exact (verify_atomic block c).map _
  | accept block => exact (accept_atomic block quiet).map _
  | reject block => exact (reject_atomic block c).map _
  | prefer id => exact .of_ok rfl
  | setState state => exact .of_ok rfl
  | lastAccepted => exact lastAccepted_unchanged.atomic.map _
  | notify => exact .of_ok rfl
  | healthCheck => exact healthCheck_unchanged.atomic.map _
  | shutdown => exact (shutdown_atomic quiet).map _

/-- Behind every course of events, nothing is staged, and whatever is asked of the controller, a
failure leaves it as it was. That holds of every call but the one that sets the chain up, of the
instances that are decided, and of the requests of clients. -/
theorem atomic_follow (b : Backend) (channel : Channel) (clock : Clock) (events : List Event) :
    ((ofBackend b channel clock).follow events).store.staged = .empty ∧
      (∀ call : Call, (∀ data, call ≠ .bootstrap data) →
        call.perform.Atomic ((ofBackend b channel clock).follow events)) ∧
      (∀ block, Decision.accept.Atomic ⟨block, (ofBackend b channel clock).follow events⟩ ∧
        Decision.reject.Atomic ⟨block, (ofBackend b channel clock).follow events⟩) ∧
      (∀ text, (Service.propose text).Atomic ((ofBackend b channel clock).follow events)) ∧
      ∀ id, (Service.getBlock id).Atomic ((ofBackend b channel clock).follow events) := by
  have quiet := (tidy_follow b channel clock events).quiet
  refine ⟨quiet, fun call other => perform_atomic other quiet, fun block => ⟨?_, ?_⟩, ?_, ?_⟩
  · exact Decision.atomic_of_deciding Decision.accept_returns (accept_atomic block quiet)
  · exact Decision.atomic_of_deciding Decision.reject_returns (reject_atomic block _)
  · exact fun text => service_propose_atomic text _
  · exact fun id => (service_getBlock_unchanged id).atomic

end Controller

end TimestampChain

namespace TimestampChain.Sample

/-- What comes before a failing write: two siblings are verified, and then the backend writes no
more. -/
def jam : List Event := events.take 4 ++ [
  .surround (.ofDepth 1) (.still 20) (.byRequest (fun _ => none) (some "no space") none)]

end TimestampChain.Sample

namespace TimestampChain.Controller

theorem accept_jammed_unchanged :
    ((accept Sample.child).run (Sample.start.follow Sample.jam)).1 =
        .error (.store (.medium "no space")) ∧
      Action.Unchanged (Sample.start.follow Sample.jam)
        ((Sample.start.follow Sample.jam).afterCall (.accept Sample.child)) ∧
      Action.Unchanged (⟨Sample.child, Sample.start.follow Sample.jam⟩ : Decision)
        (Decision.accept.run ⟨Sample.child, Sample.start.follow Sample.jam⟩).2 := by
  have refused : (Decision.accept.run ⟨Sample.child, Sample.start.follow Sample.jam⟩).1 =
      .error (.store (.medium "no space")) := by decide +kernel
  have failed : ((accept Sample.child).run (Sample.start.follow Sample.jam)).1 =
      .error (.store (.medium "no space")) := Decision.deciding_of_error refused
  have whole : ((Call.accept Sample.child).perform.run (Sample.start.follow Sample.jam)).1 =
      .error (.store (.medium "no space")) := by
    rw [Call.perform, Action.run_map, failed]
    rfl
  obtain ⟨-, calls, decisions, -⟩ :=
    atomic_follow Sample.backend (.ofDepth 1) (.still 20) Sample.jam
  rw [← Sample.start] at calls decisions
  refine ⟨failed, ?_, ?_⟩
  · rw [afterCall]
    exact (calls (.accept Sample.child) fun data same => by cases same).unchanged whole
  · exact (decisions Sample.child).1.unchanged refused

end TimestampChain.Controller
