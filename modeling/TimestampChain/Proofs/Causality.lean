import TimestampChain.Proofs.Controller.Acceptance

/-!
# Actions that do not look ahead

Which requests fail is fixed in advance by a policy, but an action learns of it only through the
requests that it makes. Under two policies that agree on these requests it runs alike. So the run
under a policy that fails every request from some number on shows what a run has left behind when
it is stopped at that request.
-/

namespace TimestampChain

class Asking (σ : Type) where
  /-- The number of requests so far. -/
  asked : σ → Nat
  /-- Which requests fail. -/
  policy : σ → FaultPolicy
  /-- The state under another policy. -/
  under : FaultPolicy → σ → σ

namespace Action

open Asking

variable {σ τ ε δ α β : Type} [Asking σ] [Asking τ]

/-- A run of the action depends on the policy only at the requests that it makes. -/
structure Causal (x : Action σ ε α) : Prop where
  asked_le : ∀ s, asked s ≤ asked (x.run s).2
  policy_eq : ∀ s, policy (x.run s).2 = policy s
  run_under : ∀ s f, (∀ number < asked (x.run s).2, f number = policy s number) →
    x.run (under f s) = ((x.run s).1, under f (x.run s).2)

theorem causal_ofExcept (r : Except ε α) : (ofExcept r : Action σ ε α).Causal :=
  ⟨fun _ => Nat.le_refl _, fun _ => rfl, fun _ _ _ => rfl⟩

theorem causal_pure (a : α) : (pure a : Action σ ε α).Causal := causal_ofExcept (.ok a)

theorem causal_fail (e : ε) : (fail e : Action σ ε α).Causal := causal_ofExcept (.error e)

theorem causal_update {g : σ → σ} (asked_eq : ∀ s, asked (g s) = asked s)
    (policy_eq : ∀ s, policy (g s) = policy s)
    (under_eq : ∀ f s, g (under f s) = under f (g s)) : (update g : Action σ ε Unit).Causal :=
  ⟨fun s => Nat.le_of_eq (asked_eq s).symm, policy_eq, fun s f _ => congrArg (Prod.mk _) (under_eq f s)⟩

theorem Causal.attempt {x : Action σ ε α} (h : x.Causal) :
    (x.attempt : Action σ δ (Except ε α)).Causal := by
  refine ⟨h.asked_le, h.policy_eq, fun s f agree => ?_⟩
  rw [run_attempt, run_attempt, h.run_under s f agree]

theorem Causal.mapError {x : Action σ ε α} (h : x.Causal) (wrap : ε → δ) :
    (x.mapError wrap).Causal := by
  refine ⟨h.asked_le, h.policy_eq, fun s f agree => ?_⟩
  rw [run_mapError, run_mapError, h.run_under s f agree]

theorem Causal.bind {x : Action σ ε α} {g : α → Action σ ε β} (first : x.Causal)
    (next : ∀ a, (g a).Causal) : (x >>= g).Causal := by
  refine ⟨fun s => ?_, fun s => ?_, fun s f agree => ?_⟩
  · have before := first.asked_le s
    rcases run_bind_cases x g s with ⟨e, t, here, whole⟩ | ⟨a, t, here, whole⟩
    · rw [here] at before
      rw [whole]
      exact before
    · rw [here] at before
      rw [whole]
      exact Nat.le_trans before ((next a).asked_le t)
  · have before := first.policy_eq s
    rcases run_bind_cases x g s with ⟨e, t, here, whole⟩ | ⟨a, t, here, whole⟩
    · rw [here] at before
      rw [whole]
      exact before
    · rw [here] at before
      rw [whole]
      exact ((next a).policy_eq t).trans before
  · have before := first.run_under s f
    rcases run_bind_cases x g s with ⟨e, t, here, whole⟩ | ⟨a, t, here, whole⟩
    · rw [here] at before
      rw [whole] at agree ⊢
      exact run_bind_error (before agree)
    · have kept := first.policy_eq s
      have later := (next a).asked_le t
      rw [here] at before kept
      rw [whole] at agree ⊢
      -- The requests of the first action are among those of both, so the policies agree on them.
      have first_run := before fun number below => agree number (Nat.lt_of_lt_of_le below later)
      rw [run_bind_ok first_run]
      refine (next a).run_under t f fun number below => ?_
      rw [agree number below, ← kept]

/-- What is done next may be chosen by looking at the state, but not at the policy. -/
theorem causal_state {g : σ → Action σ ε β} (next : ∀ s, (g s).Causal)
    (blind : ∀ f s, g (under f s) = g s) : (state >>= g).Causal := by
  refine ⟨fun s => (next s).asked_le s, fun s => (next s).policy_eq s, fun s f agree => ?_⟩
  rw [run_bind_ok (run_state _), run_bind_ok (run_state _), blind]
  exact (next s).run_under s f agree

theorem Causal.within {view : σ → τ} {put : σ → τ → σ} {x : Action τ ε α} (h : x.Causal)
    (wrap : ε → δ) (asked_view : ∀ s, asked (view s) = asked s)
    (policy_view : ∀ s, policy (view s) = policy s) (asked_put : ∀ s t, asked (put s t) = asked t)
    (policy_put : ∀ s t, policy (put s t) = policy t)
    (view_under : ∀ f s, view (under f s) = under f (view s))
    (put_under : ∀ f s t, put (under f s) (under f t) = under f (put s t)) :
    (x.within view put wrap).Causal := by
  refine ⟨fun s => ?_, fun s => ?_, fun s f agree => ?_⟩
  · rw [run_within, asked_put, ← asked_view]
    exact h.asked_le (view s)
  · rw [run_within, policy_put, h.policy_eq, policy_view]
  · rw [run_within, asked_put] at agree
    have inner := h.run_under (view s) f fun number below => by
      rw [agree number below, policy_view]
    rw [run_within, run_within, view_under, inner, put_under]

end Action

/-! ## Requests -/

open TimestampChain.Action

instance : Asking Backend where
  asked b := b.requests
  policy b := b.faults
  under f b := { b with faults := f }

instance : Asking ChainState where
  asked s := s.backend.requests
  policy s := s.backend.faults
  under f s := { s with backend := Asking.under f s.backend }

instance : Asking Controller where
  asked c := c.store.backend.requests
  policy c := c.store.backend.faults
  under f c := { c with store := Asking.under f c.store }

instance : Asking Decision where
  asked d := d.controller.store.backend.requests
  policy d := d.controller.store.backend.faults
  under f d := { d with controller := Asking.under f d.controller }

namespace Backend

theorem causal_answer (request : Request) : (answer request).Causal := by
  have counted : ∀ b : Backend, ((answer request).run b).2 = b.counting 1 := by
    intro b
    rw [run_answer]
    cases b.faults b.requests request <;> rfl
  refine ⟨fun b => ?_, fun b => ?_, fun b f agree => ?_⟩
  · rw [counted]
    exact Nat.le_succ b.requests
  · rw [counted]
    rfl
  · rw [counted] at agree
    have here : (Asking.under f b).faults (Asking.under f b).requests request =
        b.faults b.requests request := congrFun (agree b.requests (Nat.lt_succ_self _)) request
    rw [run_answer, run_answer, here]
    cases b.faults b.requests request <;> rfl

theorem causal_get (key : Bytes) : (get key).Causal := by
  refine (causal_answer _).bind fun _ => ?_
  exact causal_state (fun b => causal_pure _) fun _ _ => rfl

theorem causal_write (batch : Batch) : (write batch).Causal :=
  (causal_answer _).bind fun _ => causal_update (fun _ => rfl) (fun _ => rfl) fun _ _ => rfl

end Backend

/-! ## The stored chain -/

namespace ChainState

theorem causal_onBackend {α : Type} {x : Action Backend StoreError α} (h : x.Causal) :
    (onBackend x).Causal :=
  h.within id (fun _ => rfl) (fun _ => rfl) (fun _ _ => rfl) (fun _ _ => rfl) (fun _ _ => rfl)
    fun _ _ _ => rfl

theorem causal_ensureOpen : ensureOpen.Causal := by
  refine causal_state (fun s => ?_) fun _ _ => rfl
  cases s.closed with
  | true => exact causal_fail _
  | false => exact causal_pure _

theorem causal_read (key : Bytes) : (read key).Causal := by
  refine causal_ensureOpen.bind fun _ => causal_state (fun s => ?_) fun _ _ => rfl
  cases s.staged.get? key with
  | some value => exact causal_pure _
  | none => exact causal_onBackend (Backend.causal_get key)

theorem causal_stage (key value : Bytes) : (stage key value).Causal :=
  causal_ensureOpen.bind fun _ => causal_update (fun _ => rfl) (fun _ => rfl) fun _ _ => rfl

theorem causal_isInitialized : isInitialized.Causal :=
  (causal_read _).bind fun _ => causal_pure _

theorem causal_hasBlock (id : BlockId) : (hasBlock id).Causal :=
  (causal_read _).bind fun _ => causal_pure _

theorem causal_putBlock (block : Block) : (putBlock block).Causal := by
  refine (causal_read _).bind fun value => ?_
  cases value with
  | none => exact causal_stage _ _
  | some bytes =>
      dsimp only
      split
      · exact causal_pure _
      · exact causal_fail _

theorem causal_getBlock (id : BlockId) : (getBlock id).Causal := by
  refine (causal_read _).bind fun value => ?_
  cases value with
  | none => exact causal_fail _
  | some bytes => exact causal_ofExcept _

theorem causal_lastAccepted : lastAccepted.Causal := by
  refine (causal_read _).bind fun value => ?_
  cases value with
  | none => exact causal_fail _
  | some bytes =>
      dsimp only
      cases Bytes32.ofBytes? bytes with
      | some id => exact causal_pure _
      | none => exact causal_fail _

theorem causal_commit : commit.Causal := by
  refine causal_ensureOpen.bind fun _ => causal_state (fun s => ?_) fun _ _ => rfl
  cases s.staged.isEmpty with
  | true => exact causal_pure _
  | false =>
      have cleared : (update fun s : ChainState => { s with staged := .empty } :
          Step Unit).Causal := causal_update (fun _ => rfl) (fun _ => rfl) fun _ _ => rfl
      exact cleared.bind fun _ => causal_onBackend (Backend.causal_write _)

theorem causal_abort : abort.Causal :=
  causal_update (fun _ => rfl) (fun _ => rfl) fun _ _ => rfl

end ChainState

/-! ## Accepting and setting up -/

namespace Controller

theorem causal_onStore {α : Type} {x : ChainState.Step α} (h : x.Causal) : (onStore x).Causal :=
  h.within ControllerError.ofStore (fun _ => rfl) (fun _ => rfl) (fun _ _ => rfl) (fun _ _ => rfl)
    (fun _ _ => rfl) fun _ _ _ => rfl

theorem causal_getBlock (id : BlockId) : (getBlock id).Causal := by
  refine causal_state (fun c => ?_) fun _ _ => rfl
  cases c.verified? id with
  | some block => exact causal_pure _
  | none => exact causal_onStore (ChainState.causal_getBlock id)

theorem causal_checkExtension (block : Block) : (checkExtension block).Causal := by
  refine ((causal_getBlock block.parent).mapError _).bind fun parent => ?_
  refine (causal_ofExcept _).bind fun _ => ?_
  refine (causal_onStore ChainState.causal_lastAccepted).bind fun last => ?_
  split
  · exact causal_pure _
  · exact causal_fail _

theorem causal_stageAccept (block : Block) : (stageAccept block).Causal := by
  have stage : (stageLast block).Causal := by
    refine (causal_onStore (ChainState.causal_putBlock block)).bind fun _ => ?_
    exact (causal_onStore (ChainState.causal_stage _ _)).bind fun _ => causal_pure _
  refine (causal_ofExcept _).bind fun changed => ?_
  cases changed with
  | false => exact causal_pure _
  | true =>
      refine (causal_onStore ChainState.causal_isInitialized).bind fun initialized => ?_
      cases initialized with
      | false => exact stage
      | true => exact (causal_checkExtension block).bind fun _ => stage

theorem causal_commitAccept (block : Block) : (commitAccept block).Causal := by
  refine (causal_stageAccept block).bind fun changed => ?_
  cases changed with
  | false => exact causal_pure _
  | true => exact (causal_onStore ChainState.causal_commit).bind fun _ => causal_pure _

theorem causal_abandon {α : Type} (e : ControllerError) : (abandon e : Step α).Causal :=
  (causal_onStore ChainState.causal_abort).bind fun _ => causal_fail _

theorem causal_forget (id : BlockId) : (forget id).Causal :=
  causal_update (fun _ => rfl) (fun _ => rfl) fun _ _ => rfl

end Controller

namespace Decision

theorem causal_onController {α : Type} {x : Controller.Step α} (h : x.Causal) :
    (onController x).Causal :=
  h.within id (fun _ => rfl) (fun _ => rfl) (fun _ _ => rfl) (fun _ _ => rfl) (fun _ _ => rfl)
    fun _ _ _ => rfl

theorem causal_transition (target : Status) : (transition target).Causal :=
  ⟨fun _ => Nat.le_refl _, fun _ => rfl, fun _ _ _ => rfl⟩

theorem causal_finishAccept : finishAccept.Causal := by
  refine (causal_transition .accepted).bind fun _ => causal_state (fun d => ?_) fun _ _ => rfl
  have preferred : (update fun c : Controller => { c with preferred := d.block.id } :
      Controller.Step Unit).Causal := causal_update (fun _ => rfl) (fun _ => rfl) fun _ _ => rfl
  refine (causal_onController preferred).bind fun _ => ?_
  exact causal_onController (Controller.causal_forget _)

theorem causal_isStoredElsewhere : isStoredElsewhere.Causal := by
  refine causal_state (fun d => ?_) fun _ _ => rfl
  split
  · exact causal_onController (Controller.causal_onStore (ChainState.causal_hasBlock _))
  · exact causal_pure _

theorem causal_accept : accept.Causal := by
  refine causal_isStoredElsewhere.bind fun stored => causal_state (fun d => ?_) fun _ _ => rfl
  cases stored with
  | true =>
      refine (causal_transition .accepted).bind fun _ => ?_
      exact causal_onController (Controller.causal_forget _)
  | false =>
      have commit := causal_onController (Controller.causal_commitAccept d.block)
      refine commit.attempt.bind fun outcome => ?_
      split
      · exact causal_finishAccept
      · exact causal_pure _
      · exact causal_onController (Controller.causal_abandon _)

theorem causal_deciding {x : Step Unit} (h : x.Causal) (block : Block) :
    (deciding block x).Causal := by
  refine ⟨fun c => h.asked_le ⟨block, c⟩, fun c => h.policy_eq ⟨block, c⟩, fun c f agree => ?_⟩
  have inner := h.run_under ⟨block, c⟩ f agree
  have moved : x.run ⟨block, Asking.under f c⟩ = _ := inner
  rw [run_deciding, run_deciding, moved]
  rfl

end Decision

namespace Controller

theorem causal_accept (block : Block) : (accept block).Causal :=
  Decision.causal_deciding Decision.causal_accept block

theorem causal_commitGenesis (genesis : Block) : (commitGenesis genesis).Causal := by
  refine (causal_stageAccept genesis).bind fun _ => ?_
  refine (causal_onStore (ChainState.causal_stage _ _)).bind fun _ => ?_
  exact causal_onStore ChainState.causal_commit

theorem causal_initGenesis (data : Bytes) : (initGenesis data).Causal := by
  refine (causal_onStore ChainState.causal_isInitialized).bind fun initialized => ?_
  split
  · exact causal_pure _
  · split
    · exact causal_fail _
    · refine (causal_ofExcept _).bind fun genesis => ?_
      refine (causal_commitGenesis genesis).attempt.bind fun outcome => ?_
      split
      · exact causal_abandon _
      · have finished := Decision.causal_deciding Decision.causal_finishAccept genesis
        exact finished.bind fun _ => causal_pure _

end Controller

end TimestampChain
