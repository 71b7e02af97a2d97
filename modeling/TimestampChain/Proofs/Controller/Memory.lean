import TimestampChain.Proofs.Controller.Acceptance
import TimestampChain.Proofs.Frames

/-!
# Operations that write nothing

Queueing, building, parsing, looking up and the settings of the engine leave the chain and the
verified blocks alone. Verifying and rejecting change the verified blocks and nothing else.
-/

namespace TimestampChain

namespace Decision

open TimestampChain.Action

instance : Counted Decision ControllerError where
  counting d n := { d with controller := d.controller.counting n }
  Fails d n e := Counted.Fails d.controller n e
  counting_zero _ := rfl
  counting_counting d m n := by simp
  mono := Counted.mono
  later := Counted.later

theorem onController_answers {α : Type} {x : Controller.Step α} {d : Decision}
    {r : Except ControllerError α} (h : x.Answers d.controller r) : (onController x).Answers d r := by
  obtain ⟨n, done | ⟨e, fails, stopped⟩⟩ := h
  · exact ⟨n, Or.inl (by rw [run_onController, done]; rfl)⟩
  · exact ⟨n, Or.inr ⟨e, fails, by rw [run_onController, stopped]; rfl⟩⟩

theorem deciding_does {x : Step Unit} {block decided : Block} {c : Controller}
    {r : Except ControllerError Unit} (change : Controller → Controller)
    (h : x.Does ⟨block, c⟩ r fun d => ⟨decided, change d.controller⟩) :
    (deciding block x).Does c (r.map fun _ => decided) change := by
  obtain ⟨n, done | ⟨e, fails, stopped⟩⟩ := h
  · exact ⟨n, Or.inl (by rw [run_deciding, done]; rfl)⟩
  · exact ⟨n, Or.inr ⟨e, fails, by rw [run_deciding, stopped]; rfl⟩⟩

end Decision

namespace Controller

open TimestampChain.Action

/-! ## What queueing, building and parsing are made of -/

section

variable {R : Controller → Controller → Prop} [Std.Refl R] [Trans R R R]
  (works : ∀ c queue channel clock, R c { c with mempool := queue, channel := channel, clock := clock })
  (looks : ∀ id, Keeps R (getBlock id))

include works in
theorem propose_keeps (data : Bytes) : Keeps R (propose data) := by
  refine Keeps.bind (keeps_ofExcept _) fun payload => ?_
  refine Keeps.bind (fun c => works c (c.mempool.push payload) c.channel c.clock) fun _ => ?_
  exact fun c => works c c.mempool c.channel.notify.2 c.clock

include works looks in
theorem compose_keeps (payload : Payload) : Keeps R (compose payload) := by
  refine keeps_state fun c => ?_
  refine Keeps.bind ((looks c.preferred).mapError _) (fun parent => ?_) c
  split
  · exact keeps_fail _
  · refine Keeps.bind (fun c => works c c.mempool c.channel c.clock.tick) fun now => ?_
    exact Keeps.bind (keeps_ofExcept _) fun _ => keeps_pure _

include works looks in
theorem build_keeps : Keeps R build := by
  refine keeps_state fun c => ?_
  cases c.mempool.pop? with
  | none => exact Std.Refl.refl c
  | some waiting =>
      obtain ⟨payload, rest⟩ := waiting
      refine Keeps.bind (fun c => works c rest c.channel c.clock) (fun _ => ?_) c
      refine Keeps.bind (compose_keeps works looks payload).attempt fun outcome => ?_
      cases outcome with
      | ok block =>
          dsimp only
          split
          · exact keeps_pure _
          · exact Keeps.bind (fun c => works c c.mempool c.channel.notify.2 c.clock) fun _ => keeps_pure _
      | error e =>
          refine Keeps.bind (fun c => ?_) fun _ => keeps_fail _
          exact works c (c.mempool.pushFront payload) c.channel c.clock

include looks in
theorem parseBlock_keeps (bytes : Bytes) : Keeps R (parseBlock bytes) := by
  refine Keeps.bind (keeps_ofExcept _) fun block => ?_
  refine Keeps.bind (looks block.id).attempt fun outcome => ?_
  split
  · exact keeps_pure _
  · exact keeps_pure _
  · exact keeps_fail _

end

/-! ## Operations that leave the verified blocks alone -/

/-- Only requests have been counted, and the verified blocks are the same. -/
structure Spares (c d : Controller) : Prop where
  store : ∃ n, d.store = c.store.counting n
  verified : d.verified = c.verified

theorem Spares.refl (c : Controller) : c.Spares c := ⟨⟨0, rfl⟩, rfl⟩

theorem Spares.trans {c d e : Controller} (first : c.Spares d) (second : d.Spares e) :
    c.Spares e := by
  obtain ⟨m, before⟩ := first.store
  obtain ⟨n, behind⟩ := second.store
  refine ⟨⟨m + n, ?_⟩, second.verified.trans first.verified⟩
  rw [behind, before, ChainState.counting_counting]

instance : Std.Refl Spares := ⟨Spares.refl⟩

instance : Trans Spares Spares Spares := ⟨Spares.trans⟩

theorem Spares.counting (c : Controller) (n : Nat) : c.Spares (c.counting n) := ⟨⟨n, rfl⟩, rfl⟩

theorem spares_of_answers {α : Type} {x : Step α} {r : Controller → Except ControllerError α}
    (h : ∀ c, x.Answers c (r c)) : Keeps Spares x := by
  intro c
  obtain ⟨n, done | ⟨e, _, stopped⟩⟩ := h c
  · rw [done]
    exact Spares.counting c n
  · rw [stopped]
    exact Spares.counting c n

theorem getBlock_spares (id : BlockId) : Keeps Spares (getBlock id) :=
  spares_of_answers (getBlock_answers id)

theorem lastAccepted_spares : Keeps Spares lastAccepted := spares_of_answers lastAccepted_answers

theorem notify_spares : Keeps Spares notify := fun _ => ⟨⟨0, rfl⟩, rfl⟩

theorem setPreference_spares (id : BlockId) : Keeps Spares (setPreference id) :=
  fun _ => ⟨⟨0, rfl⟩, rfl⟩

theorem setState_spares (state : EngineState) : Keeps Spares (setState state) :=
  fun _ => ⟨⟨0, rfl⟩, rfl⟩

theorem healthCheck_spares : Keeps Spares healthCheck := by
  refine keeps_state fun c => ?_
  cases c.store.closed <;> exact Spares.refl c

theorem propose_spares (data : Bytes) : Keeps Spares (propose data) :=
  propose_keeps (fun _ _ _ _ => ⟨⟨0, rfl⟩, rfl⟩) data

theorem build_spares : Keeps Spares build :=
  build_keeps (fun _ _ _ _ => ⟨⟨0, rfl⟩, rfl⟩) getBlock_spares

theorem parseBlock_spares (bytes : Bytes) : Keeps Spares (parseBlock bytes) :=
  parseBlock_keeps getBlock_spares bytes

/-! ## Verifying -/

def verification (c : Controller) (block : Block) : Except ControllerError Bool :=
  match block.status with
  | .accepted => .ok false
  | .rejected => .error (.invalidBlock "block was rejected")
  | .processing => do
    let stored ← (c.store.holds block.id).mapError .ofStore
    if stored then return false
    else
      let parent ← c.findParent block.parent
      checkChild parent block
      return true

def judge (block : Block) : Step Bool :=
  match block.status with
  | .accepted => return false
  | .rejected => fail (.invalidBlock "block was rejected")
  | .processing => do
    let stored ← onStore (ChainState.hasBlock block.id)
    if stored then return false
    else
      let parent ← resolveParent block.parent
      ofExcept (checkChild parent block)
      return true

def remembering (c : Controller) (block : Block) : Controller :=
  { c with verified := c.verified.insert block.id.toBytes block }

theorem judge_answers (block : Block) (c : Controller) :
    (judge block).Answers c (c.verification block) := by
  unfold judge verification
  cases block.status with
  | accepted => exact answers_pure _ _
  | rejected => exact answers_fail _ _
  | processing =>
      refine (onStore_answers (ChainState.hasBlock_answers block.id c.store)).bind fun stored n _ => ?_
      cases stored with
      | true => exact answers_pure _ _
      | false =>
          refine (resolveParent_answers block.parent _).bind fun parent m _ => ?_
          exact (answers_ofExcept _ _).bind fun _ k _ => answers_pure _ _

theorem verify_eq (block : Block) :
    verify block = judge block >>= fun new =>
      if new then update fun c => c.remembering block else pure () := by
  unfold verify judge
  cases block.status with
  | accepted => rfl
  | rejected => rfl
  | processing =>
      dsimp only
      rw [Action.bind_assoc]
      refine bind_congr fun stored => ?_
      cases stored with
      | true => rfl
      | false =>
          rw [if_neg Bool.false_ne_true, if_neg Bool.false_ne_true, Action.bind_assoc]
          refine bind_congr fun parent => ?_
          rw [Action.bind_assoc]
          rfl

section

variable {c : Controller} {block : Block}

theorem verify_of_refused {e : ControllerError} (refused : c.verification block = .error e) :
    (verify block).Answers c (.error e) := by
  have answer := judge_answers block c
  rw [refused] at answer
  rw [verify_eq]
  exact answer.bind_error

theorem verify_of_known (known : c.verification block = .ok false) :
    (verify block).Answers c (.ok ()) := by
  have answer := judge_answers block c
  rw [known] at answer
  rw [verify_eq]
  exact answer.bind_does fun n => answers_pure () _

theorem verify_of_new (new : c.verification block = .ok true) :
    (verify block).Does c (.ok ()) fun d => d.remembering block := by
  have answer := judge_answers block c
  rw [new] at answer
  rw [verify_eq]
  exact answer.bind_does fun n => does_of_run rfl

theorem verification_eq_ok_true (new : c.verification block = .ok true) :
    block.status = .processing ∧ c.store.holds block.id = .ok false ∧
      ∃ parent, c.findParent block.parent = .ok parent ∧ checkChild parent block = .ok () := by
  unfold verification at new
  split at new
  · cases new
  · cases new
  · next status =>
    obtain ⟨stored, holds, rest⟩ := bind_eq_ok_iff.mp new
    have holds := mapError_eq_ok_iff.mp holds
    cases stored with
    | true => cases rest
    | false =>
        obtain ⟨parent, found, rest⟩ := bind_eq_ok_iff.mp rest
        obtain ⟨⟨⟩, child, -⟩ := bind_eq_ok_iff.mp rest
        exact ⟨status, holds, parent, found, child⟩

/-- What verifying a block can leave behind. -/
theorem verify_cases (block : Block) (c : Controller) :
    (∃ n, ((verify block).run c).2 = c.counting n) ∨
      c.verification block = .ok true ∧
        ∃ n, (verify block).run c = (.ok (), (c.counting n).remembering block) := by
  cases judged : c.verification block with
  | error e =>
      obtain ⟨n, done | ⟨_, _, done⟩⟩ := verify_of_refused judged <;>
        exact Or.inl ⟨n, congrArg Prod.snd done⟩
  | ok new =>
      cases new with
      | false =>
          obtain ⟨n, done | ⟨_, _, done⟩⟩ := verify_of_known judged <;>
            exact Or.inl ⟨n, congrArg Prod.snd done⟩
      | true =>
          obtain ⟨n, done | ⟨_, _, done⟩⟩ := verify_of_new judged
          · exact Or.inr ⟨rfl, n, done⟩
          · exact Or.inl ⟨n, congrArg Prod.snd done⟩

end

/-! ## Rejecting -/

section

variable {c : Controller} {block : Block}

theorem reject_of_accepted (status : block.status = .accepted) (c : Controller) :
    (reject block).run c = (.error (.ofBlock (.invalidTransition .accepted .rejected)), c) := by
  have refused : Decision.reject.run ⟨block, c⟩ =
      (.error (.ofBlock (.invalidTransition .accepted .rejected)), ⟨block, c⟩) := by
    have decided : block.checkTransition .rejected =
        .error (.invalidTransition .accepted .rejected) :=
      Block.checkTransition_of_other status (by decide) (by decide)
    rw [Decision.reject, run_bind_ok (run_state _)]
    simp only [decided]
    rfl
  rw [reject, Decision.run_deciding, refused]
  rfl

theorem reject_of_rejected (status : block.status = .rejected) (c : Controller) :
    (reject block).run c = (.ok block, c.forgetting block.id) := by
  have forgotten : Decision.reject.run ⟨block, c⟩ = (.ok (), ⟨block, c.forgetting block.id⟩) := by
    rw [Decision.reject, run_bind_ok (run_state _)]
    simp only [Block.checkTransition_self status]
    rfl
  rw [reject, Decision.run_deciding, forgotten]
  rfl

theorem reject_of_unread {cause : StoreError} (status : block.status = .processing)
    (unread : c.store.holds block.id = .error cause) :
    (reject block).Answers c (.error (.ofStore cause)) := by
  have asked := Decision.onController_answers (d := ⟨block, c⟩) (hasBlock_answers unread)
  have refused : Decision.reject.Answers ⟨block, c⟩ (.error (.ofStore cause)) := by
    refine Does.of_state ?_
    simp only [Block.checkTransition_of_processing .rejected status (by decide)]
    exact Answers.bind_error asked
  exact Decision.deciding_does id refused

/-- A stored block has been accepted through another instance. -/
theorem reject_of_stored (status : block.status = .processing)
    (stored : c.store.holds block.id = .ok true) :
    (reject block).Answers c (.error (.ofBlock (.invalidTransition .accepted .rejected))) := by
  have asked := Decision.onController_answers (d := ⟨block, c⟩) (hasBlock_answers stored)
  have refused : Decision.reject.Answers ⟨block, c⟩
      (.error (.ofBlock (.invalidTransition .accepted .rejected))) := by
    refine Does.of_state ?_
    simp only [Block.checkTransition_of_processing .rejected status (by decide)]
    exact Answers.bind_does asked fun n => answers_fail _ _
  exact Decision.deciding_does id refused

/-- An undecided block that is not stored is forgotten. -/
theorem reject_of_unstored (status : block.status = .processing)
    (unstored : c.store.holds block.id = .ok false) :
    (reject block).Does c (.ok (block.withStatus .rejected)) fun d => d.forgetting block.id := by
  have asked := Decision.onController_answers (d := ⟨block, c⟩) (hasBlock_answers unstored)
  have rejected : Decision.reject.Does ⟨block, c⟩ (.ok ())
      fun d => ⟨block.withStatus .rejected, d.controller.forgetting block.id⟩ := by
    refine Does.of_state ?_
    simp only [Block.checkTransition_of_processing .rejected status (by decide)]
    refine Answers.bind_does asked fun n => does_of_run ?_
    have moved := Decision.run_transition .rejected status (by decide)
      ((c.counting n).forgetting block.id)
    exact run_bind_ok moved
  exact Decision.deciding_does (fun d => d.forgetting block.id) rejected

/-- What rejecting a block instance can come to. -/
theorem reject_results (block : Block) (c : Controller) :
    (∃ n e, (reject block).run c = (.error e, c.counting n)) ∨
      block.status = .rejected ∧ (reject block).run c = (.ok block, c.forgetting block.id) ∨
      block.status = .processing ∧ c.store.holds block.id = .ok false ∧
        ∃ n, (reject block).run c =
          (.ok (block.withStatus .rejected), (c.counting n).forgetting block.id) := by
  cases status : block.status with
  | accepted => exact Or.inl ⟨0, _, reject_of_accepted status c⟩
  | rejected => exact Or.inr (Or.inl ⟨rfl, reject_of_rejected status c⟩)
  | processing =>
      cases holds : c.store.holds block.id with
      | error cause => exact Or.inl (reject_of_unread status holds).refused
      | ok found =>
          cases found with
          | true => exact Or.inl (reject_of_stored status holds).refused
          | false =>
              obtain failed | done := (reject_of_unstored status holds).cases
              · exact Or.inl failed
              · exact Or.inr (Or.inr ⟨rfl, rfl, done⟩)

/-- What rejecting a block instance can leave behind. -/
theorem reject_cases (block : Block) (c : Controller) :
    ∃ n, ((reject block).run c).2 = c.counting n ∨
      ((reject block).run c).2 = (c.counting n).forgetting block.id := by
  obtain ⟨n, e, run⟩ | ⟨-, run⟩ | ⟨-, -, n, run⟩ := reject_results block c
  · exact ⟨n, Or.inl (congrArg Prod.snd run)⟩
  · exact ⟨0, Or.inr (congrArg Prod.snd run)⟩
  · exact ⟨n, Or.inr (congrArg Prod.snd run)⟩

end

/-! ## Closing -/

def closing (c : Controller) : Controller :=
  { c with store := {
    c.store with
    backend := { c.store.backend.counting 1 with closes := c.store.backend.closes + 1 }
    closed := true } }

theorem shutdown_of_works {c : Controller} (quiet : c.store.staged = .empty)
    (opened : c.store.closed = false)
    (works : c.store.backend.faults c.store.backend.requests .close = none) :
    shutdown.run c = (.ok (), c.closing) := by
  have empty : c.store.staged.isEmpty = true := by
    rw [quiet]
    rfl
  have run := ChainState.run_close empty
  rw [opened, if_neg Bool.false_ne_true, works] at run
  exact run_onStore run

/-- What shutting down can leave behind. -/
theorem shutdown_cases {c : Controller} (quiet : c.store.staged = .empty) :
    (∃ n, (shutdown.run c).2 = c.counting n) ∨
      c.store.backend.faults c.store.backend.requests .close = none ∧
        shutdown.run c = (.ok (), c.closing) := by
  have empty : c.store.staged.isEmpty = true := by
    rw [quiet]
    rfl
  have run := ChainState.run_close empty
  cases closed : c.store.closed with
  | true =>
      rw [closed, if_pos rfl] at run
      exact Or.inl ⟨0, congrArg Prod.snd (run_onStore run)⟩
  | false =>
      rw [closed, if_neg Bool.false_ne_true] at run
      cases fault : c.store.backend.faults c.store.backend.requests .close with
      | some text =>
          rw [fault] at run
          exact Or.inl ⟨1, congrArg Prod.snd (run_onStore run)⟩
      | none => exact Or.inr ⟨rfl, shutdown_of_works quiet closed fault⟩

end Controller

end TimestampChain
