import TimestampChain.Proofs.Refusals
import TimestampChain.Proofs.Store.Refinement

/-!
# Shutting down

Nothing is staged between two calls, so shutting down is never stood in the way. It fails when the backend
does, which closes nothing, and once it has succeeded the store stays as it is: whatever needs the store is
refused, and what does not need it leaves the store alone.
-/

namespace TimestampChain

open TimestampChain.Action

namespace Controller

variable {c d e : Controller} {block : Block} {e' : ControllerError}

/-! ## A store that is closed -/

structure Shut (c : Controller) : Prop where
  closed : c.store.closed = true
  quiet : c.store.staged = .empty

def SameStore (c d : Controller) : Prop :=
  ∃ faults, d.store = { c.store with backend := { c.store.backend with faults := faults } }

theorem Shut.same (shut : c.Shut) (same : c.SameStore d) : d.Shut := by
  obtain ⟨faults, store⟩ := same
  constructor <;> rw [store]
  · exact shut.closed
  · exact shut.quiet

def Rests (c d : Controller) : Prop := c.Shut → d.store = c.store

theorem Shut.of_store (shut : c.Shut) (same : d.store = c.store) : d.Shut :=
  shut.same ⟨c.store.backend.faults, same⟩

instance : Std.Refl Rests := ⟨fun _ _ => rfl⟩

instance : Trans Rests Rests Rests :=
  ⟨fun first second shut => (second (shut.of_store (first shut))).trans (first shut)⟩

theorem run_onStore_read {α : Type} (shut : c.Shut) (key : Bytes)
    (f : Option Bytes → ChainState.Step α) :
    (onStore (ChainState.read key >>= f)).run c = (.error (.store .closed), c) :=
  run_onStore (run_bind_error (ChainState.run_read_of_closed shut.closed key))

theorem read_rests {α : Type} (key : Bytes) (f : Option Bytes → ChainState.Step α) :
    Keeps Rests (onStore (ChainState.read key >>= f)) := by
  intro c shut
  rw [run_onStore_read shut]

/-! ## What is refused -/

theorem bootstrap_of_shut (shut : c.Shut) (data : Bytes) :
    (bootstrap data).run c = (.error (.store .closed), c) :=
  run_bind_error (run_bind_error (run_onStore_read shut _ _))

theorem lastAccepted_of_shut (shut : c.Shut) : lastAccepted.run c = (.error (.store .closed), c) :=
  run_onStore_read shut _ _

theorem verify_of_shut (shut : c.Shut) (status : block.status = .processing) :
    (verify block).run c = (.error (.store .closed), c) := by
  rw [verify, status]
  exact run_bind_error (run_onStore_read shut _ _)

theorem accept_of_shut (shut : c.Shut) (status : block.status = .processing) :
    Decision.accept.run ⟨block, c⟩ = (.error (.store .closed), ⟨block, c⟩) := by
  have asked := run_onStore_read shut (Key.block block.id) fun value => pure value.isSome
  exact run_bind_error (Decision.run_isStoredElsewhere status asked)

theorem reject_of_shut (shut : c.Shut) (status : block.status = .processing) :
    Decision.reject.run ⟨block, c⟩ = (.error (.store .closed), ⟨block, c⟩) := by
  have asked : (onStore (ChainState.hasBlock block.id)).run c = (.error (.store .closed), c) :=
    run_onStore_read shut _ _
  have unread : (Decision.onController (onStore (ChainState.hasBlock block.id))).run ⟨block, c⟩ =
      (.error (.store .closed), ⟨block, c⟩) := by
    rw [Decision.run_onController, asked]
  rw [Decision.reject, run_bind_ok (run_state _)]
  simp only [Block.checkTransition_of_processing .rejected status (by decide)]
  exact run_bind_error unread

theorem shutdown_of_shut (shut : c.Shut) : shutdown.run c = (.ok (), c) :=
  run_onStore (ChainState.run_close_of_closed shut.closed)

theorem healthCheck_of_shut (shut : c.Shut) : healthCheck.run c = (.error (.store .closed), c) := by
  rw [healthCheck, run_bind_ok (run_state c), if_pos shut.closed]
  rfl

/-! ## What leaves the store alone -/

theorem rests_of_eq {α : Type} {x : Step α} (same : ∀ c, c.Shut → (x.run c).2 = c) : Keeps Rests x :=
  fun c shut => congrArg store (same c shut)

theorem getBlock_rests (id : BlockId) : Keeps Rests (getBlock id) := by
  refine keeps_state fun c => ?_
  cases c.verified? id with
  | some block => exact keeps_pure (R := Rests) block c
  | none => exact read_rests _ _ c

theorem verify_rests (block : Block) : Keeps Rests (verify block) := by
  cases status : block.status with
  | processing => exact rests_of_eq fun c shut => congrArg Prod.snd (verify_of_shut shut status)
  | accepted =>
      rw [verify, status]
      exact keeps_pure _
  | rejected =>
      rw [verify, status]
      exact keeps_fail _

theorem run_deciding_of_error {x : Decision.Step Unit} {cause : ControllerError}
    (refused : x.run ⟨block, c⟩ = (.error cause, ⟨block, c⟩)) :
    (Decision.deciding block x).run c = (.error cause, c) := by
  rw [Decision.run_deciding, refused]
  rfl

theorem accept_rests (block : Block) : Keeps Rests (accept block) := by
  refine rests_of_eq fun c shut => ?_
  cases status : block.status with
  | processing => exact congrArg Prod.snd (run_deciding_of_error (accept_of_shut shut status))
  | accepted => exact congrArg Prod.snd (accept_of_accepted status c)
  | rejected => exact congrArg Prod.snd (accept_of_rejected status shut.quiet)

theorem reject_rests (block : Block) : Keeps Rests (reject block) := by
  intro c shut
  cases status : block.status with
  | processing => rw [reject, run_deciding_of_error (reject_of_shut shut status)]
  | accepted => rw [reject_of_accepted status c]
  | rejected =>
      rw [reject_of_rejected status c]
      rfl

theorem store_of_rests {α : Type} {x : Step α} {f : α → Reply} {call : Call} (shut : c.Shut)
    (performed : call.perform = f <$> x) (rests : Keeps Rests x) : (c.afterCall call).store = c.store := by
  rw [afterCall_eq performed]
  exact rests c shut

/-- No call changes a store that is shut. -/
theorem store_of_shut (shut : c.Shut) (call : Call) : (c.afterCall call).store = c.store := by
  have alone : ∀ (c : Controller) queue channel clock,
      c.Rests { c with mempool := queue, channel := channel, clock := clock } := fun _ _ _ _ _ => rfl
  cases call with
  | bootstrap data => rw [afterCall_eq (x := bootstrap data) rfl, bootstrap_of_shut shut]
  | propose data => exact store_of_rests shut rfl (propose_keeps alone data)
  | build => exact store_of_rests shut rfl (build_keeps alone getBlock_rests)
  | parse bytes => exact store_of_rests shut rfl (parseBlock_keeps getBlock_rests bytes)
  | get id => exact store_of_rests shut rfl (getBlock_rests id)
  | verify block => exact store_of_rests shut rfl (verify_rests block)
  | accept block => exact store_of_rests shut rfl (accept_rests block)
  | reject block => exact store_of_rests shut rfl (reject_rests block)
  | prefer id => rfl
  | setState state => rfl
  | lastAccepted => rw [afterCall_eq (x := lastAccepted) rfl, lastAccepted_of_shut shut]
  | notify => rfl
  | healthCheck => rw [afterCall_eq (x := healthCheck) rfl, healthCheck_of_shut shut]
  | shutdown => rw [afterCall_eq (x := shutdown) rfl, shutdown_of_shut shut]

/-- Nothing changes a store that is shut until the controller is started again. -/
theorem sameStore_follow {later : List Event} (shut : c.Shut)
    (lasting : ∀ channel clock, .restart channel clock ∉ later) : c.SameStore (c.follow later) := by
  have step : ∀ d, ∀ event ∈ later, c.SameStore d → c.SameStore (d.afterEvent event) := by
    intro d event member same
    have shut' := shut.same same
    obtain ⟨faults, store⟩ := same
    cases event with
    | call call => exact ⟨faults, (store_of_shut shut' call).trans store⟩
    | restart channel clock => exact absurd member (lasting channel clock)
    | surround channel clock faults' =>
        refine ⟨faults', ?_⟩
        rw [afterEvent, store]
  exact follow_invariant_of_mem step ⟨c.store.backend.faults, rfl⟩

/-! ## What shutting down comes to -/

theorem shutdown_of_fault {text : String} (quiet : c.store.staged = .empty)
    (opened : c.store.closed = false)
    (fault : c.store.backend.faults c.store.backend.requests .close = some text) :
    shutdown.run c = (.error (.store (.medium text)), c.counting 1) :=
  run_onStore (ChainState.run_close_of_fault opened quiet fault)

theorem healthCheck_of_open (opened : c.store.closed = false) : healthCheck.run c = (.ok (), c) := by
  rw [healthCheck, run_bind_ok (run_state c), opened, if_neg Bool.false_ne_true]
  rfl

/-- What shutting down comes to while nothing is staged: it closes the store, once, or reports why the
backend could not be closed and changes nothing. -/
inductive ShutsDown (c : Controller) : Except ControllerError Unit × Controller → Prop
  | again (closed : c.store.closed = true) : ShutsDown c (.ok (), c)
  | closes (opened : c.store.closed = false) : ShutsDown c (.ok (), c.closing)
  | fails {text : String} (opened : (c.counting 1).store.closed = false)
      (fault : c.store.backend.faults c.store.backend.requests .close = some text)
      (healthy : healthCheck.run (c.counting 1) = (.ok (), c.counting 1)) :
      ShutsDown c (.error (.store (.medium text)), c.counting 1)

theorem shutsDown (quiet : c.store.staged = .empty) : c.ShutsDown (shutdown.run c) := by
  cases closed : c.store.closed with
  | true =>
      rw [shutdown_of_shut ⟨closed, quiet⟩]
      exact .again closed
  | false =>
      cases fault : c.store.backend.faults c.store.backend.requests .close with
      | none =>
          rw [shutdown_of_works quiet closed fault]
          exact .closes closed
      | some text =>
          rw [shutdown_of_fault quiet closed fault]
          exact .fails closed fault (healthCheck_of_open closed)

theorem shutsDown_ne_uncommitted {outcome : Except ControllerError Unit × Controller} {count : Nat}
    (comes : c.ShutsDown outcome) : outcome.1 ≠ .error (.store (.uncommittedWrites count)) := by
  cases comes with
  | again closed => exact nofun
  | closes opened => exact nofun
  | fails opened fault healthy => exact nofun

/-- Once shutting down has succeeded, the store is shut, and it holds what it held. -/
theorem shut_of_shutdown (quiet : c.store.staged = .empty) (done : shutdown.run c = (.ok (), d)) :
    d.Shut ∧ d.table = c.table := by
  have comes := shutsDown quiet
  rw [done] at comes
  cases comes with
  | again closed => exact ⟨⟨closed, quiet⟩, rfl⟩
  | closes opened => exact ⟨⟨rfl, quiet⟩, rfl⟩

/-! ## Behind the end -/

/-- Whatever needs the store is refused and changes nothing, and shutting down has nothing left to do. -/
structure Refusing (c : Controller) : Prop where
  shutdown : shutdown.run c = (.ok (), c)
  healthCheck : healthCheck.run c = (.error (.store .closed), c)
  bootstrap : ∀ data, (bootstrap data).run c = (.error (.store .closed), c)
  lastAccepted : lastAccepted.run c = (.error (.store .closed), c)
  verify : ∀ block : Block, block.status = .processing →
    (verify block).run c = (.error (.store .closed), c)
  accept : ∀ block : Block, block.status = .processing →
    Decision.accept.run ⟨block, c⟩ = (.error (.store .closed), ⟨block, c⟩)
  reject : ∀ block : Block, block.status = .processing →
    Decision.reject.run ⟨block, c⟩ = (.error (.store .closed), ⟨block, c⟩)

theorem Shut.refusing (shut : c.Shut) : c.Refusing := by
  constructor
  case shutdown => exact shutdown_of_shut shut
  case healthCheck => exact healthCheck_of_shut shut
  case bootstrap => exact bootstrap_of_shut shut
  case lastAccepted => exact lastAccepted_of_shut shut
  case verify => exact fun block status => verify_of_shut shut status
  case accept => exact fun block status => accept_of_shut shut status
  case reject => exact fun block status => reject_of_shut shut status

/-- The second controller holds what the first one held, and its backend was closed no more often. Only a
controller that is started over the backend is open again. -/
structure EndsIn (c d : Controller) : Prop where
  closed : d.store.closed = true
  table : d.table = c.table
  writes : d.store.backend.writes = c.store.backend.writes
  closes : d.store.backend.closes = c.store.backend.closes
  refusing : d.Refusing
  reopens : ∀ channel clock, (d.afterEvent (.restart channel clock)).store.closed = false ∧
    (d.afterEvent (.restart channel clock)).table = c.table

theorem Shut.endsIn (shut : c.Shut) (same : c.SameStore d) : c.EndsIn d := by
  have shut' := shut.same same
  obtain ⟨faults, store⟩ := same
  have table : d.table = c.table := by
    rw [Controller.table, store]
    rfl
  refine ⟨shut'.closed, table, ?_, ?_, shut'.refusing, fun _ _ => ⟨rfl, table⟩⟩
  · rw [store]
    rfl
  · rw [store]

/-- Over any backend and behind any events nothing is staged, so shutting down fails only when the backend
cannot be closed, after which everything is as it was. Once it has succeeded, it has nothing left to do,
whatever needs the store is refused, and what is stored stays the same until the controller is started
again. -/
theorem shutdown_is_final {b : Backend} {channel : Channel} {clock : Clock} {events : List Event}
    (reached : c = (ofBackend b channel clock).follow events) :
    c.store.pendingWrites = 0 ∧ c.ShutsDown (shutdown.run c) ∧
      (∀ count, (shutdown.run c).1 ≠ .error (.store (.uncommittedWrites count))) ∧
      ∀ d, shutdown.run c = (.ok (), d) → d.table = c.table ∧
        ∀ later, (∀ channel clock, .restart channel clock ∉ later) → d.EndsIn (d.follow later) := by
  have quiet : c.store.staged = .empty := reached ▸ (tidy_follow b channel clock events).quiet
  have comes := shutsDown quiet
  refine ⟨?_, comes, fun count => shutsDown_ne_uncommitted comes, fun d done => ?_⟩
  · rw [ChainState.pendingWrites, quiet]
    rfl
  · obtain ⟨shut, table⟩ := shut_of_shutdown quiet done
    exact ⟨table, fun later lasting => shut.endsIn (sameStore_follow shut lasting)⟩

end Controller

end TimestampChain

/-! ## A backend that cannot be closed at first -/

namespace TimestampChain.Sample

/-- A block is verified, and then the backend cannot be closed. -/
def clinging : List Event := [
  .call (.bootstrap [1]), .call (.bootstrap [1]), .call (.verify child),
  .surround (.ofDepth 1) (.still 20) (.byRequest (fun _ => none) none (some "busy"))]

def busy : Controller := start.follow clinging

def leaving : Controller := start.follow (clinging ++ [
  .call .shutdown, .surround (.ofDepth 1) (.still 20) .never])

end TimestampChain.Sample

namespace TimestampChain.Controller

open TimestampChain.Action

/-- The store stays open until it can be closed, and afterwards the verified block is not decided. -/
theorem leaving_is_final :
    Sample.busy.store.pendingWrites = 0 ∧ Sample.busy.ShutsDown (shutdown.run Sample.busy) ∧
      (shutdown.run Sample.busy).1 = .error (.store (.medium "busy")) ∧
      ∃ d, shutdown.run Sample.leaving = (.ok (), d) ∧ d.verified? Sample.child.id = some Sample.child ∧
        d.EndsIn (d.follow [.call (.accept Sample.child), .call (.propose [2]), .call .build,
          .call .shutdown]) := by
  obtain ⟨quiet, comes, -, -⟩ := shutdown_is_final (rfl : Sample.busy =
    (ofBackend Sample.backend (.ofDepth 1) (.still 20)).follow Sample.clinging)
  obtain ⟨-, -, -, final⟩ := shutdown_is_final (rfl : Sample.leaving =
    (ofBackend Sample.backend (.ofDepth 1) (.still 20)).follow _)
  have done : (shutdown.run Sample.leaving).1 = .ok () := by decide +kernel
  have known : (shutdown.run Sample.leaving).2.verified? Sample.child.id = some Sample.child := by
    decide +kernel
  refine ⟨quiet, comes, by decide +kernel, _, run_eq done, known, ?_⟩
  exact (final _ (run_eq done)).2 _ (by simp)

end TimestampChain.Controller
