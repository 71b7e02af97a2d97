import TimestampChain.Proofs.Controller.Genesis
import TimestampChain.Proofs.Runs
import TimestampChain.Proofs.Store.Layers

/-!
# The requests of an attempt

An attempt to set the chain up makes requests in an order that the table decides. The first one that
fails ends the attempt and is reported, and where none fails the attempt goes through.
-/

namespace TimestampChain

namespace FaultPolicy

variable {faults : FaultPolicy} {number : Nat}

/-- The text of the first failure among requests that are made one after another. -/
def first? (faults : FaultPolicy) : Nat → List Request → Option String
  | _, [] => none
  | number, request :: rest => (faults number request).or (faults.first? (number + 1) rest)

theorem first?_of_none {requests : List Request}
    (works : ∀ later request, number ≤ later → faults later request = none) :
    faults.first? number requests = none := by
  induction requests generalizing number with
  | nil => rfl
  | cons request rest ih =>
      rw [first?, works number request (Nat.le_refl _)]
      exact ih fun later other less => works later other (by omega)

theorem first?_append (faults : FaultPolicy) (number : Nat) (front back : List Request) :
    faults.first? number (front ++ back) =
      (faults.first? number front).or (faults.first? (number + front.length) back) := by
  induction front generalizing number with
  | nil => rfl
  | cons request rest ih =>
      rw [List.cons_append, first?, ih, first?, Option.or_assoc, List.length_cons]
      rw [Nat.add_right_comm, Nat.add_assoc]

end FaultPolicy

namespace Controller

open TimestampChain.Action

variable {α β : Type} {x : Step α} {g : α → Step β} {c d e : Controller} {a : α}
  {front back requests : List Request} {r : Except ControllerError β} {data : Bytes} {genesis : Block}

/-! ## Requests one after another -/

def fault? (c : Controller) (requests : List Request) : Option String :=
  c.store.backend.faults.first? c.store.backend.requests requests

/-- The action makes the requests, up to the first that fails, which it reports. If none fails it
has a result and leads to the second controller. -/
structure Asks (x : Step α) (c : Controller) (requests : List Request)
    (r : Except ControllerError α) (d : Controller) : Prop where
  answered : c.fault? requests = none → x.run c = (r, d)
  refused : ∀ text, c.fault? requests = some text → (x.run c).1 = .error (.store (.medium text))

structure Passed (c : Controller) (requests : List Request) (d : Controller) : Prop where
  faults : d.store.backend.faults = c.store.backend.faults
  requests : d.store.backend.requests = c.store.backend.requests + requests.length

theorem fault?_singleton (c : Controller) (request : Request) :
    c.fault? [request] = c.store.backend.faults c.store.backend.requests request :=
  Option.or_none

theorem Passed.fault?_append (passed : c.Passed front d) (back : List Request) :
    c.fault? (front ++ back) = (c.fault? front).or (d.fault? back) := by
  rw [fault?, fault?, fault?, FaultPolicy.first?_append, passed.faults, passed.requests]

theorem Asks.bind (first : Asks x c front (.ok a) d) (passed : c.Passed front d)
    (next : Asks (g a) d back r e) : Asks (x >>= g) c (front ++ back) r e := by
  have whole := passed.fault?_append back
  constructor
  case answered =>
    intro unfailing
    obtain ⟨here, later⟩ := Option.or_eq_none_iff.mp (whole.symm.trans unfailing)
    rw [run_bind_ok (first.answered here), next.answered later]
  case refused =>
    intro text failing
    rw [whole] at failing
    cases here : c.fault? front with
    | some text' =>
        rw [here] at failing
        cases failing
        rw [run_bind_error (run_eq (first.refused text here))]
    | none =>
        rw [here] at failing
        rw [run_bind_ok (first.answered here)]
        exact next.refused text failing

theorem Asks.then_run (first : Asks x c front (.ok a) d) (next : (g a).run d = (r, e)) :
    Asks (x >>= g) c front r e where
  answered unfailing := by rw [run_bind_ok (first.answered unfailing), next]
  refused text failing := by rw [run_bind_error (run_eq (first.refused text failing))]

/-! ## Looking and writing -/

theorem asks_read {key : Bytes} {g : Option Bytes → ChainState.Step α} {s : ChainState}
    {r : Except StoreError α} (quiet : c.store.staged = .empty) (opened : c.store.closed = false)
    (next : (g (c.table.get? key)).run (c.store.counting 1) = (r, s)) :
    Asks (onStore (ChainState.read key >>= g)) c [.get key] (r.mapError .ofStore)
      { c with store := s } := by
  have unstaged : c.store.layers.staged key = none := by
    show c.store.staged.get? key = none
    rw [quiet]
    rfl
  have looked := ChainState.run_read_of_unstaged opened unstaged
  rw [← fault?_singleton c] at looked
  constructor
  case answered =>
    intro unfailing
    rw [unfailing] at looked
    exact run_onStore ((run_bind_ok looked).trans next)
  case refused =>
    intro text failing
    rw [failing] at looked
    rw [run_onStore (run_bind_error looked)]
    rfl

theorem asks_isInitialized (quiet : c.store.staged = .empty) (opened : c.store.closed = false) :
    Asks (onStore ChainState.isInitialized) c [.get Key.initialized]
      (.ok (c.table.get? Key.initialized).isSome) (c.counting 1) :=
  asks_read (r := .ok _) quiet opened rfl

theorem asks_lastAccepted {last : BlockId} (quiet : c.store.staged = .empty)
    (opened : c.store.closed = false) (pointer : c.table.get? Key.lastAccepted = some last.toBytes) :
    Asks lastAccepted c [.get Key.lastAccepted] (.ok last) (c.counting 1) := by
  refine asks_read (r := .ok last) quiet opened ?_
  rw [pointer]
  dsimp only
  rw [Bytes32.ofBytes?_eq_some_iff.mpr rfl]
  rfl

theorem asks_stageLast (quiet : c.store.staged = .empty) (opened : c.store.closed = false)
    {block : Block} (absent : c.table.get? (Key.block block.id) = none) :
    Asks (stageLast block) c [.get (Key.block block.id)] (.ok true)
      (stagingLast (fun s => s.staging (Key.block block.id) block.bytes) block (c.counting 1)) := by
  have put : Asks (onStore (ChainState.putBlock block)) c [.get (Key.block block.id)] (.ok ())
      { c with store := (c.store.counting 1).staging (Key.block block.id) block.bytes } := by
    refine asks_read (r := .ok ()) quiet opened ?_
    rw [absent]
    exact ChainState.run_stage (s := c.store.counting 1) opened _ _
  refine put.then_run ?_
  have last := ChainState.run_setLastAccepted
    (s := (c.store.counting 1).staging (Key.block block.id) block.bytes) opened block.id
  exact run_bind_ok (run_onStore (c := { c with store := _ }) last)

theorem asks_commit {staged : WriteBuffer} {batch : Batch} (quiet : c.store.staged = .empty)
    (opened : c.store.closed = false) (drained : staged.drain.1 = batch) (nonempty : batch ≠ []) :
    Asks (onStore ChainState.commit) (c.withStaged staged) [.write batch] (.ok ())
      ((c.counting 1).written batch) := by
  have committed := run_commit quiet opened drained nonempty
  rw [← fault?_singleton c] at committed
  constructor
  case answered =>
    intro unfailing
    have unfailing : c.fault? [.write batch] = none := unfailing
    rw [unfailing] at committed
    exact committed
  case refused =>
    intro text failing
    have failing : c.fault? [.write batch] = some text := failing
    rw [failing] at committed
    exact congrArg Prod.fst committed

/-! ## Attempts -/

def stagedFirst (genesis : Block) : WriteBuffer :=
  ((WriteBuffer.empty.set (Key.block genesis.id) genesis.bytes).set Key.lastAccepted
    genesis.id.toBytes).set Key.initialized initializedMarker

theorem asks_commitGenesis (status : genesis.status = .processing) (quiet : c.store.staged = .empty)
    (opened : c.store.closed = false) (empty : c.table = .empty) :
    Asks (commitGenesis genesis) c
      [.get Key.initialized, .get (Key.block genesis.id), .write (.ofFirst genesis false)] (.ok ())
      ((c.counting 3).written (.ofFirst genesis false)) := by
  have admitted : Asks (checkAdmission genesis) c [.get Key.initialized] (.ok ()) (c.counting 1) := by
    refine (asks_isInitialized quiet opened).then_run ?_
    rw [empty]
    rfl
  have placed : Asks (stageLast genesis >>= fun _ => onStore ChainState.setInitialized) (c.counting 1)
      [.get (Key.block genesis.id)] (.ok ()) ((c.counting 2).withStaged (stagedFirst genesis)) := by
    have absent : (c.counting 1).table.get? (Key.block genesis.id) = none := by
      show c.table.get? _ = none
      rw [empty]
      rfl
    refine (asks_stageLast (c := c.counting 1) quiet opened absent).then_run ?_
    have last := run_onStore (c := stagingLast (fun s => s.staging (Key.block genesis.id) genesis.bytes)
      genesis (c.counting 2)) (ChainState.run_setInitialized opened)
    refine last.trans ?_
    rw [stagedFirst, ← quiet]
    rfl
  have drained : (stagedFirst genesis).drain.1 = .ofFirst genesis false :=
    WriteBuffer.drain_first genesis
  have committed := asks_commit (c := c.counting 2) quiet opened drained (by simp [Batch.ofFirst])
  have program : commitGenesis genesis = checkAdmission genesis >>= fun _ =>
      (stageLast genesis >>= fun _ => onStore ChainState.setInitialized) >>= fun _ =>
        onStore ChainState.commit := by
    rw [commitGenesis, stageAccept_eq status, Action.bind_assoc]
    exact bind_congr fun _ => (Action.bind_assoc _ _ _).symm
  rw [program]
  exact admitted.bind ⟨rfl, rfl⟩ (placed.bind ⟨rfl, rfl⟩ committed)

theorem asks_initGenesis_of_marked (quiet : c.store.staged = .empty) (opened : c.store.closed = false)
    (marker : (c.table.get? Key.initialized).isSome) (data : Bytes) :
    Asks (initGenesis data) c [.get Key.initialized] (.ok ()) (c.counting 1) := by
  refine (asks_isInitialized quiet opened).then_run ?_
  rw [marker]
  rfl

theorem asks_initGenesis_of_empty (quiet : c.store.staged = .empty) (opened : c.store.closed = false)
    (empty : c.table = .empty) (made : Block.genesis data = .ok genesis) :
    Asks (initGenesis data) c
      [.get Key.initialized, .get Key.initialized, .get (Key.block genesis.id),
        .write (.ofFirst genesis false)] (.ok ())
      (((c.counting 4).written (.ofFirst genesis false)).adopting genesis.id) := by
  have asked := asks_isInitialized quiet opened
  rw [empty] at asked
  have committed := asks_commitGenesis (c := c.counting 1) (Block.status_of_genesis made) quiet opened empty
  have passed : c.Passed [.get Key.initialized] (c.counting 1) := ⟨rfl, rfl⟩
  have whole := passed.fault?_append [.get Key.initialized, .get (Key.block genesis.id),
    .write (.ofFirst genesis false)]
  -- A commit that fails is caught and given up, so that this is no plain sequence of actions.
  constructor
  case answered =>
    intro unfailing
    obtain ⟨here, later⟩ := Option.or_eq_none_iff.mp (whole.symm.trans unfailing)
    exact run_initGenesis_of_committed (asked.answered here) made (committed.answered later)
  case refused =>
    intro text failing
    have failing := whole.symm.trans failing
    cases here : c.fault? [.get Key.initialized] with
    | some text' =>
        rw [here] at failing
        cases failing
        exact congrArg Prod.fst (run_bind_error (run_eq (asked.refused text here)))
    | none =>
        rw [here] at failing
        have refused := run_eq (committed.refused text failing)
        exact congrArg Prod.fst (run_initGenesis_of_refused (asked.answered here) made refused)

theorem asks_bootstrap {last : BlockId} (begun : Asks (initGenesis data) c front (.ok ()) d)
    (passed : c.Passed front d) (quiet : d.store.staged = .empty) (opened : d.store.closed = false)
    (pointer : d.table.get? Key.lastAccepted = some last.toBytes) :
    Asks (bootstrap data) c (front ++ [.get Key.lastAccepted]) (.ok ())
      ((d.counting 1).preferring last) :=
  begun.bind passed ((asks_lastAccepted quiet opened pointer).then_run rfl)

end Controller

end TimestampChain
