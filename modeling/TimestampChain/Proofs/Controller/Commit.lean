import TimestampChain.Proofs.Controller.Lookup

/-!
# Committing

What an operation stages reaches the backend in one batch. A controller between two calls has
nothing staged, so when the batch fails, or anything before it, nothing has changed.
-/

namespace TimestampChain.Controller

open TimestampChain.Action

/-! ## Writing one batch -/

def written (c : Controller) (batch : Batch) : Controller :=
  { c with store := { c.store with backend := c.store.backend.written batch } }

def Wrote (c : Controller) (batch : Batch) (d : Controller) : Prop :=
  ∃ n, c.store.backend.faults (c.store.backend.requests + n) (.write batch) = none ∧
    d = (c.counting (n + 1)).written batch

/-- The action writes one batch and then changes what is in memory, unless a request fails, after
which nothing has changed. -/
def Writes {α : Type} (x : Step α) (c : Controller) (batch : Batch) (r : Except ControllerError α)
    (change : Controller → Controller) : Prop :=
  (∃ d, c.Wrote batch d ∧ x.run c = (r, change d)) ∨
    ∃ n e, Counted.Fails c n e ∧ x.run c = (.error e, c.counting n)

theorem Wrote.of_counting {c d : Controller} {batch : Batch} {m : Nat}
    (wrote : (c.counting m).Wrote batch d) : c.Wrote batch d := by
  obtain ⟨n, worked, rfl⟩ := wrote
  have worked : c.store.backend.faults (c.store.backend.requests + m + n) (.write batch) = none :=
    worked
  refine ⟨m + n, ?_, ?_⟩
  · rw [← Nat.add_assoc]
    exact worked
  · rw [counting_counting, Nat.add_assoc]

theorem Wrote.store_eq {c d : Controller} {batch : Batch} (wrote : c.Wrote batch d) :
    ∃ n, d.store = { c.store with backend := (c.store.backend.counting n).written batch } := by
  obtain ⟨n, _, rfl⟩ := wrote
  exact ⟨n + 1, rfl⟩

def withStaged (c : Controller) (staged : WriteBuffer) : Controller :=
  { c with store := { c.store with staged := staged } }

theorem withStaged_of_quiet {c : Controller} (quiet : c.store.staged = .empty) :
    c.withStaged .empty = c := by
  rw [withStaged, ← quiet]

theorem withStaged_counting {c : Controller} (quiet : c.store.staged = .empty) (m n : Nat) :
    ((c.counting m).counting n).withStaged .empty = c.counting (m + n) := by
  rw [counting_counting, withStaged_of_quiet (c := c.counting (m + n)) quiet]

theorem run_commit {c : Controller} {staged : WriteBuffer} {batch : Batch}
    (quiet : c.store.staged = .empty) (opened : c.store.closed = false)
    (drained : staged.drain.1 = batch) (nonempty : batch ≠ []) :
    (onStore ChainState.commit).run (c.withStaged staged) =
      (match c.store.backend.faults c.store.backend.requests (.write batch) with
        | some text => (.error (.store (.medium text)), c.counting 1)
        | none => (.ok (), (c.counting 1).written batch)) := by
  have committed := ChainState.run_commit (s := (c.withStaged staged).store) opened drained nonempty
  have counted := withStaged_of_quiet (c := c.counting 1) quiet
  have written := withStaged_of_quiet (c := (c.counting 1).written batch) quiet
  simp only [withStaged] at committed
  cases fault : c.store.backend.faults c.store.backend.requests (.write batch) with
  | some text =>
      rw [fault] at committed
      rw [withStaged, run_onStore committed]
      exact congrArg (Prod.mk _) counted
  | none =>
      rw [fault] at committed
      rw [withStaged, run_onStore committed]
      exact congrArg (Prod.mk _) written

/-- What has been staged by an action is committed behind it. -/
theorem Writes.of_staged {α β : Type} {x : Step α} {g : α → Step β} {c : Controller} {a : α} {b : β}
    {staged : WriteBuffer} {batch : Batch} (quiet : c.store.staged = .empty)
    (opened : c.store.closed = false) (drained : staged.drain.1 = batch) (nonempty : batch ≠ [])
    (first : x.Does c (.ok a) fun c => c.withStaged staged)
    (next : g a = onStore ChainState.commit >>= fun _ => pure b) :
    Writes (x >>= g) c batch (.ok b) id := by
  obtain ⟨n, done | ⟨e, fails, stopped⟩⟩ := first
  · have committed := run_commit (c := c.counting n) quiet opened drained nonempty
    rw [counting_counting] at committed
    cases fault : c.store.backend.faults (c.store.backend.requests + n) (.write batch) with
    | none =>
        have fault' : (c.counting n).store.backend.faults (c.counting n).store.backend.requests
            (.write batch) = none := fault
        rw [fault'] at committed
        refine Or.inl ⟨_, ⟨n, fault, rfl⟩, ?_⟩
        rw [run_bind_ok done, next]
        exact run_bind_ok committed
    | some text =>
        have fault' : (c.counting n).store.backend.faults (c.counting n).store.backend.requests
            (.write batch) = some text := fault
        rw [fault'] at committed
        refine Or.inr ⟨n + 1, _, ⟨text, ⟨n, by omega, _, fault⟩, rfl⟩, ?_⟩
        rw [run_bind_ok done, next]
        exact run_bind_error committed
  · exact Or.inr ⟨n, e, fails, run_bind_error stopped⟩

theorem run_abandon {α : Type} (e : ControllerError) (c : Controller) :
    (abandon e : Step α).run c = (.error e, c.withStaged .empty) := rfl

end TimestampChain.Controller
