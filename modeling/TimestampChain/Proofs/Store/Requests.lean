import TimestampChain.Store.Backend

/-!
# Requests to a backend

A request is counted and then answered: it fails with the text of its fault, or it does its work.
Only a write that does not fail changes the table, and it adds one batch to the journal.
-/

namespace TimestampChain.Backend

def counting (b : Backend) (n : Nat) : Backend := { b with requests := b.requests + n }

def written (b : Backend) (batch : Batch) : Backend :=
  { b with table := b.table.insertMany batch, journal := batch :: b.journal }

/-- One of the next `n` requests fails with the given text. -/
def FailsWithin (b : Backend) (n : Nat) (text : String) : Prop :=
  ∃ k < n, ∃ request, b.faults (b.requests + k) request = some text

@[simp] theorem counting_counting (b : Backend) (m n : Nat) :
    (b.counting m).counting n = b.counting (m + n) := by
  simp [counting, Nat.add_assoc]

theorem FailsWithin.mono {b : Backend} {m n : Nat} {text : String} (h : b.FailsWithin m text)
    (le : m ≤ n) : b.FailsWithin n text := by
  obtain ⟨k, less, request, fault⟩ := h
  exact ⟨k, by omega, request, fault⟩

theorem FailsWithin.later {b : Backend} {m n : Nat} {text : String}
    (h : (b.counting m).FailsWithin n text) : b.FailsWithin (m + n) text := by
  obtain ⟨k, less, request, fault⟩ := h
  refine ⟨m + k, by omega, request, ?_⟩
  rw [← Nat.add_assoc]
  exact fault

theorem not_failsWithin_of_never {b : Backend} (h : b.faults = .never) (n : Nat) (text : String) :
    ¬ b.FailsWithin n text := by
  rintro ⟨k, _, request, fault⟩
  simp [h, FaultPolicy.never] at fault

theorem run_answer (request : Request) (b : Backend) :
    (answer request).run b =
      (match b.faults b.requests request with
        | some text => (.error (.medium text), b.counting 1)
        | none => (.ok (), b.counting 1)) := by
  unfold answer
  rw [Action.run_bind_ok (Action.run_state b), Action.run_bind_ok (Action.run_update _ b)]
  cases b.faults b.requests request <;> rfl

theorem run_answer_bind {α : Type} (request : Request) (x : Unit → Action Backend StoreError α)
    (b : Backend) :
    (answer request >>= x).run b =
      (match b.faults b.requests request with
        | some text => (.error (.medium text), b.counting 1)
        | none => (x ()).run (b.counting 1)) := by
  have asked := run_answer request b
  cases fault : b.faults b.requests request with
  | some text =>
      simp only [fault] at asked
      rw [Action.run_bind_error asked]
  | none =>
      simp only [fault] at asked
      rw [Action.run_bind_ok asked]

theorem run_get (key : Bytes) (b : Backend) :
    (get key).run b =
      (match b.faults b.requests (.get key) with
        | some text => (.error (.medium text), b.counting 1)
        | none => (.ok (b.table.get? key), b.counting 1)) := by
  unfold get
  rw [run_answer_bind]
  rfl

theorem run_write (batch : Batch) (b : Backend) :
    (write batch).run b =
      (match b.faults b.requests (.write batch) with
        | some text => (.error (.medium text), b.counting 1)
        | none => (.ok (), (b.counting 1).written batch)) := by
  unfold write
  rw [run_answer_bind]
  rfl

theorem run_close (b : Backend) :
    close.run b =
      (match b.faults b.requests .close with
        | some text => (.error (.medium text), b.counting 1)
        | none => (.ok (), { b.counting 1 with closes := b.closes + 1 })) := by
  unfold close
  rw [run_answer_bind]
  rfl

end TimestampChain.Backend
