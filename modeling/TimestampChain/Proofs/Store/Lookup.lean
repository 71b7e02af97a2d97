import TimestampChain.Proofs.Answers
import TimestampChain.Proofs.Store.Requests
import TimestampChain.Store.ChainState

/-!
# What a chain state answers

Each look into a chain state has one answer, given by the staged and the committed entries, unless
the request that it makes fails. Staging, committing and closing are described by the state that
they lead to.
-/

namespace TimestampChain.ChainState

open TimestampChain.Action

/-! ## Counted requests -/

def counting (s : ChainState) (n : Nat) : ChainState := { s with backend := s.backend.counting n }

@[simp] theorem counting_counting (s : ChainState) (m n : Nat) :
    (s.counting m).counting n = s.counting (m + n) := by
  simp [counting]

instance : Counted ChainState StoreError where
  counting := counting
  Fails s n e := ∃ text, s.backend.FailsWithin n text ∧ e = .medium text
  counting_zero _ := rfl
  counting_counting := counting_counting
  mono := by
    rintro s m n _ ⟨text, fails, rfl⟩ le
    exact ⟨text, fails.mono le, rfl⟩
  later := by
    rintro s m n _ ⟨text, fails, rfl⟩
    exact ⟨text, fails.later, rfl⟩

/-- The value under a key, unless the state is closed. -/
def lookup (s : ChainState) (key : Bytes) : Except StoreError (Option Bytes) :=
  if s.closed then .error .closed
  else .ok ((s.staged.get? key).or (s.backend.table.get? key))

theorem run_onBackend {α : Type} (x : Action Backend StoreError α) (s : ChainState) :
    (onBackend x).run s = ((x.run s.backend).1, { s with backend := (x.run s.backend).2 }) := by
  rw [onBackend, Action.run_within]
  rcases x.run s.backend with ⟨_ | _, _⟩ <;> rfl

theorem run_ensureOpen (s : ChainState) :
    ensureOpen.run s = (if s.closed then (.error .closed, s) else (.ok (), s)) := by
  unfold ensureOpen
  rw [Action.run_bind_ok (Action.run_state s)]
  cases s.closed <;> rfl

/-! ## Looking -/

theorem get_answers (key : Bytes) (s : ChainState) :
    (onBackend (Backend.get key)).Answers s (.ok (s.backend.table.get? key)) := by
  have request := run_onBackend (Backend.get key) s
  rw [Backend.run_get] at request
  cases fault : s.backend.faults s.backend.requests (.get key) with
  | some text =>
      simp only [fault] at request
      exact ⟨1, Or.inr ⟨.medium text, ⟨text, ⟨0, by omega, .get key, fault⟩, rfl⟩, request⟩⟩
  | none =>
      simp only [fault] at request
      exact ⟨1, Or.inl request⟩

theorem read_answers (key : Bytes) (s : ChainState) : (read key).Answers s (s.lookup key) := by
  have opened := run_ensureOpen s
  unfold read lookup
  cases closed : s.closed with
  | true =>
      simp only [closed, if_true] at opened
      exact answers_of_run (Action.run_bind_error opened)
  | false =>
      simp only [closed, Bool.false_eq_true, if_false] at opened ⊢
      refine Does.of_run opened (Does.of_state ?_)
      cases s.staged.get? key with
      | some value => exact answers_pure (some value) s
      | none => exact get_answers key s

theorem lookup_of_closed {s : ChainState} (closed : s.closed = true) (key : Bytes) :
    s.lookup key = .error .closed := by
  rw [lookup, closed, if_pos rfl]

theorem open_of_lookup {s : ChainState} {key : Bytes} {value : Option Bytes}
    (found : s.lookup key = .ok value) : s.closed = false := by
  cases closed : s.closed with
  | true => rw [lookup_of_closed closed] at found; contradiction
  | false => rfl

theorem lookup_of_open {s : ChainState} (opened : s.closed = false) (empty : s.staged = .empty)
    (key : Bytes) : s.lookup key = .ok (s.backend.table.get? key) := by
  rw [lookup, opened, empty]
  rfl

def marked (s : ChainState) : Except StoreError Bool := do
  return (← s.lookup Key.initialized).isSome

def holds (s : ChainState) (id : BlockId) : Except StoreError Bool := do
  return (← s.lookup (Key.block id)).isSome

def record (s : ChainState) (id : BlockId) : Except StoreError Block := do
  match ← s.lookup (Key.block id) with
  | none => .error (.notFound id)
  | some bytes => decodeRecord id bytes

def tip (s : ChainState) : Except StoreError BlockId := do
  match ← s.lookup Key.lastAccepted with
  | none => .error .notInitialized
  | some bytes =>
    match Bytes32.ofBytes? bytes with
    | some id => return id
    | none => .error (.medium s!"last accepted pointer has {bytes.length} bytes")

theorem holds_eq_ok_iff {s : ChainState} {id : BlockId} {found : Bool} :
    s.holds id = .ok found ↔ ∃ value, s.lookup (Key.block id) = .ok value ∧ value.isSome = found := by
  rw [holds, bind_eq_ok_iff]
  simp [pure, Except.pure]

theorem lookup_of_unstored {s : ChainState} {id : BlockId} (h : s.holds id = .ok false) :
    s.lookup (Key.block id) = .ok none := by
  obtain ⟨value, found, absent⟩ := holds_eq_ok_iff.mp h
  cases value with
  | none => exact found
  | some bytes => contradiction

theorem absent_of_unstored {s : ChainState} {id : BlockId} (h : s.holds id = .ok false) :
    s.backend.table.get? (Key.block id) = none := by
  have absent := lookup_of_unstored h
  rw [lookup, open_of_lookup absent] at absent
  exact (Option.or_eq_none_iff.mp (Except.ok.inj absent)).2

theorem marked_eq_ok_iff {s : ChainState} {found : Bool} :
    s.marked = .ok found ↔ ∃ value, s.lookup Key.initialized = .ok value ∧ value.isSome = found := by
  rw [marked, bind_eq_ok_iff]
  simp [pure, Except.pure]

theorem open_of_marked {s : ChainState} {found : Bool} (h : s.marked = .ok found) :
    s.closed = false := by
  obtain ⟨value, read, -⟩ := marked_eq_ok_iff.mp h
  exact open_of_lookup read

theorem isInitialized_answers (s : ChainState) : isInitialized.Answers s s.marked :=
  (read_answers _ s).bind fun value n _ => answers_pure value.isSome (s.counting n)

theorem hasBlock_answers (id : BlockId) (s : ChainState) : (hasBlock id).Answers s (s.holds id) :=
  (read_answers _ s).bind fun value n _ => answers_pure value.isSome (s.counting n)

theorem getBlock_answers (id : BlockId) (s : ChainState) : (getBlock id).Answers s (s.record id) := by
  refine (read_answers _ s).bind fun value n _ => ?_
  cases value with
  | none => exact answers_fail _ _
  | some bytes => exact answers_ofExcept _ _

theorem lastAccepted_answers (s : ChainState) : lastAccepted.Answers s s.tip := by
  refine (read_answers _ s).bind fun value n _ => ?_
  cases value with
  | none => exact answers_fail _ _
  | some bytes =>
      dsimp only
      cases Bytes32.ofBytes? bytes with
      | some id => exact answers_pure id _
      | none => exact answers_fail _ _

/-! ## Staging -/

def staging (s : ChainState) (key value : Bytes) : ChainState :=
  { s with staged := s.staged.set key value }

theorem run_stage {s : ChainState} (opened : s.closed = false) (key value : Bytes) :
    (stage key value).run s = (.ok (), s.staging key value) := by
  have passed := run_ensureOpen s
  rw [opened, if_neg Bool.false_ne_true] at passed
  rw [stage, Action.run_bind_ok passed]
  rfl

/-- A block is staged under its identifier where there is no record yet. -/
theorem putBlock_of_absent {s : ChainState} {block : Block} (opened : s.closed = false)
    (absent : s.lookup (Key.block block.id) = .ok none) :
    (putBlock block).Does s (.ok ()) fun s => s.staging (Key.block block.id) block.bytes := by
  refine Answers.bind_does (absent ▸ read_answers _ s) fun n => ?_
  exact does_of_run (run_stage (s := s.counting n) opened _ _)

theorem putBlock_of_same {s : ChainState} {block : Block}
    (same : s.lookup (Key.block block.id) = .ok (some block.bytes)) :
    (putBlock block).Answers s (.ok ()) := by
  refine Answers.bind_does (same ▸ read_answers _ s) fun n => ?_
  dsimp only
  rw [if_pos rfl]
  exact answers_pure () _

theorem putBlock_of_other {s : ChainState} {block : Block} {bytes : Bytes}
    (other : s.lookup (Key.block block.id) = .ok (some bytes)) (different : bytes ≠ block.bytes) :
    (putBlock block).Answers s (.error (.integrity block.id)) := by
  refine Answers.bind_does (other ▸ read_answers _ s) fun n => ?_
  dsimp only
  rw [if_neg different]
  exact answers_fail _ _

theorem run_setLastAccepted {s : ChainState} (opened : s.closed = false) (id : BlockId) :
    (setLastAccepted id).run s = (.ok (), s.staging Key.lastAccepted id.toBytes) :=
  run_stage opened _ _

theorem run_setInitialized {s : ChainState} (opened : s.closed = false) :
    setInitialized.run s = (.ok (), s.staging Key.initialized initializedMarker) :=
  run_stage opened _ _

/-! ## Committing and closing -/

/-- What is staged is written in one batch, and is gone when that fails. -/
theorem run_commit {s : ChainState} {batch : Batch} (opened : s.closed = false)
    (drained : s.staged.drain.1 = batch) (nonempty : batch ≠ []) :
    commit.run s =
      (match s.backend.faults s.backend.requests (.write batch) with
        | some text => (.error (.medium text), { s.counting 1 with staged := .empty })
        | none => (.ok (), {
            s with
            backend := (s.backend.counting 1).written batch
            staged := .empty })) := by
  have passed := run_ensureOpen s
  rw [opened, if_neg Bool.false_ne_true] at passed
  have waiting : ¬ s.staged.isEmpty := by
    intro none
    exact nonempty (drained ▸ List.isEmpty_iff.mp none)
  rw [commit, Action.run_bind_ok passed, Action.run_bind_ok (Action.run_state s)]
  rw [if_neg waiting]
  rw [Action.run_bind_ok (Action.run_update _ s), run_onBackend, Backend.run_write]
  rw [← drained]
  cases s.backend.faults s.backend.requests (.write s.staged.drain.1) <;> rfl

theorem run_close {s : ChainState} (empty : s.staged.isEmpty) :
    close.run s =
      (if s.closed then (.ok (), s)
      else
        match s.backend.faults s.backend.requests .close with
        | some text => (.error (.medium text), s.counting 1)
        | none => (.ok (), {
            s with
            backend := { s.backend.counting 1 with closes := s.backend.closes + 1 }
            closed := true })) := by
  rw [close, Action.run_bind_ok (Action.run_state s)]
  by_cases closed : s.closed
  · rw [if_pos closed, if_pos closed]
    rfl
  · rw [if_neg closed, if_neg closed, if_pos empty]
    have request := run_onBackend Backend.close s
    rw [Backend.run_close] at request
    cases fault : s.backend.faults s.backend.requests .close with
    | some text =>
        simp only [fault] at request
        rw [Action.run_bind_error request]
        rfl
    | none =>
        simp only [fault] at request
        rw [Action.run_bind_ok request]
        rfl

end TimestampChain.ChainState
