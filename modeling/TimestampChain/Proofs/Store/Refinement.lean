import TimestampChain.Proofs.Store.Layers

/-!
# A map with atomic commits

Only a commit of a chain state reaches the lower one of its layers, with everything that is staged or with
nothing, and what is staged stands in the way of closing. So a state answers and changes like its two
layers over any table, whatever is asked and whatever fails.
-/

namespace TimestampChain.ChainState

open TimestampChain.Action

variable {s t : ChainState}

/-! ## Committing and closing -/

def Sealed (s : ChainState) : Prop := s.closed = true → s.staged = .empty

theorem Sealed.opened (shut : s.Sealed) (waiting : s.staged ≠ .empty) : s.closed = false :=
  Bool.eq_false_iff.mpr fun closed => waiting (shut closed)

theorem layers_written (s : ChainState) :
    { s with backend := (s.backend.counting 1).written s.staged.drain.1, staged := .empty }.layers =
      s.layers.merged := by
  have merged : (s.backend.table.insertMany s.staged.drain.1).get? = s.layers.value := by
    funext key
    exact Table.get?_insertMany s.backend.table s.staged.writes key
  rw [layers, Layers.merged, ← merged]
  rfl

section

variable {text : String}

theorem drained_ne_nil (waiting : s.staged ≠ .empty) : s.staged.drain.1 ≠ [] := by
  intro none
  exact waiting (WriteBuffer.isEmpty_iff.mp (List.isEmpty_iff.mpr none))

/-- What cannot be written is lost. -/
theorem run_commit_of_fault (opened : s.closed = false) (waiting : s.staged ≠ .empty)
    (fault : s.backend.faults s.backend.requests (.write s.staged.drain.1) = some text) :
    ∃ t, commit.run s = (.error (.medium text), t) ∧ t.layers = s.layers.dropped ∧
      t.backend.journal = s.backend.journal := by
  have run := run_commit opened rfl (drained_ne_nil waiting)
  rw [fault] at run
  exact ⟨_, run, rfl, rfl⟩

theorem run_commit_of_works (opened : s.closed = false) (waiting : s.staged ≠ .empty)
    (works : s.backend.faults s.backend.requests (.write s.staged.drain.1) = none) :
    ∃ t, commit.run s = (.ok (), t) ∧ t.layers = s.layers.merged ∧
      t.backend.journal = s.staged.drain.1 :: s.backend.journal := by
  have run := run_commit opened rfl (drained_ne_nil waiting)
  rw [works] at run
  exact ⟨_, run, layers_written s, rfl⟩

theorem run_commit_of_empty (opened : s.closed = false) (empty : s.staged = .empty) :
    commit.run s = (.ok (), s) := by
  have passed := run_ensureOpen s
  rw [opened, if_neg Bool.false_ne_true] at passed
  rw [commit, run_bind_ok passed, run_bind_ok (run_state s)]
  rw [if_pos (WriteBuffer.isEmpty_iff.mpr empty)]
  rfl

theorem run_commit_of_closed (closed : s.closed = true) : commit.run s = (.error .closed, s) := by
  have stopped := run_ensureOpen s
  rw [closed, if_pos rfl] at stopped
  exact run_bind_error stopped

theorem run_close_of_waiting (opened : s.closed = false) (waiting : s.staged ≠ .empty) :
    close.run s = (.error (.uncommittedWrites s.pendingWrites), s) := by
  have full : ¬ s.staged.isEmpty = true := fun none => waiting (WriteBuffer.isEmpty_iff.mp none)
  rw [close, run_bind_ok (run_state s), opened, if_neg Bool.false_ne_true, if_neg full]
  rfl

theorem run_close_of_closed (closed : s.closed = true) : close.run s = (.ok (), s) := by
  rw [close, run_bind_ok (run_state s), if_pos closed]
  rfl

theorem run_close_of_fault (opened : s.closed = false) (empty : s.staged = .empty)
    (fault : s.backend.faults s.backend.requests .close = some text) :
    close.run s = (.error (.medium text), s.counting 1) := by
  have run := run_close (WriteBuffer.isEmpty_iff.mpr empty)
  rw [opened, if_neg Bool.false_ne_true, fault] at run
  exact run

theorem run_close_of_works (opened : s.closed = false) (empty : s.staged = .empty)
    (works : s.backend.faults s.backend.requests .close = none) :
    ∃ t, close.run s = (.ok (), t) ∧ t.closed = true ∧ t.staged = .empty ∧ t.layers = s.layers := by
  have run := run_close (WriteBuffer.isEmpty_iff.mpr empty)
  rw [opened, if_neg Bool.false_ne_true, works] at run
  exact ⟨_, run, rfl, empty, rfl⟩

end

/-- What closing comes to. -/
theorem close_cases (shut : s.Sealed) :
    (∃ e n, close.run s = (.error e, s.counting n)) ∨
      ∃ t, close.run s = (.ok (), t) ∧ t.closed = true ∧ t.staged = .empty ∧ t.layers = s.layers := by
  cases closed : s.closed with
  | true => exact Or.inr ⟨s, run_close_of_closed closed, closed, shut closed, rfl⟩
  | false =>
      by_cases empty : s.staged = .empty
      · cases fault : s.backend.faults s.backend.requests .close with
        | some text => exact Or.inl ⟨_, 1, run_close_of_fault closed empty fault⟩
        | none => exact Or.inr (run_close_of_works closed empty fault)
      · exact Or.inl ⟨_, 0, run_close_of_waiting closed empty⟩

/-- What committing comes to. -/
theorem commit_cases (s : ChainState) :
    (commit.run s).2 = s ∨ (commit.run s).2.staged = .empty := by
  cases closed : s.closed with
  | true => exact Or.inl (congrArg Prod.snd (run_commit_of_closed closed))
  | false =>
      by_cases empty : s.staged = .empty
      · exact Or.inl (congrArg Prod.snd (run_commit_of_empty closed empty))
      · have run := run_commit closed rfl (drained_ne_nil empty)
        rw [run]
        cases s.backend.faults s.backend.requests (.write s.staged.drain.1) <;> exact Or.inr rfl

/-! ## Whatever happens -/

theorem sealed_of_empty (empty : s.staged = .empty) : s.Sealed := fun _ => empty

theorem Sealed.counting (shut : s.Sealed) (n : Nat) : (s.counting n).Sealed := shut

theorem Sealed.afterEvent (shut : s.Sealed) (event : Event) : (s.afterEvent event).Sealed := by
  cases event with
  | read query =>
      obtain ⟨n, counted⟩ := query_counts query s
      rw [ChainState.afterEvent, counted]
      exact shut.counting n
  | stage change =>
      -- A closed state stages nothing, and an open one stays open.
      cases closed : s.closed with
      | true =>
          rw [ChainState.afterEvent, run_change_of_closed closed change]
          exact shut
      | false =>
          intro closed'
          rw [ChainState.afterEvent, (staged_run change s).closed_eq, closed] at closed'
          cases closed'
  | commit =>
      rcases commit_cases s with same | empty
      · rw [ChainState.afterEvent, same]
        exact shut
      · exact sealed_of_empty empty
  | abort => exact sealed_of_empty rfl
  | close =>
      rcases close_cases shut with ⟨e, n, failed⟩ | ⟨t, done, -, empty, -⟩
      · rw [ChainState.afterEvent, failed]
        exact shut.counting n
      · rw [ChainState.afterEvent, done]
        exact sealed_of_empty empty
  | restart => exact sealed_of_empty rfl

/-- Over any table, nothing is staged in a state that is closed, whatever happened to it. -/
theorem sealed_follow (b : Backend) (events : List Event) : ((ofBackend b).follow events).Sealed := by
  have run : ∀ s : ChainState, s.Sealed → (s.follow events).Sealed := by
    induction events with
    | nil => exact fun _ shut => shut
    | cons event events ih => exact fun s shut => ih (s.afterEvent event) (shut.afterEvent event)
  exact run _ (sealed_of_empty rfl)

/-- Everything that is asked of the state is refused, except to close it. -/
structure Refusing (s : ChainState) : Prop where
  reads : ∀ query : Query, query.perform.run s = (.error .closed, s)
  stages : ∀ change : Change, change.perform.run s = (.error .closed, s)
  commits : commit.run s = (.error .closed, s)
  closes : close.run s = (.ok (), s)

theorem refusing_of_closed (closed : s.closed = true) : s.Refusing :=
  ⟨run_query_of_closed closed, run_change_of_closed closed, run_commit_of_closed closed,
    run_close_of_closed closed⟩

/-- A closed state stays as it is until it is restarted. -/
theorem follow_of_closed {later : List Event} (closed : s.closed = true) (empty : s.staged = .empty)
    (lasting : .restart ∉ later) : s.follow later = s := by
  induction later with
  | nil => rfl
  | cons event later ih =>
      obtain ⟨different, lasting⟩ := not_or.mp (mt List.mem_cons.mpr lasting)
      have refusing := refusing_of_closed closed
      have same : s.afterEvent event = s := by
        cases event with
        | read query => exact congrArg Prod.snd (refusing.reads query)
        | stage change => exact congrArg Prod.snd (refusing.stages change)
        | commit => exact congrArg Prod.snd refusing.commits
        | abort =>
            have emptied : s.afterEvent .abort = { s with staged := .empty } := rfl
            rw [emptied, ← empty]
        | close => exact congrArg Prod.snd refusing.closes
        | restart => exact absurd rfl different
      have steps : s.follow (event :: later) = (s.afterEvent event).follow later := rfl
      rw [steps, same]
      exact ih lasting

/-- The state answers and changes like two maps, one laid over the other. -/
structure Layered (s : ChainState) : Prop where
  /-- What is staged is found, without a request. -/
  reads_staged : ∀ (query : Query) (value : Bytes), s.layers.staged query.key = some value →
    query.perform.run s = (query.answer (some value), s)
  /-- What is not staged is looked up among what is committed. -/
  reads_committed : ∀ query : Query, s.closed = false → s.layers.staged query.key = none →
    query.perform.run s =
      (match s.backend.faults s.backend.requests (.get query.key) with
        | some text => .error (.medium text)
        | none => query.answer (s.layers.committed query.key), s.counting 1)
  /-- Staging touches the upper map at one key, or has a reason not to. -/
  stages : ∀ (change : Change) (reply : Except StoreError Unit) (t : ChainState),
    change.perform.run s = (reply, t) →
      t.layers.committed = s.layers.committed ∧
        (∀ other, other ≠ change.key → t.layers.staged other = s.layers.staged other) ∧
        (reply = .ok () → t.layers.value change.key = some change.value) ∧
        ∀ e, reply = .error e → t.layers = s.layers ∧ s.Refuses change e
  /-- Everything staged is committed in one batch, or dropped. -/
  commits : s.layers.waiting.Nonempty →
    ∃ batch : Batch, (∀ key value, (key, value) ∈ batch ↔ s.layers.staged key = some value) ∧
      (s.backend.faults s.backend.requests (.write batch) = none →
        ∃ t, commit.run s = (.ok (), t) ∧ t.layers = s.layers.merged ∧
          t.backend.journal = batch :: s.backend.journal) ∧
      ∀ text, s.backend.faults s.backend.requests (.write batch) = some text →
        ∃ t, commit.run s = (.error (.medium text), t) ∧ t.layers = s.layers.dropped ∧
          t.backend.journal = s.backend.journal
  /-- Nothing is written when nothing is staged. -/
  commits_nothing : s.closed = false → s.layers.waiting = ∅ → commit.run s = (.ok (), s)
  aborts : ∃ t, abort.run s = (.ok (), t) ∧ t.backend = s.backend ∧ t.layers = s.layers.dropped
  restarts : (s.afterEvent .restart).backend = s.backend ∧
    (s.afterEvent .restart).layers = s.layers.dropped
  waiting : s.layers.waiting.encard = s.pendingWrites
  /-- What is staged stands in the way of closing. -/
  closes_not : s.layers.waiting.Nonempty →
    close.run s = (.error (.uncommittedWrites s.pendingWrites), s)
  closes : s.closed = false → s.layers.waiting = ∅ →
    (s.backend.faults s.backend.requests .close = none → ∃ t, close.run s = (.ok (), t)) ∧
      ∀ text, s.backend.faults s.backend.requests .close = some text →
        close.run s = (.error (.medium text), s.counting 1)
  closed : s.closed = true → s.layers.waiting = ∅ ∧ s.Refusing
  /-- A state that has been closed refuses everything and stays as it is. -/
  stays_closed : ∀ t, close.run s = (.ok (), t) → t.layers = s.layers ∧
    ∀ later : List Event, .restart ∉ later → t.follow later = t ∧ t.Refusing

theorem layered_of_sealed (shut : s.Sealed) : s.Layered := by
  have waits_open : s.layers.waiting.Nonempty → s.closed = false ∧ s.staged ≠ .empty := by
    intro waiting
    have full : s.staged ≠ .empty := fun empty =>
      Set.nonempty_iff_ne_empty.mp waiting (waiting_eq_empty_iff.mpr empty)
    exact ⟨shut.opened full, full⟩
  constructor
  case reads_staged =>
    intro query value staged
    have waits : query.key ∈ s.layers.waiting := Option.isSome_iff_exists.mpr ⟨value, staged⟩
    exact run_query_of_staged (waits_open ⟨_, waits⟩).1 staged
  case reads_committed => exact fun query opened unstaged => run_query_of_unstaged opened unstaged
  case stages =>
    intro change reply t run
    have staged := staged_run change s
    rw [run] at staged
    exact staged.layers
  case commits =>
    intro waiting
    obtain ⟨opened, full⟩ := waits_open waiting
    refine ⟨s.staged.drain.1, fun _ _ => Table.get?_eq_some_iff.symm, ?_, ?_⟩
    · exact fun works => run_commit_of_works opened full works
    · exact fun text fault => run_commit_of_fault opened full fault
  case commits_nothing =>
    exact fun opened none => run_commit_of_empty opened (waiting_eq_empty_iff.mp none)
  case aborts => exact ⟨_, rfl, rfl, rfl⟩
  case restarts => exact ⟨rfl, rfl⟩
  case waiting => exact encard_waiting s
  case closes_not =>
    intro waiting
    obtain ⟨opened, full⟩ := waits_open waiting
    exact run_close_of_waiting opened full
  case closes =>
    intro opened none
    have empty := waiting_eq_empty_iff.mp none
    refine ⟨fun works => ?_, fun text fault => run_close_of_fault opened empty fault⟩
    obtain ⟨t, done, -⟩ := run_close_of_works opened empty works
    exact ⟨t, done⟩
  case closed =>
    exact fun closed => ⟨waiting_eq_empty_iff.mpr (shut closed), refusing_of_closed closed⟩
  case stays_closed =>
    intro t done
    rcases close_cases shut with ⟨e, n, failed⟩ | ⟨u, closes, closed, empty, same⟩
    · rw [failed] at done
      cases done
    · rw [closes] at done
      cases done
      exact ⟨same, fun later lasting =>
        ⟨follow_of_closed closed empty lasting, refusing_of_closed closed⟩⟩

/-- Over any table, whatever is asked of a state and whatever fails, it starts as the table with nothing
staged over it and answers and changes like the two layers. -/
theorem layered_follow (b : Backend) (events : List Event) :
    (ofBackend b).layers = ⟨b.table.get?, fun _ => none⟩ ∧ ((ofBackend b).follow events).Layered :=
  ⟨rfl, layered_of_sealed (sealed_follow b events)⟩

end TimestampChain.ChainState
