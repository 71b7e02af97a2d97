import TimestampChain.Node.Workspace

/-!
# Databases that are opened again

Opening a database makes the directories that are missing on the way to it. Once they are there, the path
leads to the same place, whatever database has been put there meanwhile, and nothing is made any more.
-/

namespace TimestampChain.Workspace

variable {w w' : Workspace} {place next last : Place} {step path : String} {steps : List String}

/-! ## Items -/

theorem item?_put (w : Workspace) (place other : Place) (item : Item) :
    (w.put place item).item? other = if other = place then some item else w.item? other := by
  by_cases same : other = place
  · subst same
    simp [item?, put]
  · have found : (w.put place item).items.find? (fun entry => entry.1 = other) =
        w.items.find? fun entry => entry.1 = other := by
      rw [put, List.find?_cons_of_neg (by simpa using Ne.symm same), List.find?_filter]
      congr 1
      funext entry
      by_cases here : entry.1 = other <;> simp [here, same]
    rw [item?, found, if_neg same]
    rfl

/-- Only what is put somewhere last is there. -/
theorem put_put (w : Workspace) (place : Place) (first second : Item) :
    (w.put place first).put place second = w.put place second := by
  simp [put]

/-! ## What is kept -/

/-- Directories remain directories, and what is there remains there. -/
structure Retains (w w' : Workspace) : Prop where
  directory : ∀ place database, w.item? place = some (.directory database) →
    ∃ database', w'.item? place = some (.directory database')
  present : ∀ place, (w.item? place).isSome → (w'.item? place).isSome

theorem Retains.refl (w : Workspace) : w.Retains w :=
  ⟨fun _ database here => ⟨database, here⟩, fun _ here => here⟩

theorem Retains.trans {w'' : Workspace} (first : w.Retains w') (second : w'.Retains w'') :
    w.Retains w'' := by
  refine ⟨fun place database here => ?_, fun place here => second.present place (first.present place here)⟩
  obtain ⟨database', there⟩ := first.directory place database here
  exact second.directory place database' there

theorem retains_put (w : Workspace) (place : Place) (database : Option (Table Bytes)) :
    w.Retains (w.put place (.directory database)) := by
  constructor
  · intro other kept here
    rw [item?_put]
    by_cases same : other = place
    · exact ⟨database, if_pos same⟩
    · exact ⟨kept, (if_neg same).trans here⟩
  · intro other here
    rw [item?_put]
    by_cases same : other = place
    · rw [if_pos same]
      rfl
    · rw [if_neg same]
      exact here

/-! ## Following a path again -/

theorem step?_of_retains (led : w.step? place step = some next) (retains : w.Retains w') :
    w'.step? place step = some next := by
  unfold step? at led ⊢
  cases here : w.item? place with
  | none =>
      rw [here] at led
      cases led
  | some item =>
      cases item with
      | file text =>
          rw [here] at led
          cases led
      | directory database =>
          obtain ⟨database', there⟩ := retains.directory place database here
          rw [here] at led
          rw [there]
          exact led

theorem enter_of_blocked (blocked : w.step? place step = none) (rest : List String) (made : Bool) :
    w.enter (step :: rest) place made = (none, w) := by
  rw [enter, blocked]

/-- A possible step leads to a place where there is something from then on. -/
theorem enter_of_step (led : w.step? place step = some next) (rest : List String) (made : Bool) :
    ∃ made' : Bool, ∃ m : Workspace, w.enter (step :: rest) place made = m.enter rest next made' ∧
      (m.item? next).isSome ∧ w.Retains m := by
  rw [enter, led]
  dsimp only
  cases here : w.item? next with
  | some item => exact ⟨made, w, rfl, here ▸ rfl, .refl w⟩
  | none =>
      refine ⟨true, _, rfl, ?_, retains_put w next none⟩
      rw [item?_put, if_pos rfl]
      rfl

theorem retains_enter (steps : List String) (place : Place) (made : Bool) (w : Workspace) :
    w.Retains (w.enter steps place made).2 := by
  induction steps generalizing place made w with
  | nil => exact .refl w
  | cons step rest ih =>
      cases led : w.step? place step with
      | none =>
          rw [enter_of_blocked led]
          exact .refl w
      | some next =>
          obtain ⟨made', m, same, -, retains⟩ := enter_of_step led rest made
          rw [same]
          exact retains.trans (ih next made' m)

/-- Once a path has been followed to its end, it leads there again. -/
theorem enter_again {made made' again : Bool} {w₀ : Workspace}
    (entered : w.enter steps place made = (some (last, made'), w₀)) (retains : w₀.Retains w') :
    w'.enter steps place again = (some (last, again), w') := by
  induction steps generalizing place made w with
  | nil =>
      cases entered
      rfl
  | cons step rest ih =>
      cases led : w.step? place step with
      | none =>
          rw [enter_of_blocked led] at entered
          cases entered
      | some next =>
          obtain ⟨made'', m, same, there, before⟩ := enter_of_step led rest made
          rw [same] at entered
          have kept := retains_enter rest next made'' m
          rw [entered] at kept
          have kept := kept.trans retains
          obtain ⟨item, here⟩ := Option.isSome_iff_exists.mp (kept.present next there)
          rw [enter, step?_of_retains led (before.trans kept)]
          dsimp only
          rw [here]
          exact ih entered

/-! ## Opening -/

/-- A database that has been opened and left at its place is opened there again. -/
theorem openDatabase_again {t : Table Bytes} {w₀ : Workspace}
    (found : w.openDatabase path = (some (place, t), w₀)) (left : Table Bytes) :
    (w₀.put place (.directory (some left))).openDatabase path =
      (some (place, left), w₀.put place (.directory (some left))) := by
  unfold openDatabase at found ⊢
  dsimp only at found ⊢
  split at found
  · next isPath =>
    rw [if_pos isPath]
    rcases entered : w.enter (Place.steps (Place.plain path)) (Place.start (Place.plain path)) false
      with ⟨_ | ⟨last, made⟩, m⟩ <;> rw [entered] at found
    · cases found
    · have same : last = place ∧ m = w₀ := by
        dsimp only at found
        split at found <;> cases found <;> exact ⟨rfl, rfl⟩
      obtain ⟨rfl, rfl⟩ := same
      have again : (m.put last (.directory (some left))).enter (Place.steps (Place.plain path))
          (Place.start (Place.plain path)) false = (some (last, false), _) :=
        enter_again entered (retains_put m last (some left))
      rw [again]
      dsimp only
      rw [item?_put, if_pos rfl]
  · cases found

end TimestampChain.Workspace
