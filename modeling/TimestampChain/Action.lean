/-!
# Fallible actions on a state

An `Action σ ε α` reads and changes a state and either yields a value or fails. A failure keeps the
state reached so far, so that what a failing action leaves behind can be stated.
-/

namespace TimestampChain

/-- A step from a state to a result and a next state. -/
def Action (σ ε α : Type) : Type := σ → Except ε α × σ

namespace Action

variable {σ τ ε δ α β γ : Type}

def run (x : Action σ ε α) (s : σ) : Except ε α × σ := x s

instance : Monad (Action σ ε) where
  pure a := fun s => (.ok a, s)
  bind x f := fun s =>
    match x s with
    | (.ok a, t) => f a t
    | (.error e, t) => (.error e, t)

def fail (e : ε) : Action σ ε α := fun s => (.error e, s)

def state : Action σ ε σ := fun s => (.ok s, s)

def update (f : σ → σ) : Action σ ε Unit := fun s => (.ok (), f s)

def ofExcept (r : Except ε α) : Action σ ε α := fun s => (r, s)

/-- Run an action and yield its result, success or failure, as a value. -/
def attempt (x : Action σ ε α) : Action σ δ (Except ε α) := fun s => (.ok (x s).1, (x s).2)

def mapError (wrap : ε → δ) (x : Action σ ε α) : Action σ δ α := fun s =>
  ((x s).1.mapError wrap, (x s).2)

/-- Run an action on a part of the state and rename its failure. -/
def within (view : σ → τ) (put : σ → τ → σ) (wrap : ε → δ) (x : Action τ ε α) : Action σ δ α :=
  fun s => ((x (view s)).1.mapError wrap, put s (x (view s)).2)

@[simp] theorem run_state (s : σ) : (state : Action σ ε σ).run s = (.ok s, s) := rfl

@[simp] theorem run_update (f : σ → σ) (s : σ) :
    (update f : Action σ ε Unit).run s = (.ok (), f s) := rfl

@[simp] theorem run_ofExcept (r : Except ε α) (s : σ) :
    (ofExcept r : Action σ ε α).run s = (r, s) := rfl

@[simp] theorem run_attempt (x : Action σ ε α) (s : σ) :
    (attempt x : Action σ δ (Except ε α)).run s = (.ok (x.run s).1, (x.run s).2) := rfl

@[simp] theorem run_mapError (wrap : ε → δ) (x : Action σ ε α) (s : σ) :
    (x.mapError wrap).run s = ((x.run s).1.mapError wrap, (x.run s).2) := rfl

@[simp] theorem run_within (view : σ → τ) (put : σ → τ → σ) (wrap : ε → δ) (x : Action τ ε α)
    (s : σ) :
    (x.within view put wrap).run s =
      ((x.run (view s)).1.mapError wrap, put s (x.run (view s)).2) := rfl

theorem run_bind (x : Action σ ε α) (f : α → Action σ ε β) (s : σ) :
    (x >>= f).run s =
      match x.run s with
      | (.ok a, t) => (f a).run t
      | (.error e, t) => (.error e, t) := rfl

theorem run_bind_ok {x : Action σ ε α} {f : α → Action σ ε β} {s t : σ} {a : α}
    (h : x.run s = (.ok a, t)) : (x >>= f).run s = (f a).run t := by
  rw [run_bind, h]

theorem run_bind_error {x : Action σ ε α} {f : α → Action σ ε β} {s t : σ} {e : ε}
    (h : x.run s = (.error e, t)) : (x >>= f).run s = (.error e, t) := by
  rw [run_bind, h]

theorem map_id (x : Action σ ε α) : id <$> x = x := by
  funext s
  change (id <$> x).run s = x.run s
  change (match x.run s with | (.ok a, t) => _ | (.error e, t) => _) = x.run s
  rcases x.run s with ⟨_ | _, _⟩ <;> rfl

theorem bind_assoc (x : Action σ ε α) (f : α → Action σ ε β) (g : β → Action σ ε γ) :
    x >>= f >>= g = x >>= fun a => f a >>= g := by
  funext s
  change (x >>= f >>= g).run s = (x >>= fun a => f a >>= g).run s
  simp only [run_bind]
  rcases x.run s with ⟨_ | _, _⟩ <;> rfl

instance : LawfulMonad (Action σ ε) :=
  LawfulMonad.mk' (Action σ ε) map_id (fun _ _ => rfl) bind_assoc

end Action

end TimestampChain
