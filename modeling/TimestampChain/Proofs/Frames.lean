import TimestampChain.Action

/-!
# What every run of an action keeps

A relation between states that is reflexive and transitive holds between the ends of every run of
an action, whatever the result, if it holds across the changes that the action is made of.
-/

namespace TimestampChain.Action

variable {σ ε δ α β : Type} {R : σ → σ → Prop}

def Keeps (R : σ → σ → Prop) (x : Action σ ε α) : Prop := ∀ s, R s (x.run s).2

theorem Keeps.of_run {x : Action σ ε α} {s t : σ} {r : Except ε α} (h : Keeps R x)
    (run : x.run s = (r, t)) : R s t := by
  have kept := h s
  rw [run] at kept
  exact kept

theorem keeps_pure [Std.Refl R] (a : α) : Keeps R (pure a : Action σ ε α) :=
  fun s => Std.Refl.refl s

theorem keeps_fail [Std.Refl R] (e : ε) : Keeps R (fail e : Action σ ε α) :=
  fun s => Std.Refl.refl s

theorem keeps_ofExcept [Std.Refl R] (r : Except ε α) : Keeps R (ofExcept r : Action σ ε α) :=
  fun s => Std.Refl.refl s

theorem Keeps.attempt {x : Action σ ε α} (h : Keeps R x) :
    Keeps R (x.attempt : Action σ δ (Except ε α)) := h

theorem Keeps.mapError {x : Action σ ε α} (h : Keeps R x) (wrap : ε → δ) :
    Keeps R (x.mapError wrap) := h

theorem Keeps.bind [Trans R R R] {x : Action σ ε α} {g : α → Action σ ε β} (first : Keeps R x)
    (next : ∀ a, Keeps R (g a)) : Keeps R (x >>= g) := by
  intro s
  have step := first s
  cases outcome : x.run s with
  | mk r t =>
      rw [outcome] at step
      cases r with
      | error e =>
          rw [run_bind_error outcome]
          exact step
      | ok a =>
          rw [run_bind_ok outcome]
          exact Trans.trans step (next a t)

/-- What is done next may be chosen by looking at the state. -/
theorem keeps_state {g : σ → Action σ ε β} (next : ∀ s, R s ((g s).run s).2) :
    Keeps R (state >>= g) := next

end TimestampChain.Action
