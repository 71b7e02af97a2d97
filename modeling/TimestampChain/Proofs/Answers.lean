import TimestampChain.Action

/-!
# Actions that make requests

An action that looks something up makes requests, each of which is counted and may fail. Apart from
that it has one answer, which the state alone decides. `Answers` says so for actions that change
nothing, and `Does` for actions that end in a change.
-/

namespace TimestampChain

theorem bind_eq_ok_iff {ε α β : Type} {x : Except ε α} {f : α → Except ε β} {b : β} :
    x >>= f = .ok b ↔ ∃ a, x = .ok a ∧ f a = .ok b := by
  cases x <;> simp [bind, Except.bind]

theorem bind_eq_error {ε α β : Type} {x : Except ε α} {f : α → Except ε β} {e : ε}
    (failed : x >>= f = .error e) : x = .error e ∨ ∃ a, x = .ok a ∧ f a = .error e := by
  cases x with
  | error cause =>
      cases failed
      exact Or.inl rfl
  | ok a => exact Or.inr ⟨a, rfl, failed⟩

theorem map_eq_error_iff {ε α β : Type} {f : α → β} {x : Except ε α} {e : ε} :
    x.map f = .error e ↔ x = .error e := by
  cases x <;> simp [Except.map]

theorem mapError_eq_ok_iff {ε δ α : Type} {wrap : ε → δ} {x : Except ε α} {a : α} :
    x.mapError wrap = .ok a ↔ x = .ok a := by
  cases x with
  | error e =>
      constructor <;> intro h <;> cases h
  | ok b =>
      constructor <;> intro h <;> cases h <;> rfl

theorem toOption_eq_some_iff {ε α : Type} {x : Except ε α} {a : α} :
    x.toOption = some a ↔ x = .ok a := by
  cases x <;> simp [Except.toOption]

theorem Action.run_bind_cases {σ ε α β : Type} (x : Action σ ε α) (g : α → Action σ ε β) (s : σ) :
    (∃ e t, x.run s = (.error e, t) ∧ (x >>= g).run s = (.error e, t)) ∨
      ∃ a t, x.run s = (.ok a, t) ∧ (x >>= g).run s = (g a).run t := by
  rcases outcome : x.run s with ⟨e | a, t⟩
  · exact Or.inl ⟨e, t, rfl, run_bind_error outcome⟩
  · exact Or.inr ⟨a, t, rfl, run_bind_ok outcome⟩

theorem Action.run_map {σ ε α β : Type} (f : α → β) (x : Action σ ε α) (s : σ) :
    (f <$> x).run s = ((x.run s).1.map f, (x.run s).2) := by
  change (x >>= fun a => pure (f a)).run s = _
  rw [run_bind]
  rcases x.run s with ⟨_ | _, _⟩ <;> rfl

theorem Action.run_eq {σ ε α : Type} {x : Action σ ε α} {s : σ} {r : Except ε α}
    (h : (x.run s).1 = r) : x.run s = (r, (x.run s).2) :=
  Prod.ext h rfl

/-- States in which requests are counted. Counting is all that a request which fails does. -/
class Counted (σ : Type) (ε : outParam Type) where
  /-- The state with `n` more requests counted. -/
  counting : σ → Nat → σ
  /-- One of the next `n` requests fails with the given error. -/
  Fails : σ → Nat → ε → Prop
  counting_zero : ∀ s, counting s 0 = s
  counting_counting : ∀ s m n, counting (counting s m) n = counting s (m + n)
  mono : ∀ {s m n e}, Fails s m e → m ≤ n → Fails s n e
  later : ∀ {s m n e}, Fails (counting s m) n e → Fails s (m + n) e

namespace Action

open Counted

variable {σ ε α β : Type} [Counted σ ε]

/-- The action yields a result and then changes the state, unless a request fails, after which
nothing has changed. -/
def Does (x : Action σ ε α) (s : σ) (r : Except ε α) (change : σ → σ) : Prop :=
  ∃ n, x.run s = (r, change (counting s n)) ∨
    ∃ e, Fails s n e ∧ x.run s = (.error e, counting s n)

def Answers (x : Action σ ε α) (s : σ) (r : Except ε α) : Prop := x.Does s r id

theorem Does.cases {x : Action σ ε α} {s : σ} {r : Except ε α} {change : σ → σ}
    (h : x.Does s r change) :
    (∃ n e, x.run s = (.error e, counting s n)) ∨ ∃ n, x.run s = (r, change (counting s n)) := by
  obtain ⟨n, done | ⟨e, _, stopped⟩⟩ := h
  · exact Or.inr ⟨n, done⟩
  · exact Or.inl ⟨n, e, stopped⟩

theorem Answers.refused {x : Action σ ε α} {s : σ} {e : ε} (h : x.Answers s (.error e)) :
    ∃ n e, x.run s = (.error e, counting s n) := by
  obtain stopped | ⟨n, done⟩ := Does.cases h
  · exact stopped
  · exact ⟨n, e, done⟩

theorem Answers.eq_of_ok {x : Action σ ε α} {s : σ} {r : Except ε α} {a : α} (h : x.Answers s r)
    (done : (x.run s).1 = .ok a) : r = .ok a := by
  obtain ⟨n, e, failed⟩ | ⟨n, answered⟩ := Does.cases h
  · rw [failed] at done
    cases done
  · rw [answered] at done
    exact done

theorem does_of_run {x : Action σ ε α} {s : σ} {r : Except ε α} {change : σ → σ}
    (h : x.run s = (r, change s)) : x.Does s r change :=
  ⟨0, Or.inl (by rw [h, counting_zero])⟩

theorem answers_of_run {x : Action σ ε α} {s : σ} {r : Except ε α} (h : x.run s = (r, s)) :
    x.Answers s r :=
  does_of_run h

theorem Answers.map {x : Action σ ε α} {s : σ} {r : Except ε α} (h : x.Answers s r) (f : α → β) :
    (f <$> x).Answers s (r.map f) := by
  obtain ⟨n, done | ⟨e, fails, stopped⟩⟩ := h
  · exact ⟨n, Or.inl (by rw [run_map, done])⟩
  · exact ⟨n, Or.inr ⟨e, fails, by rw [run_map, stopped]; rfl⟩⟩

theorem answers_pure (a : α) (s : σ) : (pure a : Action σ ε α).Answers s (.ok a) :=
  answers_of_run rfl

theorem answers_fail (e : ε) (s : σ) : (fail e : Action σ ε α).Answers s (.error e) :=
  answers_of_run rfl

theorem answers_ofExcept (r : Except ε α) (s : σ) : (ofExcept r : Action σ ε α).Answers s r :=
  answers_of_run rfl

theorem Does.of_run {x : Action σ ε α} {g : α → Action σ ε β} {s : σ} {a : α} {r : Except ε β}
    {change : σ → σ} (first : x.run s = (.ok a, s)) (next : (g a).Does s r change) :
    (x >>= g).Does s r change := by
  obtain ⟨n, next⟩ := next
  exact ⟨n, by rwa [run_bind_ok first]⟩

theorem Does.of_state {g : σ → Action σ ε β} {s : σ} {r : Except ε β} {change : σ → σ}
    (next : (g s).Does s r change) : (state >>= g).Does s r change :=
  next.of_run (run_state s)

theorem Does.then_run {x : Action σ ε α} {g : α → Action σ ε β} {s : σ} {a : α} {r : Except ε β}
    {change change' : σ → σ} (first : x.Does s (.ok a) change)
    (next : ∀ n, (g a).run (change (counting s n)) = (r, change' (counting s n))) :
    (x >>= g).Does s r change' := by
  obtain ⟨n, done | ⟨e, fails, stopped⟩⟩ := first
  · exact ⟨n, Or.inl (by rw [run_bind_ok done, next])⟩
  · exact ⟨n, Or.inr ⟨e, fails, run_bind_error stopped⟩⟩

/-- What an action finds out decides what is done next. -/
theorem Answers.bind_does {x : Action σ ε α} {g : α → Action σ ε β} {s : σ} {a : α}
    {r : Except ε β} {change : σ → σ} (first : x.Answers s (.ok a))
    (next : ∀ n, (g a).Does (counting s n) r change) : (x >>= g).Does s r change := by
  obtain ⟨m, done | ⟨e, fails, stopped⟩⟩ := first
  · obtain ⟨n, done' | ⟨e, fails, stopped⟩⟩ := next m
    · refine ⟨m + n, Or.inl ?_⟩
      rw [run_bind_ok done, id, done', counting_counting]
    · refine ⟨m + n, Or.inr ⟨e, later fails, ?_⟩⟩
      rw [run_bind_ok done, id, stopped, counting_counting]
  · exact ⟨m, Or.inr ⟨e, fails, run_bind_error stopped⟩⟩

theorem Answers.bind_error {x : Action σ ε α} {g : α → Action σ ε β} {s : σ} {e : ε}
    (first : x.Answers s (.error e)) : (x >>= g).Answers s (.error e) := by
  obtain ⟨n, done | ⟨e', fails, stopped⟩⟩ := first
  · exact ⟨n, Or.inl (run_bind_error done)⟩
  · exact ⟨n, Or.inr ⟨e', fails, run_bind_error stopped⟩⟩

theorem Answers.bind {x : Action σ ε α} {g : α → Action σ ε β} {s : σ} {r : Except ε α}
    {k : α → Except ε β} (first : x.Answers s r)
    (next : ∀ a n, r = .ok a → (g a).Answers (counting s n) (k a)) :
    (x >>= g).Answers s (r >>= k) := by
  cases r with
  | error e => exact first.bind_error
  | ok a => exact first.bind_does fun n => next a n rfl

end Action

end TimestampChain
