import TimestampChain.Proofs.Refusals

/-!
# Instances in the hands of a client

A client holds block instances that it has made, copied, or been given by a controller. The instances
of one block are independent of each other: a decision changes the one that it is about, and no
operation changes more of an instance than its status.
-/

namespace TimestampChain

open TimestampChain.Action

/-! ## Decisions keep the block -/

def Block.SameBut (old new : Block) : Prop := ∃ status, new = old.withStatus status

theorem Block.SameBut.refl (block : Block) : block.SameBut block := ⟨block.status, rfl⟩

theorem Block.SameBut.trans {first second third : Block} (left : first.SameBut second)
    (right : second.SameBut third) : first.SameBut third := by
  obtain ⟨_, rfl⟩ := left
  obtain ⟨status, rfl⟩ := right
  exact ⟨status, rfl⟩

theorem Block.sameBut_transition (block : Block) (target : Status) :
    block.SameBut ((Block.transition target).run block).2 := by
  rw [Block.transition, run_bind_ok (run_state _)]
  cases block.checkTransition target with
  | error cause => exact .refl block
  | ok changed =>
      cases changed with
      | false => exact .refl block
      | true => exact ⟨target, rfl⟩

namespace Decision

def SameBlock (d d' : Decision) : Prop := d.block.SameBut d'.block

instance : Std.Refl SameBlock := ⟨fun d => .refl d.block⟩

instance : Trans SameBlock SameBlock SameBlock := ⟨Block.SameBut.trans⟩

theorem onController_keeps_block {α : Type} (x : Controller.Step α) :
    Keeps SameBlock (onController x) := by
  intro d
  rw [run_onController]
  exact .refl d.block

theorem transition_keeps_block (target : Status) : Keeps SameBlock (transition target) := by
  intro d
  rw [transition, run_within]
  exact d.block.sameBut_transition target

theorem accept_keeps_block : Keeps SameBlock accept := by
  have elsewhere : Keeps SameBlock isStoredElsewhere := by
    refine keeps_state fun d => ?_
    split
    · exact onController_keeps_block _ d
    · exact .refl d.block
  refine Keeps.bind elsewhere fun stored => keeps_state fun d => ?_
  cases stored with
  | true =>
      refine Keeps.bind (transition_keeps_block .accepted) (fun _ => ?_) d
      exact onController_keeps_block _
  | false =>
      refine Keeps.bind (onController_keeps_block _).attempt (fun outcome => ?_) d
      split
      · refine Keeps.bind (transition_keeps_block .accepted) fun _ => keeps_state fun d => ?_
        exact Keeps.bind (onController_keeps_block _) (fun _ => onController_keeps_block _) d
      · exact keeps_pure _
      · exact onController_keeps_block _

theorem reject_keeps_block : Keeps SameBlock reject := by
  refine keeps_state fun d => ?_
  split
  · exact .refl d.block
  · exact onController_keeps_block _ d
  · refine Keeps.bind (onController_keeps_block _) (fun stored => ?_) d
    cases stored with
    | true => exact keeps_fail _
    | false =>
        refine Keeps.bind (onController_keeps_block _) fun _ => ?_
        exact Keeps.bind (transition_keeps_block .rejected) fun _ => keeps_pure _

end Decision

/-! ## What a client holds -/

/-- A controller, and the instances that its client holds, the latest at the end. -/
structure Holding where
  controller : Controller
  held : List Block

inductive Source where
  | create (parent : BlockId) (height : UInt64) (payload : Payload) (timestamp : UInt64)
  | withData (parent : BlockId) (height : UInt64) (data : Bytes) (timestamp : UInt64)
  | genesis (data : Bytes)
  | parse (bytes : Bytes)
  | build
  | parseBlock (bytes : Bytes)
  | getBlock (id : BlockId)
  /-- Read the record, past the verified blocks. -/
  | load (id : BlockId)
  /-- Copy the instance at a place. -/
  | copy (place : Nat)

/-- What a client can do. An event may be about any block, held or not, and restarts and failures are
among them. -/
inductive Move where
  | draw (source : Source)
  | accept (place : Nat)
  | reject (place : Nat)
  | verify (place : Nat)
  | event (event : Event)

def Controller.yielding (c : Controller) (x : Controller.Step Block) : Option Block × Controller :=
  ((x.run c).1.toOption, (x.run c).2)

namespace Holding

def ofBackend (b : Backend) (channel : Channel) (clock : Clock) : Holding :=
  ⟨.ofBackend b channel clock, []⟩

def draw (h : Holding) : Source → Option Block × Controller
  | .create parent height payload timestamp =>
    (some (Block.create parent height payload timestamp), h.controller)
  | .withData parent height data timestamp =>
    ((Block.withData parent height data timestamp).toOption, h.controller)
  | .genesis data => ((Block.genesis data).toOption, h.controller)
  | .parse bytes => ((Block.parse bytes).toOption, h.controller)
  | .build => h.controller.yielding Controller.build
  | .parseBlock bytes => h.controller.yielding (Controller.parseBlock bytes)
  | .getBlock id => h.controller.yielding (Controller.getBlock id)
  | .load id => h.controller.yielding (Controller.onStore (ChainState.getBlock id))
  | .copy place => (h.held[place]?, h.controller)

/-- Decide the instance at a place, which takes what becomes of it, whatever the result. -/
def deciding (h : Holding) (place : Nat) (x : Decision.Step Unit) : Holding :=
  match h.held[place]? with
  | none => h
  | some block =>
    let decided := (x.run ⟨block, h.controller⟩).2
    ⟨decided.controller, h.held.set place decided.block⟩

def after (h : Holding) : Move → Holding
  | .draw source => ⟨(h.draw source).2, h.held ++ (h.draw source).1.toList⟩
  | .accept place => h.deciding place Decision.accept
  | .reject place => h.deciding place Decision.reject
  | .verify place =>
    match h.held[place]? with
    | none => h
    | some block => { h with controller := h.controller.afterCall (.verify block) }
  | .event event => { h with controller := h.controller.afterEvent event }

def follow (h : Holding) (moves : List Move) : Holding := moves.foldl after h

variable {h : Holding} {place : Nat} {block new : Block}

def fate (h : Holding) (move : Move) (place : Nat) (block : Block) : Block :=
  match move with
  | .accept spot => if spot = place then (Decision.accept.run ⟨block, h.controller⟩).2.block else block
  | .reject spot => if spot = place then (Decision.reject.run ⟨block, h.controller⟩).2.block else block
  | _ => block

/-- No move changes more of an instance than its status. -/
theorem sameBut_fate (h : Holding) (move : Move) (place : Nat) (block : Block) :
    block.SameBut (h.fate move place block) := by
  cases move with
  | accept spot =>
      simp only [fate]
      split
      · exact Decision.accept_keeps_block ⟨block, h.controller⟩
      · exact .refl block
  | reject spot =>
      simp only [fate]
      split
      · exact Decision.reject_keeps_block ⟨block, h.controller⟩
      · exact .refl block
  | draw source => exact .refl block
  | verify spot => exact .refl block
  | event event => exact .refl block

theorem held_deciding (here : h.held[place]? = some block) (spot : Nat) (x : Decision.Step Unit) :
    (h.deciding spot x).held[place]? =
      some (if spot = place then (x.run ⟨block, h.controller⟩).2.block else block) := by
  unfold deciding
  by_cases same : spot = place
  · subst same
    have bound := (List.getElem?_eq_some_iff.mp here).1
    rw [here, if_pos rfl]
    exact List.getElem?_set_self bound
  · rw [if_neg same]
    split
    · exact here
    · rw [← here]
      exact List.getElem?_set_ne same

/-- Every instance stays at its place. -/
theorem held_after (here : h.held[place]? = some block) (move : Move) :
    (h.after move).held[place]? = some (h.fate move place block) := by
  cases move with
  | draw source =>
      have bound := (List.getElem?_eq_some_iff.mp here).1
      exact (List.getElem?_append_left bound).trans here
  | accept spot => exact held_deciding here spot _
  | reject spot => exact held_deciding here spot _
  | verify spot =>
      simp only [after]
      split <;> exact here
  | event event => exact here

theorem length_deciding (h : Holding) (spot : Nat) (x : Decision.Step Unit) :
    (h.deciding spot x).held.length = h.held.length := by
  unfold deciding
  split
  · rfl
  · exact List.length_set

/-- An instance behind a move has been held before, or has just been drawn. -/
theorem mem_after {move : Move} (member : new ∈ (h.after move).held) :
    (∃ place block, h.held[place]? = some block ∧ new = h.fate move place block) ∨
      ∃ source, move = .draw source ∧ (h.draw source).1 = some new := by
  have earlier (same : (h.after move).held.length = h.held.length) :
      ∃ place block, h.held[place]? = some block ∧ new = h.fate move place block := by
    obtain ⟨place, there⟩ := List.mem_iff_getElem?.mp member
    have bound := (List.getElem?_eq_some_iff.mp there).1
    have here : h.held[place]? = some h.held[place] := List.getElem?_eq_getElem (same ▸ bound)
    rw [held_after here move] at there
    exact ⟨place, _, here, (Option.some.inj there).symm⟩
  cases move with
  | draw source =>
      rcases List.mem_append.mp member with old | drawn
      · obtain ⟨place, here⟩ := List.mem_iff_getElem?.mp old
        exact Or.inl ⟨place, new, here, rfl⟩
      · exact Or.inr ⟨source, rfl, Option.mem_toList.mp drawn⟩
  | accept spot => exact Or.inl (earlier (length_deciding h spot _))
  | reject spot => exact Or.inl (earlier (length_deciding h spot _))
  | verify spot =>
      refine Or.inl (earlier ?_)
      simp only [after]
      split <;> rfl
  | event event => exact Or.inl (earlier rfl)

/-- What every move keeps holds behind all moves. -/
theorem follow_invariant {Inv : Holding → Prop} (step : ∀ h move, Inv h → Inv (h.after move))
    (moves : List Move) (start : Inv h) : Inv (h.follow moves) := by
  induction moves generalizing h with
  | nil => exact start
  | cons move moves ih => exact ih (step h move start)

end Holding

end TimestampChain
