import Mathlib.Logic.Function.Iterate
import TimestampChain.Proofs.Engine.WakeUp

/-!
# How long a drain takes

A drain is two loops, and the inner one raises signals that the outer one then finds. It ends since every block
that is asked for takes a payload out of the queue. Once one payload is left, no signal is raised any more, and
those that wait by then fit into the channel.
-/

namespace TimestampChain.Engine

open TimestampChain.Action Controller

/-! ## The loops, step by step -/

inductive Phase where
  | looking
  | asking
  | returned (result : Except ControllerError (List Block))

/-- A moment of a drain: what is done next, the blocks that are settled, how often a block has been asked for,
and the controller. -/
structure Moment where
  phase : Phase
  settled : List Block
  asked : Nat
  controller : Controller

namespace Moment

def start (c : Controller) : Moment := ⟨.looking, [], 0, c⟩

def look (l : Moment) : Moment :=
  match receive.run l.controller with
  | (.ok .signal, d) => { l with phase := .asking, controller := d }
  | (.ok _, d) => { l with phase := .returned (.ok l.settled), controller := d }
  | (.error e, d) => { l with phase := .returned (.error e), controller := d }

/-- Ask for a block and settle it. If no payload waits, look again. -/
def ask (l : Moment) : Moment :=
  match build.run l.controller with
  | (.error .noPendingWork, d) => ⟨.looking, l.settled, l.asked + 1, d⟩
  | (.error e, d) => ⟨.returned (.error e), l.settled, l.asked + 1, d⟩
  | (.ok block, n) =>
    match (settle block).run n with
    | (.ok decided, d) => ⟨.asking, l.settled ++ [decided], l.asked + 1, d⟩
    | (.error e, d) => ⟨.returned (.error e), l.settled, l.asked + 1, d⟩

def advance (l : Moment) : Moment :=
  match l.phase with
  | .looking => l.look
  | .asking => l.ask
  | .returned _ => l

variable {c d n : Controller} {block decided : Block} {e : ControllerError}

inductive Move : Moment → Moment → Prop
  | silent {c : Controller} {settled : List Block} {asked : Nat} (silent : c.channel.waiting = 0) :
      Move ⟨.looking, settled, asked, c⟩ ⟨.returned (.ok settled), settled, asked, c⟩
  | signal {c : Controller} {settled : List Block} {asked : Nat} (waiting : 0 < c.channel.waiting) :
      Move ⟨.looking, settled, asked, c⟩ ⟨.asking, settled, asked, c.hearing⟩
  | idle {c : Controller} {settled : List Block} {asked : Nat} (empty : c.mempool.queue = []) :
      Move ⟨.asking, settled, asked, c⟩ ⟨.looking, settled, asked + 1, c⟩
  | turn {c n d : Controller} {block decided : Block} {settled : List Block} {asked : Nat}
      (built : build.run c = (.ok block, n)) (done : (settle block).run n = (.ok decided, d)) :
      Move ⟨.asking, settled, asked, c⟩ ⟨.asking, settled ++ [decided], asked + 1, d⟩
  | broken {c d : Controller} {e : ControllerError} {settled : List Block} {asked : Nat}
      (breaks : Breaks c e d) :
      Move ⟨.asking, settled, asked, c⟩ ⟨.returned (.error e), settled, asked + 1, d⟩

theorem move_look (settled : List Block) (asked : Nat) (c : Controller) :
    Move ⟨.looking, settled, asked, c⟩ (look ⟨.looking, settled, asked, c⟩) := by
  unfold look
  rw [run_receive]
  by_cases silent : c.channel.waiting = 0
  · obtain ⟨unheard, same⟩ := Channel.receive_of_silent silent
    rw [same]
    cases heard : c.channel.receive.1 with
    | signal => exact absurd heard unheard
    | nothing => exact .silent silent
    | disconnected => exact .silent silent
  · have waiting : 0 < c.channel.waiting := by omega
    rw [c.channel.receive_fst_eq_signal_iff.mpr waiting]
    exact .signal waiting

theorem move_ask (settled : List Block) (asked : Nat) (c : Controller) :
    Move ⟨.asking, settled, asked, c⟩ (ask ⟨.asking, settled, asked, c⟩) := by
  unfold ask
  rcases built : build.run c with ⟨e | block, n⟩
  · by_cases idle : e = .noPendingWork
    · subst idle
      obtain ⟨empty, rfl⟩ := build_of_noPendingWork built
      exact .idle empty
    · cases e <;> first
        | exact absurd rfl idle
        | exact .broken (.unbuilt built idle)
  · rcases done : (settle block).run n with ⟨e | decided, d⟩
    · simp only [done]
      exact .broken (.unsettled built done)
    · simp only [done]
      exact .turn built done

theorem move_advance {l : Moment} (going : ∀ result, l.phase ≠ .returned result) :
    Move l l.advance := by
  obtain ⟨phase, settled, asked, c⟩ := l
  cases phase with
  | looking => exact move_look settled asked c
  | asking => exact move_ask settled asked c
  | returned result => exact absurd rfl (going result)

/-! ## What is left to do -/

/-- A turn takes a payload out of the queue, and raises a signal only if others remain. -/
theorem turn_leaves (built : build.run c = (.ok block, n))
    (done : (settle block).run n = (.ok decided, d)) :
    c.mempool.queue.length = d.mempool.queue.length + 1 ∧
      d.channel.depth = c.channel.depth ∧
      (d.mempool.queue.length = 0 → d.channel.waiting = c.channel.waiting) := by
  obtain ⟨-, rest, k, -, -, -, queue, rfl⟩ := build_of_ok built
  obtain ⟨mempool, channel⟩ := (settle_sameWork block).of_run done
  rw [mempool, channel, queue]
  refine ⟨rfl, ?_, fun empty => ?_⟩
  · simp only [building]
    split
    · rfl
    · exact Channel.depth_notify _
  · have none_waits : rest.isEmpty = true := List.isEmpty_iff.mpr (List.length_eq_zero_iff.mp empty)
    simp only [building, none_waits]
    rfl

/-- How often a block can still be asked for. While more than one payload waits, the channel may be filled
again. -/
def left (l : Moment) : Nat :=
  match l.phase with
  | .looking =>
    if l.controller.mempool.queue.length ≤ 1 then
      l.controller.mempool.queue.length + l.controller.channel.waiting
    else l.controller.mempool.queue.length + l.controller.channel.depth + 1
  | .asking =>
    if l.controller.mempool.queue.length ≤ 1 then
      l.controller.mempool.queue.length + l.controller.channel.waiting + 1
    else l.controller.mempool.queue.length + l.controller.channel.depth + 1
  | .returned _ => 0

def looks (l : Moment) : Nat :=
  match l.phase with
  | .looking =>
    if l.controller.mempool.queue.length ≤ 1 then l.controller.channel.waiting + 1
    else l.controller.channel.depth + 2
  | .asking =>
    if l.controller.mempool.queue.length ≤ 1 then l.controller.channel.waiting + 1
    else l.controller.channel.depth + 1
  | .returned _ => 0

/-- Between two requests for a block there is at most one look. -/
def rank (l : Moment) : Nat :=
  match l.phase with
  | .looking => 2 * l.left + 1
  | .asking => 2 * l.left
  | .returned _ => 0

theorem Move.left_le {l m : Moment} (move : Move l m) : m.asked + m.left ≤ l.asked + l.left := by
  cases move with
  | silent silent => exact Nat.add_le_add_left (Nat.zero_le _) _
  | @signal c settled asked waiting =>
      have one : c.hearing.channel.waiting = c.channel.waiting - 1 := c.channel.waiting_receive
      have room : c.hearing.channel.depth = c.channel.depth := c.channel.depth_receive
      have queue : c.hearing.mempool = c.mempool := rfl
      simp only [left, one, room, queue]
      split <;> omega
  | idle empty =>
      simp only [left, empty, List.length_nil, Nat.zero_le, if_true]
      omega
  | @turn c n d block decided settled asked built done =>
      obtain ⟨length, room, quiet⟩ := turn_leaves built done
      have bound := d.channel.waiting_le
      simp only [left]
      split <;> split <;> omega
  | broken breaks =>
      simp only [left]
      split <;> omega

theorem Move.rank_lt {l m : Moment} (move : Move l m) : m.rank < l.rank := by
  have less := move.left_le
  cases move with
  | silent silent => exact Nat.succ_pos _
  | signal waiting =>
      simp only [rank] at *
      omega
  | idle empty =>
      simp only [rank] at *
      omega
  | turn built done =>
      simp only [rank] at *
      omega
  | broken breaks =>
      simp only [rank, left] at *
      split <;> omega

/-! ## What a drain comes to -/

/-- What the rest of a drain comes to, if it takes at most so many looks, and a round at most so many
requests. -/
def resume (looks requests : Nat) (l : Moment) : Except ControllerError (List Block) × Controller :=
  match l.phase with
  | .looking => (drainSignals looks l.settled).run l.controller
  | .asking => (buildAll requests l.settled >>= drainSignals looks).run l.controller
  | .returned result => (result, l.controller)

structure Enough (looks requests : Nat) (l : Moment) : Prop where
  looks : l.looks ≤ looks
  requests : l.phase = .asking → l.controller.mempool.queue.length < requests

theorem looks_pos (settled : List Block) (asked : Nat) (c : Controller) :
    0 < looks ⟨.looking, settled, asked, c⟩ := by
  simp only [looks]
  split <;> exact Nat.succ_pos _

/-- With enough looks and requests, a step is one of the program, and there are enough for the rest of it. -/
theorem Move.resume_eq {l m : Moment} {seen requests : Nat} (move : Move l m)
    (enough : l.Enough seen requests) :
    ∃ seen' requests', m.Enough seen' requests' ∧ l.resume seen requests = m.resume seen' requests' := by
  have covered := enough.looks
  cases move with
  | @silent c settled asked silent =>
      have positive := Nat.lt_of_lt_of_le (looks_pos settled asked c) covered
      obtain ⟨more, rfl⟩ := Nat.exists_eq_add_one_of_ne_zero (Nat.ne_of_gt positive)
      exact ⟨0, 0, ⟨Nat.le_refl _, nofun⟩, drainSignals_of_silent silent more settled⟩
  | @signal c settled asked waiting =>
      have positive := Nat.lt_of_lt_of_le (looks_pos settled asked c) covered
      obtain ⟨more, rfl⟩ := Nat.exists_eq_add_one_of_ne_zero (Nat.ne_of_gt positive)
      refine ⟨more, c.mempool.size + 1, ⟨?_, fun _ => Nat.lt_succ_self _⟩,
        drainSignals_of_signal waiting more settled⟩
      have one : c.hearing.channel.waiting = c.channel.waiting - 1 := c.channel.waiting_receive
      have room : c.hearing.channel.depth = c.channel.depth := c.channel.depth_receive
      have queue : c.hearing.mempool = c.mempool := rfl
      simp only [looks, one, room, queue] at covered ⊢
      split at covered
      · next few => rw [if_pos few]; omega
      · next many => rw [if_neg many]; omega
  | @idle c settled asked empty =>
      refine ⟨seen, 0, ⟨?_, nofun⟩, run_bind_ok (buildAll_of_empty empty _ _)⟩
      simp only [looks, empty, List.length_nil, Nat.zero_le, if_true] at covered ⊢
      exact covered
  | @turn c n d block decided settled asked built done =>
      obtain ⟨length, room, quiet⟩ := turn_leaves built done
      have bound := d.channel.waiting_le
      have fewer : c.mempool.queue.length < requests := enough.requests rfl
      obtain ⟨more, rfl⟩ := Nat.exists_eq_add_one_of_ne_zero (Nat.ne_of_gt (Nat.zero_lt_of_lt fewer))
      refine ⟨seen, more, ⟨?_, fun _ => ?_⟩, ?_⟩
      · simp only [looks] at covered ⊢
        split <;> split at covered <;> omega
      · show d.mempool.queue.length < more
        omega
      · simp only [resume]
        rw [run_bind, buildAll_of_turn built done]
        rfl
  | @broken c d e settled asked breaks =>
      have fewer : c.mempool.queue.length < requests := enough.requests rfl
      obtain ⟨more, rfl⟩ := Nat.exists_eq_add_one_of_ne_zero (Nat.ne_of_gt (Nat.zero_lt_of_lt fewer))
      exact ⟨0, 0, ⟨Nat.le_refl _, nofun⟩, run_bind_error (buildAll_of_breaks breaks _ _)⟩

/-- From any moment on, the steps come to an end, and to what the program comes to. -/
theorem returns (l : Moment) {seen requests : Nat} (enough : l.Enough seen requests) :
    ∃ n, (advance^[n] l).phase = .returned (l.resume seen requests).1 ∧
      (advance^[n] l).controller = (l.resume seen requests).2 := by
  induction bound : l.rank using Nat.strong_induction_on generalizing l seen requests with
  | _ rank ih =>
      by_cases stopped : ∃ result, l.phase = .returned result
      · obtain ⟨result, done⟩ := stopped
        refine ⟨0, ?_, ?_⟩ <;> simp [resume, done]
      · have move := move_advance fun result done => stopped ⟨result, done⟩
        obtain ⟨seen', requests', enough', same⟩ := move.resume_eq enough
        obtain ⟨n, final⟩ := ih _ (bound ▸ move.rank_lt) l.advance enough' rfl
        rw [← same] at final
        exact ⟨n + 1, final⟩

/-! ## Along the steps -/

theorem advance_cases (l : Moment) : l.advance = l ∨ Move l l.advance := by
  by_cases stopped : ∃ result, l.phase = .returned result
  · obtain ⟨result, done⟩ := stopped
    left
    rw [advance, done]
  · exact Or.inr (move_advance fun result done => stopped ⟨result, done⟩)

theorem asked_iterate (l : Moment) (n : Nat) : (advance^[n] l).asked ≤ l.asked + l.left := by
  have kept : (advance^[n] l).asked + (advance^[n] l).left ≤ l.asked + l.left := by
    induction n with
    | zero => exact Nat.le_refl _
    | succ n ih =>
        rw [Function.iterate_succ_apply']
        rcases advance_cases (advance^[n] l) with same | move
        · rw [same]
          exact ih
        · exact Nat.le_trans move.left_le ih
  omega

def Tended (l : Moment) : Prop :=
  match l.phase with
  | .looking => l.controller.mempool.queue = []
  | .asking => True
  | .returned (.ok _) => l.controller.mempool.queue = [] ∧ l.controller.channel.waiting = 0
  | .returned (.error _) => True

theorem Move.tended {l m : Moment} (move : Move l m) (tended : l.Tended) : m.Tended := by
  cases move with
  | silent silent => exact ⟨tended, silent⟩
  | signal waiting => trivial
  | idle empty => exact empty
  | turn built done => trivial
  | broken breaks => trivial

theorem tended_iterate {l : Moment} (tended : l.Tended) (n : Nat) : (advance^[n] l).Tended := by
  induction n with
  | zero => exact tended
  | succ n ih =>
      rw [Function.iterate_succ_apply']
      rcases advance_cases (advance^[n] l) with same | move
      · rw [same]
        exact ih
      · exact move.tended ih

theorem left_start (c : Controller) : (start c).left ≤ c.mempool.size + c.channel.depth + 1 := by
  have bound := c.channel.waiting_le
  show (if c.mempool.queue.length ≤ 1 then c.mempool.queue.length + c.channel.waiting
    else c.mempool.queue.length + c.channel.depth + 1) ≤ c.mempool.queue.length + c.channel.depth + 1
  split <;> omega

theorem enough_start (c : Controller) : (start c).Enough (c.channel.depth + 2) 0 := by
  have bound := c.channel.waiting_le
  refine ⟨?_, nofun⟩
  show (if c.mempool.queue.length ≤ 1 then c.channel.waiting + 1 else c.channel.depth + 2) ≤ _
  split <;> omega

theorem tended_look {c : Controller} (waiting : 0 < c.channel.waiting) :
    (start c).advance.Tended := by
  have move : Move ⟨.looking, [], 0, c⟩ (start c).advance := move_look [] 0 c
  generalize (start c).advance = l at move ⊢
  cases move with
  | silent silent => omega
  | signal waiting => trivial

/-- A drain takes steps that end, in what it comes to. -/
theorem start_returns (c : Controller) :
    ∃ n, (advance^[n] (start c)).phase = .returned (drain.run c).1 ∧
      (advance^[n] (start c)).controller = (drain.run c).2 :=
  returns (start c) (enough_start c)

end Moment

variable {c d : Controller} {blocks : List Block}

/-- A drain that finds a signal and does not fail leaves no payload and no signal. -/
theorem drain_tends (waiting : 0 < c.channel.waiting) (done : drain.run c = (.ok blocks, d)) :
    d.mempool.queue = [] ∧ d.channel.waiting = 0 := by
  obtain ⟨n, phase, controller⟩ := Moment.start_returns c
  rw [done] at phase controller
  cases n with
  | zero => cases phase
  | succ n =>
      have tended := Moment.tended_iterate (Moment.tended_look waiting) n
      rw [← Function.iterate_succ_apply, Moment.Tended, phase, controller] at tended
      exact tended

/-- Whatever payloads and signals wait and whatever the backend holds or fails at, a drain ends once it has
asked for as many blocks as payloads wait and signals fit into the channel, and one more, at most. If it does
not fail, no signal is left, nor is a payload if there was a signal. Without a signal it does nothing. -/
theorem drain_ends (c : Controller) :
    (∃ n, (Moment.advance^[n] (.start c)).phase = .returned (drain.run c).1 ∧
        (Moment.advance^[n] (.start c)).controller = (drain.run c).2 ∧
        (Moment.advance^[n] (.start c)).asked ≤ c.mempool.size + c.channel.depth + 1) ∧
      (∀ blocks d, drain.run c = (.ok blocks, d) →
        d.channel.waiting = 0 ∧ (0 < c.channel.waiting → d.mempool.queue = [])) ∧
      (c.channel.waiting = 0 → drain.run c = (.ok [], c)) := by
  refine ⟨?_, ?_, drain_of_silent⟩
  · obtain ⟨n, phase, controller⟩ := Moment.start_returns c
    have asked := Moment.asked_iterate (.start c) n
    have left := Moment.left_start c
    have none_asked : (Moment.start c).asked = 0 := rfl
    exact ⟨n, phase, controller, by omega⟩
  · intro blocks d done
    by_cases silent : c.channel.waiting = 0
    · rw [drain_of_silent silent] at done
      cases done
      exact ⟨silent, fun waiting => by omega⟩
    · obtain ⟨empty, tended⟩ := drain_tends (by omega) done
      exact ⟨tended, fun _ => empty⟩

end TimestampChain.Engine

/-! ## A drain that asks as often as it can -/

namespace TimestampChain.Sample

/-- An engine with two payloads and room for one signal, which the first block raises again. -/
def laden : Controller := Engine.follow engine [.start [], .submit [2], .submit [3]]

end TimestampChain.Sample

namespace TimestampChain.Engine

open TimestampChain.Action Controller

/-- Two blocks are asked for and settled, and each of the two signals costs one request more. -/
theorem laden_ends :
    (∃ n, (Moment.advance^[n] (.start Sample.laden)).asked = 4) ∧
      Sample.laden.mempool.size + Sample.laden.channel.depth + 1 = 4 ∧
      ∃ blocks d, drain.run Sample.laden = (.ok blocks, d) ∧ blocks.length = 2 ∧
        d.channel.waiting = 0 ∧ d.mempool.queue = [] := by
  have waiting : 0 < Sample.laden.channel.waiting := by decide +kernel
  have settled : (drain.run Sample.laden).1.toOption.map List.length = some 2 := by decide +kernel
  refine ⟨⟨7, by decide +kernel⟩, by decide +kernel, ?_⟩
  rcases done : drain.run Sample.laden with ⟨e | blocks, d⟩ <;> rw [done] at settled
  · cases settled
  · obtain ⟨silent, empty⟩ := (drain_ends Sample.laden).2.1 blocks d done
    exact ⟨blocks, d, rfl, Option.some.inj settled, silent, empty waiting⟩

end TimestampChain.Engine
