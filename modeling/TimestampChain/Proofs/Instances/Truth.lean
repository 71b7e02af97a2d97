import TimestampChain.Proofs.Chain.Linkage
import TimestampChain.Proofs.Controller.Building
import TimestampChain.Proofs.Instances.Holding

/-!
# What the status of an instance says

An instance that is accepted has a record, however it came to be accepted. None is rejected while there is
a record of its block, whichever instance was accepted before. A decided instance stays as it is, and what
is looked up is accepted exactly when it is stored.
-/

namespace TimestampChain

open TimestampChain.Action

namespace Controller

variable {c d : Controller} {id : BlockId} {block : Block}

/-! ## Looking up -/

/-- The block is the one under an identifier, it is not rejected, and it is accepted exactly when it is
stored. -/
structure Tells (c : Controller) (id : BlockId) (block : Block) : Prop where
  named : block.id = id
  unrejected : block.status ≠ .rejected
  accepted : block.status = .accepted ↔ (c.table.get? (Key.block id)).isSome

theorem accepted_of_record (quiet : c.store.staged = .empty)
    (read : c.store.record id = .ok block) :
    block.id = id ∧ block.status = .accepted ∧ (c.table.get? (Key.block id)).isSome := by
  obtain ⟨value, looked, decoded⟩ := bind_eq_ok_iff.mp read
  rw [ChainState.lookup_of_open (ChainState.open_of_lookup looked) quiet] at looked
  have entry : c.table.get? (Key.block id) = value := Except.ok.inj looked
  cases value with
  | none => cases decoded
  | some bytes =>
      obtain ⟨named, -, status⟩ := ChainState.decodeRecord_eq_ok decoded
      exact ⟨named, status, Option.isSome_iff_exists.mpr ⟨bytes, entry⟩⟩

theorem tells_of_accepted (named : block.id = id) (status : block.status = .accepted)
    (there : (c.table.get? (Key.block id)).isSome) : c.Tells id block :=
  ⟨named, by simp [status], iff_of_true status there⟩

theorem tells_of_undecided (named : block.id = id) (status : block.status = .processing)
    (absent : c.table.get? (Key.block id) = none) : c.Tells id block :=
  ⟨named, by simp [status], by simp [status, absent]⟩

theorem tells_of_find (tidy : c.Tidy) (found : c.find id = .ok block) : c.Tells id block := by
  have named := id_of_find tidy found
  unfold find at found
  cases known : c.verified? id with
  | some kept =>
      rw [known] at found
      cases found
      exact tells_of_undecided named (tidy.undecided _ _ known) (tidy.absent_of_verified known)
  | none =>
      rw [known] at found
      obtain ⟨-, status, there⟩ := accepted_of_record tidy.quiet (mapError_eq_ok_iff.mp found)
      exact tells_of_accepted named status there

theorem tells_of_getBlock (tidy : c.Tidy) (found : (getBlock id).run c = (.ok block, d)) :
    c.Tells id block :=
  tells_of_find tidy ((getBlock_answers id c).eq_of_ok (congrArg Prod.fst found))

theorem find_of_getBlock_missing {other : BlockId}
    (missing : (getBlock id).run c = (.error (.notFound other), d)) :
    c.find id = .error (.notFound other) := by
  obtain ⟨n, done | ⟨_, ⟨text, -, rfl⟩, stopped⟩⟩ := getBlock_answers id c
  · exact congrArg Prod.fst (done.symm.trans missing)
  · cases stopped.symm.trans missing

/-- A block that is read is the known instance, or a new one that is not stored. -/
theorem tells_of_parseBlock {bytes : Bytes} (tidy : c.Tidy)
    (read : (parseBlock bytes).run c = (.ok block, d)) : c.Tells (Sha256.hash bytes) block := by
  cases parsed : Block.parse bytes with
  | error cause =>
      rw [parseBlock, parsed] at read
      cases read
  | ok new =>
      obtain ⟨kept, undecided⟩ := Block.parse_eq_ok_iff.mp parsed
      have named : new.id = Sha256.hash bytes := by rw [new.id_eq, kept]
      rw [parseBlock, parsed] at read
      replace read := (run_bind_ok rfl).symm.trans read
      rw [run_bind_ok (run_attempt _ _), named] at read
      rcases outcome : (getBlock (Sha256.hash bytes)).run c with ⟨e | known, d'⟩ <;>
        rw [outcome] at read
      · cases e with
        | notFound other =>
            cases read
            have absent := absent_of_notFound tidy (find_of_getBlock_missing outcome)
            exact tells_of_undecided named undecided absent
        | _ => cases read
      · cases read
        exact tells_of_getBlock tidy outcome

/-! ## Deciding -/

/-- An instance that is to be accepted stays as it is, or it is undecided and becomes accepted, and then
there is a record. -/
theorem accept_fate (tidy : c.Tidy) (block : Block) :
    ∃ r new d, Decision.accept.run ⟨block, c⟩ = (r, ⟨new, d⟩) ∧
      (new = block ∨ block.status = .processing ∧ new = block.asAccepted ∧
        (d.table.get? (Key.block block.id)).isSome) := by
  rcases accept_cases block tidy.quiet with ⟨n, e, run⟩ | ⟨-, run⟩ | ⟨status, stored, n, run⟩ |
    ⟨status, -, -, d, wrote, run⟩
  · have run := Decision.run_of_deciding_error Decision.accept_returns run
    exact ⟨_, _, _, run, Or.inl rfl⟩
  · exact ⟨_, _, _, Decision.run_of_deciding_ok run, Or.inl rfl⟩
  · have there := isSome_of_stored tidy.quiet stored
    exact ⟨_, _, _, Decision.run_of_deciding_ok run, Or.inr ⟨status, rfl, there⟩⟩
  · have written := table_of_accepted wrote
    have there : (d.table.get? (Key.block block.id)).isSome := by
      rw [written, Table.record_accepting, if_pos rfl]
      rfl
    exact ⟨_, _, _, Decision.run_of_deciding_ok run, Or.inr ⟨status, rfl, there⟩⟩

/-- An instance that is to be rejected stays as it is, or it is undecided and becomes rejected, and then
there is no record. -/
theorem reject_fate (block : Block) (c : Controller) :
    ∃ r new d, Decision.reject.run ⟨block, c⟩ = (r, ⟨new, d⟩) ∧ d.table = c.table ∧
      (new = block ∨ block.status = .processing ∧ new = block.withStatus .rejected ∧
        c.table.get? (Key.block block.id) = none) := by
  obtain ⟨n, e, run⟩ | ⟨-, run⟩ | ⟨status, unstored, n, run⟩ := reject_results block c
  · have run := Decision.run_of_deciding_error Decision.reject_returns run
    exact ⟨_, _, _, run, rfl, Or.inl rfl⟩
  · exact ⟨_, _, _, Decision.run_of_deciding_ok run, rfl, Or.inl rfl⟩
  · have absent := ChainState.absent_of_unstored unstored
    exact ⟨_, _, _, Decision.run_of_deciding_ok run, rfl, Or.inr ⟨status, rfl, absent⟩⟩

/-! ## What comes behind -/

structure Behind (c d : Controller) : Prop where
  tidy : d.Tidy
  kept : ∀ key, (c.table.get? key).isSome → (d.table.get? key).isSome

theorem Tidy.behind_self (tidy : c.Tidy) : c.Behind c := ⟨tidy, fun _ there => there⟩

theorem Tidy.behind_event (tidy : c.Tidy) (event : Event) : c.Behind (c.afterEvent event) :=
  ⟨tidy.afterEvent event, fun _ there => isSome_afterEvent tidy.quiet event there⟩

theorem Tidy.behind_yielding {x : Step Block} (tidy : c.Tidy) (spares : Keeps Spares x) :
    c.Behind (c.yielding x).2 := by
  have idle := (spares c).idle
  refine ⟨tidy.idle idle, fun key there => ?_⟩
  have table : (c.yielding x).2.table = c.table := idle.table_eq
  rw [table]
  exact there

theorem yielding_eq_some {x : Step Block} (drawn : (c.yielding x).1 = some block) :
    ∃ d, x.run c = (.ok block, d) := by
  have done : (x.run c).1 = .ok block := toOption_eq_some_iff.mp drawn
  exact ⟨(x.run c).2, run_eq done⟩

theorem loads_spares (id : BlockId) : Keeps Spares (onStore (ChainState.getBlock id)) :=
  spares_of_answers fun c => onStore_answers (ChainState.getBlock_answers id c.store)

end Controller

theorem Block.status_of_withData {parent : BlockId} {height timestamp : UInt64} {data : Bytes}
    {block : Block} (made : Block.withData parent height data timestamp = .ok block) :
    block.status = .processing := by
  unfold Block.withData at made
  cases fits : Payload.ofData data with
  | error cause =>
      rw [fits] at made
      cases made
  | ok payload =>
      rw [fits] at made
      cases made
      rfl

namespace Holding

open TimestampChain.Controller

variable {h : Holding} {block new : Block}

theorem behind_deciding {place : Nat} {x : Decision.Step Unit} (tidy : h.controller.Tidy)
    (decided : ∀ block, h.controller.Behind (x.run ⟨block, h.controller⟩).2.controller) :
    h.controller.Behind (h.deciding place x).controller := by
  unfold deciding
  split
  · exact tidy.behind_self
  · exact decided _

/-- The controller behind a move. -/
theorem behind_after (tidy : h.controller.Tidy) (move : Move) :
    h.controller.Behind (h.after move).controller := by
  cases move with
  | draw source =>
      cases source with
      | build => exact tidy.behind_yielding build_spares
      | parseBlock bytes => exact tidy.behind_yielding (parseBlock_spares bytes)
      | getBlock id => exact tidy.behind_yielding (getBlock_spares id)
      | load id => exact tidy.behind_yielding (loads_spares id)
      | _ => exact tidy.behind_self
  | accept place =>
      refine behind_deciding tidy fun block => ?_
      have behind := tidy.behind_event (.call (.accept block))
      rw [afterEvent, afterCall_eq (x := accept block) rfl] at behind
      exact behind
  | reject place =>
      refine behind_deciding tidy fun block => ?_
      have behind := tidy.behind_event (.call (.reject block))
      rw [afterEvent, afterCall_eq (x := reject block) rfl] at behind
      exact behind
  | verify place =>
      simp only [after]
      split
      · exact tidy.behind_self
      · exact tidy.behind_event (.call (.verify _))
  | event event => exact tidy.behind_event event

/-! ## Along a run -/

def Backed (c : Controller) (block : Block) : Prop :=
  block.status = .accepted → (c.table.get? (Key.block block.id)).isSome

theorem backed_of_undecided {c : Controller} (undecided : block.status = .processing) :
    Backed c block := by
  intro accepted
  rw [undecided] at accepted
  cases accepted

theorem backed_of_tells {c : Controller} {id : BlockId} (tells : c.Tells id block) : Backed c block := by
  intro accepted
  rw [tells.named]
  exact tells.accepted.mp accepted

/-- Between two moves the controller is tidy, and every instance that is accepted has a record. -/
structure Sound (h : Holding) : Prop where
  tidy : h.controller.Tidy
  backed : ∀ block ∈ h.held, Backed h.controller block

theorem sound_ofBackend (b : Backend) (channel : Channel) (clock : Clock) :
    (ofBackend b channel clock).Sound :=
  ⟨tidy_ofBackend b channel clock, fun _ member => absurd member List.not_mem_nil⟩

theorem Sound.drawn {source : Source} (sound : h.Sound) (drawn : (h.draw source).1 = some new) :
    Backed h.controller new := by
  cases source with
  | create parent height payload timestamp =>
      cases drawn
      exact backed_of_undecided rfl
  | withData parent height data timestamp =>
      have made := toOption_eq_some_iff.mp drawn
      exact backed_of_undecided (Block.status_of_withData made)
  | genesis data =>
      have made := toOption_eq_some_iff.mp drawn
      exact backed_of_undecided (Block.status_of_genesis made)
  | parse bytes =>
      have read := toOption_eq_some_iff.mp drawn
      exact backed_of_undecided (Block.parse_eq_ok_iff.mp read).2
  | build =>
      obtain ⟨d, made⟩ := yielding_eq_some drawn
      obtain ⟨parent, rest, n, -, -, composed, -⟩ := build_of_ok made
      rw [composed]
      exact backed_of_undecided rfl
  | parseBlock bytes =>
      obtain ⟨d, read⟩ := yielding_eq_some drawn
      exact backed_of_tells (tells_of_parseBlock sound.tidy read)
  | getBlock id =>
      obtain ⟨d, found⟩ := yielding_eq_some drawn
      exact backed_of_tells (tells_of_getBlock sound.tidy found)
  | load id =>
      obtain ⟨d, loaded⟩ := yielding_eq_some drawn
      have answer := onStore_answers (ChainState.getBlock_answers id h.controller.store)
      have read := mapError_eq_ok_iff.mp (answer.eq_of_ok (congrArg Prod.fst loaded))
      obtain ⟨named, -, there⟩ := accepted_of_record sound.tidy.quiet read
      rw [← named] at there
      exact fun _ => there
  | copy place => exact sound.backed new (List.mem_of_getElem? drawn)

/-- What an instance turns into: it is the same, it has been accepted and is stored, or it has been
rejected and is not stored. -/
inductive Turn (h : Holding) (move : Move) (block : Block) : Block → Prop
  | same : Turn h move block block
  | accepted (undecided : block.status = .processing)
      (there : ((h.after move).controller.table.get? (Key.block block.id)).isSome) :
      Turn h move block block.asAccepted
  | rejected (undecided : block.status = .processing)
      (absent : h.controller.table.get? (Key.block block.id) = none)
      (kept : (h.after move).controller.table = h.controller.table) :
      Turn h move block (block.withStatus .rejected)

theorem Sound.turn {place : Nat} (sound : h.Sound) (here : h.held[place]? = some block)
    (move : Move) : h.Turn move block (h.fate move place block) := by
  cases move with
  | accept spot =>
      simp only [fate]
      by_cases same : spot = place
      · subst same
        rw [if_pos rfl]
        obtain ⟨r, new, d, run, outcome⟩ := accept_fate sound.tidy block
        have behind : (h.after (.accept spot)).controller = d := by
          simp only [after, deciding, here, run]
        rw [run]
        rcases outcome with rfl | ⟨undecided, rfl, there⟩
        · exact .same
        · exact .accepted undecided (behind ▸ there)
      · rw [if_neg same]
        exact .same
  | reject spot =>
      simp only [fate]
      by_cases same : spot = place
      · subst same
        rw [if_pos rfl]
        obtain ⟨r, new, d, run, table, outcome⟩ := reject_fate block h.controller
        have behind : (h.after (.reject spot)).controller = d := by
          simp only [after, deciding, here, run]
        rw [run]
        rcases outcome with rfl | ⟨undecided, rfl, absent⟩
        · exact .same
        · exact .rejected undecided absent (behind ▸ table)
      · rw [if_neg same]
        exact .same
  | draw source => exact .same
  | verify spot => exact .same
  | event event => exact .same

theorem Sound.after (sound : h.Sound) (move : Move) : (h.after move).Sound := by
  have behind := behind_after sound.tidy move
  refine ⟨behind.tidy, fun new member accepted => ?_⟩
  rcases mem_after member with ⟨place, block, here, rfl⟩ | ⟨source, rfl, drawn⟩
  · have held := sound.backed block (List.mem_of_getElem? here)
    have turn := sound.turn here move
    generalize h.fate move place block = new at turn accepted
    cases turn with
    | same => exact behind.kept _ (held accepted)
    | accepted _ there => exact there
    | rejected _ _ _ => cases accepted
  · exact behind.kept _ (sound.drawn drawn accepted)

theorem Sound.follow (sound : h.Sound) (moves : List Move) : (h.follow moves).Sound :=
  follow_invariant (fun _ move sound => sound.after move) moves sound

/-- A decided instance is never touched again. -/
theorem Sound.held_follow {place : Nat} (sound : h.Sound) (here : h.held[place]? = some block)
    (decided : block.status ≠ .processing) (moves : List Move) :
    (h.follow moves).held[place]? = some block := by
  induction moves generalizing h with
  | nil => exact here
  | cons move moves ih =>
      have turn := sound.turn here move
      have there := held_after here move
      generalize h.fate move place block = new at turn there
      cases turn with
      | same => exact ih (sound.after move) there
      | accepted undecided _ => exact absurd undecided decided
      | rejected undecided _ _ => exact absurd undecided decided

/-! ## The truth of a status -/

/-- What the statuses of the instances that are held say at some moment, and what can become of them. -/
structure Truthful (h : Holding) : Prop where
  /-- Every accepted instance has a committed record. -/
  stored : ∀ block ∈ h.held, block.status = .accepted →
    (h.controller.table.get? (Key.block block.id)).isSome
  /-- Whatever is done, a decided instance stays as it is. -/
  final : ∀ (moves : List Move) (place : Nat) (block : Block), h.held[place]? = some block →
    block.status ≠ .processing → (h.follow moves).held[place]? = some block
  /-- No rejected instance can be accepted, and the attempt changes nothing. -/
  unaccepted : ∀ block : Block, block.status = .rejected → Decision.accept.run ⟨block, h.controller⟩ =
    (.error (.invalidTransition (.invalidTransition .rejected .accepted)), ⟨block, h.controller⟩)
  /-- No accepted instance can be rejected, and the attempt changes nothing. -/
  unrejected : ∀ block : Block, block.status = .accepted → Decision.reject.run ⟨block, h.controller⟩ =
    (.error (.invalidTransition (.invalidTransition .accepted .rejected)), ⟨block, h.controller⟩)
  /-- An undecided instance is rejected only while its block is not stored. -/
  unstored : ∀ (move : Move) (place : Nat) (block new : Block), h.held[place]? = some block →
    block.status = .processing → (h.after move).held[place]? = some new → new.status = .rejected →
    h.controller.table.get? (Key.block block.id) = none ∧
      (h.after move).controller.table.get? (Key.block block.id) = none
  getBlock : ∀ id block d, (Controller.getBlock id).run h.controller = (.ok block, d) →
    h.controller.Tells id block
  parseBlock : ∀ bytes block d, (Controller.parseBlock bytes).run h.controller = (.ok block, d) →
    h.controller.Tells (Sha256.hash bytes) block

theorem Sound.truthful (sound : h.Sound) : h.Truthful := by
  have tidy := sound.tidy
  refine ⟨sound.backed, fun moves place block here decided => sound.held_follow here decided moves,
    fun block status => ?_, fun block status => ?_, ?_,
    fun id block d found => tells_of_getBlock tidy found,
    fun bytes block d read => tells_of_parseBlock tidy read⟩
  · have refused := accept_of_rejected status tidy.quiet
    exact Decision.run_of_deciding_error Decision.accept_returns refused
  · have refused := reject_of_accepted status h.controller
    exact Decision.run_of_deciding_error Decision.reject_returns refused
  · intro move place block new here undecided there rejected
    rw [held_after here move] at there
    cases there
    have turn := sound.turn here move
    generalize h.fate move place block = new at turn rejected
    cases turn with
    | same =>
        rw [undecided] at rejected
        cases rejected
    | accepted _ _ => cases rejected
    | rejected _ absent kept => exact ⟨absent, kept ▸ absent⟩

/-- Over any backend, and behind any moves, failures and restarts, the statuses of the instances that a
client holds tell what is stored. -/
theorem truthful_follow (b : Backend) (channel : Channel) (clock : Clock) (moves : List Move) :
    ((ofBackend b channel clock).follow moves).Truthful :=
  ((sound_ofBackend b channel clock).follow moves).truthful

end Holding

namespace Sample

def copies : List Move := [
  .event (.call (.bootstrap [1])), .event (.call (.bootstrap [1])),
  .draw (.create genesis.id 1 (payload 2) 10), .draw (.copy 0), .accept 0, .reject 1]

example : ((Holding.ofBackend backend (.ofDepth 1) (.still 20)).follow copies).held.map Block.status =
    [.accepted, .processing] := by decide +kernel

end Sample

end TimestampChain
