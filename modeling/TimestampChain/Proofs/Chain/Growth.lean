import TimestampChain.Proofs.Chain.Invariant

/-!
# Growth of the chain

The chain only grows at its end, by one block at a time, and exactly when a call says so: when the
batch of the first block is written, or when an undecided block without a record is accepted.
-/

namespace TimestampChain.Controller

inductive Appends (c : Controller) : Call → Block → Prop
  | genesis {data : Bytes} {block : Block} (unmarked : c.table.get? Key.initialized = none)
      (written : (c.afterCall (.bootstrap data)).store.backend.writes =
        c.store.backend.writes + 1)
      (made : Block.genesis data = .ok block) : Appends c (.bootstrap data) block.asAccepted
  | accepted {block decided : Block} {d : Controller}
      (done : (accept block).run c = (.ok decided, d)) (status : block.status = .processing)
      (unstored : c.table.get? (Key.block block.id) = none) :
      Appends c (.accept block) block.asAccepted

variable {c d : Controller}

/-- An undecided block without a record is accepted only by writing it. -/
theorem writes_of_accepted {block decided : Block} (quiet : c.store.staged = .empty)
    (done : (accept block).run c = (.ok decided, d)) (status : block.status = .processing)
    (unstored : c.table.get? (Key.block block.id) = none) :
    d.store.backend.writes = c.store.backend.writes + 1 := by
  rcases accept_cases block quiet with ⟨n, e, failed⟩ | ⟨accepted, -⟩ | ⟨-, stored, -⟩ |
    ⟨-, -, -, d', wrote, written⟩
  · rw [failed] at done
    cases done
  · rw [status] at accepted
    cases accepted
  · have there := isSome_of_stored quiet stored
    rw [unstored] at there
    cases there
  · rw [written] at done
    cases done
    exact wrote.writes_eq

theorem Idle.not_appends {call : Call} {block : Block} (quiet : c.store.staged = .empty)
    (idle : c.Idle (c.afterCall call)) : ¬ c.Appends call block := by
  have same := idle.writes_eq
  intro appends
  cases appends with
  | genesis _ written _ => omega
  | @accepted block _ d done status unstored =>
      have written := writes_of_accepted quiet done status unstored
      have behind : c.afterCall (.accept block) = d :=
        (afterCall_eq (x := accept block) rfl).trans (congrArg Prod.snd done)
      rw [behind] at same
      omega

/-- A call in order puts one block at the end of the chain, or leaves every entry alone. -/
theorem Settled.appends_or_same (settled : c.Settled) (call : Call)
    (ordered : c.InOrder (.call call)) :
    (∃ block, c.Appends call block ∧
        HoldsChain (c.afterCall call).table (c.table.storedChain ++ [block])) ∨
      (∀ block, ¬ c.Appends call block) ∧ (c.afterCall call).table = c.table := by
  have quiet := settled.tidy.quiet
  have outcome := afterCall_outcome call quiet
  generalize behind : c.afterCall call = d at outcome ⊢
  cases outcome with
  | idle idle =>
      rw [← behind] at idle ⊢
      exact Or.inr ⟨fun block => idle.not_appends quiet, idle.table_eq⟩
  | accepted status unstored admitted wrote done =>
      have absent := ChainState.absent_of_unstored unstored
      have longer := holdsChain_of_accepted settled.tidy (settled.sound.holdsChain ordered)
        unstored admitted wrote
      exact Or.inl ⟨_, .accepted done status absent, longer⟩
  | founded unmarked made record wrote =>
      obtain ⟨empty, fresh⟩ := holdsChain_of_founded quiet settled.sound unmarked made record wrote
      have written := wrote.writes_eq
      have absent : c.table.get? Key.initialized = none := by
        rw [empty]
        rfl
      refine Or.inl ⟨_, .genesis absent (behind ▸ written) made, ?_⟩
      rw [empty]
      exact fresh

theorem Settled.storedChain_prefix (settled : c.Settled) {event : Event}
    (ordered : c.InOrder event) :
    c.table.storedChain <+: (c.afterEvent event).table.storedChain := by
  cases event with
  | call call =>
      rcases settled.appends_or_same call ordered with ⟨block, -, longer⟩ | ⟨-, same⟩
      · have longer : HoldsChain (c.afterEvent (.call call)).table _ := longer
        rw [longer.storedChain_eq]
        exact List.prefix_append _ _
      · have same : (c.afterEvent (.call call)).table = c.table := same
        exact same ▸ List.prefix_refl _
  | restart channel clock => exact List.prefix_refl _
  | surround channel clock faults => exact List.prefix_refl _

theorem Settled.storedChain_prefix_follow (settled : c.Settled) {events : List Event}
    (orderly : c.Orderly events) :
    c.table.storedChain <+: (c.follow events).table.storedChain := by
  induction events generalizing c with
  | nil => exact List.prefix_refl _
  | cons event events ih =>
      have first := settled.storedChain_prefix orderly.1
      exact first.trans (ih (settled.afterEvent orderly.1) orderly.2)

theorem Settled.eq_of_height (settled : c.Settled) {left right : Block}
    (hl : left ∈ c.table.storedChain) (hr : right ∈ c.table.storedChain)
    (same : left.height = right.height) : left = right := by
  rcases settled.sound with empty | ⟨blocks, holds⟩
  · rw [empty] at hl
    cases hl
  · rw [holds.storedChain_eq] at hl hr
    exact holds.eq_of_height hl hr same

/-- Between two moments of an orderly run the chain grows at its end. A call at the first moment puts
one block there, which becomes the one accepted last, exactly when it appends one, and leaves every
entry alone otherwise. A block at some height at the first moment is the only one there at the
second. -/
theorem storedChain_append_only (reached : c.Reached) {later : List Event}
    (orderly : c.Orderly later) :
    c.table.storedChain <+: (c.follow later).table.storedChain ∧
      (∀ call, c.InOrder (.call call) →
        (∃ block, c.Appends call block ∧
          (c.afterCall call).table.storedChain = c.table.storedChain ++ [block] ∧
          (c.afterCall call).table.get? Key.lastAccepted = some block.id.toBytes) ∨
        (∀ block, ¬ c.Appends call block) ∧ (c.afterCall call).table = c.table) ∧
      ∀ left ∈ c.table.storedChain, ∀ right ∈ (c.follow later).table.storedChain,
        left.height = right.height → left = right := by
  have settled := reached.settled
  have grown := settled.storedChain_prefix_follow orderly
  refine ⟨grown, ?_, ?_⟩
  · intro call ordered
    rcases settled.appends_or_same call ordered with ⟨block, appends, longer⟩ | same
    · obtain ⟨last, tail, pointer⟩ := longer.pointer
      rw [List.getLast?_concat] at tail
      cases tail
      exact Or.inl ⟨block, appends, longer.storedChain_eq, pointer⟩
    · exact Or.inr same
  · intro left hl right hr same
    exact (settled.follow orderly).eq_of_height (grown.subset hl) hr same

/-- Once a child of the first block has been accepted, its sibling is put nowhere. -/
theorem sibling_of_accepted_not_appended :
    ((Sample.start.follow (Sample.events.take 5)).afterCall (.accept Sample.sibling)).table =
      (Sample.start.follow (Sample.events.take 5)).table := by
  have orderly : Sample.start.Orderly (Sample.events.take 5 ++ Sample.events.drop 5) := by
    rw [List.take_append_drop]
    exact Sample.orderly
  obtain ⟨before, later⟩ := orderly_append.mp orderly
  have reached := Sample.reached _ before
  obtain ⟨-, calls, -⟩ := storedChain_append_only reached later
  rcases calls (.accept Sample.sibling) later.1 with ⟨block, -, longer, -⟩ | ⟨-, same⟩
  · have shorter : ((Sample.start.follow (Sample.events.take 5)).afterCall
        (.accept Sample.sibling)).table.storedChain.length =
        (Sample.start.follow (Sample.events.take 5)).table.storedChain.length := by
      decide +kernel
    rw [longer, List.length_append, List.length_singleton] at shorter
    omega
  · exact same

end TimestampChain.Controller
