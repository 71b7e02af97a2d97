import TimestampChain.Proofs.Runs

/-!
# Controllers between two calls

Between two calls nothing is staged, and every verified block is kept under its identifier, is
undecided, and has no record. This holds over any table, whatever is asked and whatever fails.
-/

namespace TimestampChain.Controller

/-- Nothing is staged, and what is kept among the verified blocks belongs there. -/
structure Tidy (c : Controller) : Prop where
  quiet : c.store.staged = .empty
  named : ∀ key block, c.verified.get? key = some block → key = block.id.toBytes
  undecided : ∀ key block, c.verified.get? key = some block → block.status = .processing
  unstored : ∀ key block, c.verified.get? key = some block →
    c.table.get? (Key.block block.id) = none

theorem tidy_ofBackend (b : Backend) (channel : Channel) (clock : Clock) :
    (ofBackend b channel clock).Tidy := by
  refine ⟨rfl, ?_, ?_, ?_⟩ <;> intro key block found <;> cases found

theorem Tidy.absent_of_verified {c : Controller} {id : BlockId} {block : Block} (tidy : c.Tidy)
    (known : c.verified? id = some block) : c.table.get? (Key.block id) = none := by
  have named : id = block.id := Bytes32.ext (tidy.named _ _ known)
  rw [named]
  exact tidy.unstored _ _ known

theorem Tidy.unverified_of_record {c : Controller} {id : BlockId} {bytes : Bytes} (tidy : c.Tidy)
    (record : c.table.get? (Key.block id) = some bytes) : c.verified? id = none := by
  cases known : c.verified? id with
  | none => rfl
  | some block =>
      rw [tidy.absent_of_verified known] at record
      cases record

theorem Tidy.remembering {c : Controller} {new : Block} (tidy : c.Tidy)
    (judged : c.verification new = .ok true) (n : Nat) : ((c.counting n).remembering new).Tidy := by
  obtain ⟨status, unstored, -⟩ := verification_eq_ok_true judged
  have entry : ∀ key block, ((c.counting n).remembering new).verified.get? key = some block →
      key = new.id.toBytes ∧ block = new ∨ c.verified.get? key = some block := by
    intro key block found
    have found : (c.verified.insert new.id.toBytes new).get? key = some block := found
    rw [Table.get?_insert] at found
    split at found
    · next same => exact Or.inl ⟨same, (Option.some.inj found).symm⟩
    · exact Or.inr found
  refine ⟨tidy.quiet, ?_, ?_, ?_⟩
  · intro key block found
    rcases entry key block found with ⟨same, rfl⟩ | old
    · exact same
    · exact tidy.named key block old
  · intro key block found
    rcases entry key block found with ⟨-, rfl⟩ | old
    · exact status
    · exact tidy.undecided key block old
  · intro key block found
    rcases entry key block found with ⟨-, rfl⟩ | old
    · exact ChainState.absent_of_unstored unstored
    · exact tidy.unstored key block old

theorem Tidy.idle {c d : Controller} (tidy : c.Tidy) (idle : c.Idle d) : d.Tidy := by
  have table := idle.table_eq
  cases idle with
  | kept store verified =>
      refine ⟨?_, ?_, ?_, ?_⟩
      · rw [store]
        exact tidy.quiet
      · intro key block found
        exact tidy.named key block (verified key block found)
      · intro key block found
        exact tidy.undecided key block (verified key block found)
      · intro key block found
        rw [table]
        exact tidy.unstored key block (verified key block found)
  | remembered judged => exact tidy.remembering judged _
  | closed _ => exact ⟨tidy.quiet, tidy.named, tidy.undecided, tidy.unstored⟩

/-- A block that is adopted once its record is written leaves the controller tidy. -/
theorem Tidy.adopting {c d : Controller} {batch : Batch} {block : Block} (tidy : c.Tidy)
    (wrote : c.Wrote batch d)
    (others : ∀ id, id ≠ block.id → d.table.get? (Key.block id) = c.table.get? (Key.block id)) :
    (d.adopting block.id).Tidy := by
  obtain ⟨n, -, rfl⟩ := wrote
  refine ⟨tidy.quiet, ?_, ?_, ?_⟩
  · intro key kept found
    exact tidy.named key kept (Table.get?_of_erase found).2
  · intro key kept found
    exact tidy.undecided key kept (Table.get?_of_erase found).2
  · intro key kept found
    obtain ⟨different, old⟩ := Table.get?_of_erase found
    -- Keys are identifiers, so what is left among the verified blocks has another one.
    have other : kept.id ≠ block.id := by
      intro same
      exact different (same ▸ tidy.named key kept old)
    exact (others kept.id other).trans (tidy.unstored key kept old)

/-- The table once a block has been accepted. -/
theorem table_of_accepted {c d : Controller} {block : Block}
    (wrote : c.Wrote (.ofAccepted block) d) : d.table = c.table.accepting block := by
  rw [wrote.table_eq, Table.insertMany_accepted]

/-- The table once the first block has been stored. -/
theorem table_of_founded {c d : Controller} {genesis : Block} {recorded : Bool}
    (quiet : c.store.staged = .empty)
    (record : c.store.lookup (Key.block genesis.id) =
      .ok (if recorded = true then some genesis.bytes else none))
    (wrote : c.Wrote (.ofFirst genesis recorded) d) : d.table = c.table.founding genesis := by
  rw [wrote.table_eq, Table.insertMany_first]
  intro there
  rw [ChainState.lookup_of_open (ChainState.open_of_lookup record) quiet, there, if_pos rfl] at record
  exact Except.ok.inj record

/-- What a call can do to the table. -/
theorem Outcome.table_cases {c d : Controller} {call : Call} (quiet : c.store.staged = .empty)
    (outcome : c.Outcome call d) :
    d.table = c.table ∨
      (∃ block, call = .accept block ∧ d.table = c.table.accepting block) ∨
      ∃ data genesis, call = .bootstrap data ∧ Block.genesis data = .ok genesis ∧
        d.table = c.table.founding genesis := by
  cases outcome with
  | idle idle => exact Or.inl idle.table_eq
  | @accepted block d _ _ _ wrote _ =>
      have written := table_of_accepted wrote
      exact Or.inr (Or.inl ⟨block, rfl, written⟩)
  | @founded data genesis recorded d n preferred _ made record wrote =>
      have written := table_of_founded quiet record wrote
      exact Or.inr (Or.inr ⟨data, genesis, rfl, made, written⟩)

/-- No call takes an entry away. -/
theorem Outcome.isSome_get? {c d : Controller} {call : Call} {key : Bytes}
    (quiet : c.store.staged = .empty) (outcome : c.Outcome call d)
    (there : (c.table.get? key).isSome) : (d.table.get? key).isSome := by
  rcases outcome.table_cases quiet with same | ⟨block, -, longer⟩ | ⟨_, genesis, -, -, fresh⟩
  · rw [same]
    exact there
  · rw [longer]
    exact Table.isSome_accepting _ block there
  · rw [fresh]
    exact Table.isSome_founding _ genesis there

theorem isSome_afterEvent {c : Controller} {key : Bytes} (quiet : c.store.staged = .empty)
    (event : Event) (there : (c.table.get? key).isSome) :
    ((c.afterEvent event).table.get? key).isSome := by
  cases event with
  | call call => exact (afterCall_outcome call quiet).isSome_get? quiet there
  | restart channel clock => exact there
  | surround channel clock faults => exact there

theorem Tidy.outcome {c d : Controller} {call : Call} (tidy : c.Tidy) (h : c.Outcome call d) :
    d.Tidy := by
  cases h with
  | idle idle => exact tidy.idle idle
  | accepted _ _ _ wrote _ =>
      refine tidy.adopting wrote fun id other => ?_
      rw [table_of_accepted wrote, Table.record_accepting, if_neg other]
  | founded _ _ record wrote =>
      have adopted := tidy.adopting wrote fun id other => by
        rw [table_of_founded tidy.quiet record wrote, Table.record_founding, if_neg other]
      exact ⟨adopted.quiet, adopted.named, adopted.undecided, adopted.unstored⟩

theorem Tidy.afterEvent {c : Controller} (tidy : c.Tidy) (event : Event) :
    (c.afterEvent event).Tidy := by
  cases event with
  | call call => exact tidy.outcome (afterCall_outcome call tidy.quiet)
  | restart channel clock => exact tidy_ofBackend _ _ _
  | surround channel clock faults =>
      exact ⟨tidy.quiet, tidy.named, tidy.undecided, tidy.unstored⟩

/-- Over any backend, a controller is tidy behind every course of events. -/
theorem tidy_follow (b : Backend) (channel : Channel) (clock : Clock) (events : List Event) :
    ((ofBackend b channel clock).follow events).Tidy :=
  follow_invariant (fun _ event tidy => tidy.afterEvent event) events
    (tidy_ofBackend b channel clock)

end TimestampChain.Controller
