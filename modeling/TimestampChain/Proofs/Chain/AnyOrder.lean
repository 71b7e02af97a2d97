import TimestampChain.Proofs.Chain.Invariant

/-!
# Calls in any order

When blocks may be accepted before the chain is set up, the table need not hold a chain. Whether a
block extends what is stored is looked at only once the marker is committed. Until then every
undecided block without a record is stored.
-/

namespace TimestampChain.Controller

variable {c d : Controller} {block : Block}

/-- The controller stands behind some course of events over a backend that started empty. -/
def Reachable (c : Controller) : Prop :=
  ∃ (b : Backend) (channel : Channel) (clock : Clock) (events : List Event), b.table = .empty ∧
    c = (ofBackend b channel clock).follow events

/-- Accepting the block makes a record of it. -/
def NewlyRecords (c : Controller) (block : Block) : Prop :=
  c.table.get? (Key.block block.id) = none ∧
    ((c.afterCall (.accept block)).table.get? (Key.block block.id)).isSome

instance (c : Controller) (block : Block) : Decidable (c.NewlyRecords block) :=
  inferInstanceAs (Decidable (_ ∧ _))

/-- The block follows the block accepted last, which is stored. -/
def Extends (c : Controller) (block : Block) : Prop :=
  ∃ last : Block, c.table.get? Key.lastAccepted = some last.id.toBytes ∧
    c.table.get? (Key.block last.id) = some last.bytes ∧ block.Follows last

def Pointed (c : Controller) : Prop :=
  ∀ id : BlockId, c.table.get? Key.lastAccepted = some id.toBytes →
    (c.table.get? (Key.block id)).isSome

/-! ## What every order keeps -/

theorem pointed_of_outcome {call : Call} (quiet : c.store.staged = .empty) (pointed : c.Pointed)
    (outcome : c.Outcome call d) : d.Pointed := by
  intro id pointer
  rcases outcome.table_cases quiet with table | ⟨block, -, table⟩ | ⟨_, genesis, -, -, table⟩ <;>
    rw [table] at pointer ⊢
  · exact pointed id pointer
  · rw [Table.pointer_accepting] at pointer
    have same : block.id = id := Bytes32.ext (Option.some.inj pointer)
    rw [Table.record_accepting, if_pos same.symm]
    rfl
  · rw [Table.pointer_founding] at pointer
    have same : genesis.id = id := Bytes32.ext (Option.some.inj pointer)
    rw [Table.record_founding, if_pos same.symm]
    rfl

theorem Reachable.tidy_and_pointed (reachable : c.Reachable) : c.Tidy ∧ c.Pointed := by
  obtain ⟨b, channel, clock, events, empty, rfl⟩ := reachable
  have start : (ofBackend b channel clock).Pointed := by
    intro id pointer
    have absent : (ofBackend b channel clock).table.get? Key.lastAccepted = none := by
      rw [table]
      show b.table.get? _ = none
      rw [empty]
      rfl
    rw [absent] at pointer
    cases pointer
  have step : ∀ (c : Controller) (event : Event), c.Tidy ∧ c.Pointed →
      (c.afterEvent event).Tidy ∧ (c.afterEvent event).Pointed := by
    rintro c event ⟨tidy, pointed⟩
    refine ⟨tidy.afterEvent event, ?_⟩
    cases event with
    | call call => exact pointed_of_outcome tidy.quiet pointed (afterCall_outcome call tidy.quiet)
    | restart channel clock => exact pointed
    | surround channel clock faults => exact pointed
  exact follow_invariant step events ⟨tidy_ofBackend b channel clock, start⟩

/-! ## Admission -/

theorem Extends.extension (linked : c.Extends block) (tidy : c.Tidy)
    (opened : c.store.closed = false) : c.extension block = .ok () := by
  obtain ⟨last, pointer, record, follows⟩ := linked
  refine extension_eq_ok_iff.mpr ⟨last.asAccepted, ?_, ?_, ?_⟩
  · rw [findParent, follows.1, find_of_record tidy opened record]
    rfl
  · exact checkChild_eq_ok_iff.mpr follows
  · exact (tip_eq_ok_iff opened tidy.quiet).mpr pointer

theorem marked_of_open (quiet : c.store.staged = .empty) (opened : c.store.closed = false) :
    c.store.marked = .ok (c.table.get? Key.initialized).isSome :=
  ChainState.marked_eq_ok_iff.mpr ⟨_, ChainState.lookup_of_open opened quiet _, rfl⟩

theorem holds_of_open (quiet : c.store.staged = .empty) (opened : c.store.closed = false)
    (id : BlockId) : c.store.holds id = .ok (c.table.get? (Key.block id)).isSome :=
  ChainState.holds_eq_ok_iff.mpr ⟨_, ChainState.lookup_of_open opened quiet _, rfl⟩

theorem unstored_of_absent {id : BlockId} (quiet : c.store.staged = .empty)
    (opened : c.store.closed = false) (absent : c.table.get? (Key.block id) = none) :
    c.store.holds id = .ok false := by
  rw [holds_of_open quiet opened, absent]
  rfl

/-- A block is admitted before the chain is set up, and afterwards if it extends the chain. -/
theorem admission_eq_ok_iff (tidy : c.Tidy) (pointed : c.Pointed)
    (opened : c.store.closed = false) :
    c.admission block = .ok () ↔ c.table.get? Key.initialized = none ∨ c.Extends block := by
  have marked := marked_of_open tidy.quiet opened
  cases marker : c.table.get? Key.initialized with
  | none =>
      rw [marker] at marked
      have admitted := admission_of_unmarked marked block
      simp [admitted]
  | some value =>
      rw [marker] at marked
      have same : c.admission block = c.extension block := by
        rw [admission, marked]
        rfl
      rw [same]
      constructor
      · intro extension
        obtain ⟨last, pointer, record, -, follows⟩ := follows_of_extension tidy pointed extension
        exact Or.inr ⟨last, pointer, record, follows⟩
      · rintro (absent | linked)
        · cases absent
        · exact linked.extension tidy opened

/-! ## Newly recorded blocks -/

theorem admitted_of_newlyRecords (quiet : c.store.staged = .empty) (new : c.NewlyRecords block) :
    c.store.closed = false ∧ c.admission block = .ok () := by
  obtain ⟨absent, recorded⟩ := new
  have outcome := afterCall_outcome (.accept block) quiet
  generalize c.afterCall (.accept block) = d at recorded outcome
  cases outcome with
  | idle idle =>
      rw [idle.table_eq, absent] at recorded
      cases recorded
  | accepted _ unstored admitted _ _ =>
      exact ⟨ChainState.open_of_lookup (ChainState.lookup_of_unstored unstored), admitted⟩

theorem newlyRecords_of_admitted (quiet : c.store.staged = .empty)
    (opened : c.store.closed = false) (never : c.store.backend.faults = .never)
    (status : block.status = .processing) (absent : c.table.get? (Key.block block.id) = none)
    (admitted : c.admission block = .ok ()) : c.NewlyRecords block := by
  have unstored := unstored_of_absent quiet opened absent
  obtain ⟨d, wrote, done⟩ | ⟨n, _, ⟨text, fails, rfl⟩, -⟩ :=
    accept_of_fresh status quiet unstored admitted
  · have written := table_of_accepted wrote
    have table : (c.afterCall (.accept block)).table = c.table.accepting block := by
      rw [afterCall_eq (x := accept block) rfl, done]
      exact written
    refine ⟨absent, ?_⟩
    rw [table, Table.record_accepting, if_pos rfl]
    rfl
  · exact absurd fails (Backend.not_failsWithin_of_never never n text)

/-- In any order of calls, a block is newly recorded only before the chain is set up or as an
extension of it. Over an open store in which no request fails, that is all there is to it for an
undecided block without a record. -/
theorem newlyRecords_only_if_unmarked_or_extends (reachable : c.Reachable) (block : Block) :
    (c.NewlyRecords block → c.table.get? Key.initialized = none ∨ c.Extends block) ∧
      (c.store.closed = false → c.store.backend.faults = .never → block.status = .processing →
        c.table.get? (Key.block block.id) = none →
        (c.NewlyRecords block ↔ c.table.get? Key.initialized = none ∨ c.Extends block)) := by
  obtain ⟨tidy, pointed⟩ := reachable.tidy_and_pointed
  have only : c.NewlyRecords block → c.table.get? Key.initialized = none ∨ c.Extends block := by
    intro new
    obtain ⟨opened, admitted⟩ := admitted_of_newlyRecords tidy.quiet new
    exact (admission_eq_ok_iff tidy pointed opened).mp admitted
  refine ⟨only, ?_⟩
  intro opened never status absent
  refine ⟨only, fun allowed => ?_⟩
  have admitted := (admission_eq_ok_iff tidy pointed opened).mpr allowed
  exact newlyRecords_of_admitted tidy.quiet opened never status absent admitted

end TimestampChain.Controller

namespace TimestampChain.Sample

def orphan : Block := Block.create ⟨List.replicate 32 66, rfl⟩ 7 (payload 1) 0

def unset : Controller := .ofBackend (.ofTable .empty) (.ofDepth 1) (.still 1000)

theorem reachable_unset : unset.Reachable := ⟨_, _, _, [], rfl, rfl⟩

end TimestampChain.Sample

namespace TimestampChain.Controller

theorem orphan_newlyRecords_iff :
    Sample.unset.NewlyRecords Sample.orphan ↔
      Sample.unset.table.get? Key.initialized = none ∨ Sample.unset.Extends Sample.orphan :=
  (newlyRecords_only_if_unmarked_or_extends Sample.reachable_unset Sample.orphan).2 rfl rfl rfl rfl

/-- Before the chain is set up, a block is stored that is neither a first one nor extends anything. -/
theorem orphan_newlyRecords_without_parent :
    Sample.unset.Reachable ∧ Sample.orphan.isGenesis = false ∧
      Sample.unset.NewlyRecords Sample.orphan ∧
      Sample.unset.table.get? Key.lastAccepted = none ∧
      Sample.unset.table.get? (Key.block Sample.orphan.parent) = none ∧
      ¬ Sample.unset.Extends Sample.orphan := by
  refine ⟨Sample.reachable_unset, by decide +kernel, by decide +kernel, rfl, rfl, ?_⟩
  rintro ⟨last, pointer, -⟩
  cases pointer

end TimestampChain.Controller
