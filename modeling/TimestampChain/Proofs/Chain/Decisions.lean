import TimestampChain.Proofs.Chain.Founding
import TimestampChain.Proofs.Chain.Rooted
import TimestampChain.Proofs.Refusals

/-!
# Deciding to accept

Over a chain that has been set up, what becomes of an instance that is to be accepted is told from its
status, from whether the block is stored, and from its parent. All that an acceptance changes follows
from one batch, and whatever is not accepted changes nothing.
-/

namespace TimestampChain.Controller

open TimestampChain.Action

/-! ## The rule -/

/-- The block is the one that an identifier stands for, among the verified blocks or by its record. -/
def Knows (c : Controller) (id : BlockId) (block : Block) : Prop :=
  c.verified? id = some block ∨ c.table.get? (Key.block id) = some block.bytes

/-- Why a block is refused that does not follow the block accepted last, told from its parent. -/
def objection (parent block : Block) (last : BlockId) : String :=
  if parent.height = maxHeight then "parent height overflow"
  else if block.height ≠ parent.height + 1 then
    s!"height must be {(parent.height + 1).toNat}, got {block.height.toNat}"
  else s!"parent {parent.id.toHex} is not the last accepted block {last.toHex}"

def Undecided (c : Controller) (block : Block) : Prop :=
  block.status = .processing ∧ c.table.get? (Key.block block.id) = none

def Refuses (c : Controller) (block : Block) (e : ControllerError) : Prop :=
  ∃ n, Decision.accept.run ⟨block, c⟩ = (.error e, ⟨block, c.counting n⟩)

/-- The controller behind the acceptance of a new block, which is where the chain ends and what is
preferred. -/
structure Extended (c : Controller) (block : Block) (d : Controller) : Prop where
  /-- One batch is written, the block is preferred and no longer among the verified ones, and
  nothing else changes. -/
  change : ∃ n, d = ((c.counting n).written (.ofAccepted block)).adopting block.id
  table : d.table =
    (c.table.insert (Key.block block.id) block.bytes).insert Key.lastAccepted block.id.toBytes
  writes : d.store.backend.writes = c.store.backend.writes + 1
  tip : d.tip = .ok block.id
  preferred : d.preferred = block.id
  verified : ∀ id, d.verified? id = if id = block.id then none else c.verified? id

structure Decides (c : Controller) (block : Block) : Prop where
  accepted : block.status = .accepted → Decision.accept.run ⟨block, c⟩ = (.ok (), ⟨block, c⟩)
  rejected : block.status = .rejected → Decision.accept.run ⟨block, c⟩ =
    (.error (.invalidTransition (.invalidTransition .rejected .accepted)), ⟨block, c⟩)
  stored : block.status = .processing → (c.table.get? (Key.block block.id)).isSome →
    ∃ n, Decision.accept.run ⟨block, c⟩ = (.ok (), ⟨block.asAccepted, c.counting n⟩)
  missing : c.Undecided block → c.verified? block.parent = none →
    c.table.get? (Key.block block.parent) = none → c.Refuses block (.missingParent block.parent)
  /-- A parent that is verified or stored decides, together with the block accepted last. -/
  known : c.Undecided block →
    (c.verified? block.parent).isSome ∨ (c.table.get? (Key.block block.parent)).isSome →
    ∃ parent last, c.Knows block.parent parent ∧ parent.id = block.parent ∧ c.tip = .ok last ∧
      if block.height.toNat = parent.height.toNat + 1 ∧ parent.id = last then
        ∃ d, c.Extended block d ∧ Decision.accept.run ⟨block, c⟩ = (.ok (), ⟨block.asAccepted, d⟩)
      else c.Refuses block (.invalidBlock (objection parent block last))

/-- A request fails, which is reported, and neither the instance nor the controller changes. -/
def Disturbed (c : Controller) (block : Block) : Prop :=
  ∃ n text, c.store.backend.FailsWithin n text ∧
    Decision.accept.run ⟨block, c⟩ = (.error (.store (.medium text)), ⟨block, c.counting n⟩)

variable {c : Controller} {block parent : Block} {last : BlockId}

/-! ## The parent -/

/-- What an identifier stands for is found under it. -/
theorem Knows.find {id : BlockId} (knows : c.Knows id parent) (settled : c.Settled)
    (opened : c.store.closed = false) :
    ∃ found, c.findParent id = .ok found ∧ found.bytes = parent.bytes ∧ found.id = id ∧
      parent.id = id := by
  have tidy := settled.tidy
  rcases knows with known | record
  · have found : c.find id = .ok parent := by
      rw [Controller.find, known]
    have named := id_of_find tidy found
    exact ⟨parent, mapError_eq_ok_iff.mpr found, rfl, named, named⟩
  · have marker := marker_of_record settled.sound record
    obtain ⟨stored, -, named, same⟩ := (settled.sound.holdsChain marker).mem_of_record record
    have digest : parent.id = id := by
      rw [parent.id_eq, ← same, ← stored.id_eq, named]
    have found : c.find parent.id = .ok parent.asAccepted := by
      refine find_of_record tidy opened ?_
      rw [digest]
      exact record
    rw [digest] at found
    exact ⟨parent.asAccepted, mapError_eq_ok_iff.mpr found, rfl, digest, digest⟩

/-- Something stands behind every identifier that is verified or stored. -/
theorem knows_of_isSome {id : BlockId} (settled : c.Settled)
    (there : (c.verified? id).isSome ∨ (c.table.get? (Key.block id)).isSome) :
    ∃ parent, c.Knows id parent := by
  rcases there with there | there <;> obtain ⟨value, found⟩ := Option.isSome_iff_exists.mp there
  · exact ⟨value, Or.inl found⟩
  · have marker := marker_of_record settled.sound found
    obtain ⟨stored, -, -, same⟩ := (settled.sound.holdsChain marker).mem_of_record found
    exact ⟨stored, Or.inr (same ▸ found)⟩

theorem exists_tip (settled : c.Settled) (opened : c.store.closed = false)
    (marker : (c.table.get? Key.initialized).isSome) : ∃ last, c.tip = .ok last := by
  obtain ⟨last, -, pointer⟩ := (settled.sound.holdsChain marker).pointer
  exact ⟨last.id, (tip_eq_ok_iff opened settled.tidy.quiet).mpr pointer⟩

/-! ## Admission -/

theorem admission_of_marker (quiet : c.store.staged = .empty) (opened : c.store.closed = false)
    (marker : (c.table.get? Key.initialized).isSome) (block : Block) :
    c.admission block = c.extension block := by
  rw [admission, marked_of_open quiet opened, marker]
  rfl

theorem extension_of_missing (quiet : c.store.staged = .empty) (opened : c.store.closed = false)
    (unverified : c.verified? block.parent = none)
    (absent : c.table.get? (Key.block block.parent) = none) :
    c.extension block = .error (.missingParent block.parent) := by
  rw [extension, findParent, find_of_unrecorded unverified opened quiet absent]
  rfl

theorem extension_of_unlinked {found : Block} (parented : c.findParent block.parent = .ok found)
    (same : found.bytes = parent.bytes) (named : found.id = block.parent) (tip : c.tip = .ok last)
    (unlinked : ¬ (block.height.toNat = parent.height.toNat + 1 ∧ parent.id = last)) :
    c.extension block = .error (.invalidBlock (objection parent block last)) := by
  have height := Block.height_of_bytes same
  have identifier : found.id = parent.id := by rw [found.id_eq, same, ← parent.id_eq]
  have judged : c.extension block = (do
      checkChild found block
      let last ← c.tip
      if found.id = last then return
      else
        .error (.invalidBlock
          s!"parent {found.id.toHex} is not the last accepted block {last.toHex}")) := by
    rw [extension, parented]
    rfl
  rw [judged, checkChild, if_neg (not_not_intro named.symm), objection, ← height]
  by_cases highest : found.height = maxHeight
  · rw [if_pos highest, if_pos highest]
    rfl
  · rw [if_neg highest, if_neg highest]
    by_cases higher : block.height = found.height + 1
    · have different : found.id ≠ last := by
        intro equal
        refine unlinked ⟨?_, identifier.symm.trans equal⟩
        rw [higher, toNat_height_succ highest, height]
      rw [if_neg (not_not_intro higher), if_neg (not_not_intro higher), tip]
      show (if found.id = last then _ else _) = _
      rw [if_neg different, identifier]
    · rw [if_pos higher, if_pos higher]
      rfl

/-! ## The rows of the rule -/

theorem disturbed_of_error {n : Nat} {e : ControllerError} (fails : Counted.Fails c n e)
    (failed : (accept block).run c = (.error e, c.counting n)) : c.Disturbed block := by
  obtain ⟨text, within, rfl⟩ := fails
  exact ⟨n, text, within, Decision.run_of_deciding_error Decision.accept_returns failed⟩

theorem refuses_of_answers {e : ControllerError} (undisturbed : ¬ c.Disturbed block)
    (answers : (accept block).Answers c (.error e)) : c.Refuses block e := by
  obtain ⟨n, done | ⟨e', fails, failed⟩⟩ := answers
  · exact ⟨n, Decision.run_of_deciding_error Decision.accept_returns done⟩
  · exact absurd (disturbed_of_error fails failed) undisturbed

theorem refuses_of_extension {e : ControllerError} (settled : c.Settled)
    (opened : c.store.closed = false) (marker : (c.table.get? Key.initialized).isSome)
    (undisturbed : ¬ c.Disturbed block) (undecided : c.Undecided block)
    (refused : c.extension block = .error e) : c.Refuses block e := by
  have quiet := settled.tidy.quiet
  obtain ⟨status, absent⟩ := undecided
  have unstored := unstored_of_absent quiet opened absent
  rw [← admission_of_marker quiet opened marker] at refused
  refine refuses_of_answers undisturbed ?_
  exact accept_of_refused status quiet unstored (commitAccept_of_unadmitted status refused)

/-- Marking the instance of a stored block changes nothing else, since no such block is verified. -/
theorem marks_of_stored (tidy : c.Tidy) (opened : c.store.closed = false)
    (undisturbed : ¬ c.Disturbed block) (status : block.status = .processing)
    (there : (c.table.get? (Key.block block.id)).isSome) :
    ∃ n, Decision.accept.run ⟨block, c⟩ = (.ok (), ⟨block.asAccepted, c.counting n⟩) := by
  have stored : c.store.holds block.id = .ok true := by
    rw [holds_of_open tidy.quiet opened, there]
  obtain ⟨bytes, record⟩ := Option.isSome_iff_exists.mp there
  have unverified : (c.verified.erase block.id.toBytes) = c.verified :=
    Table.erase_of_absent (tidy.unverified_of_record record)
  obtain ⟨n, done | ⟨e, fails, failed⟩⟩ := accept_of_stored status stored
  · refine ⟨n, ?_⟩
    have same : (c.counting n).forgetting block.id = c.counting n := by
      show { c.counting n with verified := c.verified.erase block.id.toBytes } = c.counting n
      rw [unverified]
      rfl
    have done : (accept block).run c =
        (.ok block.asAccepted, (c.counting n).forgetting block.id) := done
    rw [same] at done
    exact Decision.run_of_deciding_ok done
  · exact absurd (disturbed_of_error fails failed) undisturbed

theorem extended_of_wrote {d : Controller} (opened : c.store.closed = false)
    (quiet : c.store.staged = .empty) (wrote : c.Wrote (.ofAccepted block) d) :
    c.Extended block (d.adopting block.id) := by
  have table := table_of_accepted wrote
  have writes := wrote.writes_eq
  obtain ⟨n, -, rfl⟩ := wrote
  refine ⟨⟨n + 1, rfl⟩, table, writes, ?_, rfl, fun id => ?_⟩
  · have pointer := Table.pointer_accepting c.table block
    rw [← table] at pointer
    have opened' : (((c.counting (n + 1)).written (.ofAccepted block)).adopting
        block.id).store.closed = false := opened
    exact (tip_eq_ok_iff opened' quiet).mpr pointer
  · show (c.verified.erase block.id.toBytes).get? id.toBytes = _
    rw [Table.get?_erase]
    by_cases same : id = block.id
    · rw [if_pos same, if_pos (congrArg Bytes32.toBytes same)]
    · have different : id.toBytes ≠ block.id.toBytes := fun equal => same (Bytes32.ext equal)
      rw [if_neg same, if_neg different]
      rfl

theorem extends_of_linked (settled : c.Settled) (opened : c.store.closed = false)
    (marker : (c.table.get? Key.initialized).isSome) (undisturbed : ¬ c.Disturbed block)
    (undecided : c.Undecided block) {found : Block} (parented : c.findParent block.parent = .ok found)
    (named : found.id = block.parent) (higher : block.height.toNat = found.height.toNat + 1)
    (tip : c.tip = .ok found.id) :
    ∃ d, c.Extended block d ∧
      Decision.accept.run ⟨block, c⟩ = (.ok (), ⟨block.asAccepted, d⟩) := by
  have quiet := settled.tidy.quiet
  obtain ⟨status, absent⟩ := undecided
  have unstored := unstored_of_absent quiet opened absent
  have child : checkChild found block = .ok () := checkChild_eq_ok_iff.mpr ⟨named.symm, higher⟩
  have admitted : c.admission block = .ok () := by
    rw [admission_of_marker quiet opened marker]
    exact extension_eq_ok_iff.mpr ⟨found, parented, child, tip⟩
  obtain ⟨d, wrote, done⟩ | ⟨n, e, fails, failed⟩ := accept_of_fresh status quiet unstored admitted
  · exact ⟨_, extended_of_wrote opened quiet wrote, Decision.run_of_deciding_ok done⟩
  · exact absurd (disturbed_of_error fails failed) undisturbed

/-! ## The whole rule -/

theorem decides_of_undisturbed (settled : c.Settled) (opened : c.store.closed = false)
    (marker : (c.table.get? Key.initialized).isSome) (undisturbed : ¬ c.Disturbed block) :
    c.Decides block := by
  have tidy := settled.tidy
  refine ⟨fun status => ?_, fun status => ?_, fun status there => ?_,
    fun undecided unverified absent => ?_, fun undecided there => ?_⟩
  · exact Decision.run_of_deciding_ok (accept_of_accepted status c)
  · have refused := accept_of_rejected status tidy.quiet
    exact Decision.run_of_deciding_error Decision.accept_returns refused
  · exact marks_of_stored tidy opened undisturbed status there
  · have refused := extension_of_missing tidy.quiet opened unverified absent
    exact refuses_of_extension settled opened marker undisturbed undecided refused
  · obtain ⟨parent, knows⟩ := knows_of_isSome settled there
    obtain ⟨found, parented, same, named, digest⟩ := knows.find settled opened
    obtain ⟨last, tip⟩ := exists_tip settled opened marker
    refine ⟨parent, last, knows, digest, tip, ?_⟩
    split
    · next linked =>
      obtain ⟨higher, rfl⟩ := linked
      rw [← Block.height_of_bytes same] at higher
      rw [digest, ← named] at tip
      exact extends_of_linked settled opened marker undisturbed undecided parented named higher tip
    · next unlinked =>
      have refused := extension_of_unlinked parented same named tip unlinked
      exact refuses_of_extension settled opened marker undisturbed undecided refused

theorem Unfailing.undisturbed (works : Unfailing (accept block) c) : ¬ c.Disturbed block := by
  rintro ⟨n, text, fails, failed⟩
  have failed : (accept block).run c = (.error (.store (.medium text)), c.counting n) := by
    rw [accept, Decision.run_deciding, failed]
    rfl
  exact works.not_fails failed ⟨text, fails, rfl⟩

/-- Over a chain that has been set up and an open store, an instance is decided by the rule unless a
request fails, which is reported and changes nothing. -/
theorem accept_decides (reached : c.Reached) (marker : (c.table.get? Key.initialized).isSome)
    (opened : c.store.closed = false) (block : Block) :
    (c.Decides block ∨ c.Disturbed block) ∧ (Unfailing (accept block) c → c.Decides block) := by
  have settled := reached.settled
  constructor
  · by_cases disturbed : c.Disturbed block
    · exact Or.inr disturbed
    · exact Or.inl (decides_of_undisturbed settled opened marker disturbed)
  · intro works
    exact decides_of_undisturbed settled opened marker works.undisturbed

end TimestampChain.Controller

namespace TimestampChain.Sample

def advance : List Event := events.take 5 ++ [.surround (.ofDepth 1) (.still 20) .never]

theorem advance_facts :
    start.Orderly advance ∧ (start.follow advance).store.closed = false ∧
      ((start.follow advance).table.get? Key.initialized).isSome ∧
      (start.follow advance).table.get? (Key.block sibling.id) = none ∧
      ((start.follow advance).table.get? (Key.block sibling.parent)).isSome ∧
      (start.follow advance).tip = .ok child.id ∧ sibling.parent ≠ child.id := by
  decide +kernel

end TimestampChain.Sample

namespace TimestampChain.Controller

/-- The sibling of an accepted block has the right height, but its parent is not the block accepted
last. -/
theorem sibling_refused_behind_child : ∃ parent, parent.id = Sample.genesis.id ∧
    (Sample.start.follow Sample.advance).Refuses Sample.sibling
      (.invalidBlock (objection parent Sample.sibling Sample.child.id)) := by
  obtain ⟨orderly, opened, marker, absent, parented, tip, other⟩ := Sample.advance_facts
  have works : Unfailing (accept Sample.sibling) (Sample.start.follow Sample.advance) :=
    fun _ _ _ _ => rfl
  obtain ⟨-, decides⟩ := accept_decides (Sample.reached _ orderly) marker opened Sample.sibling
  obtain ⟨parent, last, -, named, tip', outcome⟩ :=
    (decides works).known ⟨rfl, absent⟩ (Or.inr parented)
  rw [tip] at tip'
  cases tip'
  rw [if_neg fun linked => other (named.symm.trans linked.2)] at outcome
  exact ⟨parent, named, outcome⟩

end TimestampChain.Controller
