import TimestampChain.Proofs.Chain.Linkage

/-!
# The chain invariant

As long as no block is accepted before the marker is committed, the table is empty or holds a
chain, whatever else is asked, whatever fails, and however often the controller is restarted.
-/

namespace TimestampChain

def Table.Sound (t : Table Bytes) : Prop := t = .empty ∨ ∃ blocks, HoldsChain t blocks

theorem Table.Sound.holdsChain {t : Table Bytes} (sound : t.Sound)
    (marker : (t.get? Key.initialized).isSome) : HoldsChain t t.storedChain := by
  rcases sound with rfl | ⟨blocks, holds⟩
  · cases marker
  · rw [holds.storedChain_eq]
    exact holds

theorem Table.Sound.eq_empty {t : Table Bytes} (sound : t.Sound)
    (unmarked : (t.get? Key.initialized).isSome = false) : t = .empty := by
  rcases sound with empty | ⟨blocks, holds⟩
  · exact empty
  · rw [holds.marker] at unmarked
    cases unmarked

namespace Controller

variable {c d : Controller}

/-- An accepted block is put at the end of the chain. -/
theorem holdsChain_of_accepted {block : Block} {blocks : List Block} (tidy : c.Tidy)
    (holds : HoldsChain c.table blocks) (unstored : c.store.holds block.id = .ok false)
    (admitted : c.admission block = .ok ()) (wrote : c.Wrote (.ofAccepted block) d) :
    HoldsChain d.table (blocks ++ [block.asAccepted]) := by
  obtain ⟨last, tail, pointer⟩ := holds.pointer
  have member := List.mem_of_getLast? tail
  have marker : (c.table.get? Key.initialized).isSome := by
    rw [holds.marker]
    rfl
  have pointed : ∀ id : BlockId, c.table.get? Key.lastAccepted = some id.toBytes →
      (c.table.get? (Key.block id)).isSome := by
    intro id named
    rw [pointer] at named
    have same : last.id = id := Bytes32.ext (Option.some.inj named)
    rw [← same, holds.records last member]
    rfl
  obtain ⟨parent, parent_pointer, record, status, follows⟩ :=
    follows_of_extension tidy pointed (extension_of_admitted tidy.quiet marker admitted)
  rw [pointer] at parent_pointer
  -- The parent that was looked up may be another instance than the last block of the chain, but it
  -- has the same bytes.
  have named : last.id = parent.id := Bytes32.ext (Option.some.inj parent_pointer)
  rw [← named, holds.records last member] at record
  have same : parent = last :=
    Block.ext_of_bytes (Option.some.inj record).symm (status.trans (holds.accepted last member).symm)
  rw [table_of_accepted wrote]
  exact holds.accepting tail (same ▸ follows) (ChainState.absent_of_unstored unstored)

/-- The first block makes up a chain of its own. -/
theorem holdsChain_of_founded {data : Bytes} {genesis : Block} {recorded : Bool}
    (quiet : c.store.staged = .empty) (sound : c.table.Sound)
    (unmarked : c.store.marked = .ok false) (made : Block.genesis data = .ok genesis)
    (record : c.store.lookup (Key.block genesis.id) =
      .ok (if recorded = true then some genesis.bytes else none))
    (wrote : c.Wrote (.ofFirst genesis recorded) d) :
    c.table = .empty ∧ HoldsChain d.table [genesis.asAccepted] := by
  have empty := sound.eq_empty (marked_of_marker quiet unmarked)
  rw [table_of_founded quiet record wrote, empty]
  exact ⟨rfl, holdsChain_founding made⟩

theorem sound_of_outcome {call : Call} (tidy : c.Tidy) (sound : c.table.Sound)
    (ordered : c.InOrder (.call call)) (outcome : c.Outcome call d) : d.table.Sound := by
  cases outcome with
  | idle idle =>
      rw [idle.table_eq]
      exact sound
  | accepted status unstored admitted wrote _ =>
      have longer :=
        holdsChain_of_accepted tidy (sound.holdsChain ordered) unstored admitted wrote
      exact Or.inr ⟨_, longer⟩
  | founded unmarked made record wrote =>
      have fresh := holdsChain_of_founded tidy.quiet sound unmarked made record wrote
      exact Or.inr ⟨_, fresh.2⟩

structure Settled (c : Controller) : Prop where
  tidy : c.Tidy
  sound : c.table.Sound

theorem Settled.afterEvent (settled : c.Settled) {event : Event} (ordered : c.InOrder event) :
    (c.afterEvent event).Settled := by
  refine ⟨settled.tidy.afterEvent event, ?_⟩
  cases event with
  | call call =>
      have outcome := afterCall_outcome call settled.tidy.quiet
      exact sound_of_outcome settled.tidy settled.sound ordered outcome
  | restart channel clock => exact settled.sound
  | surround channel clock faults => exact settled.sound

theorem settled_ofBackend {b : Backend} (empty : b.table = .empty) (channel : Channel)
    (clock : Clock) : (ofBackend b channel clock).Settled :=
  ⟨tidy_ofBackend b channel clock, Or.inl empty⟩

theorem Settled.follow (settled : c.Settled) {events : List Event} (orderly : c.Orderly events) :
    (c.follow events).Settled :=
  follow_induction (fun _ _ ordered settled => settled.afterEvent ordered) orderly settled

/-- The controller stands behind an orderly course of events over a backend that started empty. -/
def Reached (c : Controller) : Prop :=
  ∃ (b : Backend) (channel : Channel) (clock : Clock) (events : List Event), b.table = .empty ∧
    (ofBackend b channel clock).Orderly events ∧ c = (ofBackend b channel clock).follow events

theorem Reached.settled (reached : c.Reached) : c.Settled := by
  obtain ⟨b, channel, clock, events, empty, orderly, rfl⟩ := reached
  exact (settled_ofBackend empty channel clock).follow orderly

end Controller

/-! ## A run with a failure, siblings and a restart -/

namespace Sample

def payload (byte : UInt8) : Payload := Bytes32.pad [byte] (by simp)

def genesis : Block := Block.create BlockId.none 0 (payload 1) 0

def child : Block := Block.create genesis.id 1 (payload 2) 10

def sibling : Block := Block.create genesis.id 1 (payload 3) 11

def grandchild : Block := Block.create child.id 2 (payload 4) 12

/-- The fourth request fails, which is the first write. -/
def backend : Backend where
  table := .empty
  faults number _ := if number = 3 then some "no space" else none
  requests := 0
  journal := []
  closes := 0

def start : Controller := .ofBackend backend (.ofDepth 1) (.still 20)

def events : List Event := [
  .call (.bootstrap [1]), .call (.bootstrap [1]), .call (.verify child), .call (.verify sibling),
  .call (.accept child), .call (.accept sibling), .restart (.ofDepth 1) (.still 20),
  .call (.bootstrap (List.replicate 40 7)), .call (.accept grandchild), .call (.accept child)]

def blocks : List Block := [genesis.asAccepted, child.asAccepted, grandchild.asAccepted]

theorem orderly : start.Orderly events := by decide +kernel

theorem reached (events : List Event) (orderly : start.Orderly events) :
    (start.follow events).Reached :=
  ⟨backend, .ofDepth 1, .still 20, events, rfl, orderly, rfl⟩

theorem storedChain_events : (start.follow events).table.storedChain = blocks := by decide +kernel

end Sample

namespace Controller

/-- The entries are those of a chain, down to the bytes, or there are none. -/
theorem empty_or_holdsChain {c : Controller} (reached : c.Reached) :
    c.table = .empty ∨
      ∃ blocks, HoldsChain c.table blocks ∧
        (∀ key, (c.table.get? key).isSome ↔
          key = [1] ∨ key = [2] ∨ ∃ block ∈ blocks, key = 0 :: block.id.toBytes) ∧
        (blocks.map fun block => 0 :: block.id.toBytes).Nodup ∧
        (∀ block ∈ blocks, c.table.get? (0 :: block.id.toBytes) = some block.contents.encode ∧
          block.contents.encode.length = 82 ∧ Sha256.hash block.contents.encode = block.id) ∧
        (∃ last, blocks.getLast? = some last ∧ c.table.get? [1] = some last.id.toBytes) ∧
        c.table.get? [2] = some [1] := by
  rcases reached.settled.sound with none | ⟨blocks, holds⟩
  · exact Or.inl none
  · refine Or.inr ⟨blocks, holds, holds.isSome_iff, holds.nodup_keys, ?_, holds.pointer,
      holds.marker⟩
    intro block member
    have record := holds.records block member
    rw [block.bytes_eq] at record
    refine ⟨record, Contents.length_encode _, ?_⟩
    rw [← block.bytes_eq, ← block.id_eq]

theorem holdsChain_sample :
    HoldsChain (Sample.start.follow Sample.events).table Sample.blocks := by
  have chain := Sample.storedChain_events
  rcases empty_or_holdsChain (Sample.reached Sample.events Sample.orderly) with
    none | ⟨blocks, holds, -⟩
  · rw [none] at chain
    cases chain
  · rw [holds.storedChain_eq] at chain
    exact chain ▸ holds

end Controller

end TimestampChain
