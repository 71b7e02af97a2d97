import TimestampChain.Store.ChainState

/-!
# Batches of an accepted block

Accepting a block writes its record and the pointer to it, and the first block comes with the
marker. The keys of these entries rise in this order, so a buffer that they are set in one after
the other gives them up as they came.
-/

namespace TimestampChain

/-! ## Writes in key order -/

theorem Table.place_of_above {α : Type} {key : Bytes} {entries : List (Bytes × α)}
    (above : ∀ entry ∈ entries, entry.1 < key) (value : α) :
    place key value entries = entries ++ [(key, value)] := by
  induction entries with
  | nil => rfl
  | cons head rest ih =>
      have less := above head List.mem_cons_self
      have different : key ≠ head.1 := fun same => List.lt_irrefl _ (same ▸ less)
      have notLess : ¬ key < head.1 := fun greater => List.lt_irrefl _ (List.lt_trans less greater)
      have later := ih fun entry member => above entry (List.mem_cons_of_mem _ member)
      rw [place, if_neg different, if_neg notLess, later, List.cons_append]

theorem WriteBuffer.drain_set_of_above {buffer : WriteBuffer} {key : Bytes}
    (above : ∀ entry ∈ buffer.drain.1, entry.1 < key) (value : Bytes) :
    (buffer.set key value).drain.1 = buffer.drain.1 ++ [(key, value)] :=
  Table.place_of_above above value

namespace Key

theorem block_lt_lastAccepted (id : BlockId) : block id < lastAccepted := by
  simp [block, lastAccepted, List.cons_lt_cons_iff]

theorem block_lt_initialized (id : BlockId) : block id < initialized := by
  simp [block, initialized, List.cons_lt_cons_iff]

theorem lastAccepted_lt_initialized : lastAccepted < initialized := by decide

end Key

/-! ## The batches -/

namespace Batch

def ofAccepted (block : Block) : Batch :=
  [(Key.block block.id, block.bytes), (Key.lastAccepted, block.id.toBytes)]

/-- The writes that set a chain up on a block, whose record may be there already. -/
def ofFirst (block : Block) (recorded : Bool) : Batch :=
  (if recorded then [(Key.lastAccepted, block.id.toBytes)] else ofAccepted block) ++
    [(Key.initialized, initializedMarker)]

end Batch

namespace WriteBuffer

theorem drain_accepted (block : Block) :
    ((empty.set (Key.block block.id) block.bytes).set Key.lastAccepted block.id.toBytes).drain.1 =
      Batch.ofAccepted block := by
  rw [drain_set_of_above]
  · rfl
  · intro entry member
    obtain rfl := List.mem_singleton.mp member
    exact Key.block_lt_lastAccepted block.id

theorem drain_first (block : Block) :
    (((empty.set (Key.block block.id) block.bytes).set Key.lastAccepted
      block.id.toBytes).set Key.initialized initializedMarker).drain.1 =
      Batch.ofFirst block false := by
  rw [drain_set_of_above, drain_accepted]
  · rfl
  · intro entry member
    rw [drain_accepted] at member
    rcases List.mem_cons.mp member with rfl | member
    · exact Key.block_lt_initialized block.id
    · obtain rfl := List.mem_singleton.mp member
      exact Key.lastAccepted_lt_initialized

theorem drain_recorded (block : Block) :
    ((empty.set Key.lastAccepted block.id.toBytes).set Key.initialized initializedMarker).drain.1 =
      Batch.ofFirst block true := by
  rw [drain_set_of_above]
  · rfl
  · intro entry member
    obtain rfl := List.mem_singleton.mp member
    exact Key.lastAccepted_lt_initialized

end WriteBuffer

/-! ## Tables with an accepted block -/

namespace Table

def accepting (t : Table Bytes) (block : Block) : Table Bytes :=
  (t.insert (Key.block block.id) block.bytes).insert Key.lastAccepted block.id.toBytes

def founding (t : Table Bytes) (genesis : Block) : Table Bytes :=
  (t.accepting genesis).insert Key.initialized initializedMarker

theorem insertMany_accepted (t : Table Bytes) (block : Block) :
    t.insertMany (Batch.ofAccepted block) = t.accepting block := rfl

/-- A record that is there already need not be written again. -/
theorem insertMany_first (t : Table Bytes) (genesis : Block) {recorded : Bool}
    (h : recorded = true → t.get? (Key.block genesis.id) = some genesis.bytes) :
    t.insertMany (Batch.ofFirst genesis recorded) = t.founding genesis := by
  cases recorded with
  | false => rfl
  | true =>
      have same : t.insert (Key.block genesis.id) genesis.bytes = t := by
        apply Table.ext
        intro key
        rw [get?_insert]
        split
        · next equal => rw [equal, h rfl]
        · rfl
      rw [founding, accepting, same]
      rfl

section

variable (t : Table Bytes) (block : Block)

theorem get?_accepting (key : Bytes) :
    (t.accepting block).get? key =
      if key = Key.lastAccepted then some block.id.toBytes
      else if key = Key.block block.id then some block.bytes
      else t.get? key := by
  rw [accepting, get?_insert, get?_insert]

theorem get?_founding (key : Bytes) :
    (t.founding block).get? key =
      if key = Key.initialized then some initializedMarker else (t.accepting block).get? key := by
  rw [founding, get?_insert]

@[simp] theorem record_accepting (id : BlockId) :
    (t.accepting block).get? (Key.block id) =
      if id = block.id then some block.bytes else t.get? (Key.block id) := by
  rw [get?_accepting, if_neg (Key.block_ne_lastAccepted id)]
  by_cases same : id = block.id
  · rw [if_pos same, if_pos (congrArg Key.block same)]
  · have different : Key.block id ≠ Key.block block.id := by
      intro equal
      exact same (Key.block_injective equal)
    rw [if_neg same, if_neg different]

@[simp] theorem pointer_accepting :
    (t.accepting block).get? Key.lastAccepted = some block.id.toBytes := by
  simp [get?_accepting]

@[simp] theorem marker_accepting :
    (t.accepting block).get? Key.initialized = t.get? Key.initialized := by
  have last := Key.lastAccepted_ne_initialized.symm
  have record := (Key.block_ne_initialized block.id).symm
  simp [get?_accepting, last, record]

theorem isSome_accepting {key : Bytes} (there : (t.get? key).isSome) :
    ((t.accepting block).get? key).isSome := by
  rw [get?_accepting]
  split
  · rfl
  · split
    · rfl
    · exact there

theorem isSome_founding {key : Bytes} (there : (t.get? key).isSome) :
    ((t.founding block).get? key).isSome := by
  rw [get?_founding]
  split
  · rfl
  · exact isSome_accepting t block there

@[simp] theorem record_founding (id : BlockId) :
    (t.founding block).get? (Key.block id) =
      if id = block.id then some block.bytes else t.get? (Key.block id) := by
  simp [get?_founding, Key.block_ne_initialized id]

@[simp] theorem pointer_founding :
    (t.founding block).get? Key.lastAccepted = some block.id.toBytes := by
  simp [get?_founding, Key.lastAccepted_ne_initialized]

@[simp] theorem marker_founding :
    (t.founding block).get? Key.initialized = some initializedMarker := by
  simp [get?_founding]

end

end Table

end TimestampChain
