import TimestampChain.Proofs.Store.Batches
import TimestampChain.Proofs.Store.Records

/-!
# The shape of the stored chain

A table holds a chain if its entries are the records of the blocks, the pointer to the last one and
the marker. The blocks can be read off the table again by going back from the pointer, since the
height of the last block tells how many there are.
-/

namespace TimestampChain

/-- One block names another one as its parent and is one higher. -/
def Block.Follows (child parent : Block) : Prop :=
  child.parent = parent.id ∧ child.height.toNat = parent.height.toNat + 1

instance (child parent : Block) : Decidable (child.Follows parent) :=
  inferInstanceAs (Decidable (_ ∧ _))

/-- The entries of the table are those of a chain of accepted blocks, from the first to the last. -/
structure HoldsChain (t : Table Bytes) (blocks : List Block) : Prop where
  first : ∃ genesis, blocks.head? = some genesis ∧ genesis.parent = BlockId.none ∧
    genesis.height = 0 ∧ genesis.timestamp = 0
  linked : ∀ i parent child, blocks[i]? = some parent → blocks[i + 1]? = some child →
    child.Follows parent
  distinct : (blocks.map Block.id).Nodup
  accepted : ∀ block ∈ blocks, block.status = .accepted
  records : ∀ block ∈ blocks, t.get? (Key.block block.id) = some block.bytes
  pointer : ∃ last, blocks.getLast? = some last ∧
    t.get? Key.lastAccepted = some last.id.toBytes
  marker : t.get? Key.initialized = some initializedMarker
  keys : ∀ key value, t.get? key = some value →
    key = Key.lastAccepted ∨ key = Key.initialized ∨ ∃ block ∈ blocks, key = Key.block block.id

/-! ## Growth -/

theorem holdsChain_founding {data : Bytes} {genesis : Block}
    (made : Block.genesis data = .ok genesis) :
    HoldsChain (Table.empty.founding genesis) [genesis.asAccepted] := by
  obtain ⟨-, payload, rfl⟩ := Block.genesis_eq_ok made
  constructor
  · exact ⟨_, rfl, rfl, rfl, rfl⟩
  · intro i parent child _ later
    simp at later
  · simp
  · intro block member
    obtain rfl := List.mem_singleton.mp member
    rfl
  · intro block member
    obtain rfl := List.mem_singleton.mp member
    rw [Table.record_founding]
    exact if_pos rfl
  · exact ⟨_, rfl, Table.pointer_founding _ _⟩
  · exact Table.marker_founding _ _
  · intro key value found
    rw [Table.get?_founding, Table.get?_accepting] at found
    split at found
    · next same => exact Or.inr (Or.inl same)
    · split at found
      · next same => exact Or.inl same
      · split at found
        · next same => exact Or.inr (Or.inr ⟨_, List.mem_singleton_self _, same⟩)
        · cases found

namespace HoldsChain

variable {t : Table Bytes} {blocks : List Block}

theorem id_ne_of_absent (h : HoldsChain t blocks) {id : BlockId}
    (absent : t.get? (Key.block id) = none) {old : Block} (member : old ∈ blocks) : old.id ≠ id := by
  intro same
  have record := h.records old member
  rw [same, absent] at record
  cases record

theorem linked_append (h : HoldsChain t blocks) {last block : Block}
    (tail : blocks.getLast? = some last) (follows : block.Follows last) {i : Nat}
    {parent child : Block} (here : (blocks ++ [block.asAccepted])[i]? = some parent)
    (next : (blocks ++ [block.asAccepted])[i + 1]? = some child) : child.Follows parent := by
  have bound : i + 1 < (blocks ++ [block.asAccepted]).length := (List.getElem?_eq_some_iff.mp next).1
  rw [List.length_append, List.length_singleton] at bound
  have inside : i < blocks.length := by omega
  rw [List.getElem?_append_left inside] at here
  by_cases more : i + 1 < blocks.length
  · rw [List.getElem?_append_left more] at next
    exact h.linked i parent child here next
  · -- Only the link to the new block is new.
    have final : i + 1 = blocks.length := by omega
    rw [final, List.getElem?_concat_length] at next
    have position : i = blocks.length - 1 := by omega
    rw [List.getLast?_eq_getElem?, ← position, here] at tail
    cases tail
    cases next
    exact follows

theorem distinct_append (h : HoldsChain t blocks) {block : Block}
    (absent : t.get? (Key.block block.id) = none) : ((blocks ++ [block.asAccepted]).map Block.id).Nodup := by
  rw [List.map_append, List.nodup_append]
  refine ⟨h.distinct, by simp, ?_⟩
  intro id old id' new same
  obtain ⟨earlier, member, rfl⟩ := List.mem_map.mp old
  obtain rfl := List.mem_singleton.mp new
  exact h.id_ne_of_absent absent member same

/-- A block that follows the last one and has no record yet is put at the end. -/
theorem accepting (h : HoldsChain t blocks) {last block : Block}
    (tail : blocks.getLast? = some last) (follows : block.Follows last)
    (absent : t.get? (Key.block block.id) = none) :
    HoldsChain (t.accepting block) (blocks ++ [block.asAccepted]) := by
  constructor
  · obtain ⟨genesis, head, fields⟩ := h.first
    refine ⟨genesis, ?_, fields⟩
    rw [List.head?_append, head]
    rfl
  · intro i parent child here next
    exact h.linked_append tail follows here next
  · exact h.distinct_append absent
  · intro kept member
    rcases List.mem_append.mp member with old | new
    · exact h.accepted kept old
    · obtain rfl := List.mem_singleton.mp new
      rfl
  · intro kept member
    rw [Table.record_accepting]
    rcases List.mem_append.mp member with old | new
    · rw [if_neg (h.id_ne_of_absent absent old)]
      exact h.records kept old
    · obtain rfl := List.mem_singleton.mp new
      exact if_pos rfl
  · exact ⟨block.asAccepted, by simp, Table.pointer_accepting _ _⟩
  · rw [Table.marker_accepting]
    exact h.marker
  · intro key value found
    rw [Table.get?_accepting] at found
    split at found
    · next same => exact Or.inl same
    · split at found
      · next same => exact Or.inr (Or.inr ⟨block.asAccepted, by simp, same⟩)
      · rcases h.keys key value found with same | same | ⟨old, member, same⟩
        · exact Or.inl same
        · exact Or.inr (Or.inl same)
        · exact Or.inr (Or.inr ⟨old, List.mem_append_left _ member, same⟩)

/-! ## Heights and records -/

theorem height_eq (h : HoldsChain t blocks) {i : Nat} {block : Block}
    (here : blocks[i]? = some block) : block.height.toNat = i := by
  induction i generalizing block with
  | zero =>
      obtain ⟨genesis, head, -, height, -⟩ := h.first
      rw [List.head?_eq_getElem?, here] at head
      cases head
      rw [height]
      rfl
  | succ i ih =>
      have bound : i + 1 < blocks.length := (List.getElem?_eq_some_iff.mp here).1
      have before : blocks[i]? = some blocks[i] := List.getElem?_eq_getElem (by omega)
      have follows := h.linked i _ block before here
      rw [follows.2, ih before]

/-- There is one block at each height. -/
theorem eq_of_height (h : HoldsChain t blocks) {left right : Block} (hl : left ∈ blocks)
    (hr : right ∈ blocks) (same : left.height = right.height) : left = right := by
  obtain ⟨i, here⟩ := List.mem_iff_getElem?.mp hl
  obtain ⟨j, there⟩ := List.mem_iff_getElem?.mp hr
  have left_height := h.height_eq here
  have right_height := h.height_eq there
  rw [same, right_height] at left_height
  rw [left_height, here] at there
  exact Option.some.inj there

theorem isSome_iff (h : HoldsChain t blocks) (key : Bytes) :
    (t.get? key).isSome ↔
      key = Key.lastAccepted ∨ key = Key.initialized ∨ ∃ block ∈ blocks, key = Key.block block.id := by
  constructor
  · intro found
    obtain ⟨value, found⟩ := Option.isSome_iff_exists.mp found
    exact h.keys key value found
  · obtain ⟨last, -, pointer⟩ := h.pointer
    rintro (rfl | rfl | ⟨block, member, rfl⟩)
    · exact Option.isSome_iff_exists.mpr ⟨_, pointer⟩
    · exact Option.isSome_iff_exists.mpr ⟨_, h.marker⟩
    · exact Option.isSome_iff_exists.mpr ⟨_, h.records block member⟩

theorem nodup_keys (h : HoldsChain t blocks) :
    (blocks.map fun block => Key.block block.id).Nodup := by
  have keys : (blocks.map Block.id).map Key.block = blocks.map fun block => Key.block block.id := by
    rw [List.map_map]
    rfl
  rw [← keys]
  refine List.Pairwise.map Key.block (fun left right different same => ?_) h.distinct
  exact different (Key.block_injective same)

/-- Every record is that of a block of the chain. -/
theorem mem_of_record (h : HoldsChain t blocks) {id : BlockId} {bytes : Bytes}
    (record : t.get? (Key.block id) = some bytes) :
    ∃ block ∈ blocks, block.id = id ∧ block.bytes = bytes := by
  rcases h.keys _ _ record with same | same | ⟨block, member, same⟩
  · exact absurd same (Key.block_ne_lastAccepted id)
  · exact absurd same (Key.block_ne_initialized id)
  · have named := Key.block_injective same
    have known := h.records block member
    rw [← named, record] at known
    exact ⟨block, member, named.symm, (Option.some.inj known).symm⟩

end HoldsChain

/-! ## Reading the chain -/

def Table.stored (t : Table Bytes) (id : BlockId) : Option Block :=
  (t.get? (Key.block id)).bind fun bytes => (ChainState.decodeRecord id bytes).toOption

/-- The stored blocks from a number of steps below an identifier up to it. -/
def Table.ancestry (t : Table Bytes) : Nat → BlockId → List Block
  | steps, id =>
    match t.stored id with
    | none => []
    | some block =>
      match steps with
      | 0 => [block]
      | steps + 1 => t.ancestry steps block.parent ++ [block]

def Table.storedChain (t : Table Bytes) : List Block :=
  match ((t.get? Key.lastAccepted).bind Bytes32.ofBytes?).bind t.stored with
  | none => []
  | some last => t.ancestry last.height.toNat last.id

namespace HoldsChain

variable {t : Table Bytes} {blocks : List Block}

theorem stored_eq (h : HoldsChain t blocks) {block : Block} (member : block ∈ blocks) :
    t.stored block.id = some block := by
  have same : block.asAccepted = block :=
    Block.ext_of_bytes rfl (h.accepted block member).symm
  rw [Table.stored, h.records block member, Option.bind_some, ChainState.decodeRecord_bytes, same]
  rfl

theorem ancestry_eq (h : HoldsChain t blocks) {i : Nat} {block : Block}
    (here : blocks[i]? = some block) : t.ancestry i block.id = blocks.take (i + 1) := by
  induction i generalizing block with
  | zero =>
      have member := List.mem_of_getElem? here
      rw [Table.ancestry, h.stored_eq member]
      rw [List.take_add_one, here]
      rfl
  | succ i ih =>
      have member := List.mem_of_getElem? here
      have bound : i + 1 < blocks.length := (List.getElem?_eq_some_iff.mp here).1
      have before : blocks[i]? = some blocks[i] := List.getElem?_eq_getElem (by omega)
      have follows := h.linked i _ block before here
      rw [Table.ancestry, h.stored_eq member]
      dsimp only
      rw [follows.1, ih before, List.take_add_one (i := i + 1), here]
      rfl

/-- A table holds no other chain than the one that is read off it. -/
theorem storedChain_eq (h : HoldsChain t blocks) : t.storedChain = blocks := by
  obtain ⟨last, tail, pointer⟩ := h.pointer
  have member := List.mem_of_getLast? tail
  have position := tail
  rw [List.getLast?_eq_getElem?] at position
  have height := h.height_eq position
  have bound := List.length_pos_of_mem member
  rw [Table.storedChain, pointer, Option.bind_some, Bytes32.ofBytes?_toBytes, Option.bind_some,
    h.stored_eq member]
  dsimp only
  rw [height, h.ancestry_eq position, List.take_of_length_le (by omega)]

end HoldsChain

end TimestampChain
