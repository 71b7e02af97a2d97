import Mathlib.Data.List.Chain
import TimestampChain.Proofs.Chain.Linkage
import TimestampChain.Proofs.Controller.Building

/-!
# Plans

What an engine makes of the payloads that wait: one block on another above the last one. Each is higher
than all before it, so two of them can have the same identifier only if the digest clashes, and none of
them is part of the chain that ends below the plan.
-/

namespace TimestampChain

variable {t : Table Bytes} {last block : Block} {blocks : List Block} {clock : Clock}
  {payloads : List Payload}

def Clock.forward (clock : Clock) (count : Nat) : Clock :=
  { clock with taken := clock.taken + count }

theorem Clock.forward_tick (clock : Clock) (count : Nat) :
    clock.tick.forward count = clock.forward (count + 1) := by
  rw [forward, tick, Nat.add_right_comm]
  rfl

/-- The next readings of two clocks are the same. -/
def Clock.Agrees (left right : Clock) (count : Nat) : Prop :=
  ∀ i < count, left.reading (left.taken + i) = right.reading (right.taken + i)

theorem Clock.agrees_succ {left right : Clock} {count : Nat} (agrees : left.Agrees right (count + 1)) :
    left.now = right.now ∧ left.tick.Agrees right.tick count := by
  refine ⟨agrees 0 (Nat.succ_pos count), fun i less => ?_⟩
  have later := agrees (i + 1) (Nat.succ_lt_succ less)
  rw [← Nat.add_assoc, ← Nat.add_assoc, Nat.add_right_comm, Nat.add_right_comm right.taken] at later
  exact later

/-- The blocks that carry payloads above a block, one on another, at the times of a clock. -/
def Block.plan (parent : Block) (clock : Clock) : List Payload → List Block
  | [] => []
  | payload :: rest =>
    parent.successor payload clock.now :: (parent.successor payload clock.now).plan clock.tick rest

theorem Block.payloads_plan (parent : Block) (clock : Clock) (payloads : List Payload) :
    (parent.plan clock payloads).map Block.payload = payloads := by
  induction payloads generalizing parent clock with
  | nil => rfl
  | cons payload rest ih =>
      rw [plan, List.map_cons, ih]
      rfl

/-- The block on top carries the last payload. -/
theorem Block.plan_concat (parent : Block) (clock : Clock) (payloads : List Payload)
    (payload : Payload) :
    ∃ blocks top, parent.plan clock (payloads ++ [payload]) = blocks ++ [top] ∧
      top.payload = payload := by
  obtain ⟨blocks, rest, whole, -, above⟩ :=
    List.map_eq_append_iff.mp (parent.payloads_plan clock (payloads ++ [payload]))
  obtain ⟨top, rfl, carries⟩ := List.map_eq_singleton_iff.mp above
  exact ⟨blocks, top, whole, carries⟩

/-- Only the identifier and the height of the block below count. -/
theorem Block.plan_asAccepted (parent : Block) (clock : Clock) (payloads : List Payload) :
    parent.asAccepted.plan clock payloads = parent.plan clock payloads := by
  cases payloads <;> rfl

/-- Only the readings that the blocks are built at count. -/
theorem Block.plan_of_agrees {left right : Clock} (parent : Block)
    (agrees : left.Agrees right payloads.length) :
    parent.plan left payloads = parent.plan right payloads := by
  induction payloads generalizing parent left right with
  | nil => rfl
  | cons payload rest ih =>
      obtain ⟨now, later⟩ := Clock.agrees_succ agrees
      rw [plan, plan, now, ih _ later]

/-- More payloads are planned above the blocks that are planned for the first ones. -/
theorem Block.plan_append (parent : Block) (clock : Clock) (front back : List Payload) :
    parent.plan clock (front ++ back) =
      parent.plan clock front ++
        (((parent.plan clock front).map Block.asAccepted).getLastD parent).plan
          (clock.forward front.length) back := by
  induction front generalizing parent clock with
  | nil => rfl
  | cons payload rest ih =>
      have below : ((parent.successor payload clock.now).plan clock.tick rest).map Block.asAccepted =
          ((parent.successor payload clock.now).asAccepted.plan clock.tick rest).map
            Block.asAccepted := by
        rw [plan_asAccepted]
      rw [List.cons_append, plan, plan, List.cons_append, List.map_cons, List.getLastD_cons, below,
        ← plan_asAccepted _ _ (rest ++ back), ih, plan_asAccepted _ _ rest, Clock.forward_tick]
      rfl

theorem height_ne_maxHeight {height : UInt64} (h : height.toNat + 1 < UInt64.size) :
    height ≠ maxHeight := by
  intro highest
  rw [highest] at h
  exact absurd h (by decide)

theorem Block.follows_successor {last : Block} (below : last.height ≠ maxHeight) (payload : Payload)
    (time : UInt64) : (last.successor payload time).Follows last :=
  checkChild_eq_ok_iff.mp (checkChild_successor below payload time)

/-- Only the identifier and the height of a parent count, and these lie in its bytes. -/
theorem Block.successor_of_bytes {left right : Block} (same : left.bytes = right.bytes)
    (payload : Payload) (time : UInt64) :
    left.successor payload time = right.successor payload time := by
  have id : left.id = right.id := by
    rw [left.id_eq, right.id_eq, same]
  rw [Block.successor, Block.successor, id, Block.height_of_bytes same]

theorem Block.Follows.of_bytes {left right : Block} (follows : block.Follows left)
    (same : left.bytes = right.bytes) : block.Follows right := by
  have id : left.id = right.id := by
    rw [left.id_eq, right.id_eq, same]
  rw [Block.Follows, ← id, ← Block.height_of_bytes same]
  exact follows

theorem ne_maxHeight_of_follows {parent : Block} (follows : block.Follows parent) :
    parent.height ≠ maxHeight := by
  intro highest
  have bound := block.height.toNat_lt
  have top : parent.height.toNat = 2 ^ 64 - 1 := by
    rw [highest]
    rfl
  have higher := follows.2
  omega

theorem Block.linked_plan (room : last.height.toNat + payloads.length < UInt64.size) :
    (last :: last.plan clock payloads).IsChain fun parent child => child.Follows parent := by
  induction payloads generalizing last clock with
  | nil => exact List.isChain_singleton last
  | cons payload rest ih =>
      rw [List.length_cons] at room
      have below : last.height ≠ maxHeight := height_ne_maxHeight (by omega)
      have follows := Block.follows_successor below payload clock.now
      have height := follows.2
      exact List.isChain_cons_cons.mpr ⟨follows, ih (by omega)⟩

theorem Block.isChain_plan (room : last.height.toNat + payloads.length < UInt64.size) :
    (last :: (last.plan clock payloads).map Block.asAccepted).IsChain
      fun parent child => child.Follows parent := by
  have linked : (last :: last.plan clock payloads).IsChain fun parent child => child.Follows parent :=
    Block.linked_plan room
  cases planned : last.plan clock payloads with
  | nil => exact List.isChain_singleton last
  | cons first rest =>
      rw [planned] at linked
      obtain ⟨follows, later⟩ := List.isChain_cons_cons.mp linked
      -- Only the status of a block changes when it is accepted.
      have accepted : ((first :: rest).map Block.asAccepted).IsChain
          fun parent child => child.Follows parent := (List.isChain_map Block.asAccepted).mpr later
      exact List.isChain_cons_cons.mpr ⟨follows, accepted⟩

theorem Block.height_lt_of_mem_plan (room : last.height.toNat + payloads.length < UInt64.size)
    (member : block ∈ last.plan clock payloads) : last.height.toNat < block.height.toNat := by
  induction payloads generalizing last clock with
  | nil => cases member
  | cons payload rest ih =>
      rw [List.length_cons] at room
      have below : last.height ≠ maxHeight := height_ne_maxHeight (by omega)
      have height := (Block.follows_successor below payload clock.now).2
      rcases List.mem_cons.mp member with rfl | later
      · omega
      · have above := ih (by omega) later
        omega

/-- The block on top of a plan is higher than the one below by the number of payloads. -/
theorem Block.height_getLastD_plan (room : last.height.toNat + payloads.length < UInt64.size) :
    (((last.plan clock payloads).map asAccepted).getLastD last).height.toNat =
      last.height.toNat + payloads.length := by
  induction payloads generalizing last clock with
  | nil => rfl
  | cons payload rest ih =>
      rw [List.length_cons] at room ⊢
      have below : last.height ≠ maxHeight := height_ne_maxHeight (by omega)
      have height : (last.successor payload clock.now).asAccepted.height.toNat =
          last.height.toNat + 1 := (Block.follows_successor below payload clock.now).2
      have room' : (last.successor payload clock.now).asAccepted.height.toNat + rest.length <
          UInt64.size := by omega
      rw [plan, List.map_cons, List.getLastD_cons, ← plan_asAccepted, ih room']
      omega

/-! ## Clashes -/

def Table.Lacks (t : Table Bytes) (blocks : List Block) : Prop :=
  (blocks.map Block.id).Nodup ∧ ∀ block ∈ blocks, t.get? (Key.block block.id) = none

instance (t : Table Bytes) (blocks : List Block) : Decidable (t.Lacks blocks) :=
  inferInstanceAs (Decidable (_ ∧ _))

theorem Table.lacks_of_cons (lacks : t.Lacks (block :: blocks)) :
    t.get? (Key.block block.id) = none ∧ (t.accepting block).Lacks blocks := by
  obtain ⟨distinct, absent⟩ := lacks
  obtain ⟨first, later⟩ := List.nodup_cons.mp distinct
  refine ⟨absent block List.mem_cons_self, later, ?_⟩
  intro other member
  have different : other.id ≠ block.id :=
    fun same => first (List.mem_map.mpr ⟨other, member, same⟩)
  rw [Table.record_accepting, if_neg different]
  exact absent other (List.mem_cons_of_mem _ member)

/-- No block has the identifier of a different one, which is stored or among them. -/
structure Table.NoClash (t : Table Bytes) (blocks : List Block) : Prop where
  stored : ∀ block ∈ blocks, t.get? (Key.block block.id) = none ∨
    t.get? (Key.block block.id) = some block.bytes
  planned : ∀ left ∈ blocks, ∀ right ∈ blocks, left.id = right.id → left.bytes = right.bytes

instance (t : Table Bytes) (blocks : List Block) : Decidable (t.NoClash blocks) :=
  decidable_of_iff
    ((∀ block ∈ blocks, t.get? (Key.block block.id) = none ∨
        t.get? (Key.block block.id) = some block.bytes) ∧
      ∀ left ∈ blocks, ∀ right ∈ blocks, left.id = right.id → left.bytes = right.bytes)
    ⟨fun h => ⟨h.1, h.2⟩, fun h => ⟨h.stored, h.planned⟩⟩

def Table.Unstored (t : Table Bytes) (blocks : List Block) : Prop :=
  ∀ block ∈ blocks, t.get? (Key.block block.id) ≠ some block.bytes

theorem Block.nodup_plan (room : last.height.toNat + payloads.length < UInt64.size)
    (planned : ∀ left ∈ last.plan clock payloads, ∀ right ∈ last.plan clock payloads,
      left.id = right.id → left.bytes = right.bytes) :
    ((last.plan clock payloads).map Block.id).Nodup := by
  induction payloads generalizing last clock with
  | nil => exact List.nodup_nil
  | cons payload rest ih =>
      rw [List.length_cons] at room
      have below : last.height ≠ maxHeight := height_ne_maxHeight (by omega)
      have height := (Block.follows_successor below payload clock.now).2
      refine List.nodup_cons.mpr ⟨?_, ih (by omega) ?_⟩
      · intro again
        obtain ⟨other, later, same⟩ := List.mem_map.mp again
        -- A block further up is higher, so it has other bytes.
        have higher := Block.height_lt_of_mem_plan (by omega) later
        have bytes := planned other (List.mem_cons_of_mem _ later) _ List.mem_cons_self same
        rw [Block.height_of_bytes bytes] at higher
        omega
      · intro left hl right hr same
        exact planned left (List.mem_cons_of_mem _ hl) right (List.mem_cons_of_mem _ hr) same

theorem Table.NoClash.lacks (room : last.height.toNat + payloads.length < UInt64.size)
    (unclashing : t.NoClash (last.plan clock payloads))
    (unstored : t.Unstored (last.plan clock payloads)) : t.Lacks (last.plan clock payloads) := by
  refine ⟨Block.nodup_plan room unclashing.planned, ?_⟩
  intro block member
  rcases unclashing.stored block member with absent | record
  · exact absent
  · exact absurd record (unstored block member)

/-- What is planned above the last block of a chain is not part of the chain. -/
theorem HoldsChain.unstored (holds : HoldsChain t blocks) (final : blocks.getLast? = some last)
    (room : last.height.toNat + payloads.length < UInt64.size) :
    t.Unstored (last.plan clock payloads) := by
  intro block member record
  obtain ⟨old, there, -, same⟩ := holds.mem_of_record record
  have higher := Block.height_lt_of_mem_plan room member
  obtain ⟨i, here⟩ := List.mem_iff_getElem?.mp there
  have bound := (List.getElem?_eq_some_iff.mp here).1
  rw [List.getLast?_eq_getElem?] at final
  have low := holds.height_eq here
  have top := holds.height_eq final
  rw [Block.height_of_bytes same] at low
  omega

/-! ## Tables -/

def Table.acceptingAll (t : Table Bytes) (blocks : List Block) : Table Bytes :=
  blocks.foldl Table.accepting t

theorem Table.acceptingAll_append (t : Table Bytes) (front back : List Block) :
    t.acceptingAll (front ++ back) = (t.acceptingAll front).acceptingAll back :=
  List.foldl_append

/-- The blocks that come first are accepted before the others. -/
theorem Table.lacks_of_append {front back : List Block} (lacks : t.Lacks (front ++ back)) :
    t.Lacks front ∧ (t.acceptingAll front).Lacks back := by
  induction front generalizing t with
  | nil => exact ⟨⟨List.nodup_nil, fun _ none => absurd none List.not_mem_nil⟩, lacks⟩
  | cons first rest ih =>
      obtain ⟨absent, lacks'⟩ := Table.lacks_of_cons lacks
      obtain ⟨-, lacking⟩ := ih lacks'
      obtain ⟨distinct, unstored⟩ := lacks
      rw [List.map_append] at distinct
      refine ⟨⟨(List.nodup_append.mp distinct).1, fun block member => ?_⟩, lacking⟩
      exact unstored block (List.mem_append_left _ member)

theorem Table.record_acceptingAll_of_ne {id : BlockId} (other : ∀ block ∈ blocks, id ≠ block.id) :
    (t.acceptingAll blocks).get? (Key.block id) = t.get? (Key.block id) := by
  induction blocks generalizing t with
  | nil => rfl
  | cons first rest ih =>
      have kept := ih (t := t.accepting first) fun block member =>
        other block (List.mem_cons_of_mem _ member)
      rw [Table.record_accepting, if_neg (other first List.mem_cons_self)] at kept
      exact kept

theorem Table.record_acceptingAll (distinct : (blocks.map Block.id).Nodup) (member : block ∈ blocks) :
    (t.acceptingAll blocks).get? (Key.block block.id) = some block.bytes := by
  induction blocks generalizing t with
  | nil => cases member
  | cons first rest ih =>
      obtain ⟨new, distinct'⟩ := List.nodup_cons.mp distinct
      rcases List.mem_cons.mp member with rfl | later
      · have kept : ((t.accepting block).acceptingAll rest).get? (Key.block block.id) =
            (t.accepting block).get? (Key.block block.id) :=
          Table.record_acceptingAll_of_ne fun other there same =>
            new (List.mem_map.mpr ⟨other, there, same.symm⟩)
        rw [Table.record_accepting, if_pos rfl] at kept
        exact kept
      · exact ih distinct' later

/-- A plan above the last block of a chain is put behind it. -/
theorem holdsChain_acceptingAll (holds : HoldsChain t blocks) (final : blocks.getLast? = some last)
    (room : last.height.toNat + payloads.length < UInt64.size)
    (lacks : t.Lacks (last.plan clock payloads)) :
    HoldsChain (t.acceptingAll (last.plan clock payloads))
      (blocks ++ (last.plan clock payloads).map Block.asAccepted) := by
  induction payloads generalizing t blocks last clock with
  | nil =>
      rw [Block.plan, List.map_nil, List.append_nil]
      exact holds
  | cons payload rest ih =>
      rw [List.length_cons] at room
      have below : last.height ≠ maxHeight := height_ne_maxHeight (by omega)
      have follows := Block.follows_successor below payload clock.now
      have height : (last.successor payload clock.now).asAccepted.height.toNat =
          last.height.toNat + 1 := follows.2
      obtain ⟨absent, lacks'⟩ := Table.lacks_of_cons lacks
      rw [← Block.plan_asAccepted] at lacks'
      have longer := ih (holds.accepting final follows absent) List.getLast?_concat
        (by omega) lacks'
      rw [Block.plan_asAccepted, List.append_assoc] at longer
      exact longer

theorem getLast?_append_of_some {α : Type} {front back : List α} {last : α}
    (final : front.getLast? = some last) : (front ++ back).getLast? = some (back.getLastD last) := by
  rw [List.getLast?_append, final, List.getLastD_eq_getLast?]
  cases back.getLast? <;> rfl

end TimestampChain
