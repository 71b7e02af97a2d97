import TimestampChain.Proofs.Engine.Agreement
import TimestampChain.Proofs.Engine.Delivery
import TimestampChain.Proofs.Lineage

/-!
# Blocks that are verified in any order

A block can be verified once its parent can be found, be it stored, verified before, or one of those that
are being delivered. What is verified in the end depends on which blocks have come, but not on the order
in which they came or on how often each of them did, unless the digest clashes.
-/

namespace TimestampChain.Controller

open TimestampChain.Action

variable {c : Controller} {blocks earlier others longer : List Block} {block parent other left right : Block}
  {kept kept' : Table Block} {key : Bytes} {id : BlockId} {n : Nat}

/-! ## Deliveries -/

def Placed (c : Controller) (earlier : List Block) (block : Block) : Prop :=
  ∃ parent : Block,
    (((resolveParent block.parent).run c).1 = .ok parent ∨ parent ∈ earlier ∧ parent.id = block.parent) ∧
      block.height.toNat = parent.height.toNat + 1

/-- Each of the blocks has its parent among those before it, unless that can be looked up at the start. -/
inductive Arranged (c : Controller) : List Block → Prop where
  | nil : Arranged c []
  | next {earlier : List Block} {block : Block} :
      Arranged c earlier → c.Placed earlier block → Arranged c (earlier ++ [block])

/-- The same blocks once more, where each of them may come again after it has come first. -/
inductive Repeats : List Block → List Block → Prop where
  | nil : Repeats [] []
  | next {blocks longer : List Block} (block : Block) :
      Repeats blocks longer → Repeats (blocks ++ [block]) (longer ++ [block])
  | again {blocks longer : List Block} {block : Block} :
      Repeats blocks longer → block ∈ blocks → Repeats blocks (longer ++ [block])

theorem Placed.mono {earlier' : List Block} (placed : c.Placed earlier block) (more : earlier ⊆ earlier') :
    c.Placed earlier' block := by
  obtain ⟨parent, known, higher⟩ := placed
  exact ⟨parent, known.imp id fun come => ⟨more come.1, come.2⟩, higher⟩

theorem Arranged.of_concat (arranged : c.Arranged (earlier ++ [block])) :
    c.Arranged earlier ∧ c.Placed earlier block := by
  generalize whole : earlier ++ [block] = blocks at arranged
  cases arranged with
  | nil => simp at whole
  | next before placed =>
      obtain ⟨rfl, single⟩ := List.append_inj' whole rfl
      cases single
      exact ⟨before, placed⟩

theorem Arranged.placed (arranged : c.Arranged blocks) (member : block ∈ blocks) :
    c.Placed blocks block := by
  induction arranged with
  | nil => cases member
  | next before placed ih =>
      rcases List.mem_append.mp member with old | new
      · exact (ih old).mono (List.subset_append_left ..)
      · cases List.mem_singleton.mp new
        exact placed.mono (List.subset_append_left ..)

theorem Repeats.mem_iff (repeats : Repeats blocks longer) : block ∈ longer ↔ block ∈ blocks := by
  induction repeats with
  | nil => rfl
  | next block repeats ih => rw [List.mem_append, List.mem_append, ih]
  | again repeats come ih =>
      rw [List.mem_append, ih, List.mem_singleton]
      exact ⟨fun either => either.elim id fun same => same ▸ come, Or.inl⟩

theorem Repeats.arranged (repeats : Repeats blocks longer) (arranged : c.Arranged blocks) :
    c.Arranged longer := by
  induction repeats with
  | nil => exact .nil
  | next block repeats ih =>
      obtain ⟨before, placed⟩ := arranged.of_concat
      exact (ih before).next (placed.mono fun other member => repeats.mem_iff.mpr member)
  | again repeats come ih =>
      exact (ih arranged).next ((arranged.placed come).mono fun other member => repeats.mem_iff.mpr member)

/-! ## What is kept -/

/-- The written forms of the blocks, of those that are verified, and of those that are stored. -/
def Around (c : Controller) (blocks : List Block) (bytes : Bytes) : Prop :=
  (∃ block ∈ blocks, block.bytes = bytes) ∨
    (∃ key block, c.verified.get? key = some block ∧ block.bytes = bytes) ∨
      ∃ id : BlockId, c.table.get? (Key.block id) = some bytes

/-- The block is to be kept under the key: it is verified already, or it comes and has no record. -/
def Due (c : Controller) (blocks : List Block) (key : Bytes) (block : Block) : Prop :=
  c.verified.get? key = some block ∨
    block ∈ blocks ∧ key = block.id.toBytes ∧ c.table.get? (Key.block block.id) = none

theorem due_nil : c.Due [] key block ↔ c.verified.get? key = some block := by
  simp [Due]

theorem due_concat : c.Due (blocks ++ [block]) key other ↔
    c.Due blocks key other ∨
      other = block ∧ key = block.id.toBytes ∧ c.table.get? (Key.block block.id) = none := by
  unfold Due
  rw [List.mem_append, List.mem_singleton, or_and_right, or_assoc]
  refine or_congr_right (or_congr_right ⟨?_, ?_⟩) <;> rintro ⟨rfl, rest⟩ <;> exact ⟨rfl, rest⟩

def Gathers (c : Controller) (blocks : List Block) (kept : Table Block) : Prop :=
  ∀ key block, kept.get? key = some block ↔ c.Due blocks key block

/-- Whatever is around has come or has been met. -/
theorem Traced.met_of_around {met : Bytes → Prop} {bytes : Bytes} (traced : c.Traced met)
    (genuine : c.table.Genuine) (around : c.Around blocks bytes) :
    (∃ block ∈ blocks, block.bytes = bytes) ∨ met bytes := by
  rcases around with come | ⟨key, block, known, rfl⟩ | ⟨id, record⟩
  · exact Or.inl come
  · exact Or.inr (traced.verified key block known).1
  · obtain ⟨block, rfl, rfl⟩ := genuine id bytes record
    exact Or.inr (traced.recorded block record)

def holding (c : Controller) (kept : Table Block) : Controller := { c with verified := kept }

def Verifies (c : Controller) (blocks : List Block) (kept : Table Block) : Prop :=
  ∃ n, (forM blocks verify).run c = (.ok (), (c.counting n).holding kept)

structure Receives (c : Controller) (blocks : List Block) : Prop where
  tidy : c.Tidy
  genuine : c.table.Genuine
  opened : c.store.closed = false
  works : c.Works
  undecided : ∀ block ∈ blocks, block.status = .processing
  unclashing : Unclashing (c.Around blocks)

theorem Receives.mono (receives : c.Receives blocks) (fewer : others ⊆ blocks) : c.Receives others := by
  obtain ⟨tidy, genuine, opened, works, undecided, unclashing⟩ := receives
  refine ⟨tidy, genuine, opened, works, fun block member => undecided block (fewer member), ?_⟩
  have around : ∀ bytes, c.Around others bytes → c.Around blocks bytes := fun bytes =>
    Or.imp_left fun ⟨block, member, written⟩ => ⟨block, fewer member, written⟩
  exact fun left right hl hr => unclashing left right (around left hl) (around right hr)

theorem Gathers.unique (gathers : c.Gathers blocks kept) (gathers' : c.Gathers blocks kept') :
    kept = kept' :=
  Table.ext fun key => Option.ext fun block => (gathers key block).trans (gathers' key block).symm

theorem Gathers.congr (gathers : c.Gathers blocks kept) (same : ∀ block, block ∈ blocks ↔ block ∈ others) :
    c.Gathers others kept := by
  intro key block
  rw [gathers key block, Due, same block]
  rfl

theorem Receives.tidy_holding (receives : c.Receives blocks) (gathers : c.Gathers blocks kept) (n : Nat) :
    ((c.counting n).holding kept).Tidy := by
  have tidy := receives.tidy
  refine ⟨tidy.quiet, ?_, ?_, ?_⟩ <;> intro key block found <;>
    rcases (gathers key block).mp found with old | ⟨come, named, absent⟩
  · exact tidy.named key block old
  · exact named
  · exact tidy.undecided key block old
  · exact receives.undecided block come
  · exact tidy.unstored key block old
  · exact absent

/-- Unless the digest clashes, a block that comes is the only one with its identifier that can be kept. -/
theorem Receives.eq_of_kept (receives : c.Receives blocks) (gathers : c.Gathers earlier kept)
    (before : earlier ⊆ blocks) (come : right ∈ blocks)
    (found : kept.get? right.id.toBytes = some left) : left = right := by
  have around : c.Around blocks left.bytes := by
    rcases (gathers _ left).mp found with old | ⟨come', -⟩
    · exact Or.inr (Or.inl ⟨_, left, old, rfl⟩)
    · exact Or.inl ⟨left, before come', rfl⟩
  have tidy := (receives.mono before).tidy_holding gathers 0
  have same : left.id = right.id := Bytes32.ext (tidy.named _ left found).symm
  have bytes := receives.unclashing.eq_of_id around (Or.inl ⟨right, come, rfl⟩) same
  have status := tidy.undecided _ left found
  exact Block.ext_of_bytes bytes (status.trans (receives.undecided right come).symm)

/-! ## Parents -/

/-- What can be looked up at the start is found all along. -/
theorem Receives.findParent_of_known (receives : c.Receives blocks) (gathers : c.Gathers blocks kept)
    (found : c.findParent id = .ok parent) (n : Nat) :
    ((c.counting n).holding kept).findParent id = .ok parent := by
  have known := mapError_eq_ok_iff.mp found
  have same : ((c.counting n).holding kept).verified? id = c.verified? id := by
    cases old : c.verified? id with
    | some block => exact (gathers _ block).mpr (Or.inl old)
    | none =>
        -- A block that has come is kept only if it has no record, and then nothing was found before.
        by_contra other
        obtain ⟨block, there⟩ := Option.ne_none_iff_exists'.mp other
        rcases (gathers _ block).mp there with before | ⟨-, named, absent⟩
        · cases old.symm.trans before
        · rw [← Bytes32.ext named] at absent
          rw [find_of_unrecorded old receives.opened receives.tidy.quiet absent] at known
          cases known
  rw [findParent, find, same]
  exact found

/-- What has come is found from then on, as it was kept or as it is stored. -/
theorem Receives.findParent_of_come (receives : c.Receives blocks) (gathers : c.Gathers blocks kept)
    (come : parent ∈ blocks) (n : Nat) :
    ∃ found, ((c.counting n).holding kept).findParent parent.id = .ok found ∧
      found.height = parent.height := by
  cases record : c.table.get? (Key.block parent.id) with
  | none =>
      have there : ((c.counting n).holding kept).verified? parent.id = some parent :=
        (gathers _ parent).mpr (Or.inr ⟨come, rfl, record⟩)
      refine ⟨parent, ?_, rfl⟩
      rw [findParent, find, there]
      rfl
  | some bytes =>
      -- The record may be that of another instance, but not of other bytes.
      obtain ⟨stored, same, rfl⟩ := receives.genuine _ bytes record
      have equal : stored.bytes = parent.bytes :=
        receives.unclashing.eq_of_id (Or.inr (Or.inr ⟨_, record⟩)) (Or.inl ⟨parent, come, rfl⟩) same
      have height : stored.height = parent.height := Block.height_of_bytes equal
      rw [← same] at record ⊢
      have found := find_of_record (receives.tidy_holding gathers n) receives.opened record
      exact ⟨_, mapError_eq_ok_iff.mpr found, height⟩

theorem Receives.findParent_of_placed (receives : c.Receives blocks) (gathers : c.Gathers blocks kept)
    (placed : c.Placed blocks block) (n : Nat) :
    ∃ parent, ((c.counting n).holding kept).findParent block.parent = .ok parent ∧
      checkChild parent block = .ok () := by
  obtain ⟨parent, known, higher⟩ := placed
  have resolved : ∃ found, ((c.counting n).holding kept).findParent block.parent = .ok found ∧
      found.height = parent.height := by
    rcases known with resolved | ⟨come, named⟩
    · have found := (resolveParent_answers block.parent c).eq_of_ok resolved
      exact ⟨parent, receives.findParent_of_known gathers found n, rfl⟩
    · rw [← named]
      exact receives.findParent_of_come gathers come n
  obtain ⟨found, there, height⟩ := resolved
  have named := id_of_find (receives.tidy_holding gathers n) (mapError_eq_ok_iff.mp there)
  exact ⟨found, there, checkChild_eq_ok_iff.mpr ⟨named.symm, height ▸ higher⟩⟩

/-! ## Verifying what comes -/

theorem Gathers.concat_of_stored (gathers : c.Gathers blocks kept)
    (stored : (c.table.get? (Key.block block.id)).isSome) : c.Gathers (blocks ++ [block]) kept := by
  intro key other
  rw [gathers key other, due_concat, or_iff_left]
  rintro ⟨-, -, absent⟩
  rw [absent] at stored
  cases stored

theorem Receives.gathers_insert (receives : c.Receives (blocks ++ [block])) (gathers : c.Gathers blocks kept)
    (absent : c.table.get? (Key.block block.id) = none) :
    c.Gathers (blocks ++ [block]) (kept.insert block.id.toBytes block) := by
  have come : block ∈ blocks ++ [block] := List.mem_append_right _ (List.mem_singleton_self block)
  intro key other
  rw [Table.get?_insert, due_concat]
  by_cases same : key = block.id.toBytes
  · rw [if_pos same]
    constructor
    · intro here
      exact Or.inr ⟨(Option.some.inj here).symm, same, absent⟩
    · rintro (due | ⟨rfl, -⟩)
      · have there := (gathers key other).mpr due
        rw [same] at there
        rw [receives.eq_of_kept gathers (List.subset_append_left ..) come there]
      · rfl
  · rw [if_neg same, gathers key other, or_iff_left]
    exact fun new => same new.2.1

/-- The next block is verified, whatever has come before it. -/
theorem Receives.verify_next (receives : c.Receives (blocks ++ [block])) (gathers : c.Gathers blocks kept)
    (placed : c.Placed blocks block) (n : Nat) :
    ∃ m kept', (verify block).run ((c.counting n).holding kept) = (.ok (), (c.counting m).holding kept') ∧
      c.Gathers (blocks ++ [block]) kept' := by
  have before := receives.mono (List.subset_append_left blocks [block])
  have status := receives.undecided block (List.mem_append_right _ (List.mem_singleton_self block))
  have works : ((c.counting n).holding kept).Works := receives.works.later rfl (Nat.le_add_right _ _)
  obtain ⟨parent, found, child⟩ := before.findParent_of_placed gathers placed n
  obtain ⟨m, run⟩ := run_verify_of_found (before.tidy_holding gathers n) receives.opened status found child
    works.unfailing
  have counted : ((c.counting n).holding kept).counting m = (c.counting (n + m)).holding kept := by
    rw [← counting_counting]
    rfl
  have table : ((c.counting n).holding kept).table = c.table := rfl
  rw [table, counted] at run
  cases record : c.table.get? (Key.block block.id) with
  | some bytes =>
      have stored : (c.table.get? (Key.block block.id)).isSome := record ▸ rfl
      rw [if_pos stored] at run
      exact ⟨_, kept, run, gathers.concat_of_stored stored⟩
  | none =>
      rw [record] at run
      exact ⟨_, _, run, receives.gathers_insert gathers record⟩

/-- Whatever the order, every block is verified once its turn comes. -/
theorem Receives.verifies (receives : c.Receives blocks) (arranged : c.Arranged blocks) :
    ∃ kept, c.Gathers blocks kept ∧ c.Verifies blocks kept := by
  induction arranged with
  | nil => exact ⟨c.verified, fun key block => due_nil.symm, 0, rfl⟩
  | @next earlier block before placed ih =>
      obtain ⟨kept, gathers, n, run⟩ := ih (receives.mono (List.subset_append_left ..))
      obtain ⟨m, kept', verified, gathers'⟩ := receives.verify_next gathers placed n
      refine ⟨kept', gathers', m, ?_⟩
      rw [List.forM_append, run_bind_ok run, List.forM_cons, run_bind_ok verified]
      rfl

/-- What is kept in the end depends only on which blocks come. -/
theorem Receives.verifies_of_same (receives : c.Receives blocks) (gathers : c.Gathers blocks kept)
    (same : ∀ block, block ∈ others ↔ block ∈ blocks) (arranged : c.Arranged others) :
    c.Verifies others kept := by
  obtain ⟨kept', gathers', verifies⟩ :=
    (receives.mono fun block member => (same block).mp member).verifies arranged
  rw [gathers.unique (gathers'.congr same)]
  exact verifies

/-- The backend works from here on, and undecided blocks come that are each one higher than their parent,
which can be looked up or has come before. All of them are verified, and as long as the digest does not
clash, the verified blocks are then the same for every such order of the blocks, and however often they
come again: those from before, and the ones that have come and are not stored. Nothing else changes. -/
theorem verified_in_any_order (reachable : c.Reachable) (opened : c.store.closed = false) (works : c.Works)
    (undecided : ∀ block ∈ blocks, block.status = .processing)
    (unclashing : Unclashing (c.Around blocks)) (arranged : c.Arranged blocks) :
    ∃ kept, c.Gathers blocks kept ∧ c.Verifies blocks kept ∧
      (∀ others, others.Perm blocks → c.Arranged others → c.Verifies others kept) ∧
      ∀ longer, Repeats blocks longer → c.Verifies longer kept := by
  have receives : c.Receives blocks :=
    ⟨reachable.tidy_and_pointed.1, reachable.genuine, opened, works, undecided, unclashing⟩
  obtain ⟨kept, gathers, verifies⟩ := receives.verifies arranged
  refine ⟨kept, gathers, verifies, ?_, ?_⟩
  · intro others perm arranged'
    exact receives.verifies_of_same gathers (fun block => perm.mem_iff) arranged'
  · intro longer repeats
    exact receives.verifies_of_same gathers (fun block => repeats.mem_iff) (repeats.arranged arranged)

end TimestampChain.Controller

/-! ## A family that arrives in two orders -/

namespace TimestampChain.Sample

def cousin : Block := Block.create sibling.id 2 (payload 5) 13

def heir : Block := Block.create grandchild.id 3 (payload 6) 14

def household : List Event := [
  .call (.bootstrap [1]), .call (.accept child), .call (.verify grandchild),
  .surround (.ofDepth 1) (.still 30) .never]

def family : Controller := unset.follow household

/-- The cousin is above the sibling that comes with it. -/
def arrivals : List Block := [sibling, cousin, child, heir]

theorem reachable_family : family.Reachable := ⟨_, _, _, household, rfl, rfl⟩

theorem family_facts :
    family.store.closed = false ∧
      ((Controller.resolveParent genesis.id).run family).1 = .ok genesis.asAccepted ∧
      ((Controller.resolveParent grandchild.id).run family).1 = .ok grandchild ∧
      family.table.get? (Key.block cousin.id) = none ∧
      (family.table.get? (Key.block child.id)).isSome ∧
      family.verified.get? child.id.toBytes = none := by
  decide +kernel

theorem repeats_arrivals :
    Controller.Repeats arrivals [sibling, sibling, cousin, child, sibling, heir] := by
  have twice : Controller.Repeats [sibling] [sibling, sibling] :=
    (Controller.Repeats.nil.next sibling).again (List.mem_singleton_self sibling)
  have late : Controller.Repeats [sibling, cousin, child] [sibling, sibling, cousin, child, sibling] :=
    ((twice.next cousin).next child).again List.mem_cons_self
  exact late.next heir

theorem unclashing_arrivals : Unclashing (family.Around arrivals) := by
  have apart : ∀ left ∈ arrivals ++ household.flatMap Event.blocks,
      ∀ right ∈ arrivals ++ household.flatMap Event.blocks,
        Sha256.hash left.bytes = Sha256.hash right.bytes → left.bytes = right.bytes := by
    decide +kernel
  refine unclashing_of_blocks apart fun bytes around => ?_
  have traced := Controller.traced_follow (.ofTable .empty) (.ofDepth 1) (.still 1000) household
  rcases traced.met_of_around reachable_family.genuine around with ⟨block, come, written⟩ | met
  · exact ⟨block, List.mem_append_left _ come, written⟩
  · obtain ⟨block, about, written⟩ := exists_block_of_met met
    exact ⟨block, List.mem_append_right _ about, written⟩

end TimestampChain.Sample

namespace TimestampChain.Controller

/-- Three of the blocks have a parent that is stored or verified, and the fourth comes behind its own. -/
theorem arrivals_verified_alike :
    ∃ kept, Sample.family.Verifies Sample.arrivals kept ∧
      Sample.family.Verifies [Sample.child, Sample.heir, Sample.sibling, Sample.cousin] kept ∧
      Sample.family.Verifies
        [Sample.sibling, Sample.sibling, Sample.cousin, Sample.child, Sample.sibling, Sample.heir] kept ∧
      kept.get? Sample.cousin.id.toBytes = some Sample.cousin ∧
      kept.get? Sample.child.id.toBytes ≠ some Sample.child := by
  obtain ⟨opened, founded, verified, new, stored, unverified⟩ := Sample.family_facts
  have sibling : ∀ earlier, Sample.family.Placed earlier Sample.sibling := fun _ =>
    ⟨_, Or.inl founded, rfl⟩
  have child : ∀ earlier, Sample.family.Placed earlier Sample.child := fun _ =>
    ⟨_, Or.inl founded, rfl⟩
  have heir : ∀ earlier, Sample.family.Placed earlier Sample.heir := fun _ =>
    ⟨_, Or.inl verified, rfl⟩
  have cousin : ∀ earlier, Sample.sibling ∈ earlier → Sample.family.Placed earlier Sample.cousin :=
    fun _ come => ⟨_, Or.inr ⟨come, rfl⟩, rfl⟩
  have come : Sample.sibling ∈ [Sample.sibling] := List.mem_singleton_self _
  have late : Sample.sibling ∈ [Sample.child, Sample.heir] ++ [Sample.sibling] := List.mem_append_right _ come
  obtain ⟨kept, gathers, verifies, reordered, repeated⟩ :=
    verified_in_any_order Sample.reachable_family opened (fun _ _ _ => rfl) (by decide +kernel)
      Sample.unclashing_arrivals
      ((((Arranged.nil.next (sibling _)).next (cousin _ come)).next (child _)).next (heir _))
  refine ⟨kept, verifies, ?_, ?_, ?_, ?_⟩
  · have perm : ([Sample.child, Sample.heir] ++ [Sample.sibling, Sample.cousin]).Perm Sample.arrivals :=
      List.perm_append_comm
    refine reordered _ perm ?_
    exact (((Arranged.nil.next (child _)).next (heir _)).next (sibling _)).next (cousin _ late)
  · exact repeated _ Sample.repeats_arrivals
  · exact (gathers _ _).mpr (Or.inr ⟨List.mem_cons_of_mem _ List.mem_cons_self, rfl, new⟩)
  · intro there
    rcases (gathers _ _).mp there with old | ⟨-, -, absent⟩
    · rw [unverified] at old
      cases old
    · rw [absent] at stored
      cases stored

end TimestampChain.Controller
