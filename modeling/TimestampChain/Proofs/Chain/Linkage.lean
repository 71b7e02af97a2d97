import TimestampChain.Proofs.Chain.Shape
import TimestampChain.Proofs.Tidiness

/-!
# Linkage of an admitted block

Once the marker is committed, a block is admitted only if it follows the block accepted last. The
parent may be looked up among the verified blocks, but the block accepted last has a record, and
no verified block of a tidy controller has one.
-/

namespace TimestampChain

theorem toNat_height_succ {height : UInt64} (h : height ≠ maxHeight) :
    (height + 1).toNat = height.toNat + 1 := by
  have bound := height.toNat_lt
  have below : height.toNat ≠ 2 ^ 64 - 1 := by
    intro equal
    apply h
    apply UInt64.toNat_inj.mp
    exact equal
  rw [UInt64.toNat_add, UInt64.toNat_one]
  omega

theorem checkChild_eq_ok_iff {parent child : Block} :
    checkChild parent child = .ok () ↔ child.Follows parent := by
  unfold checkChild Block.Follows
  by_cases named : child.parent = parent.id
  · rw [if_neg (not_not_intro named)]
    by_cases highest : parent.height = maxHeight
    · rw [if_pos highest]
      have bound := child.height.toNat_lt
      have top : parent.height.toNat = 2 ^ 64 - 1 := by
        rw [highest]
        rfl
      constructor
      · intro h
        cases h
      · rintro ⟨-, higher⟩
        omega
    · rw [if_neg highest, ← toNat_height_succ highest]
      by_cases higher : child.height = parent.height + 1
      · simp [named, higher]
      · have different : child.height.toNat ≠ (parent.height + 1).toNat := by
          intro equal
          exact higher (UInt64.toNat_inj.mp equal)
        rw [if_pos higher]
        constructor
        · intro h
          cases h
        · rintro ⟨-, same⟩
          exact absurd same different
  · simp [named]

namespace Controller

theorem open_of_tip {c : Controller} {id : BlockId} (tip : c.tip = .ok id) :
    c.store.closed = false := by
  obtain ⟨value, read, -⟩ := bind_eq_ok_iff.mp (mapError_eq_ok_iff.mp tip)
  exact ChainState.open_of_lookup read

theorem marked_of_marker {c : Controller} {found : Bool} (quiet : c.store.staged = .empty)
    (marked : c.store.marked = .ok found) : (c.table.get? Key.initialized).isSome = found := by
  have opened := ChainState.open_of_marked marked
  obtain ⟨value, read, there⟩ := ChainState.marked_eq_ok_iff.mp marked
  rw [ChainState.lookup_of_open opened quiet] at read
  rw [table, Except.ok.inj read]
  exact there

theorem isSome_of_stored {c : Controller} {id : BlockId} (quiet : c.store.staged = .empty)
    (stored : c.store.holds id = .ok true) : (c.table.get? (Key.block id)).isSome := by
  obtain ⟨value, read, there⟩ := ChainState.holds_eq_ok_iff.mp stored
  rw [ChainState.lookup_of_open (ChainState.open_of_lookup read) quiet] at read
  rw [table, Except.ok.inj read]
  exact there

theorem extension_of_admitted {c : Controller} {block : Block} (quiet : c.store.staged = .empty)
    (marker : (c.table.get? Key.initialized).isSome) (admitted : c.admission block = .ok ()) :
    c.extension block = .ok () := by
  obtain ⟨found, marked, rest⟩ := bind_eq_ok_iff.mp admitted
  have there := marked_of_marker quiet (mapError_eq_ok_iff.mp marked)
  rw [marker] at there
  rw [← there, if_pos rfl] at rest
  exact rest

theorem id_of_find {c : Controller} {id : BlockId} {block : Block} (tidy : c.Tidy)
    (found : c.find id = .ok block) : block.id = id := by
  unfold find at found
  cases known : c.verified? id with
  | some kept =>
      rw [known] at found
      cases found
      exact (Bytes32.ext (tidy.named _ _ known)).symm
  | none =>
      rw [known] at found
      obtain ⟨value, -, rest⟩ := bind_eq_ok_iff.mp (mapError_eq_ok_iff.mp found)
      cases value with
      | none => cases rest
      | some bytes => exact (ChainState.decodeRecord_eq_ok rest).1

theorem decodeRecord_ne_notFound (id other : BlockId) (bytes : Bytes) :
    (ChainState.decodeRecord id bytes).mapError ControllerError.ofStore ≠ .error (.notFound other) := by
  unfold ChainState.decodeRecord
  cases Block.parse bytes with
  | error cause => exact fun same => by cases same
  | ok found =>
      dsimp only
      split <;> exact fun same => by cases same

/-- What is not found has no record, not even one that cannot be read. -/
theorem absent_of_notFound {c : Controller} {id other : BlockId} (tidy : c.Tidy)
    (missing : c.find id = .error (.notFound other)) : c.table.get? (Key.block id) = none := by
  unfold find at missing
  cases known : c.verified? id with
  | some kept => exact tidy.absent_of_verified known
  | none =>
      rw [known] at missing
      cases closed : c.store.closed with
      | true =>
          rw [ChainState.record, ChainState.lookup_of_closed closed] at missing
          cases missing
      | false =>
          cases record : c.table.get? (Key.block id) with
          | none => rfl
          | some bytes =>
              have found := find_of_recorded known closed tidy.quiet record
              unfold find at found
              rw [known] at found
              exact absurd (found.symm.trans missing) (decodeRecord_ne_notFound id other bytes)

/-- A stored block is found, since no verified block has a record. -/
theorem find_of_record {c : Controller} {block : Block} (tidy : c.Tidy)
    (opened : c.store.closed = false)
    (record : c.table.get? (Key.block block.id) = some block.bytes) :
    c.find block.id = .ok block.asAccepted := by
  rw [find_of_recorded (tidy.unverified_of_record record) opened tidy.quiet record,
    ChainState.decodeRecord_bytes]
  rfl

/-- A parent that has a record comes out of it. -/
theorem stored_of_findParent {c : Controller} {id : BlockId} {parent : Block} (tidy : c.Tidy)
    (opened : c.store.closed = false) (found : c.findParent id = .ok parent)
    (recorded : (c.table.get? (Key.block id)).isSome) :
    parent.id = id ∧ c.table.get? (Key.block id) = some parent.bytes ∧
      parent.status = .accepted := by
  have found := mapError_eq_ok_iff.mp found
  unfold find at found
  cases known : c.verified? id with
  | some block =>
      rw [tidy.absent_of_verified known] at recorded
      contradiction
  | none =>
      rw [known] at found
      obtain ⟨value, read, rest⟩ := bind_eq_ok_iff.mp (mapError_eq_ok_iff.mp found)
      rw [ChainState.lookup_of_open opened tidy.quiet] at read
      have read : c.table.get? (Key.block id) = value := Except.ok.inj read
      rw [read] at recorded ⊢
      cases value with
      | none => contradiction
      | some bytes =>
          obtain ⟨same, bytes_eq, status⟩ := ChainState.decodeRecord_eq_ok rest
          exact ⟨same, congrArg some bytes_eq.symm, status⟩

/-- A block that may extend the chain follows the block accepted last, which is stored. -/
theorem follows_of_extension {c : Controller} {block : Block} (tidy : c.Tidy)
    (pointed : ∀ id : BlockId, c.table.get? Key.lastAccepted = some id.toBytes →
      (c.table.get? (Key.block id)).isSome)
    (admitted : c.extension block = .ok ()) :
    ∃ parent : Block, c.table.get? Key.lastAccepted = some parent.id.toBytes ∧
      c.table.get? (Key.block parent.id) = some parent.bytes ∧ parent.status = .accepted ∧
      block.Follows parent := by
  obtain ⟨parent, found, child, tip⟩ := extension_eq_ok_iff.mp admitted
  have follows := checkChild_eq_ok_iff.mp child
  have opened := open_of_tip tip
  have pointer := (tip_eq_ok_iff opened tidy.quiet).mp tip
  have recorded := pointed parent.id pointer
  rw [← follows.1] at recorded
  obtain ⟨-, record, status⟩ := stored_of_findParent tidy opened found recorded
  rw [follows.1] at record
  exact ⟨parent, pointer, record, status, follows⟩

end Controller

end TimestampChain
