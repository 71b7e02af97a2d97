import Mathlib.Data.List.Forall2
import TimestampChain.Node.Launch
import TimestampChain.Proofs.Bytes.Spelling
import TimestampChain.Proofs.Text.PrintedJson

/-!
# Printed blocks

A block is printed on a line of its own, as a JSON object in which its fields stand under their names.
-/

namespace TimestampChain

/-- The text is the byte string in hexadecimal digits, with small letters. -/
def Hex.Writes (text : String) (bytes : Bytes) : Prop :=
  decode (Bytes.ofText text) = .ok bytes ∧ ∀ c ∈ text.toList, c.isUpper = false

theorem Hex.writes_encode (bytes : Bytes) : Writes (encode bytes) bytes := by
  refine ⟨decode_encode bytes, fun c member => ?_⟩
  have small : ∀ n < 16, (Nat.digitChar n).isUpper = false := by decide
  rw [encode, String.toList_ofList] at member
  obtain ⟨byte, -, digit⟩ := List.mem_flatMap.mp member
  have bound := byte.toNat_lt
  rw [digits, List.mem_cons, List.mem_singleton] at digit
  rcases digit with rfl | rfl <;> exact small _ (by omega)

/-- The line shows the block as an accepted one: it is a single line, and what it says in JSON is the
object of the block's fields. -/
structure Block.ShownBy (block : Block) (line : String) : Prop where
  single : ∀ c ∈ line.toList, 32 ≤ c.toNat
  fields : ∃ id parent data, Hex.Writes id block.id.toBytes ∧ Hex.Writes parent block.parent.toBytes ∧
    Hex.Writes data block.payload.toBytes ∧
    Json.parse? line = some (.object [
      ("id", .string id),
      ("parent_id", .string parent),
      ("height", .natural block.height.toNat),
      ("timestamp", .natural block.timestamp.toNat),
      ("data", .string data),
      ("status", .string "Accepted")])

theorem BlockReply.isField_toJson (r : BlockReply) :
    ∃ members, r.toJson = .object members ∧ members ≠ [] ∧ ∀ member ∈ members, member.2.IsField := by
  refine ⟨_, rfl, nofun, ?_⟩
  simp only [List.forall_mem_cons]
  exact ⟨.string _, .string _, .natural r.height.toNat_lt, .natural r.timestamp.toNat_lt, .string _,
    .string _, nofun⟩

theorem Block.shownBy_render {block : Block} (accepted : block.status = .accepted) :
    block.ShownBy (BlockReply.ofBlock block).render := by
  obtain ⟨members, object, nonempty, fields⟩ := (BlockReply.ofBlock block).isField_toJson
  have status : (BlockReply.ofBlock block).status = "Accepted" := by
    show block.status.name = _
    rw [accepted]
    rfl
  constructor
  case single =>
    rw [BlockReply.render, object]
    exact fun c member => Json.printable_of_mem_render fields member
  case fields =>
    refine ⟨_, _, _, Hex.writes_encode _, Hex.writes_encode _, Hex.writes_encode _, ?_⟩
    have read := Json.parse?_render nonempty fields
    rw [← object] at read
    rw [BlockReply.render, read, ← status]
    rfl

theorem Outcome.shown_blockLines {o : Outcome} (accepted : ∀ block ∈ o.blocks, block.status = .accepted) :
    List.Forall₂ Block.ShownBy o.blocks o.blockLines := by
  rw [Outcome.blockLines, List.forall₂_map_right_iff, List.forall₂_same]
  exact fun block member => Block.shownBy_render (accepted block member)

end TimestampChain
