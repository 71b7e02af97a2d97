import TimestampChain.Proofs.Block.Layout
import TimestampChain.Store.ChainState

/-!
# Blocks and records

A block is told apart by its bytes, and the first one is made of its data alone. A record is the
written form of a block. Reading it back yields the accepted instance of that block, and nothing
else can be read from a record.
-/

namespace TimestampChain

theorem Block.ext_of_bytes {left right : Block} (bytes : left.bytes = right.bytes)
    (status : left.status = right.status) : left = right := by
  have contents : left.contents = right.contents := by
    apply Contents.encode_inj.mp
    rw [← left.bytes_eq, ← right.bytes_eq, bytes]
  have id : left.id = right.id := by
    rw [left.id_eq, right.id_eq, bytes]
  cases left
  cases right
  cases contents
  cases bytes
  cases id
  cases status
  rfl

theorem Block.height_of_bytes {left right : Block} (same : left.bytes = right.bytes) :
    left.height = right.height := by
  have equal : left.asAccepted = right.asAccepted := Block.ext_of_bytes same rfl
  have heights : left.asAccepted.height = right.asAccepted.height := congrArg Block.height equal
  exact heights

/-- What is read from a byte string is the undecided block with that written form. -/
theorem Block.parse_eq_ok_iff {bytes : Bytes} {block : Block} :
    parse bytes = .ok block ↔ block.bytes = bytes ∧ block.status = .processing := by
  constructor
  · intro read
    unfold parse at read
    split at read
    · cases read
      exact ⟨rfl, rfl⟩
    · contradiction
  · rintro ⟨rfl, undecided⟩
    have same : block.withStatus .processing = block := ext_of_bytes rfl undecided.symm
    rw [parse_bytes, same]

theorem Block.parse_eq_error_iff {bytes : Bytes} {cause : BlockError} :
    parse bytes = .error cause ↔ Contents.decode bytes = .error cause := by
  unfold parse
  split
  · next decoded => simp [decoded]
  · next decoded => simp [decoded]

theorem Block.parse_of_decode {bytes : Bytes} {contents : Contents}
    (decoded : Contents.decode bytes = .ok contents) : parse bytes = .ok (ofContents contents) :=
  parse_eq_ok_iff.mpr ⟨Contents.encode_of_decode decoded, rfl⟩

theorem Block.genesis_of_short {data : Bytes} (short : data.length ≤ Payload.size) :
    ∃ payload, Block.genesis data = .ok (Block.create BlockId.none 0 payload 0) := by
  refine ⟨Bytes32.pad data short, ?_⟩
  rw [Block.genesis, Block.withData, Payload.ofData, dif_pos short]
  rfl

theorem Block.genesis_eq_ok {data : Bytes} {genesis : Block} (h : Block.genesis data = .ok genesis) :
    data.length ≤ Payload.size ∧ ∃ payload, genesis = Block.create BlockId.none 0 payload 0 := by
  unfold Block.genesis Block.withData Payload.ofData at h
  split at h
  · next short =>
    cases h
    exact ⟨short, _, rfl⟩
  · contradiction

theorem Block.status_of_genesis {data : Bytes} {genesis : Block}
    (h : Block.genesis data = .ok genesis) : genesis.status = .processing := by
  obtain ⟨-, payload, rfl⟩ := genesis_eq_ok h
  rfl

namespace ChainState

theorem decodeRecord_bytes (block : Block) :
    decodeRecord block.id block.bytes = .ok block.asAccepted := by
  rw [decodeRecord, Block.parse_bytes]
  exact if_pos rfl

theorem decodeRecord_eq_ok {id : BlockId} {bytes : Bytes} {block : Block}
    (h : decodeRecord id bytes = .ok block) :
    block.id = id ∧ block.bytes = bytes ∧ block.status = .accepted := by
  unfold decodeRecord at h
  cases parsed : Block.parse bytes with
  | error e =>
      rw [parsed] at h
      cases h
  | ok found =>
      rw [parsed] at h
      dsimp only at h
      split at h
      · next named =>
        cases h
        obtain ⟨kept, -⟩ := Block.parse_eq_ok_iff.mp parsed
        exact ⟨named, kept, rfl⟩
      · cases h

end ChainState

end TimestampChain
