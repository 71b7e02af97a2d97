import TimestampChain.Proofs.Conflicts
import TimestampChain.Proofs.Instances.Holding

/-!
# What an instance is made of

A block that is read keeps the bytes that it was read from. They are the written form that its fields
have, since nothing else can be read, so it cannot be told from a block that is made of these fields.
Whatever is done, an instance keeps its contents, their written form and its identifier.
-/

namespace TimestampChain

open TimestampChain.Action

/-! ## One block -/

structure Appearance where
  contents : Contents
  status : Status
  bytes : Bytes
  id : BlockId

namespace Block

def appearance (b : Block) : Appearance := ⟨b.contents, b.status, b.bytes, b.id⟩

/-- The block consists of its fields, their written form and its digest, and it can be read from there. -/
structure Formed (b : Block) : Prop where
  bytes : b.bytes = b.contents.encode
  id : b.id = Sha256.hash b.bytes
  payload : b.payload.toBytes.length = Payload.size
  parse : Block.parse b.bytes = .ok (b.withStatus .processing)

theorem formed (b : Block) : b.Formed :=
  ⟨b.bytes_eq, b.id_eq, b.payload.length_eq, b.parse_bytes⟩

/-- A block that is read shows the bytes that it was read from. -/
theorem appearance_parse (bytes : Bytes) :
    (Block.parse bytes).map appearance =
      (Contents.decode bytes).map fun contents =>
        ⟨contents, .processing, bytes, Sha256.hash bytes⟩ := by
  let seen (contents : Contents) : Appearance :=
    ⟨contents, .processing, bytes, Sha256.hash bytes⟩
  unfold Block.parse
  split
  · next contents decoded => exact (congrArg (Except.map seen) decoded).symm
  · next cause decoded => exact (congrArg (Except.map seen) decoded).symm

/-- Written anew, the fields of a block that is read look the same. -/
theorem appearance_parse_eq_ofContents (bytes : Bytes) :
    (Block.parse bytes).map appearance =
      (Contents.decode bytes).map fun contents => (ofContents contents).appearance := by
  rw [appearance_parse]
  cases decoded : Contents.decode bytes with
  | error cause => rfl
  | ok contents =>
      have canonical : contents.encode = bytes := Contents.encode_of_decode decoded
      rw [← canonical]
      rfl

/-- What is read from a byte string is the block that is made of its fields, and has that written form. -/
theorem parse_eq_ok_iff_create {bytes : Bytes} {block : Block} :
    Block.parse bytes = .ok block ↔
      block.bytes = bytes ∧
        block = Block.create block.parent block.height block.payload block.timestamp := by
  rw [parse_eq_ok_iff]
  refine and_congr_right fun _ => ⟨fun undecided => ?_, fun made => ?_⟩
  · exact ext_of_bytes block.bytes_eq undecided
  · rw [made]
    rfl

end Block

/-! ## Whatever is done to an instance -/

/-- What can be done with instances and what they come from, past every rule: a status is changed by hand,
and the entries of the backend are replaced by others. -/
inductive Handling where
  | move (move : Move)
  | transition (place : Nat) (target : Status)
  | mark (place : Nat)
  | replace (t : Table Bytes)

namespace Holding

def handled (h : Holding) : Handling → Holding
  | .move move => h.after move
  | .transition place target =>
    { h with held := h.held.modify place fun block => ((Block.transition target).run block).2 }
  | .mark place => { h with held := h.held.modify place Block.asAccepted }
  | .replace t => { h with controller := h.controller.withTable t }

def handle (h : Holding) (handlings : List Handling) : Holding := handlings.foldl handled h

def Owns (h : Holding) (block : Block) : Prop :=
  block ∈ h.held ∨ ∃ key, h.controller.verified.get? key = some block

variable {h : Holding} {place : Nat} {block : Block}

theorem held_modify {f : Block → Block} (here : h.held[place]? = some block)
    (kept : ∀ block : Block, block.SameBut (f block)) (spot : Nat) :
    ∃ new, (h.held.modify spot f)[place]? = some new ∧ block.SameBut new := by
  rw [List.getElem?_modify, here]
  by_cases same : spot = place
  · exact ⟨f block, by simp [same], kept block⟩
  · exact ⟨block, by simp [same], .refl block⟩

theorem held_handled (here : h.held[place]? = some block) (handling : Handling) :
    ∃ new, (h.handled handling).held[place]? = some new ∧ block.SameBut new := by
  cases handling with
  | move move => exact ⟨_, held_after here move, h.sameBut_fate move place block⟩
  | transition spot target =>
      exact held_modify here (fun block => block.sameBut_transition target) spot
  | mark spot => exact held_modify here (fun block => ⟨.accepted, rfl⟩) spot
  | replace t => exact ⟨block, here, .refl block⟩

/-- An instance stays at its place, and no more of it changes than its status. -/
theorem held_handle (here : h.held[place]? = some block) (handlings : List Handling) :
    ∃ new, (h.handle handlings).held[place]? = some new ∧ block.SameBut new := by
  induction handlings generalizing h block with
  | nil => exact ⟨block, here, .refl block⟩
  | cons handling handlings ih =>
      obtain ⟨middle, there, first⟩ := held_handled here handling
      obtain ⟨new, behind, second⟩ := ih there
      exact ⟨new, behind, first.trans second⟩

structure Formed (h : Holding) : Prop where
  formed : ∀ block, h.Owns block → block.Formed
  kept : ∀ (later : List Handling) (place : Nat) (block : Block), h.held[place]? = some block →
    ∃ status, (h.handle later).held[place]? = some (block.withStatus status)
  /-- A block that is loaded is the one that its record was written for. -/
  loaded : ∀ (id : BlockId) (block : Block) (d : Controller),
    (Controller.onStore (ChainState.getBlock id)).run h.controller = (.ok block, d) →
      block.id = id ∧ h.controller.store.lookup (Key.block id) = .ok (some block.bytes)

theorem formed (h : Holding) : h.Formed := by
  refine ⟨fun block _ => block.formed, fun later place block here => ?_, fun id block d loaded => ?_⟩
  · obtain ⟨new, behind, status, rfl⟩ := held_handle here later
    exact ⟨status, behind⟩
  · have answer := Controller.onStore_answers (ChainState.getBlock_answers id h.controller.store)
    have read := mapError_eq_ok_iff.mp (answer.eq_of_ok (congrArg Prod.fst loaded))
    obtain ⟨value, looked, decoded⟩ := bind_eq_ok_iff.mp read
    cases value with
    | none => cases decoded
    | some bytes =>
        obtain ⟨named, rfl, -⟩ := ChainState.decodeRecord_eq_ok decoded
        exact ⟨named, looked⟩

/-- Over any backend, whatever is done and whatever entries it is given, the instances that are held keep
their form. A block that is read keeps its bytes, and is the one that is made of its fields. -/
theorem instances_keep_form (b : Backend) (channel : Channel) (clock : Clock)
    (handlings : List Handling) :
    ((ofBackend b channel clock).handle handlings).Formed ∧
      (∀ bytes, (Block.parse bytes).map Block.appearance =
        (Contents.decode bytes).map fun contents =>
          ⟨contents, .processing, bytes, Sha256.hash bytes⟩) ∧
      (∀ bytes, (Block.parse bytes).map Block.appearance =
        (Contents.decode bytes).map fun contents => (Block.ofContents contents).appearance) ∧
      ∀ bytes block, Block.parse bytes = .ok block ↔
        block.bytes = bytes ∧
          block = Block.create block.parent block.height block.payload block.timestamp :=
  ⟨formed _, Block.appearance_parse, Block.appearance_parse_eq_ofContents,
    fun _ _ => Block.parse_eq_ok_iff_create⟩

end Holding

end TimestampChain
