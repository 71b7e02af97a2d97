import TimestampChain.Action
import TimestampChain.Block.Contents
import TimestampChain.Digest.Sha256

/-!
# Blocks

A block carries its contents together with their written form and its identifier, which are made
once. The type says that they belong together. Only the status of a block ever changes.
-/

namespace TimestampChain

/-- A block: its contents, their written form, the digest of that form, and the status. -/
structure Block where
  contents : Contents
  status : Status
  bytes : Bytes
  id : BlockId
  bytes_eq : bytes = contents.encode
  id_eq : id = Sha256.hash bytes
deriving DecidableEq

namespace Block

def ofContents (contents : Contents) : Block where
  contents := contents
  status := .processing
  bytes := contents.encode
  id := Sha256.hash contents.encode
  bytes_eq := rfl
  id_eq := rfl

def create (parent : BlockId) (height : UInt64) (payload : Payload) (timestamp : UInt64) : Block :=
  ofContents { parent, height, timestamp, payload }

def withData (parent : BlockId) (height : UInt64) (data : Bytes) (timestamp : UInt64) :
    Except BlockError Block :=
  (Payload.ofData data).map fun payload => create parent height payload timestamp

/-- The first block of a chain: no parent, height zero, timestamp zero. -/
def genesis (data : Bytes) : Except BlockError Block := withData BlockId.none 0 data 0

/-- Read a block from its written form, which it keeps. -/
def parse (bytes : Bytes) : Except BlockError Block :=
  match h : Contents.decode bytes with
  | .ok contents => .ok {
      contents := contents
      status := .processing
      bytes := bytes
      id := Sha256.hash bytes
      bytes_eq := (Contents.encode_of_decode h).symm
      id_eq := rfl }
  | .error e => .error e

def parent (b : Block) : BlockId := b.contents.parent

def height (b : Block) : UInt64 := b.contents.height

def timestamp (b : Block) : UInt64 := b.contents.timestamp

def payload (b : Block) : Payload := b.contents.payload

def isGenesis (b : Block) : Bool := b.parent = BlockId.none ∧ b.height = 0

def withStatus (b : Block) (status : Status) : Block := { b with status := status }

def asAccepted (b : Block) : Block := b.withStatus .accepted

/-- Whether a step to a status changes anything. A decided block only steps to where it is. -/
def checkTransition (b : Block) (target : Status) : Except BlockError Bool :=
  if b.status = target then .ok false
  else if b.status = .processing then .ok true
  else .error (.invalidTransition b.status target)

/-- Step to a status and tell whether that changed anything. -/
def transition (target : Status) : Action Block BlockError Bool := do
  let b ← Action.state
  let changed ← Action.ofExcept (b.checkTransition target)
  if changed then
    Action.update fun b => b.withStatus target
  return changed

theorem parse_bytes (b : Block) : parse b.bytes = .ok (b.withStatus .processing) := by
  have h : Contents.decode b.bytes = .ok b.contents := by
    rw [b.bytes_eq, Contents.decode_encode]
  unfold parse
  split
  · next contents decoded =>
    rw [h] at decoded
    cases decoded
    simp [withStatus, b.id_eq]
  · next e decoded =>
    rw [h] at decoded
    contradiction

end Block

end TimestampChain
