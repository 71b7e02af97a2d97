import TimestampChain.Block.Basic
import TimestampChain.Store.Backend

/-!
# Chain state

The accepted chain in a backend: a record for each block, the identifier of the block accepted
last, and a marker that says that the chain has been set up. Changes are staged, can be read back
at once, and reach the backend together on commit. A state that has been closed refuses everything.
-/

namespace TimestampChain

/-! ## Keys -/

namespace Key

def block (id : BlockId) : Bytes := 0 :: id.toBytes

def lastAccepted : Bytes := [1]

def initialized : Bytes := [2]

theorem block_injective {left right : BlockId} (h : block left = block right) : left = right :=
  Bytes32.ext (List.cons.inj h).2

theorem block_ne_lastAccepted (id : BlockId) : block id ≠ lastAccepted := by
  simp [block, lastAccepted]

theorem block_ne_initialized (id : BlockId) : block id ≠ initialized := by
  simp [block, initialized]

theorem lastAccepted_ne_initialized : lastAccepted ≠ initialized := by
  simp [lastAccepted, initialized]

end Key

def initializedMarker : Bytes := [1]

/-- The accepted chain: what is committed, what is staged, and whether it is closed. -/
structure ChainState where
  backend : Backend
  staged : WriteBuffer
  closed : Bool

namespace ChainState

abbrev Step := Action ChainState StoreError

def ofBackend (backend : Backend) : ChainState where
  backend := backend
  staged := .empty
  closed := false

def pendingWrites (s : ChainState) : Nat := s.staged.size

def onBackend {α : Type} (x : Action Backend StoreError α) : Step α :=
  x.within ChainState.backend (fun s b => { s with backend := b }) id

def ensureOpen : Step Unit := do
  let s ← Action.state
  if s.closed then Action.fail .closed else return

/-! ## Reading and staging -/

/-- The value under a key. A staged value hides the committed one. -/
def read (key : Bytes) : Step (Option Bytes) := do
  ensureOpen
  let s ← Action.state
  match s.staged.get? key with
  | some value => return some value
  | none => onBackend (Backend.get key)

def stage (key value : Bytes) : Step Unit := do
  ensureOpen
  Action.update fun s => { s with staged := s.staged.set key value }

/-! ## The chain -/

def isInitialized : Step Bool := do
  let value ← read Key.initialized
  return value.isSome

def setInitialized : Step Unit := stage Key.initialized initializedMarker

/-- Stage a block under its identifier. A record that is there already must hold the same bytes,
and is left alone. -/
def putBlock (block : Block) : Step Unit := do
  match ← read (Key.block block.id) with
  | some bytes => if bytes = block.bytes then return else Action.fail (.integrity block.id)
  | none => stage (Key.block block.id) block.bytes

/-- The block that a record holds. Its digest must be the identifier asked for. -/
def decodeRecord (id : BlockId) (bytes : Bytes) : Except StoreError Block :=
  match Block.parse bytes with
  | .error cause => .error (.corrupt cause)
  | .ok block => if block.id = id then .ok block.asAccepted else .error (.integrity id)

/-- Load a block. Only accepted blocks are stored. -/
def getBlock (id : BlockId) : Step Block := do
  match ← read (Key.block id) with
  | none => Action.fail (.notFound id)
  | some bytes => Action.ofExcept (decodeRecord id bytes)

def hasBlock (id : BlockId) : Step Bool := do
  let value ← read (Key.block id)
  return value.isSome

def lastAccepted : Step BlockId := do
  match ← read Key.lastAccepted with
  | none => Action.fail .notInitialized
  | some bytes =>
    match Bytes32.ofBytes? bytes with
    | some id => return id
    | none => Action.fail (.medium s!"last accepted pointer has {bytes.length} bytes")

def setLastAccepted (id : BlockId) : Step Unit := stage Key.lastAccepted id.toBytes

/-! ## Committing and closing -/

/-- Write everything staged as one batch. When that fails the staged writes are gone. -/
def commit : Step Unit := do
  ensureOpen
  let s ← Action.state
  if s.staged.isEmpty then return
  else
    let (batch, rest) := s.staged.drain
    Action.update fun s => { s with staged := rest }
    onBackend (Backend.write batch)

def abort : Step Unit := Action.update fun s => { s with staged := s.staged.clear }

/-- Close the backend, once. Staged writes stand in the way. -/
def close : Step Unit := do
  let s ← Action.state
  if s.closed then return
  else if s.staged.isEmpty then
    onBackend Backend.close
    Action.update fun s => { s with closed := true }
  else Action.fail (.uncommittedWrites s.staged.size)

end ChainState

end TimestampChain
