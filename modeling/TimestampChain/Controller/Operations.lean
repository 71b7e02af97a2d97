import TimestampChain.Controller.Basic

/-!
# The controller's operations

What an engine asks of a controller: set the chain up, queue payloads, build, verify and decide
blocks, and shut down. Only accepting a block, and setting the chain up, changes what is stored,
and each does so in one batch.
-/

namespace TimestampChain

/-! ## Accepting a block -/

namespace Controller

/-- A block may extend the chain if it is a child of the block accepted last. -/
def checkExtension (block : Block) : Step Unit := do
  let parent ← resolveParent block.parent
  Action.ofExcept (checkChild parent block)
  let last ← onStore ChainState.lastAccepted
  if parent.id = last then return
  else
    Action.fail (.invalidBlock
      s!"parent {parent.id.toHex} is not the last accepted block {last.toHex}")

/-- Stage a block as the block accepted last, and tell whether there was anything to stage. Before
the chain is set up, any block may be staged. -/
def stageAccept (block : Block) : Step Bool := do
  let changed ← Action.ofExcept ((block.checkTransition .accepted).mapError .ofBlock)
  if changed then
    let initialized ← onStore ChainState.isInitialized
    if initialized then
      checkExtension block
    onStore (ChainState.putBlock block)
    onStore (ChainState.setLastAccepted block.id)
  return changed

def commitAccept (block : Block) : Step Bool := do
  let changed ← stageAccept block
  if changed then
    onStore ChainState.commit
  return changed

def abandon {α : Type} (e : ControllerError) : Step α := do
  onStore ChainState.abort
  Action.fail e

end Controller

namespace Decision

/-- Mark a committed instance as accepted and prefer it. -/
def finishAccept : Step Unit := do
  let _ ← transition .accepted
  let d ← Action.state
  onController (Action.update fun c => { c with preferred := d.block.id })
  onController (Controller.forget d.block.id)

/-- Whether an undecided instance is stored already, through another instance. -/
def isStoredElsewhere : Step Bool := do
  let d ← Action.state
  if d.block.status = .processing then
    onController (Controller.onStore (ChainState.hasBlock d.block.id))
  else return false

/-- Accept a block instance. One that is stored already is only marked. -/
def accept : Step Unit := do
  let stored ← isStoredElsewhere
  let d ← Action.state
  if stored then
    let _ ← transition .accepted
    onController (Controller.forget d.block.id)
  else
    match ← (onController (Controller.commitAccept d.block)).attempt with
    | .ok true => finishAccept
    | .ok false => return
    | .error e => onController (Controller.abandon e)

/-- Reject a block instance. One that is stored already has been accepted. -/
def reject : Step Unit := do
  let d ← Action.state
  match d.block.checkTransition .rejected with
  | .error e => Action.fail (.ofBlock e)
  | .ok false => onController (Controller.forget d.block.id)
  | .ok true =>
    let stored ← onController (Controller.onStore (ChainState.hasBlock d.block.id))
    if stored then Action.fail (.ofBlock (.invalidTransition .accepted .rejected))
    else
      onController (Controller.forget d.block.id)
      let _ ← transition .rejected

end Decision

namespace Controller

def accept (block : Block) : Step Block := Decision.deciding block Decision.accept

def reject (block : Block) : Step Block := Decision.deciding block Decision.reject

/-! ## Setting the chain up -/

def commitGenesis (genesis : Block) : Step Unit := do
  let _ ← stageAccept genesis
  onStore ChainState.setInitialized
  onStore ChainState.commit

def initGenesis (data : Bytes) : Step Unit := do
  let initialized ← onStore ChainState.isInitialized
  if initialized then return
  else if data.length > Payload.size then
    Action.fail (.badGenesisData data.length Payload.size)
  else
    let genesis ← Action.ofExcept ((Block.genesis data).mapError .ofBlock)
    match ← (commitGenesis genesis).attempt with
    | .error e => abandon e
    | .ok () =>
      let _ ← Decision.deciding genesis Decision.finishAccept

def setPreference (id : BlockId) : Step Unit := Action.update fun c => { c with preferred := id }

def lastAccepted : Step BlockId := onStore ChainState.lastAccepted

/-- Set the chain up over the given data, or go on with the chain that is stored. -/
def bootstrap (data : Bytes) : Step Unit := do
  initGenesis data
  let last ← lastAccepted
  setPreference last

def setState (state : EngineState) : Step Unit :=
  Action.update fun c => { c with bootstrapped := state = .normalOp }

/-! ## Building and verifying -/

def propose (data : Bytes) : Step Unit := do
  let payload ← Action.ofExcept ((Payload.ofData data).mapError .ofBlock)
  Action.update fun c => { c with mempool := c.mempool.push payload }
  notify

def compose (payload : Payload) : Step Block := do
  let c ← Action.state
  let parent ← resolveParent c.preferred
  if parent.height = maxHeight then Action.fail .heightOverflow
  else
    let now ← readClock
    let block := Block.create parent.id (parent.height + 1) payload now
    Action.ofExcept (checkChild parent block)
    return block

/-- Build a block from the oldest payload. While more of them wait the signal is raised again, and
when the block cannot be built the payload stays at the front. -/
def build : Step Block := do
  let c ← Action.state
  match c.mempool.pop? with
  | none => Action.fail .noPendingWork
  | some (payload, rest) =>
    Action.update fun c => { c with mempool := rest }
    match ← (compose payload).attempt with
    | .ok block =>
      if rest.isEmpty then return block
      else
        notify
        return block
    | .error e =>
      Action.update fun c => { c with mempool := c.mempool.pushFront payload }
      Action.fail e

/-- Read a block, and take the known instance of it if there is one. -/
def parseBlock (bytes : Bytes) : Step Block := do
  let block ← Action.ofExcept ((Block.parse bytes).mapError .ofBlock)
  match ← (getBlock block.id).attempt with
  | .ok known => return known
  | .error (.notFound _) => return block
  | .error e => Action.fail e

def verify (block : Block) : Step Unit := do
  match block.status with
  | .accepted => return
  | .rejected => Action.fail (.invalidBlock "block was rejected")
  | .processing =>
    let stored ← onStore (ChainState.hasBlock block.id)
    if stored then return
    else
      let parent ← resolveParent block.parent
      Action.ofExcept (checkChild parent block)
      Action.update fun c => { c with verified := c.verified.insert block.id.toBytes block }

/-! ## Health -/

def healthCheck : Step Unit := do
  let c ← Action.state
  if c.store.closed then Action.fail (.store .closed) else return

def shutdown : Step Unit := onStore ChainState.close

end Controller

end TimestampChain
