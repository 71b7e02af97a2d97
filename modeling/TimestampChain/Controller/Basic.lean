import TimestampChain.Clock
import TimestampChain.Controller.Validation
import TimestampChain.Mempool
import TimestampChain.Signal
import TimestampChain.Store.ChainState

/-!
# The controller's state

The controller owns what is not final yet: the payloads that wait, the blocks that are verified but
undecided, and the preferred tip. What is final lives in the chain state below it.
-/

namespace TimestampChain

def machineName : String := "timestampvm"

def machineVersion : String := "1.2.4"

/-- What the engine tells the controller about the state of the network. -/
inductive EngineState where
  | bootstrapping
  | normalOp
deriving DecidableEq

structure Controller where
  store : ChainState
  channel : Channel
  clock : Clock
  mempool : Mempool
  verified : Table Block
  preferred : BlockId
  bootstrapped : Bool

namespace Controller

abbrev Step := Action Controller ControllerError

def ofBackend (backend : Backend) (channel : Channel) (clock : Clock) : Controller where
  store := .ofBackend backend
  channel := channel
  clock := clock
  mempool := .empty
  verified := .empty
  preferred := BlockId.none
  bootstrapped := false

def onStore {α : Type} (x : ChainState.Step α) : Step α :=
  x.within Controller.store (fun c s => { c with store := s }) .ofStore

def forget (id : BlockId) : Step Unit :=
  Action.update fun c => { c with verified := c.verified.erase id.toBytes }

/-- Tell the engine that work is pending. -/
def notify : Step Unit := Action.update fun c => { c with channel := c.channel.notify.2 }

def readClock : Step UInt64 := do
  let c ← Action.state
  Action.update fun c => { c with clock := c.clock.tick }
  return c.clock.now

def verified? (c : Controller) (id : BlockId) : Option Block := c.verified.get? id.toBytes

/-- Whether a block is verified and undecided. -/
def isVerified (c : Controller) (id : BlockId) : Bool := (c.verified? id).isSome

/-- Look a block up, among the verified blocks first. -/
def getBlock (id : BlockId) : Step Block := do
  let c ← Action.state
  match c.verified? id with
  | some block => return block
  | none => onStore (ChainState.getBlock id)

def resolveParent (id : BlockId) : Step Block := (getBlock id).mapError .asParent

end Controller

/-! ## Deciding a block instance -/

/-- A block instance in the hands of a controller that may decide it. -/
structure Decision where
  block : Block
  controller : Controller

namespace Decision

abbrev Step := Action Decision ControllerError

def onController {α : Type} (x : Controller.Step α) : Step α :=
  x.within Decision.controller (fun d c => { d with controller := c }) id

def transition (target : Status) : Step Bool :=
  (Block.transition target).within Decision.block (fun d b => { d with block := b }) .ofBlock

def deciding (block : Block) (x : Step Unit) : Controller.Step Block := fun c =>
  let outcome := x.run ⟨block, c⟩
  (outcome.1.map fun _ => outcome.2.block, outcome.2.controller)

@[simp] theorem run_deciding (block : Block) (x : Step Unit) (c : Controller) :
    (deciding block x).run c =
      ((x.run ⟨block, c⟩).1.map fun _ => (x.run ⟨block, c⟩).2.block,
        (x.run ⟨block, c⟩).2.controller) := rfl

end Decision

end TimestampChain
