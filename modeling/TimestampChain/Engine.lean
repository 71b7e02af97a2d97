import TimestampChain.Controller.Operations

/-!
# A local engine

With a single node there is nothing to vote on: every block that the controller builds is verified,
preferred and accepted at once. The engine holds the receiving end of the controller's channel and
works for as long as it finds signals there.
-/

namespace TimestampChain.Engine

open Controller

def start (genesisData : Bytes) : Step Unit := do
  setState .bootstrapping
  bootstrap genesisData
  setState .normalOp

def submit (data : Bytes) : Step Unit := propose data

/-- Verify, prefer and accept a block that was just built. -/
def settle (block : Block) : Step Block := do
  verify block
  setPreference block.id
  accept block

def receive : Step Received := do
  let c ← Action.state
  Action.update fun c => { c with channel := c.channel.receive.2 }
  return c.channel.receive.1

/-- Build and settle blocks until no payload is left, after those settled before. At most `fuel`
blocks are asked for. -/
def buildAll : Nat → List Block → Step (List Block)
  | 0, settled => return settled
  | fuel + 1, settled => do
    match ← build.attempt with
    | .ok block =>
      let block ← settle block
      buildAll fuel (settled ++ [block])
    | .error .noPendingWork => return settled
    | .error e => Action.fail e

/-- Build blocks for each signal that is found. At most `fuel` looks are taken. -/
def drainSignals : Nat → List Block → Step (List Block)
  | 0, settled => return settled
  | fuel + 1, settled => do
    match ← receive with
    | .signal =>
      let c ← Action.state
      let settled ← buildAll (c.mempool.size + 1) settled
      drainSignals fuel settled
    | _ => return settled

/-- Build and accept blocks for as long as there are signals, and yield them in order. The first
round empties the mempool, and the signals raised meanwhile are at most as many as the channel has
room for, so the looks always suffice. -/
def drain : Step (List Block) := do
  let c ← Action.state
  drainSignals (c.channel.depth + 2) []

def shutdown : Step Unit := Controller.shutdown

end TimestampChain.Engine
