import TimestampChain.Controller.Operations
import TimestampChain.Text.Json.Basic
import TimestampChain.Text.Quoted

/-!
# Client requests

Clients speak hexadecimal text. A request is decoded, passed on to the controller, and answered with
a reply that prints as JSON.
-/

namespace TimestampChain

def HexError.message : HexError → String
  | oddLength => "Odd number of digits"
  | invalidDigit byte position => s!"Invalid character {Quoted.byte byte} at position {position}"

structure BlockReply where
  id : String
  parent : String
  height : UInt64
  timestamp : UInt64
  data : String
  status : String
deriving DecidableEq

namespace BlockReply

def ofBlock (b : Block) : BlockReply where
  id := b.id.toHex
  parent := b.parent.toHex
  height := b.height
  timestamp := b.timestamp
  data := Hex.encode b.payload.toBytes
  status := b.status.name

def toJson (r : BlockReply) : Json :=
  .object [
    ("id", .string r.id),
    ("parent_id", .string r.parent),
    ("height", .natural r.height.toNat),
    ("timestamp", .natural r.timestamp.toNat),
    ("data", .string r.data),
    ("status", .string r.status)]

def render (r : BlockReply) : String := r.toJson.render

end BlockReply

structure ProposalReply where
  success : Bool
deriving DecidableEq

def ProposalReply.render (r : ProposalReply) : String :=
  (Json.object [("success", .bool r.success)]).render

namespace Service

/-- A payload in the form in which it is proposed. -/
def encodePayload (data : Bytes) : String := Hex.encode data

/-- Remove the mark `0x` in front of a text, once. -/
def stripMark : Bytes → Bytes
  | 48 :: 120 :: rest => rest
  | text => text

/-- Read a hexadecimal text that may have the mark `0x` in front. -/
def decodeText (text : String) : Except HexError Bytes := Hex.decode (stripMark (Bytes.ofText text))

def parseId (text : String) : Except ControllerError BlockId :=
  match decodeText text with
  | .error e => .error (.badRequest s!"couldn't parse block id: {e.message}")
  | .ok bytes =>
    match Bytes32.ofBytes? bytes with
    | some id => .ok id
    | none => .error (.badRequest s!"block id must be 32 bytes, got {bytes.length}")

/-- Look a block up, or the block accepted last when no identifier is given. -/
def getBlock (id : Option String) : Controller.Step BlockReply := do
  let id ←
    match id with
    | some text => Action.ofExcept (parseId text)
    | none => Controller.lastAccepted
  let block ← Controller.getBlock id
  return BlockReply.ofBlock block

def propose (text : String) : Controller.Step ProposalReply := do
  let data ← Action.ofExcept ((decodeText text).mapError fun e =>
    .badRequest s!"couldn't decode data: {e.message}")
  Controller.propose data
  return { success := true }

end Service

end TimestampChain
