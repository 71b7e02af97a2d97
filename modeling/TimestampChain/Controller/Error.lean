import TimestampChain.Store.Error

/-!
# Controller errors

Why the controller refuses a call. Errors of blocks and of the store are taken over under names of
its own.
-/

namespace TimestampChain

inductive ControllerError where
  | badGenesisData (length limit : Nat)
  | badPayload (length limit : Nat)
  | noPendingWork
  | missingParent (id : BlockId)
  | notFound (id : BlockId)
  | invalidBlock (detail : String)
  | codec (cause : BlockError)
  | invalidTransition (cause : BlockError)
  | store (cause : StoreError)
  | badRequest (detail : String)
deriving DecidableEq

namespace ControllerError

def message : ControllerError → String
  | badGenesisData length limit =>
    s!"genesis data should be bytes (max length {limit}), got {length}"
  | badPayload length limit => s!"payload too long: {length} bytes (max {limit})"
  | noPendingWork => "there is no block to propose"
  | missingParent id => s!"couldn't get parent block {id.toHex}"
  | notFound id => s!"block {id.toHex} not found"
  | invalidBlock detail => s!"invalid block: {detail}"
  | codec cause => s!"codec error: {cause.message}"
  | invalidTransition cause => s!"invalid transition: {cause.message}"
  | store cause => s!"store error: {cause.message}"
  | badRequest detail => s!"bad request: {detail}"

/-- Whether an error shows damage or a fault in logic, rather than something to wait out. -/
def isFatal : ControllerError → Bool
  | badGenesisData .. | missingParent _ | invalidTransition _ | store _ => true
  | _ => false

def ofBlock : BlockError → ControllerError
  | .invalidTransition source target => invalidTransition (.invalidTransition source target)
  | .payloadTooLong length limit => badPayload length limit
  | cause => codec cause

def ofStore : StoreError → ControllerError
  | .notFound id => notFound id
  | cause => store cause

/-- A block that is looked up as a parent is missing rather than not found. -/
def asParent : ControllerError → ControllerError
  | notFound id => missingParent id
  | e => e

end ControllerError

end TimestampChain
