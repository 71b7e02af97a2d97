import TimestampChain.Block.Contents

/-!
# Store errors

Why the stored chain cannot be read or changed.
-/

namespace TimestampChain

inductive StoreError where
  | notFound (id : BlockId)
  | notInitialized
  | medium (detail : String)
  | integrity (id : BlockId)
  | corrupt (cause : BlockError)
  | closed
  | uncommittedWrites (count : Nat)
deriving DecidableEq

def StoreError.message : StoreError → String
  | notFound id => s!"block {id.toHex} not found"
  | notInitialized => "chain state not initialized"
  | medium detail => s!"storage i/o error: {detail}"
  | integrity id => s!"integrity fault: conflicting bytes for block {id.toHex}"
  | corrupt cause => s!"corrupt stored record: {cause.message}"
  | closed => "store is closed"
  | uncommittedWrites count => s!"{count} uncommitted writes pending"

end TimestampChain
