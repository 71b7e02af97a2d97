import TimestampChain.Block.Status

/-!
# Block errors

Why a block cannot be made, read or decided.
-/

namespace TimestampChain

inductive BlockError where
  | payloadTooLong (length limit : Nat)
  | malformed (detail : String)
  | unsupportedVersion (version : UInt16)
  | invalidTransition (source target : Status)
deriving DecidableEq

namespace BlockError

/-- The encoding ends inside a field. -/
def endOfData : BlockError := malformed "unexpected end of data"

/-- The encoding goes on after its last field. -/
def trailing (count : Nat) : BlockError := malformed s!"{count} trailing bytes"

def message : BlockError → String
  | payloadTooLong length limit => s!"payload too long: {length} bytes (max {limit})"
  | malformed detail => s!"codec error: {detail}"
  | unsupportedVersion version => s!"unsupported codec version: {version.toNat}"
  | invalidTransition source target =>
    s!"invalid status transition: {source.name} -> {target.name}"

end BlockError

end TimestampChain
