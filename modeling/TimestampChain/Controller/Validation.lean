import TimestampChain.Block.Basic
import TimestampChain.Controller.Error

/-!
# The child rule

A block may follow another one if it names it as its parent and is one higher. Payload and
timestamp are free.
-/

namespace TimestampChain

/-- The greatest height of a block, which has no child. -/
def maxHeight : UInt64 := UInt64.ofNat (UInt64.size - 1)

namespace ControllerError

def heightOverflow : ControllerError := invalidBlock "parent height overflow"

end ControllerError

/-- Check that one block may follow another. The parent's name is judged before the height. -/
def checkChild (parent child : Block) : Except ControllerError Unit :=
  if child.parent ≠ parent.id then
    .error (.invalidBlock
      s!"parent id mismatch: expected {parent.id.toHex}, got {child.parent.toHex}")
  else if parent.height = maxHeight then .error .heightOverflow
  else if child.height ≠ parent.height + 1 then
    .error (.invalidBlock
      s!"height must be {(parent.height + 1).toNat}, got {child.height.toNat}")
  else .ok ()

end TimestampChain
