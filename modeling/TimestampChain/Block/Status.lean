/-!
# Block status

A block is processing until it is decided, and it is decided once: accepted or rejected.
-/

namespace TimestampChain

inductive Status where
  | processing
  | accepted
  | rejected
deriving DecidableEq

namespace Status

def name : Status → String
  | processing => "Processing"
  | accepted => "Accepted"
  | rejected => "Rejected"

def code : Status → Nat
  | processing => 0
  | accepted => 1
  | rejected => 2

/-- Whether the status is final. -/
def isDecided : Status → Bool
  | processing => false
  | _ => true

end Status

end TimestampChain
