/-!
# Clocks

A clock is asked for the time again and again. It is the sequence of its readings together with
the number of readings taken, so nothing is assumed about how time moves.
-/

namespace TimestampChain

/-- A sequence of readings, in seconds, and the number of those taken. -/
structure Clock where
  reading : Nat → UInt64
  taken : Nat

namespace Clock

def still (time : UInt64) : Clock := ⟨fun _ => time, 0⟩

def now (c : Clock) : UInt64 := c.reading c.taken

def tick (c : Clock) : Clock := { c with taken := c.taken + 1 }

/-- Stand still at a time later by the given seconds. Time wraps around at 2^64. -/
def advance (c : Clock) (seconds : UInt64) : Clock := still (c.now + seconds)

end Clock

end TimestampChain
