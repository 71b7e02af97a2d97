import TimestampChain.Block.Contents

/-!
# Mempool

The payloads that wait for a block, the oldest first.
-/

namespace TimestampChain

/-- The payloads that wait for a block, the oldest first. -/
structure Mempool where
  queue : List Payload
deriving DecidableEq

namespace Mempool

def empty : Mempool := ⟨[]⟩

instance : Inhabited Mempool := ⟨empty⟩

def push (pool : Mempool) (payload : Payload) : Mempool := ⟨pool.queue ++ [payload]⟩

/-- Put a payload back, in front of all others. -/
def pushFront (pool : Mempool) (payload : Payload) : Mempool := ⟨payload :: pool.queue⟩

def pop? (pool : Mempool) : Option (Payload × Mempool) :=
  match pool.queue with
  | [] => none
  | payload :: rest => some (payload, ⟨rest⟩)

def size (pool : Mempool) : Nat := pool.queue.length

def isEmpty (pool : Mempool) : Bool := pool.queue.isEmpty

theorem pop?_eq_none_iff {pool : Mempool} : pool.pop? = none ↔ pool.queue = [] := by
  unfold pop?
  split <;> simp_all

theorem pop?_eq_some_iff {pool rest : Mempool} {payload : Payload} :
    pool.pop? = some (payload, rest) ↔ pool.queue = payload :: rest.queue := by
  cases rest
  unfold pop?
  split <;> simp_all

end Mempool

end TimestampChain
