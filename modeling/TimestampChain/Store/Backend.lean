import TimestampChain.Action
import TimestampChain.Store.Error
import TimestampChain.Store.WriteBuffer

/-!
# Storage backend

The durable table under the chain, reached by three requests: look a key up, write a batch, close.
Any request may fail. A fault policy decides that from the number of the request and the request
itself, so a single policy describes every course that the failures of a run can take. A request
that fails has no effect, and a batch is written as a whole.
-/

namespace TimestampChain

inductive Request where
  | get (key : Bytes)
  | write (batch : Batch)
  | close

/-- Which requests fail, and with what text. Requests are counted from zero. -/
abbrev FaultPolicy := Nat → Request → Option String

namespace FaultPolicy

def never : FaultPolicy := fun _ _ => none

/-- Failures that depend on the kind of the request and on the key that is looked up. -/
def byRequest (get : Bytes → Option String) (write close : Option String) : FaultPolicy :=
  fun _ request =>
    match request with
    | .get key => get key
    | .write _ => write
    | .close => close

end FaultPolicy

/-- A durable table, its fault policy, and what has been asked of it. -/
structure Backend where
  /-- The committed entries. -/
  table : Table Bytes
  /-- Which requests fail. -/
  faults : FaultPolicy
  /-- The number of requests so far. -/
  requests : Nat
  /-- The batches written so far, the latest first. -/
  journal : List Batch
  /-- The number of times the backend was closed. -/
  closes : Nat

namespace Backend

def ofTable (table : Table Bytes) : Backend where
  table := table
  faults := .never
  requests := 0
  journal := []
  closes := 0

def writes (b : Backend) : Nat := b.journal.length

/-- Count a request, and fail if the policy says so. -/
def answer (request : Request) : Action Backend StoreError Unit := do
  let b ← Action.state
  Action.update fun b => { b with requests := b.requests + 1 }
  match b.faults b.requests request with
  | some text => Action.fail (.medium text)
  | none => return

def get (key : Bytes) : Action Backend StoreError (Option Bytes) := do
  answer (.get key)
  let b ← Action.state
  return b.table.get? key

def write (batch : Batch) : Action Backend StoreError Unit := do
  answer (.write batch)
  Action.update fun b =>
    { b with table := b.table.insertMany batch, journal := batch :: b.journal }

def close : Action Backend StoreError Unit := do
  answer .close
  Action.update fun b => { b with closes := b.closes + 1 }

/-- The batches written so far, the earliest first, and the backend with an empty journal. -/
def takeJournal (b : Backend) : List Batch × Backend :=
  (b.journal.reverse, { b with journal := [] })

/-- Put an entry into the table past every request. -/
def plant (b : Backend) (key value : Bytes) : Backend :=
  { b with table := b.table.insert key value }

end Backend

end TimestampChain
