import Mathlib.Algebra.BigOperators.Group.Finset.Basic
import Mathlib.Data.List.DropRight
import TimestampChain.Proofs.Store.Tables
import TimestampChain.Store.SharedTables

/-!
# Writes that wait

A write buffer holds the writes that have been set since it was last emptied, the last one under each
key. It gives them up in key order, and wherever they are applied then, they do what the writes would have
done had they been applied as they were set.
-/

namespace TimestampChain

/-! ## Calls -/

inductive BufferCall where
  | set (key value : Bytes)
  | get (key : Bytes)
  | clear
  | drain

namespace BufferCall

def empties : BufferCall → Bool
  | clear | drain => true
  | set _ _ | get _ => false

def write? : BufferCall → Option (Bytes × Bytes)
  | set key value => some (key, value)
  | get _ | clear | drain => none

/-- The writes set since the last of the calls that emptied the buffer, in the order of the calls. -/
def pending (calls : List BufferCall) : Batch :=
  (calls.rtakeWhile fun call => !call.empties).filterMap write?

theorem pending_concat_of_empties {call : BufferCall} (empties : call.empties = true)
    (calls : List BufferCall) : pending (calls ++ [call]) = [] := by
  simp [pending, empties]

theorem pending_concat_of_keeps {call : BufferCall} (keeps : call.empties = false)
    (calls : List BufferCall) :
    pending (calls ++ [call]) = pending calls ++ call.write?.toList := by
  cases set : call.write? <;> simp [pending, keeps, set]

end BufferCall

namespace WriteBuffer

open BufferCall

def after (buffer : WriteBuffer) : BufferCall → WriteBuffer
  | .set key value => buffer.set key value
  | .get _ => buffer
  | .clear => buffer.clear
  | .drain => buffer.drain.2

def follow (buffer : WriteBuffer) (calls : List BufferCall) : WriteBuffer := calls.foldl after buffer

def ofWrites (writes : Batch) : WriteBuffer := ⟨Table.empty.insertMany writes⟩

theorem set_ofWrites (writes : Batch) (key value : Bytes) :
    (ofWrites writes).set key value = ofWrites (writes ++ [(key, value)]) :=
  congrArg mk (Table.insertMany_append Table.empty writes [(key, value)]).symm

theorem follow_eq_ofWrites (calls : List BufferCall) :
    empty.follow calls = ofWrites (pending calls) := by
  induction calls using List.reverseRecOn with
  | nil => rfl
  | append_singleton calls call ih =>
      have last : empty.follow (calls ++ [call]) = (ofWrites (pending calls)).after call := by
        rw [← ih]
        exact List.foldl_concat ..
      rw [last]
      cases call with
      | set key value =>
          rw [pending_concat_of_keeps rfl]
          exact set_ofWrites (pending calls) key value
      | get key =>
          rw [pending_concat_of_keeps rfl]
          exact congrArg ofWrites (List.append_nil _).symm
      | clear =>
          rw [pending_concat_of_empties rfl]
          rfl
      | drain =>
          rw [pending_concat_of_empties rfl]
          rfl

/-- Of the given writes the last one under each key waits in a buffer, and nothing else does. They go out in
key order, and what they do to a table then is what all of the writes would have done to it. -/
structure Holds (buffer : WriteBuffer) (writes : Batch) : Prop where
  get : ∀ key, buffer.get? key = Table.last? key writes
  size : buffer.size = (writes.map Prod.fst).toFinset.card
  totalBytes : buffer.totalBytes =
    ∑ key ∈ (writes.map Prod.fst).toFinset, (key.length + ((Table.last? key writes).getD []).length)
  drained : ∀ key value, (key, value) ∈ buffer.drain.1 ↔ Table.last? key writes = some value
  once : (buffer.drain.1.map Prod.fst).Nodup
  rising : buffer.drain.1.Pairwise fun left right => left.1 < right.1
  emptied : buffer.drain.2 = .empty
  replayed : ∀ t : Table Bytes,
    t.insertMany buffer.drain.1 = writes.foldl (fun t write => t.insert write.1 write.2) t
  shared : ∀ (s : SharedTables) (handle : Nat), s.write handle buffer.drain.1 =
    writes.foldl (fun s write => s.insert handle write.1 write.2) s

theorem keys_ofWrites (writes : Batch) :
    ((ofWrites writes).drain.1.map Prod.fst).toFinset = (writes.map Prod.fst).toFinset := by
  ext key
  rw [List.mem_toFinset, List.mem_toFinset]
  exact Table.mem_keys_empty_insertMany

theorem totalBytes_eq_sum (buffer : WriteBuffer) :
    buffer.totalBytes = ∑ key ∈ (buffer.drain.1.map Prod.fst).toFinset,
      (key.length + ((buffer.get? key).getD []).length) := by
  have sizes : buffer.drain.1.map (fun write => write.1.length + write.2.length) =
      (buffer.drain.1.map Prod.fst).map fun key =>
        key.length + ((buffer.get? key).getD []).length := by
    rw [List.map_map]
    apply List.map_congr_left
    intro write member
    have found : buffer.get? write.1 = some write.2 := Table.get?_eq_some_iff.mpr member
    simp [found]
  calc
    buffer.totalBytes = (buffer.drain.1.map fun write => write.1.length + write.2.length).sum := by
      rw [List.sum_eq_foldr, List.foldr_map]
      rfl
    _ = ((buffer.drain.1.map Prod.fst).map fun key =>
          key.length + ((buffer.get? key).getD []).length).sum := congrArg List.sum sizes
    _ = _ := (List.sum_toFinset _ buffer.writes.nodup_keys).symm

/-- Whatever is done with a buffer, what waits in it are the writes set since it was last emptied. -/
theorem pending_writes_held (calls : List BufferCall) : (empty.follow calls).Holds (pending calls) := by
  rw [follow_eq_ofWrites]
  generalize pending calls = writes
  have last : ∀ key, (ofWrites writes).get? key = Table.last? key writes :=
    Table.get?_empty_insertMany writes
  have collected : ∀ t : Table Bytes, t.insertMany (ofWrites writes).drain.1 = t.insertMany writes :=
    fun t => t.insertMany_collected writes
  constructor
  case get => exact last
  case size =>
    rw [← keys_ofWrites]
    exact (ofWrites writes).writes.card_keys.symm
  case totalBytes =>
    rw [totalBytes_eq_sum, keys_ofWrites]
    simp only [last]
  case drained =>
    intro key value
    rw [← last]
    exact Table.get?_eq_some_iff.symm
  case once => exact (ofWrites writes).writes.nodup_keys
  case rising => exact (ofWrites writes).writes.ordered
  case emptied => rfl
  case replayed => exact collected
  case shared =>
    intro s handle
    rw [← s.write_eq_foldl]
    exact congrArg (s.modify handle) (funext collected)

/-- A value may be replaced by a shorter one, and a key comes before the keys that it begins. -/
example :
    let buffer := empty.follow [.set [2] [9], .clear, .set [1, 0] [7], .set [1] [5, 5], .set [1] []]
    buffer.drain.1 = [([1], []), ([1, 0], [7])] ∧ buffer.totalBytes = 4 := by
  decide

end WriteBuffer

end TimestampChain
