import TimestampChain.Table

/-!
# Write buffer

Writes that wait to be applied together. The last value set under a key is the one that counts, and
the buffer gives its writes up in key order.
-/

namespace TimestampChain

abbrev Batch := List (Bytes × Bytes)

/-- Writes that wait to be applied together. -/
structure WriteBuffer where
  writes : Table Bytes

namespace WriteBuffer

def empty : WriteBuffer := ⟨Table.empty⟩

instance : Inhabited WriteBuffer := ⟨empty⟩

/-- Add a write, instead of an earlier one under the same key. -/
def set (buffer : WriteBuffer) (key value : Bytes) : WriteBuffer :=
  ⟨buffer.writes.insert key value⟩

def get? (buffer : WriteBuffer) (key : Bytes) : Option Bytes := buffer.writes.get? key

def size (buffer : WriteBuffer) : Nat := buffer.writes.size

def isEmpty (buffer : WriteBuffer) : Bool := buffer.writes.isEmpty

def totalBytes (buffer : WriteBuffer) : Nat :=
  buffer.writes.toList.foldr (fun entry total => entry.1.length + entry.2.length + total) 0

/-- Take every write out, in key order. -/
def drain (buffer : WriteBuffer) : Batch × WriteBuffer := (buffer.writes.toList, empty)

def clear (_ : WriteBuffer) : WriteBuffer := empty

theorem get?_set (buffer : WriteBuffer) (key other value : Bytes) :
    (buffer.set key value).get? other = if other = key then some value else buffer.get? other :=
  Table.get?_insert buffer.writes key other value

end WriteBuffer

end TimestampChain
