import TimestampChain.Bytes.Hex
import TimestampChain.Store.WriteBuffer

/-!
# Journal of batches

The written form of a database: one line for each batch, in the order of writing. Keys and values
are hexadecimal. What stands behind the last line end was cut short and is no part of the journal,
so a batch counts as a whole or not at all.
-/

namespace TimestampChain.Journal

def line (batch : Batch) : String :=
  String.intercalate "," (batch.map fun entry => Hex.encode entry.1 ++ ":" ++ Hex.encode entry.2)
    ++ "\n"

def entry? (text : String) : Option (Bytes × Bytes) :=
  match text.splitOn ":" with
  | [key, value] =>
    match Hex.decode (Bytes.ofText key), Hex.decode (Bytes.ofText value) with
    | .ok key, .ok value => some (key, value)
    | _, _ => none
  | _ => none

def batch? (text : String) : Option Batch :=
  if text.isEmpty then some [] else (text.splitOn ",").mapM entry?

def lines (text : String) : List String := (text.splitOn "\n").dropLast

/-- The journal without what was cut short. -/
def complete (text : String) : String := String.join ((lines text).map fun line => line ++ "\n")

/-- The table that a journal leads to. Every line with an end must be a batch. -/
def table? (text : String) : Option (Table Bytes) :=
  ((lines text).mapM batch?).map fun batches => batches.foldl Table.insertMany Table.empty

end TimestampChain.Journal
