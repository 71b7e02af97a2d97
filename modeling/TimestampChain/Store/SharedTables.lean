import TimestampChain.Store.WriteBuffer

/-!
# Shared tables

Handles on tables in memory. Handles made from one another share a table, and handles made afresh
do not, so a write through one handle shows through exactly the handles of its family.
-/

namespace TimestampChain

/-- Handles, each with the table that it stands for. -/
structure SharedTables where
  /-- The tables, in the order in which they were made. -/
  tables : List (Table Bytes)
  /-- The table of each handle. -/
  handles : List Nat

namespace SharedTables

def single : SharedTables := ⟨[Table.empty], [0]⟩

def place? (s : SharedTables) (handle : Nat) : Option Nat := s.handles[handle]?

def table? (s : SharedTables) (handle : Nat) : Option (Table Bytes) :=
  (s.place? handle).bind fun place => s.tables[place]?

def fresh (s : SharedTables) : Nat × SharedTables :=
  (s.handles.length, ⟨s.tables ++ [Table.empty], s.handles ++ [s.tables.length]⟩)

/-- Add a handle that shares the table of another one, and tell its number. -/
def share (s : SharedTables) (handle : Nat) : Option (Nat × SharedTables) :=
  (s.place? handle).map fun place =>
    (s.handles.length, { s with handles := s.handles ++ [place] })

def modify (s : SharedTables) (handle : Nat) (f : Table Bytes → Table Bytes) : SharedTables :=
  match s.place? handle with
  | some place => { s with tables := s.tables.modify place f }
  | none => s

def insert (s : SharedTables) (handle : Nat) (key value : Bytes) : SharedTables :=
  s.modify handle fun t => t.insert key value

def write (s : SharedTables) (handle : Nat) (batch : Batch) : SharedTables :=
  s.modify handle fun t => t.insertMany batch

/-- Closing a handle changes nothing. -/
def close (s : SharedTables) (_ : Nat) : SharedTables := s

/-! ## Laws -/

section

variable {s t : SharedTables} {handle other place : Nat} {table : Table Bytes}

theorem table?_eq_some_iff :
    s.table? handle = some table ↔
      ∃ place, s.place? handle = some place ∧ s.tables[place]? = some table :=
  Option.bind_eq_some_iff

theorem table?_of_place (placed : s.place? handle = some place) :
    s.table? handle = s.tables[place]? := by
  rw [table?, placed, Option.bind_some]

theorem table?_congr (tables : t.tables = s.tables) (places : t.place? handle = s.place? other) :
    t.table? handle = s.table? other := by
  rw [table?, places, tables, table?]

/-! ### Handles that are made -/

theorem place?_of_new (made : t.handles = s.handles ++ [place]) (new : handle = s.handles.length) :
    t.place? handle = some place := by
  rw [place?, made, new, List.getElem?_concat_length]

theorem place?_of_old (made : t.handles = s.handles ++ [place]) (old : handle < s.handles.length) :
    t.place? handle = s.place? handle := by
  rw [place?, made, List.getElem?_append_left old, place?]

theorem table?_fresh_of_new (new : handle = s.handles.length) :
    s.fresh.2.table? handle = some Table.empty := by
  rw [table?_of_place (place?_of_new rfl new)]
  exact List.getElem?_concat_length

theorem table?_fresh_of_some (found : s.table? handle = some table) :
    s.fresh.2.table? handle = some table := by
  obtain ⟨place, placed, there⟩ := table?_eq_some_iff.mp found
  have old := (List.getElem?_eq_some_iff.mp placed).1
  have bound := (List.getElem?_eq_some_iff.mp there).1
  rw [table?_of_place ((place?_of_old rfl old).trans placed)]
  exact (List.getElem?_append_left bound).trans there

theorem share_of_place (placed : s.place? handle = some place) :
    s.share handle = some (s.handles.length, { s with handles := s.handles ++ [place] }) := by
  rw [share, placed, Option.map_some]

/-! ### Tables that change -/

theorem modify_of_place (placed : s.place? handle = some place) (f : Table Bytes → Table Bytes) :
    s.modify handle f = { s with tables := s.tables.modify place f } := by
  rw [modify, placed]

theorem modify_of_unplaced (unplaced : s.place? handle = none) (f : Table Bytes → Table Bytes) :
    s.modify handle f = s := by
  rw [modify, unplaced]

end

@[simp] theorem handles_modify (s : SharedTables) (handle : Nat) (f : Table Bytes → Table Bytes) :
    (s.modify handle f).handles = s.handles := by
  unfold modify
  split <;> rfl

@[simp] theorem place?_modify (s : SharedTables) (handle other : Nat) (f : Table Bytes → Table Bytes) :
    (s.modify handle f).place? other = s.place? other := by
  simp [place?]

/-- A change shows through the handles that share the table, and through no others. -/
theorem table?_modify (s : SharedTables) (handle other : Nat) (f : Table Bytes → Table Bytes) :
    (s.modify handle f).table? other =
      if s.place? handle = s.place? other then (s.table? other).map f else s.table? other := by
  cases there : s.place? other with
  | none => simp [table?, there]
  | some place =>
      have still : (s.modify handle f).place? other = some place := by simp [there]
      rw [table?_of_place still, table?_of_place there]
      cases placed : s.place? handle with
      | none => simp [modify_of_unplaced placed]
      | some changed =>
          rw [modify_of_place placed, List.getElem?_modify]
          by_cases same : changed = place <;> simp [same]

theorem modify_modify (s : SharedTables) (handle : Nat) (f g : Table Bytes → Table Bytes) :
    (s.modify handle f).modify handle g = s.modify handle (g ∘ f) := by
  cases placed : s.place? handle with
  | none => simp [modify_of_unplaced placed]
  | some place =>
      have still : (s.modify handle f).place? handle = some place := by simp [placed]
      rw [modify_of_place still, modify_of_place placed, modify_of_place placed,
        List.modify_modify_eq]

theorem write_nil (s : SharedTables) (handle : Nat) : s.write handle [] = s := by
  unfold write modify
  split
  · exact congrArg (SharedTables.mk · s.handles) (List.modify_id _ s.tables)
  · rfl

/-- A batch is written like its entries one by one. -/
theorem write_eq_foldl (s : SharedTables) (handle : Nat) (batch : Batch) :
    s.write handle batch = batch.foldl (fun s entry => s.insert handle entry.1 entry.2) s := by
  induction batch generalizing s with
  | nil => exact s.write_nil handle
  | cons entry rest ih =>
      have both := s.modify_modify handle (fun t => t.insert entry.1 entry.2) (·.insertMany rest)
      rw [List.foldl_cons, ← ih]
      exact both.symm

end SharedTables

end TimestampChain
