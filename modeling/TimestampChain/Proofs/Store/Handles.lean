import TimestampChain.Proofs.Store.Tables
import TimestampChain.Store.SharedTables

/-!
# Families of handles

A handle that is shared from another one goes back to the same handle made afresh as that one does, and the
handles that go back to one handle are its family. Each family has a table of its own, so what is seen
through a handle is what has been written through its family, in whatever order handles are made and used.
-/

namespace TimestampChain

/-- What is seen of a table in which the given entries have been set in order. -/
structure Table.Shows (t : Table Bytes) (writes : Batch) : Prop where
  get : ∀ key, t.get? key = Table.last? key writes
  missing : ∀ key, t.get? key = none ↔ key ∉ writes.map Prod.fst
  contains : ∀ key, t.contains key = true ↔ ∃ value, t.get? key = some value
  listed : ∀ key value, (key, value) ∈ t.toList ↔ t.get? key = some value
  rising : t.toList.Pairwise fun left right => left.1 < right.1
  size : t.size = t.toList.length
  isEmpty : t.isEmpty = true ↔ t.size = 0

theorem Table.shows_insertMany (writes : Batch) : (Table.empty.insertMany writes).Shows writes := by
  constructor
  case get => exact get?_empty_insertMany writes
  case missing =>
    intro key
    rw [get?_empty_insertMany, ← isSome_last?_iff, Option.not_isSome_iff_eq_none]
  case contains => exact fun key => Option.isSome_iff_exists
  case listed => exact fun key value => get?_eq_some_iff.symm
  case rising => exact (Table.empty.insertMany writes).ordered
  case size => rfl
  case isEmpty => exact List.isEmpty_iff.trans List.length_eq_zero_iff.symm

namespace SharedTables

/-! ## What is done with handles -/

/-- What has been done with handles, and how many of them there are. Handles are numbered in the order in
which they were made, and are used only once they are there. -/
inductive History : Nat → Type where
  | start : History 0
  | fresh {n : Nat} (past : History n) : History (n + 1)
  | share {n : Nat} (past : History n) (handle : Fin n) : History (n + 1)
  | insert {n : Nat} (past : History n) (handle : Fin n) (key value : Bytes) : History n
  | write {n : Nat} (past : History n) (handle : Fin n) (batch : Batch) : History n
  | close {n : Nat} (past : History n) (handle : Fin n) : History n

namespace History

def tables : {n : Nat} → History n → SharedTables
  | _, start => ⟨[], []⟩
  | _, fresh past => past.tables.fresh.2
  | _, share past handle => ((past.tables.share handle).map Prod.snd).getD past.tables
  | _, insert past handle key value => past.tables.insert handle key value
  | _, write past handle batch => past.tables.write handle batch
  | _, close past handle => past.tables.close handle

/-- The handle made afresh that a handle goes back to. -/
def origin : {n : Nat} → History n → Nat → Nat
  | _, start, handle => handle
  | n + 1, fresh past, handle => if handle = n then n else past.origin handle
  | n + 1, share past original, handle => past.origin (if handle = n then original else handle)
  | _, insert past _ _ _, handle | _, write past _ _, handle | _, close past _, handle =>
    past.origin handle

def log : {n : Nat} → History n → List (Nat × Bytes × Bytes)
  | _, start => []
  | _, fresh past | _, share past _ | _, close past _ => past.log
  | _, insert past handle key value => past.log ++ [(handle.val, key, value)]
  | _, write past handle batch => past.log ++ batch.map fun entry => (handle.val, entry)

def written {n : Nat} (past : History n) (handle : Nat) : Batch :=
  (past.log.filter fun write => past.origin write.1 = past.origin handle).map Prod.snd

variable {n m : Nat} {past : History n} {later : History m} {handle : Nat}

/-! ## Where handles go back to -/

theorem origin_fresh_of_lt (known : handle < n) : past.fresh.origin handle = past.origin handle :=
  if_neg (Nat.ne_of_lt known)

theorem origin_fresh_self (past : History n) : past.fresh.origin n = n :=
  if_pos rfl

theorem origin_share_of_lt (original : Fin n) (known : handle < n) :
    (past.share original).origin handle = past.origin handle :=
  congrArg past.origin (if_neg (Nat.ne_of_lt known))

theorem origin_share_self (past : History n) (original : Fin n) :
    (past.share original).origin n = past.origin original :=
  congrArg past.origin (if_pos rfl)

theorem origin_lt (past : History n) (known : handle < n) : past.origin handle < n := by
  induction past generalizing handle with
  | start => exact known
  | @fresh n past ih =>
      by_cases old : handle < n
      · rw [origin_fresh_of_lt old]
        exact Nat.lt_succ_of_lt (ih old)
      · obtain rfl : handle = n := by omega
        rw [origin_fresh_self]
        exact known
  | @share n past original ih =>
      by_cases old : handle < n
      · rw [origin_share_of_lt original old]
        exact Nat.lt_succ_of_lt (ih old)
      · obtain rfl : handle = n := by omega
        rw [origin_share_self]
        exact Nat.lt_succ_of_lt (ih original.isLt)
  | insert past _ _ _ ih => exact ih known
  | write past _ _ ih => exact ih known
  | close past _ ih => exact ih known

/-! ## What has been written -/

theorem lt_of_mem_log {write : Nat × Bytes × Bytes} (member : write ∈ past.log) : write.1 < n := by
  induction past with
  | start => cases member
  | fresh past ih => exact Nat.lt_succ_of_lt (ih member)
  | share past _ ih => exact Nat.lt_succ_of_lt (ih member)
  | insert past handle key value ih =>
      rcases List.mem_append.mp member with before | now
      · exact ih before
      · rw [List.mem_singleton.mp now]
        exact handle.isLt
  | write past handle batch ih =>
      rcases List.mem_append.mp member with before | now
      · exact ih before
      · obtain ⟨entry, -, rfl⟩ := List.mem_map.mp now
        exact handle.isLt
  | close past _ ih => exact ih member

/-- Making a handle writes nothing. -/
theorem written_of_made {made : Nat} (log : later.log = past.log)
    (old : ∀ handle < n, later.origin handle = past.origin handle)
    (same : later.origin made = past.origin handle) : later.written made = past.written handle := by
  unfold written
  rw [log, same]
  congr 1
  apply List.filter_congr
  intro write member
  rw [old write.1 (lt_of_mem_log member)]

theorem written_fresh_self (past : History n) : past.fresh.written n = [] := by
  rw [written, List.map_eq_nil_iff, List.filter_eq_nil_iff, origin_fresh_self]
  intro write member
  have known : write.1 < n := lt_of_mem_log member
  rw [origin_fresh_of_lt known, decide_eq_true_eq]
  exact Nat.ne_of_lt (past.origin_lt known)

/-- What is written through a handle is written through its family, and through no other one. -/
theorem written_of_entries {past later : History n} {through : Nat} {batch : Batch}
    (log : later.log = past.log ++ batch.map fun entry => (through, entry))
    (origins : later.origin = past.origin) (handle : Nat) :
    later.written handle =
      past.written handle ++ if past.origin through = past.origin handle then batch else [] := by
  unfold written
  rw [log, origins, List.filter_append, List.map_append]
  congr 1
  by_cases kin : past.origin through = past.origin handle <;>
    simp [List.filter_map, Function.comp_def, kin]

/-! ## Tables and families -/

structure Kept (past : History n) : Prop where
  count : past.tables.handles.length = n
  apart : ∀ left < n, ∀ right < n,
    past.tables.place? left = past.tables.place? right ↔ past.origin left = past.origin right
  shown : ∀ handle < n,
    past.tables.table? handle = some (Table.empty.insertMany (past.written handle))

theorem Kept.exists_place (kept : past.Kept) (known : handle < n) :
    ∃ place, past.tables.place? handle = some place ∧ place < past.tables.tables.length := by
  obtain ⟨place, placed, there⟩ := table?_eq_some_iff.mp (kept.shown handle known)
  exact ⟨place, placed, (List.getElem?_eq_some_iff.mp there).1⟩

/-- A handle that is made changes nothing else, so what counts is that its place tells its family. -/
theorem Kept.of_made {past : History n} {later : History (n + 1)} {place : Nat} (kept : past.Kept)
    (made : later.tables.handles = past.tables.handles ++ [place]) (log : later.log = past.log)
    (origins : ∀ handle < n, later.origin handle = past.origin handle)
    (still : ∀ handle < n, later.tables.table? handle = past.tables.table? handle)
    (new : later.tables.table? n = some (Table.empty.insertMany (later.written n)))
    (joins : ∀ handle < n,
      some place = past.tables.place? handle ↔ later.origin n = past.origin handle) :
    later.Kept := by
  have cases {handle : Nat} (known : handle < n + 1) : handle = n ∨ handle < n := by omega
  have placed : later.tables.place? n = some place := place?_of_new made kept.count.symm
  have places (handle : Nat) (old : handle < n) :
      later.tables.place? handle = past.tables.place? handle :=
    place?_of_old made (Nat.lt_of_lt_of_eq old kept.count.symm)
  constructor
  case count => rw [made, List.length_append, kept.count, List.length_singleton]
  case apart =>
    intro left knownLeft right knownRight
    rcases cases knownLeft with rfl | oldLeft <;> rcases cases knownRight with rfl | oldRight
    · exact iff_of_true rfl rfl
    · rw [placed, places right oldRight, origins right oldRight]
      exact joins right oldRight
    · rw [placed, places left oldLeft, origins left oldLeft, eq_comm, eq_comm (a := past.origin left)]
      exact joins left oldLeft
    · rw [places left oldLeft, origins left oldLeft, places right oldRight, origins right oldRight]
      exact kept.apart left oldLeft right oldRight
  case shown =>
    intro handle known
    rcases cases known with rfl | old
    · exact new
    · rw [still handle old, written_of_made log origins (origins handle old)]
      exact kept.shown handle old

theorem Kept.fresh (kept : past.Kept) : past.fresh.Kept := by
  apply kept.of_made
  case made => rfl
  case log => rfl
  case origins => exact fun handle old => origin_fresh_of_lt old
  case still =>
    intro handle old
    rw [kept.shown handle old]
    exact table?_fresh_of_some (kept.shown handle old)
  case new =>
    rw [written_fresh_self]
    exact table?_fresh_of_new kept.count.symm
  case joins =>
    -- The new table is behind all others, and its handle goes back to none of the others.
    intro handle old
    obtain ⟨place, there, bound⟩ := kept.exists_place old
    have unmade := past.origin_lt old
    rw [there, origin_fresh_self, Option.some.injEq]
    omega

theorem Kept.share (kept : past.Kept) (original : Fin n) : (past.share original).Kept := by
  obtain ⟨place, placed, -⟩ := kept.exists_place original.isLt
  have shared : (past.share original).tables =
      { past.tables with handles := past.tables.handles ++ [place] } := by
    rw [tables, share_of_place placed]
    rfl
  have made := congrArg handles shared
  have same := congrArg SharedTables.tables shared
  have origins (handle : Nat) (old : handle < n) :
      (past.share original).origin handle = past.origin handle := origin_share_of_lt original old
  apply kept.of_made
  case made => exact made
  case log => rfl
  case origins => exact origins
  case still =>
    intro handle old
    exact table?_congr same (place?_of_old made (Nat.lt_of_lt_of_eq old kept.count.symm))
  case new =>
    have written : (past.share original).written n = past.written original :=
      written_of_made rfl origins (origin_share_self past original)
    rw [written, ← kept.shown original original.isLt]
    exact table?_congr same ((place?_of_new made kept.count.symm).trans placed.symm)
  case joins =>
    intro handle old
    rw [← placed, origin_share_self]
    exact kept.apart original original.isLt handle old

theorem Kept.of_entries {past later : History n} (kept : past.Kept) {through : Fin n} (batch : Batch)
    (tables : later.tables = past.tables.write through batch)
    (log : later.log = past.log ++ batch.map fun entry => (through.val, entry))
    (origins : later.origin = past.origin) : later.Kept := by
  have places (handle : Nat) : later.tables.place? handle = past.tables.place? handle := by
    rw [tables]
    exact place?_modify ..
  constructor
  case count =>
    rw [tables]
    exact (congrArg List.length (handles_modify ..)).trans kept.count
  case apart =>
    intro left knownLeft right knownRight
    rw [places, places, origins]
    exact kept.apart left knownLeft right knownRight
  case shown =>
    intro handle known
    have kin := kept.apart through through.isLt handle known
    rw [tables, SharedTables.write, table?_modify, kept.shown handle known,
      written_of_entries log origins]
    by_cases same : past.origin through = past.origin handle
    · rw [if_pos (kin.mpr same), if_pos same, Table.insertMany_append]
      rfl
    · rw [if_neg (mt kin.mp same), if_neg same, List.append_nil]

theorem kept (past : History n) : past.Kept := by
  induction past with
  | start => exact ⟨rfl, nofun, nofun⟩
  | fresh past ih => exact ih.fresh
  | share past original ih => exact ih.share original
  | insert past handle key value ih => exact ih.of_entries [(key, value)] rfl rfl rfl
  | write past handle batch ih => exact ih.of_entries batch rfl rfl rfl
  | close past handle ih => exact ⟨ih.count, ih.apart, ih.shown⟩

/-! ## What is seen through handles -/

theorem written_of_kin {handle other : Nat} (kin : past.origin handle = past.origin other) :
    past.written handle = past.written other := by
  rw [written, kin, written]

theorem table?_modify_of_apart (past : History n) {through handle : Fin n}
    (apart : past.origin through ≠ past.origin handle) (f : Table Bytes → Table Bytes) :
    (past.tables.modify through f).table? handle = past.tables.table? handle := by
  have kin := past.kept.apart through through.isLt handle handle.isLt
  rw [table?_modify, if_neg (mt kin.mp apart)]

/-- What the holders of handles can rely on behind all that has been done. -/
structure Exact (past : History n) : Prop where
  made : past.tables.fresh = (n, past.fresh.tables)
  copied : ∀ original : Fin n, past.tables.share original = some (n, (past.share original).tables)
  shown : ∀ handle : Fin n, ∃ t, past.tables.table? handle = some t ∧ t.Shows (past.written handle)
  shared : ∀ left right : Fin n, past.origin left = past.origin right →
    past.tables.table? left = past.tables.table? right
  apart : ∀ through handle : Fin n, past.origin through ≠ past.origin handle →
    (∀ key value,
      (past.insert through key value).tables.table? handle = past.tables.table? handle) ∧
    ∀ batch, (past.write through batch).tables.table? handle = past.tables.table? handle
  closed : ∀ handle : Fin n, (past.close handle).tables = past.tables

/-- Whatever is done with handles, a handle shows the last value that its family has written under each key,
and what other families write does not show through it. -/
theorem handles_show_family (past : History n) : past.Exact := by
  have count := past.kept.count
  have shown (handle : Fin n) := past.kept.shown handle handle.isLt
  constructor
  case made => exact congrArg (·, past.fresh.tables) count
  case copied =>
    intro original
    obtain ⟨place, placed, -⟩ := past.kept.exists_place original.isLt
    rw [tables, share_of_place placed, count]
    rfl
  case shown => exact fun handle => ⟨_, shown handle, Table.shows_insertMany _⟩
  case shared =>
    intro left right kin
    rw [shown left, shown right, written_of_kin kin]
  case apart =>
    intro through handle apart
    exact ⟨fun key value => past.table?_modify_of_apart apart _,
      fun batch => past.table?_modify_of_apart apart _⟩
  case closed => exact fun handle => rfl

/-- The last entry of a batch counts, and a copy sees it, but a handle made afresh does not. -/
example :
    let past := ((start.fresh.share 0).fresh.write 0 [([97], [1]), ([97], [2])]).close 0
    (past.tables.table? 1).map (·.toList) = some [([97], [2])] ∧
      (past.tables.table? 2).map (·.toList) = some [] := by
  decide

end History

end SharedTables

end TimestampChain
