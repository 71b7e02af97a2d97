import TimestampChain.Bytes

/-!
# Ordered tables

A finite map from byte strings to values, kept as a list of entries in strictly increasing key
order. The order makes the representation canonical: two tables that answer every look-up alike are
equal, and the list of entries is the snapshot of the table.
-/

namespace TimestampChain

/-- A finite map with byte-string keys. -/
structure Table (α : Type) where
  entries : List (Bytes × α)
  ordered : entries.Pairwise fun a b => a.1 < b.1

namespace Table

variable {α : Type}

/-! ## Entry lists -/

def find (key : Bytes) : List (Bytes × α) → Option α
  | [] => none
  | (k, v) :: rest => if key = k then some v else find key rest

/-- Put an entry at its place, instead of one with the same key. -/
def place (key : Bytes) (value : α) : List (Bytes × α) → List (Bytes × α)
  | [] => [(key, value)]
  | (k, v) :: rest =>
    if key = k then (key, value) :: rest
    else if key < k then (key, value) :: (k, v) :: rest
    else (k, v) :: place key value rest

theorem mem_place {key : Bytes} {value : α} {entry : Bytes × α} {entries : List (Bytes × α)}
    (h : entry ∈ place key value entries) : entry = (key, value) ∨ entry ∈ entries := by
  induction entries with
  | nil => simpa [place] using h
  | cons head rest ih =>
    rcases head with ⟨k, v⟩
    unfold place at h
    split at h
    · rcases List.mem_cons.mp h with h | h
      · exact Or.inl h
      · exact Or.inr (List.mem_cons_of_mem _ h)
    · split at h
      · exact List.mem_cons.mp h
      · rcases List.mem_cons.mp h with h | h
        · exact Or.inr (h ▸ List.mem_cons_self)
        · exact (ih h).imp id (List.mem_cons_of_mem _)

theorem pairwise_place (key : Bytes) (value : α) {entries : List (Bytes × α)}
    (h : entries.Pairwise fun a b => a.1 < b.1) :
    (place key value entries).Pairwise fun a b => a.1 < b.1 := by
  induction entries with
  | nil => simp [place]
  | cons head rest ih =>
    rcases head with ⟨k, v⟩
    have ⟨first, later⟩ := List.pairwise_cons.mp h
    unfold place
    split
    · next same =>
      subst same
      exact List.pairwise_cons.mpr ⟨first, later⟩
    · split
      · next less =>
        refine List.pairwise_cons.mpr ⟨fun entry member => ?_, h⟩
        rcases List.mem_cons.mp member with same | member
        · exact same ▸ less
        · exact List.lt_trans less (first entry member)
      · next different notLess =>
        refine List.pairwise_cons.mpr ⟨fun entry member => ?_, ih later⟩
        rcases mem_place member with same | member
        · subst same
          rcases Std.lt_trichotomy key k with less | same | greater
          · exact absurd less notLess
          · exact absurd same different
          · exact greater
        · exact first entry member

theorem find_place (key other : Bytes) (value : α) (entries : List (Bytes × α)) :
    find other (place key value entries) =
      if other = key then some value else find other entries := by
  induction entries with
  | nil => simp [place, find]
  | cons head rest ih =>
    rcases head with ⟨k, v⟩
    unfold place
    split
    · next same =>
      subst same
      by_cases h : other = key <;> simp [find, h]
    · next different =>
      split
      · simp [find]
      · by_cases h : other = k
        · subst h
          simp [find, Ne.symm different]
        · simp [find, h, ih]

theorem find_eq_none_of_lt {key : Bytes} {entries : List (Bytes × α)}
    (h : ∀ entry ∈ entries, key < entry.1) : find key entries = none := by
  induction entries with
  | nil => rfl
  | cons head rest ih =>
    have less := h head List.mem_cons_self
    have different : key ≠ head.1 := fun same => List.lt_irrefl _ (same ▸ less)
    simp [find, different, ih fun entry member => h entry (List.mem_cons_of_mem _ member)]

theorem find_eq_some_iff {key : Bytes} {value : α} {entries : List (Bytes × α)}
    (h : entries.Pairwise fun a b => a.1 < b.1) :
    find key entries = some value ↔ (key, value) ∈ entries := by
  induction entries with
  | nil => simp [find]
  | cons head rest ih =>
    rcases head with ⟨k, v⟩
    have ⟨first, later⟩ := List.pairwise_cons.mp h
    by_cases same : key = k
    · subst same
      have absent : (key, value) ∉ rest := fun member =>
        List.lt_irrefl key (first (key, value) member)
      simp [find, absent, eq_comm]
    · simp [find, same, ih later]

/-! ## Tables -/

def empty : Table α := ⟨[], List.Pairwise.nil⟩

instance : Inhabited (Table α) := ⟨empty⟩

def toList (t : Table α) : List (Bytes × α) := t.entries

def get? (t : Table α) (key : Bytes) : Option α := find key t.entries

def contains (t : Table α) (key : Bytes) : Bool := (t.get? key).isSome

def insert (t : Table α) (key : Bytes) (value : α) : Table α :=
  ⟨place key value t.entries, pairwise_place key value t.ordered⟩

def erase (t : Table α) (key : Bytes) : Table α :=
  ⟨t.entries.filter fun entry => entry.1 ≠ key, t.ordered.filter _⟩

/-- Set the given entries one by one, so that the last value of a key stays. -/
def insertMany (t : Table α) (entries : List (Bytes × α)) : Table α :=
  entries.foldl (fun t entry => t.insert entry.1 entry.2) t

def size (t : Table α) : Nat := t.entries.length

def isEmpty (t : Table α) : Bool := t.entries.isEmpty

@[simp] theorem get?_empty (key : Bytes) : (empty : Table α).get? key = none := rfl

theorem get?_insert (t : Table α) (key other : Bytes) (value : α) :
    (t.insert key value).get? other = if other = key then some value else t.get? other :=
  find_place key other value t.entries

@[simp] theorem get?_insert_self (t : Table α) (key : Bytes) (value : α) :
    (t.insert key value).get? key = some value := by
  simp [get?_insert]

theorem get?_insert_of_ne (t : Table α) {key other : Bytes} (value : α) (h : other ≠ key) :
    (t.insert key value).get? other = t.get? other := by
  simp [get?_insert, h]

theorem get?_eq_some_iff {t : Table α} {key : Bytes} {value : α} :
    t.get? key = some value ↔ (key, value) ∈ t.toList :=
  find_eq_some_iff t.ordered

theorem get?_erase (t : Table α) (key other : Bytes) :
    (t.erase key).get? other = if other = key then none else t.get? other := by
  apply Option.ext
  intro value
  rw [get?_eq_some_iff]
  by_cases h : other = key
  · simp [h, toList, erase]
  · simp only [toList, erase, List.mem_filter, h, if_false, decide_not, Bool.not_eq_true',
      decide_eq_false_iff_not, not_false_eq_true, and_true]
    exact get?_eq_some_iff.symm

@[simp] theorem insertMany_nil (t : Table α) : t.insertMany [] = t := rfl

@[simp] theorem insertMany_cons (t : Table α) (entry : Bytes × α) (rest : List (Bytes × α)) :
    t.insertMany (entry :: rest) = (t.insert entry.1 entry.2).insertMany rest := rfl

/-! ## Equality -/

theorem entries_ext {left right : List (Bytes × α)}
    (hl : left.Pairwise fun a b => a.1 < b.1) (hr : right.Pairwise fun a b => a.1 < b.1)
    (h : ∀ key, find key left = find key right) : left = right := by
  induction left generalizing right with
  | nil =>
    cases right with
    | nil => rfl
    | cons head rest => simpa [find] using h head.1
  | cons first rest ih =>
    rcases first with ⟨k, v⟩
    cases right with
    | nil => simpa [find] using h k
    | cons first' rest' =>
      rcases first' with ⟨k', v'⟩
      have ⟨above, later⟩ := List.pairwise_cons.mp hl
      have ⟨above', later'⟩ := List.pairwise_cons.mp hr
      have same : k = k' := by
        rcases Std.lt_trichotomy k k' with less | same | greater
        · have absent : find k ((k', v') :: rest') = none := by
            refine find_eq_none_of_lt fun entry member => ?_
            rcases List.mem_cons.mp member with same | member
            · exact same ▸ less
            · exact List.lt_trans less (above' entry member)
          have present := h k
          rw [absent] at present
          simp [find] at present
        · exact same
        · have absent : find k' ((k, v) :: rest) = none := by
            refine find_eq_none_of_lt fun entry member => ?_
            rcases List.mem_cons.mp member with same | member
            · exact same ▸ greater
            · exact List.lt_trans greater (above entry member)
          have present := h k'
          rw [absent] at present
          simp [find] at present
      subst same
      have value : v = v' := by simpa [find] using h k
      subst value
      have tail : rest = rest' := ih later later' fun key => by
        by_cases equal : key = k
        · subst equal
          rw [find_eq_none_of_lt above, find_eq_none_of_lt above']
        · simpa [find, equal] using h key
      rw [tail]

@[ext] theorem ext {left right : Table α} (h : ∀ key, left.get? key = right.get? key) :
    left = right := by
  have same := entries_ext left.ordered right.ordered h
  cases left
  cases right
  cases same
  rfl

end Table

end TimestampChain
