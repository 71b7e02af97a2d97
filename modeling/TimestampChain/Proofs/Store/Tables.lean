import Mathlib.Data.List.Induction
import Mathlib.Data.Set.Card
import TimestampChain.Table

/-!
# Tables as maps

A table is told by the values under its keys, and each key is listed once. Entries that are set one after
another leave under each key the last value that was set there, so it is all one whether they are set as
they come or collected in a table first.
-/

namespace TimestampChain.Table

variable {α : Type}

/-! ## Keys -/

theorem nodup_keys (t : Table α) : (t.toList.map Prod.fst).Nodup := by
  refine List.Pairwise.map Prod.fst (fun left right less same => ?_) t.ordered
  exact List.lt_irrefl _ (same ▸ less)

theorem isSome_get?_iff {t : Table α} {key : Bytes} :
    (t.get? key).isSome ↔ key ∈ t.toList.map Prod.fst := by
  constructor
  · intro found
    obtain ⟨value, found⟩ := Option.isSome_iff_exists.mp found
    exact List.mem_map.mpr ⟨(key, value), get?_eq_some_iff.mp found, rfl⟩
  · intro member
    obtain ⟨⟨_, value⟩, there, rfl⟩ := List.mem_map.mp member
    exact Option.isSome_iff_exists.mpr ⟨value, get?_eq_some_iff.mpr there⟩

theorem card_keys (t : Table α) : (t.toList.map Prod.fst).toFinset.card = t.size := by
  rw [List.toFinset_card_of_nodup t.nodup_keys, List.length_map]
  rfl

theorem encard_keys (t : Table α) : {key | (t.get? key).isSome}.encard = t.size := by
  have keys : {key | (t.get? key).isSome} = ((t.toList.map Prod.fst).toFinset : Set Bytes) := by
    ext key
    exact isSome_get?_iff.trans List.mem_toFinset.symm
  rw [keys, Set.encard_coe_eq_coe_finsetCard, card_keys]

/-! ## One table into another -/

theorem get?_insertMany (t u : Table α) (key : Bytes) :
    (t.insertMany u.toList).get? key = (u.get? key).or (t.get? key) := by
  obtain ⟨entries, ordered⟩ := u
  show (t.insertMany entries).get? key = (find key entries).or (t.get? key)
  induction entries generalizing t with
  | nil => rfl
  | cons entry rest ih =>
      obtain ⟨k, v⟩ := entry
      obtain ⟨above, later⟩ := List.pairwise_cons.mp ordered
      rw [insertMany_cons, ih (t.insert k v) later, get?_insert, find]
      by_cases same : key = k
      · -- The keys that come later are greater, so the value stays.
        have absent : find key rest = none := find_eq_none_of_lt (same ▸ above)
        rw [if_pos same, if_pos same, absent]
        rfl
      · rw [if_neg same, if_neg same]

/-! ## One entry after another -/

def last? (key : Bytes) (entries : List (Bytes × α)) : Option α := entries.reverse.lookup key

theorem last?_concat (key : Bytes) (entries : List (Bytes × α)) (entry : Bytes × α) :
    last? key (entries ++ [entry]) = if key = entry.1 then some entry.2 else last? key entries := by
  obtain ⟨k, v⟩ := entry
  by_cases same : key = k
  · simp [last?, same]
  · simp [last?, List.lookup_cons, same, beq_false_of_ne same]

theorem isSome_last?_iff {key : Bytes} {entries : List (Bytes × α)} :
    (last? key entries).isSome ↔ key ∈ entries.map Prod.fst := by
  rw [last?, List.lookup_isSome_iff]
  constructor
  · rintro ⟨entry, member, same⟩
    exact List.mem_map.mpr ⟨entry, List.mem_reverse.mp member, (eq_of_beq same).symm⟩
  · intro member
    obtain ⟨entry, there, rfl⟩ := List.mem_map.mp member
    exact ⟨entry, List.mem_reverse.mpr there, beq_self_eq_true _⟩

theorem insertMany_append (t : Table α) (before after : List (Bytes × α)) :
    t.insertMany (before ++ after) = (t.insertMany before).insertMany after :=
  List.foldl_append

/-- Entries hide what has been under their keys, and the last of them counts. -/
theorem get?_insertMany_last? (t : Table α) (entries : List (Bytes × α)) (key : Bytes) :
    (t.insertMany entries).get? key = (last? key entries).or (t.get? key) := by
  induction entries using List.reverseRecOn with
  | nil => rfl
  | append_singleton before entry ih =>
      rw [insertMany_append, insertMany_cons, insertMany_nil, get?_insert, ih, last?_concat]
      by_cases same : key = entry.1 <;> simp [same]

@[simp] theorem get?_empty_insertMany (entries : List (Bytes × α)) (key : Bytes) :
    (empty.insertMany entries).get? key = last? key entries := by
  simp [get?_insertMany_last?]

theorem mem_keys_empty_insertMany {entries : List (Bytes × α)} {key : Bytes} :
    key ∈ (empty.insertMany entries).toList.map Prod.fst ↔ key ∈ entries.map Prod.fst := by
  rw [← isSome_get?_iff, get?_empty_insertMany, isSome_last?_iff]

/-- Entries collected in a table do to another table what they do as they come. -/
theorem insertMany_collected (t : Table α) (entries : List (Bytes × α)) :
    t.insertMany (empty.insertMany entries).toList = t.insertMany entries := by
  ext key : 1
  rw [get?_insertMany, get?_empty_insertMany, get?_insertMany_last?]

end TimestampChain.Table
