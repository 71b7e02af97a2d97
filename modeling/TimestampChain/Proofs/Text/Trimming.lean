import Mathlib.Data.List.TakeWhile
import TimestampChain.Text.Blank

/-!
# Trimmed texts

Trimming takes away all blanks in front of a text and behind it, and nothing else.
-/

namespace TimestampChain

/-- The text is the line without the blanks at its two ends. -/
structure Trims (line text : String) : Prop where
  around : ∃ front back, line.toList = front ++ (text.toList ++ back) ∧
    (∀ c ∈ front, isBlank c) ∧ ∀ c ∈ back, isBlank c
  bare : (∀ c ∈ text.toList.head?, ¬ isBlank c) ∧ ∀ c ∈ text.toList.getLast?, ¬ isBlank c

variable {line text other : String} {front middle back : List Char}

theorem dropWhile_isBlank_of_bare (blank : ∀ c ∈ front, isBlank c)
    (bare : ∀ c ∈ middle.head?, ¬ isBlank c) : (front ++ middle).dropWhile isBlank = middle := by
  rw [List.dropWhile_append_of_pos blank]
  cases middle with
  | nil => rfl
  | cons c rest => exact List.dropWhile_cons_of_neg (bare c rfl)

theorem trimBlanks_of_around (front_blank : ∀ c ∈ front, isBlank c) (back_blank : ∀ c ∈ back, isBlank c)
    (first : ∀ c ∈ middle.head?, ¬ isBlank c) (last : ∀ c ∈ middle.getLast?, ¬ isBlank c) :
    trimBlanks (front ++ (middle ++ back)) = middle := by
  by_cases empty : middle = []
  · subst empty
    have all : ∀ c ∈ front ++ back, isBlank c := by
      intro c member
      exact (List.mem_append.mp member).elim (front_blank c) (back_blank c)
    have none : (front ++ back ++ []).dropWhile isBlank = [] := dropWhile_isBlank_of_bare all nofun
    rw [List.append_nil] at none
    rw [trimBlanks, List.nil_append, none]
    rfl
  · have first' : ∀ c ∈ (middle ++ back).head?, ¬ isBlank c := by
      obtain ⟨c, rest, rfl⟩ := List.exists_cons_of_ne_nil empty
      exact first
    have last' : ∀ c ∈ middle.reverse.head?, ¬ isBlank c := by
      rwa [List.head?_reverse]
    have back_blank' : ∀ c ∈ back.reverse, isBlank c := by simpa using back_blank
    rw [trimBlanks, dropWhile_isBlank_of_bare front_blank first', List.reverse_append]
    rw [dropWhile_isBlank_of_bare back_blank' last', List.reverse_reverse]

theorem Trims.eq (trims : Trims line text) : trimText line = text := by
  obtain ⟨⟨front, back, split, front_blank, back_blank⟩, first, last⟩ := trims
  rw [trimText, split, trimBlanks_of_around front_blank back_blank first last, String.ofList_toList]

theorem bare_dropWhile_isBlank (characters : List Char) :
    ∀ c ∈ (characters.dropWhile isBlank).head?, ¬ isBlank c := by
  intro c first
  have stopped := List.head?_dropWhile_not isBlank characters
  rw [first] at stopped
  simpa using stopped

theorem trims_trimText (line : String) : Trims line (trimText line) := by
  have blank : ∀ characters : List Char, ∀ c ∈ characters.takeWhile isBlank, isBlank c :=
    fun characters => List.all_eq_true.mp List.all_takeWhile
  have text : (trimText line).toList = trimBlanks line.toList := String.toList_ofList
  -- The blanks behind are found from the end of what is left without those in front.
  have cut : trimBlanks line.toList ++
      ((line.toList.dropWhile isBlank).reverse.takeWhile isBlank).reverse =
        line.toList.dropWhile isBlank := by
    rw [trimBlanks, ← List.reverse_append, List.takeWhile_append_dropWhile, List.reverse_reverse]
  constructor
  case around =>
    refine ⟨line.toList.takeWhile isBlank,
      ((line.toList.dropWhile isBlank).reverse.takeWhile isBlank).reverse, ?_, blank _, ?_⟩
    · rw [text, cut, List.takeWhile_append_dropWhile]
    · exact fun c member => blank _ c (List.mem_reverse.mp member)
  case bare =>
    rw [text]
    constructor
    · intro c first
      refine bare_dropWhile_isBlank line.toList c ?_
      rw [← cut, List.head?_append, Option.mem_def.mp first]
      rfl
    · rw [trimBlanks, List.getLast?_reverse]
      exact bare_dropWhile_isBlank _

end TimestampChain
