import TimestampChain.Settings.Value

/-!
# How setting values are read

Which values are read as a switch or as a text, and as which one. Nulls, lists and tables are read as
neither, and of the words only eight are switches.
-/

namespace TimestampChain.SettingValue

/-! ## Switches -/

/-- The word is one of the others but for the case of its letters. -/
def IsAmong (word : String) (others : List String) : Prop :=
  ∃ other ∈ others, word.toList.map Char.toLower = other.toList

inductive ReadsAsSwitch : SettingValue → Bool → Prop
  | switch (b : Bool) : ReadsAsSwitch (.switch b) b
  | zero : ReadsAsSwitch (.integer 0) false
  | nonzero {n : Int} (other : n ≠ 0) : ReadsAsSwitch (.integer n) true
  | realZero (negative : Bool) (exponent : Int) :
      ReadsAsSwitch (.real (.finite negative 0 exponent)) false
  | realNonzero {x : Binary64} (other : ∀ negative exponent, x ≠ .finite negative 0 exponent) :
      ReadsAsSwitch (.real x) true
  | on {word : String} (listed : IsAmong word ["1", "true", "on", "yes"]) :
      ReadsAsSwitch (.text word) true
  | off {word : String} (listed : IsAmong word ["0", "false", "off", "no"]) :
      ReadsAsSwitch (.text word) false

variable {value : SettingValue} {word text : String} {b : Bool}

theorem isZero_eq_true_iff {x : Binary64} :
    x.isZero = true ↔ ∃ negative exponent, x = .finite negative 0 exponent := by
  cases x <;> simp [Binary64.isZero]

theorem isAmong_iff {others : List String} :
    IsAmong word others ↔ String.ofList (word.toList.map Char.toLower) ∈ others := by
  constructor
  · rintro ⟨other, listed, same⟩
    rwa [same, String.ofList_toList]
  · exact fun listed => ⟨_, listed, String.toList_ofList.symm⟩

theorem switchWord?_eq_some_iff :
    switchWord? word = some b ↔
      (b = true ∧ IsAmong word ["1", "true", "on", "yes"]) ∨
        (b = false ∧ IsAmong word ["0", "false", "off", "no"]) := by
  rw [isAmong_iff, isAmong_iff, switchWord?]
  generalize String.ofList (word.toList.map Char.toLower) = small
  simp only [List.mem_cons, List.not_mem_nil, or_false]
  split
  · next on =>
    -- No word is on both lists.
    have other : ¬ (small = "0" ∨ small = "false" ∨ small = "off" ∨ small = "no") := by
      rcases on with rfl | rfl | rfl | rfl <;> decide
    simp [on, other, eq_comm]
  · next silent =>
    split
    · next off => simp [silent, off, eq_comm]
    · next unknown => simp [silent, unknown]

theorem asSwitch?_eq_some_iff : value.asSwitch? = some b ↔ value.ReadsAsSwitch b := by
  constructor
  · intro read
    cases value with
    | switch b' =>
        obtain rfl := Option.some.inj read
        exact .switch b'
    | integer n =>
        obtain rfl := Option.some.inj read
        by_cases zero : n = 0
        · rw [zero]
          exact .zero
        · rw [decide_eq_true zero]
          exact .nonzero zero
    | real x =>
        obtain rfl := Option.some.inj read
        cases zero : x.isZero with
        | true =>
            obtain ⟨negative, exponent, rfl⟩ := isZero_eq_true_iff.mp zero
            exact .realZero negative exponent
        | false =>
            refine .realNonzero fun negative exponent same => ?_
            rw [isZero_eq_true_iff.mpr ⟨negative, exponent, same⟩] at zero
            cases zero
    | text word =>
        obtain ⟨rfl, listed⟩ | ⟨rfl, listed⟩ := switchWord?_eq_some_iff.mp read
        · exact .on listed
        · exact .off listed
    | null | list | table => cases read
  · rintro (b | _ | other | ⟨negative, exponent⟩ | other | listed | listed)
    · rfl
    · rfl
    · exact congrArg some (decide_eq_true other)
    · rfl
    · next x =>
      have nonzero : x.isZero = false := by
        rw [Bool.eq_false_iff, Ne, isZero_eq_true_iff]
        rintro ⟨negative, exponent, same⟩
        exact other negative exponent same
      show some (!x.isZero) = some true
      rw [nonzero]
      rfl
    · exact switchWord?_eq_some_iff.mpr (.inl ⟨rfl, listed⟩)
    · exact switchWord?_eq_some_iff.mpr (.inr ⟨rfl, listed⟩)

theorem asSwitch?_eq_none_iff : value.asSwitch? = none ↔ ∀ b, ¬ value.ReadsAsSwitch b := by
  simp only [← asSwitch?_eq_some_iff, Option.eq_none_iff_forall_ne_some]

/-! ## Texts -/

inductive ReadsAsText : SettingValue → String → Prop
  | text (s : String) : ReadsAsText (.text s) s
  | on : ReadsAsText (.switch true) "true"
  | off : ReadsAsText (.switch false) "false"
  | integer (n : Int) : ReadsAsText (.integer n) (toString n)
  | real (x : Binary64) : ReadsAsText (.real x) x.text

theorem integerText_eq_toString (n : Int) : integerText n = toString n := by
  cases n with
  | ofNat m => rfl
  | negSucc m =>
      rw [integerText, if_pos (Int.negSucc_lt_zero m)]
      rfl

theorem asText?_eq_some_iff : value.asText? = some text ↔ value.ReadsAsText text := by
  constructor
  · intro read
    cases value with
    | switch b =>
        cases b with
        | true =>
            obtain rfl := Option.some.inj read
            exact .on
        | false =>
            obtain rfl := Option.some.inj read
            exact .off
    | integer n =>
        obtain rfl := Option.some.inj read
        rw [integerText_eq_toString]
        exact .integer n
    | real x =>
        obtain rfl := Option.some.inj read
        exact .real x
    | text s =>
        obtain rfl := Option.some.inj read
        exact .text s
    | null | list | table => cases read
  · rintro (s | _ | _ | n | x)
    · rfl
    · rfl
    · rfl
    · exact congrArg some (integerText_eq_toString n)
    · rfl

theorem asText?_eq_none_iff : value.asText? = none ↔ ∀ text, ¬ value.ReadsAsText text := by
  simp only [← asText?_eq_some_iff, Option.eq_none_iff_forall_ne_some]

end TimestampChain.SettingValue
