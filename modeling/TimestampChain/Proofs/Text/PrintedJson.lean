import TimestampChain.Text.Json.Parser

/-!
# Printed JSON

An object of strings and natural numbers is printed on one line, without a character that could end it,
and the printed text is read as that object.
-/

namespace TimestampChain.Json

variable {fuel n : Nat} {c : Char}

/-! ## Strings -/

theorem hexNumber?_of_control (control : n < 32) (rest : List Char) :
    hexNumber? 4 ('0' :: '0' :: hexDigit (n / 16) :: hexDigit n :: rest) = some (n, rest) := by
  have values : ∀ n < 32, ['0', '0', hexDigit (n / 16), hexDigit n].mapM hexValue? =
      some [0, 0, n / 16, n % 16] := by
    decide
  have four : ('0' :: '0' :: hexDigit (n / 16) :: hexDigit n :: rest).take 4 =
      ['0', '0', hexDigit (n / 16), hexDigit n] := rfl
  have number : 16 * (16 * (16 * (16 * 0 + 0) + 0) + n / 16) + n % 16 = n := by omega
  rw [hexNumber?, four, values n control]
  exact congrArg (fun n => some (n, rest)) number

theorem unicodeEscape?_of_control (control : c.toNat < 32) (rest : List Char) :
    unicodeEscape? ('0' :: '0' :: hexDigit (c.toNat / 16) :: hexDigit c.toNat :: rest) =
      some (c, rest) := by
  rw [unicodeEscape?, hexNumber?_of_control control]
  show (if _ then _ else if _ then _ else _) = _
  rw [if_neg (by omega), if_neg (by omega), Char.ofNat_toNat]
  rfl

/-- A character is written as a letter behind a backslash, by its number, or as itself. -/
theorem escape_cases (c : Char) :
    (∃ letter, escape c = ['\\', letter] ∧ letter ≠ 'u' ∧ letterEscape? letter = some c ∧
        32 ≤ letter.toNat) ∨
      (c.toNat < 32 ∧
        escape c = ['\\', 'u', '0', '0', hexDigit (c.toNat / 16), hexDigit c.toNat]) ∨
      (c ≠ '"' ∧ c ≠ '\\' ∧ 32 ≤ c.toNat ∧ escape c = [c]) := by
  by_cases short : c ∈ ['"', '\\', '\x08', '\x0c', '\n', '\r', '\t']
  · simp only [List.mem_cons, List.not_mem_nil, or_false] at short
    rcases short with rfl | rfl | rfl | rfl | rfl | rfl | rfl <;>
      exact .inl ⟨_, rfl, by decide, rfl, by decide⟩
  · simp only [List.mem_cons, List.not_mem_nil, or_false, not_or] at short
    obtain ⟨quote, slash, backspace, feed, line, carriage, tab⟩ := short
    rw [escape, if_neg quote, if_neg slash, if_neg backspace, if_neg feed, if_neg line,
      if_neg carriage, if_neg tab]
    split
    · next control => exact .inr (.inl ⟨control, rfl⟩)
    · next printed => exact .inr (.inr ⟨quote, slash, by omega, rfl⟩)

/-- What a character is written as inside a string is read as the character. -/
theorem stringTail?_escape (fuel : Nat) (c : Char) (rest : List Char) :
    stringTail? (fuel + 1) (escape c ++ rest) =
      (stringTail? fuel rest).map fun found => (c :: found.1, found.2) := by
  have bound (found : Option (List Char × List Char)) :
      (found >>= fun tail => (pure (c :: tail.1, tail.2) : Option _)) =
        found.map fun found => (c :: found.1, found.2) := by
    cases found <;> rfl
  obtain ⟨letter, written, notNumber, read, -⟩ | ⟨control, written⟩ | ⟨quote, slash, printed, written⟩ :=
    escape_cases c <;> rw [written]
  · show stringTail? (fuel + 1) ('\\' :: letter :: rest) = _
    rw [stringTail?, read]
    · exact bound _
    · exact notNumber
  · have read := unicodeEscape?_of_control control rest
    show (unicodeEscape? ('0' :: '0' :: hexDigit (c.toNat / 16) :: hexDigit c.toNat :: rest) >>= _) = _
    rw [read]
    exact bound _
  · show stringTail? (fuel + 1) (c :: rest) = _
    rw [stringTail?, if_neg (by simp [slash, printed])]
    · exact bound _
    · exact quote
    · exact fun _ backslash => absurd backslash slash
    · exact fun _ _ backslash => absurd backslash slash

theorem stringTail?_quoted {cs : List Char} (enough : cs.length < fuel) (rest : List Char) :
    stringTail? fuel (cs.flatMap escape ++ '"' :: rest) = some (cs, rest) := by
  induction cs generalizing fuel with
  | nil =>
      obtain ⟨fuel, rfl⟩ := Nat.exists_eq_add_of_lt enough
      rfl
  | cons c cs ih =>
      obtain ⟨fuel, rfl⟩ : ∃ m, fuel = m + 1 := ⟨fuel - 1, by omega⟩
      rw [List.flatMap_cons, List.append_assoc, stringTail?_escape]
      rw [ih (Nat.lt_of_succ_lt_succ enough)]
      rfl

theorem length_le_flatMap_escape (cs : List Char) : cs.length ≤ (cs.flatMap escape).length := by
  induction cs with
  | nil => exact Nat.le_refl _
  | cons c cs ih =>
      have one : 1 ≤ (escape c).length := by
        obtain ⟨_, written, -⟩ | ⟨-, written⟩ | ⟨-, -, -, written⟩ := escape_cases c <;>
          rw [written] <;> simp
      rw [List.flatMap_cons, List.length_append, List.length_cons]
      omega

/-- A string is read from what it is written as, behind its opening quote. -/
theorem string?_quoted (s : String) (rest : List Char) :
    string? (s.toList.flatMap escape ++ '"' :: rest) = some (s, rest) := by
  have enough : s.toList.length < (s.toList.flatMap escape ++ '"' :: rest).length + 1 := by
    have written := length_le_flatMap_escape s.toList
    rw [List.length_append]
    omega
  rw [string?, stringTail?_quoted enough, Option.map_some]
  exact congrArg (fun s => some (s, rest)) String.ofList_toList

theorem quote_append (s : String) (rest : List Char) :
    quote s ++ rest = '"' :: (s.toList.flatMap escape ++ '"' :: rest) := by
  rw [quote, List.cons_append, List.append_assoc]
  rfl

/-! ## Numbers -/

theorem range_of_mem_toDigits (member : c ∈ Nat.toDigits 10 n) : '0' ≤ c ∧ c ≤ '9' := by
  have digit := Nat.isDigit_of_mem_toDigits (by decide) (Nat.le_refl _) member
  simp only [Char.isDigit, Bool.and_eq_true, decide_eq_true_eq] at digit
  exact digit

theorem isDigit_of_mem_toDigits (member : c ∈ Nat.toDigits 10 n) : Decimal.isDigit c = true := by
  rw [Decimal.isDigit, Decimal.digit?, if_pos (range_of_mem_toDigits member)]
  rfl

theorem toDigits_eq_cons (n : Nat) :
    ∃ d ds, Nat.toDigits 10 n = d :: ds ∧ Decimal.isDigit d = true := by
  obtain ⟨d, ds, digits⟩ := List.exists_cons_of_ne_nil (Nat.toDigits_ne_nil : Nat.toDigits 10 n ≠ [])
  exact ⟨d, ds, digits, isDigit_of_mem_toDigits (digits ▸ List.mem_cons_self)⟩

theorem span_toDigits (n : Nat) (text : List Char) (alien : ∀ c ∈ text.head?, Decimal.isDigit c = false) :
    Decimal.span (Nat.toDigits 10 n ++ text) = (Nat.toDigits 10 n, text) := by
  have digits : ∀ c ∈ Nat.toDigits 10 n, Decimal.isDigit c = true := fun c => isDigit_of_mem_toDigits
  have none_behind : text.takeWhile Decimal.isDigit = [] ∧ text.dropWhile Decimal.isDigit = text := by
    cases text with
    | nil => exact ⟨rfl, rfl⟩
    | cons c text =>
        have other := alien c rfl
        exact ⟨List.takeWhile_cons_of_neg (by simp [other]), List.dropWhile_cons_of_neg (by simp [other])⟩
  rw [Decimal.span, List.takeWhile_append_of_pos digits, List.dropWhile_append_of_pos digits]
  rw [none_behind.1, none_behind.2, List.append_nil]

theorem le_ofDigitChars (digits : List Char) (n : Nat) : n ≤ Nat.ofDigitChars 10 digits n := by
  induction digits generalizing n with
  | nil => exact Nat.le_refl _
  | cons c digits ih =>
      rw [Nat.ofDigitChars_cons]
      exact Nat.le_trans (by omega) (ih _)

/-- Digits are gathered into their number, as long as sixty-four bits hold it. -/
theorem gather_eq {digits : List Char} (all : ∀ c ∈ digits, Decimal.isDigit c = true)
    (fits : Nat.ofDigitChars 10 digits n < UInt64.size) :
    JsonNumber.gather n digits = (Nat.ofDigitChars 10 digits n, 0) := by
  induction digits generalizing n with
  | nil => rfl
  | cons c digits ih =>
      obtain ⟨digit, later⟩ := List.forall_mem_cons.mp all
      have value : (Decimal.digit? c).getD 0 = c.toNat - 48 := by
        rw [Decimal.isDigit, Decimal.digit?] at digit
        split at digit
        · next small =>
          rw [Decimal.digit?, if_pos small]
          rfl
        · cases digit
      rw [Nat.ofDigitChars_cons] at fits ⊢
      have next : 10 * n + (Decimal.digit? c).getD 0 < UInt64.size := by
        rw [value]
        exact Nat.lt_of_le_of_lt (le_ofDigitChars digits _) fits
      rw [JsonNumber.gather, if_pos next, value]
      exact ih later fits

theorem head?_toDigits_ne_zero (large : 10 ≤ n) : (Nat.toDigits 10 n).head? ≠ some '0' := by
  induction n using Nat.strongRecOn with
  | ind n ih =>
      rw [Nat.toDigits_of_base_le (by decide) large]
      by_cases large' : 10 ≤ n / 10
      · have here := ih (n / 10) (by omega) large'
        rw [List.head?_append]
        cases head : (Nat.toDigits 10 (n / 10)).head? with
        | none => exact absurd (List.head?_eq_none_iff.mp head) Nat.toDigits_ne_nil
        | some c =>
            rw [head] at here
            exact here
      · have small : n / 10 < 10 := by omega
        have positive : 0 < n / 10 := by omega
        rw [Nat.toDigits_of_lt_base small]
        have all : ∀ d < 10, 0 < d → Nat.digitChar d ≠ '0' := by decide
        exact fun zero => all _ small positive (Option.some.inj zero)

theorem ofDigits?_toDigits (fits : n < UInt64.size) :
    JsonNumber.ofDigits? false (Nat.toDigits 10 n) = some (.whole n) := by
  have value : Nat.ofDigitChars 10 (Nat.toDigits 10 n) 0 = n := Nat.ofDigitChars_ten_toDigits
  have gathered := gather_eq (n := 0) (fun c => isDigit_of_mem_toDigits) (value.symm ▸ fits)
  rw [value] at gathered
  rw [JsonNumber.ofDigits?, gathered]
  rfl

/-- The digits of a number are what a numeral begins with: there are some, and no zero leads others. -/
theorem toDigits_leading (n : Nat) :
    ¬ ((Nat.toDigits 10 n).isEmpty ∨
      ((Nat.toDigits 10 n).head? = some '0' ∧ 1 < (Nat.toDigits 10 n).length)) := by
  rintro (empty | ⟨zero, long⟩)
  · exact Nat.toDigits_ne_nil (List.isEmpty_iff.mp empty)
  · by_cases large : 10 ≤ n
    · exact head?_toDigits_ne_zero large zero
    · rw [Nat.toDigits_of_lt_base (by omega)] at long
      exact absurd long (by simp)

/-- A natural number is read from its digits, in front of what ends a member of an object. -/
theorem number?_toDigits (fits : n < UInt64.size) {c : Char} (closing : c = ',' ∨ c = '\x7d')
    (rest : List Char) :
    number? (Nat.toDigits 10 n ++ c :: rest) = some (.whole n, c :: rest) := by
  have alien : Decimal.isDigit c = false := by rcases closing with rfl | rfl <;> decide
  have spanned := span_toDigits n (c :: rest) (by simpa using alien)
  have unsigned : ∀ text, Nat.toDigits 10 n ++ c :: rest ≠ '-' :: text := by
    obtain ⟨d, ds, digits, digit⟩ := toDigits_eq_cons n
    intro text minus
    rw [digits, List.cons_append] at minus
    rw [(List.cons.inj minus).1] at digit
    revert digit
    decide
  have fraction : fraction? (c :: rest) = some (none, c :: rest) := by
    rcases closing with rfl | rfl <;> rfl
  have exponent : exponent? (c :: rest) = some (none, c :: rest) := by
    rcases closing with rfl | rfl <;> rfl
  rw [number?, spanned]
  · dsimp only
    rw [if_neg (toDigits_leading n), fraction]
    show (exponent? (c :: rest) >>= _) = _
    rw [exponent]
    show (JsonNumber.ofDigits? false (Nat.toDigits 10 n) >>= _) = _
    rw [ofDigits?_toDigits fits]
    rfl
  · exact unsigned

/-! ## Objects -/

inductive IsField : Json → Prop
  | string (s : String) : IsField (.string s)
  | natural {n : Nat} (fits : n < UInt64.size) : IsField (.natural n)

theorem skipSpace_of_head {text : List Char} (solid : isSpace c = false) :
    skipSpace (c :: text) = c :: text :=
  List.dropWhile_cons_of_neg (by simp [solid])

theorem write_natural (n : Nat) : write (.natural n) = Nat.toDigits 10 n := rfl

theorem value?_of_digit {depth : Nat} {text : List Char} (digit : Decimal.isDigit c = true) :
    value? (fuel + 1) depth (c :: text) =
      (number? (c :: text)).map fun found => (.number found.1, found.2) := by
  have other : ∀ d, Decimal.isDigit d = false → c ≠ d := by
    rintro d alien rfl
    rw [digit] at alien
    cases alien
  have solid : isSpace c = false := by
    have blank : ∀ d, isSpace d = true → Decimal.isDigit d = false := by
      intro d space
      simp only [isSpace, Bool.or_eq_true, decide_eq_true_eq] at space
      rcases space with ((rfl | rfl) | rfl) | rfl <;> decide
    cases space : isSpace c with
    | false => rfl
    | true => exact absurd rfl (other c (blank c space))
  rw [value?, skipSpace_of_head solid]
  split
  · next none_left => cases none_left
  · next same => exact absurd (List.cons.inj same).1 (other _ (by decide))
  · next same => exact absurd (List.cons.inj same).1 (other _ (by decide))
  · next same => exact absurd (List.cons.inj same).1 (other _ (by decide))
  · next same =>
    obtain ⟨rfl, rfl⟩ := List.cons.inj same
    rw [if_neg (other _ (by decide)), if_neg (other _ (by decide)), if_neg (other _ (by decide))]

theorem value?_written {value : Json} (field : IsField value) (fuel depth : Nat) {c : Char}
    (closing : c = ',' ∨ c = '\x7d') (rest : List Char) :
    value? (fuel + 1) depth (write value ++ c :: rest) = some (value, c :: rest) := by
  cases field with
  | string s =>
      have read := string?_quoted s (c :: rest)
      rw [write, quote_append, value?, skipSpace_of_head (by decide)]
      show (string? _).map _ = _
      rw [read]
      rfl
  | @natural n fits =>
      have read := number?_toDigits fits closing rest
      obtain ⟨d, ds, digits, digit⟩ := toDigits_eq_cons n
      rw [digits, List.cons_append] at read
      rw [write_natural, digits, List.cons_append, value?_of_digit digit, read]
      rfl

theorem members?_of_member {value : Json} (field : IsField value) (name : String) (fuel depth : Nat)
    {c : Char} (closing : c = ',' ∨ c = '\x7d') (rest : List Char) :
    members? (fuel + 2) depth (quote name ++ ':' :: (write value ++ c :: rest)) =
      if c = '\x7d' then some ([(name, value)], rest)
      else (members? (fuel + 1) depth rest).map fun found => ((name, value) :: found.1, found.2) := by
  have named := string?_quoted name (':' :: (write value ++ c :: rest))
  have valued := value?_written field fuel depth closing rest
  have colon : skipSpace (':' :: (write value ++ c :: rest)) = ':' :: (write value ++ c :: rest) :=
    skipSpace_of_head (by decide)
  have closed : skipSpace (c :: rest) = c :: rest := by
    rcases closing with rfl | rfl <;> exact skipSpace_of_head (by decide)
  rw [quote_append, members?, skipSpace_of_head (by decide)]
  show (string? _ >>= _) = _
  rw [named, Option.bind_eq_bind, Option.bind_some]
  dsimp only
  rw [colon]
  show (value? _ _ _ >>= _) = _
  rw [valued, Option.bind_eq_bind, Option.bind_some]
  dsimp only
  rw [closed]
  rcases closing with rfl | rfl
  · rw [if_neg (by decide)]
    show (members? (fuel + 1) depth rest >>= _) = _
    cases members? (fuel + 1) depth rest <;> rfl
  · rw [if_pos rfl]
    rfl

theorem members?_written {members : List (String × Json)} (nonempty : members ≠ [])
    (fields : ∀ member ∈ members, IsField member.2) (enough : members.length < fuel) (depth : Nat)
    (rest : List Char) :
    members? fuel depth (writeMembers members ++ '\x7d' :: rest) = some (members, rest) := by
  induction members generalizing fuel with
  | nil => exact absurd rfl nonempty
  | cons member others ih =>
      obtain ⟨name, value⟩ := member
      obtain ⟨field, later⟩ := List.forall_mem_cons.mp fields
      have enough : others.length + 1 < fuel := enough
      obtain ⟨fuel, rfl⟩ : ∃ m, fuel = m + 2 := ⟨fuel - 2, by omega⟩
      cases others with
      | nil =>
          have read := members?_of_member field name fuel depth (.inr rfl) rest
          rw [if_pos rfl] at read
          rwa [writeMembers, List.append_assoc]
      | cons next others =>
          have read := members?_of_member field name fuel depth (.inl rfl)
            (writeMembers (next :: others) ++ '\x7d' :: rest)
          rw [if_neg (by decide), ih nofun later (by omega)] at read
          rw [writeMembers, List.append_assoc, List.cons_append, List.append_assoc]
          · exact read
          · exact nofun

theorem writeMembers_head (member : String × Json) (others : List (String × Json)) :
    ∃ text, writeMembers (member :: others) = '"' :: text := by
  obtain ⟨name, value⟩ := member
  cases others with
  | nil =>
      rw [writeMembers, quote_append]
      exact ⟨_, rfl⟩
  | cons next others =>
      rw [writeMembers, quote_append]
      · exact ⟨_, rfl⟩
      · exact nofun

theorem length_le_writeMembers (members : List (String × Json)) :
    members.length ≤ (writeMembers members).length := by
  induction members with
  | nil => exact Nat.zero_le _
  | cons member others ih =>
      obtain ⟨name, value⟩ := member
      cases others with
      | nil =>
          rw [writeMembers, List.length_append, List.length_cons, List.length_cons, List.length_nil]
          omega
      | cons next others =>
          rw [writeMembers]
          · simp only [List.length_append, List.length_cons] at ih ⊢
            omega
          · exact nofun

theorem value?_object {members : List (String × Json)} (nonempty : members ≠ [])
    (fields : ∀ member ∈ members, IsField member.2) (enough : members.length < fuel) {depth : Nat}
    (deep : 1 < depth) (rest : List Char) :
    value? (fuel + 1) depth ('\x7b' :: (writeMembers members ++ '\x7d' :: rest)) =
      some (.object members, rest) := by
  have read := members?_written nonempty fields enough (depth - 1) rest
  obtain ⟨member, others, rfl⟩ := List.exists_cons_of_ne_nil nonempty
  obtain ⟨text, head⟩ := writeMembers_head member others
  rw [head, List.cons_append] at read ⊢
  rw [value?, skipSpace_of_head (by decide)]
  show (if depth ≤ 1 then none else _) = _
  rw [if_neg (by omega), skipSpace_of_head (by decide)]
  show (members? _ _ _).map _ = _
  rw [read]
  rfl

/-- A printed object of strings and natural numbers is read as that object. -/
theorem parse?_render {members : List (String × Json)} (nonempty : members ≠ [])
    (fields : ∀ member ∈ members, IsField member.2) :
    parse? (Json.object members).render = some (.object members) := by
  have text : (Json.object members).render.toList = '\x7b' :: (writeMembers members ++ ['\x7d']) := by
    rw [render, String.toList_ofList, write]
  have written := length_le_writeMembers members
  have enough : members.length < 2 * (writeMembers members).length + 5 := by omega
  have read := value?_object nonempty fields enough (show 1 < depthLimit by decide) []
  have length : 2 * ('\x7b' :: (writeMembers members ++ ['\x7d'])).length + 2 =
      2 * (writeMembers members).length + 5 + 1 := by
    simp only [List.length_cons, List.length_append, List.length_nil]
    omega
  rw [parse?, text, length, read]
  rfl

/-! ## One line -/

theorem printable_of_mem_escape {d : Char} (member : d ∈ escape c) : 32 ≤ d.toNat := by
  obtain ⟨letter, written, -, -, printed⟩ | ⟨control, written⟩ | ⟨-, -, printed, written⟩ :=
    escape_cases c <;> rw [written] at member
  · simp only [List.mem_cons, List.not_mem_nil, or_false] at member
    rcases member with rfl | rfl
    · decide
    · exact printed
  · have digits : ∀ n < 32, 32 ≤ (hexDigit (n / 16)).toNat ∧ 32 ≤ (hexDigit n).toNat := by decide
    simp only [List.mem_cons, List.not_mem_nil, or_false] at member
    rcases member with rfl | rfl | rfl | rfl | rfl | rfl
    · decide
    · decide
    · decide
    · decide
    · exact (digits _ control).1
    · exact (digits _ control).2
  · obtain rfl := List.mem_singleton.mp member
    exact printed

theorem printable_of_mem_quote {s : String} {d : Char} (member : d ∈ quote s) : 32 ≤ d.toNat := by
  simp only [quote, List.mem_cons, List.mem_append, List.mem_flatMap, List.not_mem_nil,
    or_false] at member
  rcases member with rfl | ⟨c, -, written⟩ | rfl
  · decide
  · exact printable_of_mem_escape written
  · decide

theorem printable_of_mem_field {value : Json} (field : IsField value) {d : Char}
    (member : d ∈ write value) : 32 ≤ d.toNat := by
  cases field with
  | string s => exact printable_of_mem_quote member
  | natural fits =>
      rw [write_natural] at member
      exact Nat.le_trans (by decide) (range_of_mem_toDigits member).1

theorem printable_of_mem_writeMembers {members : List (String × Json)}
    (fields : ∀ member ∈ members, IsField member.2) {d : Char} (written : d ∈ writeMembers members) :
    32 ≤ d.toNat := by
  induction members with
  | nil => exact absurd written List.not_mem_nil
  | cons member others ih =>
      obtain ⟨name, value⟩ := member
      obtain ⟨field, later⟩ := List.forall_mem_cons.mp fields
      cases others with
      | nil =>
          simp only [writeMembers, List.mem_append, List.mem_cons] at written
          rcases written with named | rfl | valued
          · exact printable_of_mem_quote named
          · decide
          · exact printable_of_mem_field field valued
      | cons next others =>
          simp only [writeMembers, List.mem_append, List.mem_cons] at written
          rcases written with named | rfl | valued | rfl | rest
          · exact printable_of_mem_quote named
          · decide
          · exact printable_of_mem_field field valued
          · decide
          · exact ih later rest

/-- A printed object of strings and natural numbers has no control characters, among which are the ends
of lines. -/
theorem printable_of_mem_render {members : List (String × Json)}
    (fields : ∀ member ∈ members, IsField member.2) {d : Char}
    (written : d ∈ (Json.object members).render.toList) : 32 ≤ d.toNat := by
  rw [render, String.toList_ofList, write] at written
  simp only [List.mem_cons, List.mem_append, List.not_mem_nil, or_false] at written
  rcases written with rfl | inside | rfl
  · decide
  · exact printable_of_mem_writeMembers fields inside
  · decide

end TimestampChain.Json
