import Mathlib.Data.List.Forall2
import Mathlib.Data.List.TakeWhile
import TimestampChain.Proofs.Answers
import TimestampChain.Proofs.Settings.Readings
import TimestampChain.Settings.Layers

/-!
# Which source decides a setting

Settings come from files, in order, and from the environment behind them. The last source that defines a
setting decides it, whether or not its value can be read, and within a source the last value does. Texts
that cannot be read leave the default, and a switch that cannot be read is an error. So is a file that cannot
be used, whatever the other sources give.
-/

namespace TimestampChain

namespace SettingSource

variable {source entries : SettingSource} {name : String} {value : SettingValue}
  {file? : String → Option String} {path : String}

/-! ## One source -/

/-- The source gives the value to the name, and none behind it. -/
def Defines (source : SettingSource) (name : String) (value : SettingValue) : Prop :=
  ∃ front back, source = front ++ (name, value) :: back ∧ ∀ entry ∈ back, entry.1 ≠ name

theorem value?_eq_some_iff : source.value? name = some value ↔ source.Defines name value := by
  rw [value?, Option.map_eq_some_iff]
  constructor
  · rintro ⟨⟨found, value⟩, last, rfl⟩
    obtain ⟨named, front, back, split, others⟩ := List.find?_eq_some_iff_append.mp last
    obtain rfl : found = name := of_decide_eq_true named
    refine ⟨back.reverse, front.reverse, ?_, fun entry member => ?_⟩
    · rw [← List.reverse_inj, split]
      simp
    · simpa using others entry (List.mem_reverse.mp member)
  · rintro ⟨front, back, rfl, others⟩
    refine ⟨(name, value), List.find?_eq_some_iff_append.mpr ⟨by simp, ?_⟩, rfl⟩
    exact ⟨back.reverse, front.reverse, by simp, by simpa using others⟩

theorem value?_eq_none_iff :
    source.value? name = none ↔ ∀ value, ¬ source.Defines name value := by
  simp only [← value?_eq_some_iff, Option.eq_none_iff_forall_ne_some]

/-! ## Plain names -/

def Plain (name : String) : Prop := ∀ c ∈ name.toList, c.isLower ∨ c.isDigit ∨ c = '_'

instance (name : String) : Decidable (Plain name) :=
  List.decidableBAll _ name.toList

theorem isNameChar_of_plain {c : Char} (plain : c.isLower ∨ c.isDigit ∨ c = '_') :
    isNameChar c = true := by
  suffices alphanumeric : c = '_' ∨ c.isAlphanum = true by
    rcases alphanumeric with rfl | alphanumeric
    · rfl
    · simp [isNameChar, alphanumeric]
  change c = '_' ∨ (c.isUpper || c.isLower || c.isDigit) = true
  rcases plain with lower | digit | underscore
  · simp [lower]
  · simp [digit]
  · exact .inl underscore

theorem entry_of_plain (plain : Plain name) (value : SettingValue) :
    entry name value = (name, value) := by
  have whole : name.toList.takeWhile isNameChar = name.toList := by
    rw [List.takeWhile_eq_self_iff]
    exact fun c member => isNameChar_of_plain (plain c member)
  have none_behind : name.toList.drop name.toList.length = [] := List.drop_length
  rw [entry, whole, none_behind]
  simp

theorem map_entry_of_plain (plain : ∀ entry ∈ entries, Plain entry.1) :
    (entries.map fun given => entry given.1 given.2) = entries := by
  refine (List.map_congr_left fun given member => ?_).trans (List.map_id' entries)
  exact entry_of_plain (plain given member) given.2

/-! ## Files -/

def spelt? (file? : String → Option String) (path : String) : Option (String × String) :=
  (spellings path).findSome? fun path => (file? path).map fun text => (path, text)

def locate? (file? : String → Option String) (path : String) : Option (Format × String) :=
  (spelt? file? path).bind fun found =>
    (formatOf? found.1).map fun format => (format, String.ofList (dropOrderMark found.2.toList))

/-- What the file at a path contains: names with their values, in order. -/
inductive Contains (file? : String → Option String) (path : String) : SettingSource → Prop
  | toml {text : String} {entries : SettingSource} (there : locate? file? path = some (.toml, text))
      (read : Toml.parse? text = some entries) : Contains file? path entries
  | json {text : String} {members : List (String × Json)}
      (there : locate? file? path = some (.json, text))
      (read : Json.parse? text = some (.object members)) :
      Contains file? path (members.map fun member => (member.1, ofJsonValue member.2))

inductive Unusable (file? : String → Option String) (path : String) : Prop
  | missing (absent : ∀ spelling ∈ spellings path, file? spelling = none)
  | formless {spelling text : String} (there : spelt? file? path = some (spelling, text))
      (alien : formatOf? spelling = none)
  | malformedToml {text : String} (there : locate? file? path = some (.toml, text))
      (unread : Toml.parse? text = none)
  | malformedJson {text : String} (there : locate? file? path = some (.json, text))
      (unread : Json.parse? text = none)
  | notObject {text : String} {root : Json} (there : locate? file? path = some (.json, text))
      (read : Json.parse? text = some root) (other : ∀ members, root ≠ .object members)

def entries? (format : Format) (text : String) : Option SettingSource :=
  match format with
  | .toml => Toml.parse? text
  | .json =>
    match Json.parse? text with
    | some (.object members) => some (members.map fun member => (member.1, ofJsonValue member.2))
    | _ => none

def contents? (file? : String → Option String) (path : String) : Option SettingSource :=
  (locate? file? path).bind fun located => entries? located.1 located.2

theorem contents?_of_located {format : Format} {text : String}
    (there : locate? file? path = some (format, text)) :
    contents? file? path = entries? format text := by
  rw [contents?, there, Option.bind_some]

theorem contents?_of_nowhere (nowhere : locate? file? path = none) :
    contents? file? path = none := by
  rw [contents?, nowhere, Option.bind_none]

theorem contains_iff : Contains file? path entries ↔ contents? file? path = some entries := by
  constructor
  · rintro (⟨there, read⟩ | ⟨there, read⟩)
    · rwa [contents?_of_located there]
    · rw [contents?_of_located there, entries?, read]
  · intro given
    obtain ⟨⟨format, text⟩, there, read⟩ := Option.bind_eq_some_iff.mp given
    cases format with
    | toml => exact .toml there read
    | json =>
        dsimp only [entries?] at read
        split at read
        · next members parsed =>
          obtain rfl := Option.some.inj read
          exact .json there parsed
        · exact absurd read nofun

theorem locate?_eq_none_iff :
    locate? file? path = none ↔
      (∀ spelling ∈ spellings path, file? spelling = none) ∨
        ∃ spelling text, spelt? file? path = some (spelling, text) ∧ formatOf? spelling = none := by
  have absent : spelt? file? path = none ↔ ∀ spelling ∈ spellings path, file? spelling = none := by
    simp only [spelt?, List.findSome?_eq_none_iff, Option.map_eq_none_iff]
  rw [locate?, ← absent]
  cases spelt? file? path with
  | none => simp
  | some found => simp [Option.map_eq_none_iff, Prod.ext_iff]

theorem unusable_iff : Unusable file? path ↔ contents? file? path = none := by
  constructor
  · rintro (absent | ⟨there, alien⟩ | ⟨there, unread⟩ | ⟨there, unread⟩ | ⟨there, read, other⟩)
    · exact contents?_of_nowhere (locate?_eq_none_iff.mpr (.inl absent))
    · exact contents?_of_nowhere (locate?_eq_none_iff.mpr (.inr ⟨_, _, there, alien⟩))
    · rwa [contents?_of_located there]
    · rw [contents?_of_located there, entries?, unread]
    · rw [contents?_of_located there, entries?, read]
      split
      · next members same => exact absurd (Option.some.inj same) (other members)
      · rfl
  · intro silent
    cases there : locate? file? path with
    | none =>
        rcases locate?_eq_none_iff.mp there with absent | ⟨spelling, text, found, alien⟩
        · exact .missing absent
        · exact .formless found alien
    | some located =>
        obtain ⟨format, text⟩ := located
        rw [contents?_of_located there] at silent
        cases format with
        | toml => exact .malformedToml there silent
        | json =>
            cases parsed : Json.parse? text with
            | none => exact .malformedJson there parsed
            | some root =>
                refine .notObject there parsed ?_
                rintro members rfl
                rw [entries?, parsed] at silent
                cases silent

theorem ofText?_eq (format : Format) (text : String) :
    ofText? format text = (entries? format (String.ofList (dropOrderMark text.toList))).map
      (List.map fun given => entry given.1 given.2) := by
  cases format with
  | toml => rfl
  | json =>
      change ofJson? (String.ofList (dropOrderMark text.toList)) = _
      unfold ofJson? entries?
      cases Json.parse? (String.ofList (dropOrderMark text.toList)) with
      | none => rfl
      | some root =>
          cases root with
          | object members =>
              refine congrArg some ?_
              rw [List.map_map]
              rfl
          | _ => rfl

/-- What a file gives is what it contains, name by name. -/
theorem ofFile?_eq (file? : String → Option String) (path : String) :
    ofFile? file? path =
      (contents? file? path).map (List.map fun given => entry given.1 given.2) := by
  unfold ofFile? contents? locate?
  change (spelt? file? path).bind _ = _
  cases spelt? file? path with
  | none => rfl
  | some found =>
      obtain ⟨path, text⟩ := found
      dsimp only [Option.bind_some]
      cases formatOf? path with
      | none => rfl
      | some format => exact ofText?_eq format text

theorem ofFile?_eq_some_iff
    (plain : ∀ entries, Contains file? path entries → ∀ entry ∈ entries, Plain entry.1) :
    ofFile? file? path = some entries ↔ Contains file? path entries := by
  rw [ofFile?_eq, Option.map_eq_some_iff]
  constructor
  · rintro ⟨contents, read, rfl⟩
    have contained := contains_iff.mpr read
    rwa [map_entry_of_plain (plain contents contained)]
  · intro contained
    exact ⟨entries, contains_iff.mp contained, map_entry_of_plain (plain entries contained)⟩

theorem ofFile?_eq_none_iff : ofFile? file? path = none ↔ Unusable file? path := by
  rw [ofFile?_eq, Option.map_eq_none_iff, unusable_iff]

/-! ## The environment -/

/-- The variable, which holds the text, gives the value to the name. It gives its text to what it names, and
makes a table of it if it names a step into it. Its letters may be of either case. -/
inductive Sets (key text name : String) : SettingValue → Prop
  | whole (named : key.toList.map lowercase = variableMark ++ name.toList) :
      Sets key text name (.text text)
  | part {steps : List Char}
      (named : key.toList.map lowercase = variableMark ++ (name.toList ++ steps))
      (onward : steps ≠ []) (row : isStepRow steps.length steps = true) : Sets key text name .table

theorem not_isNameChar_of_isStepRow {fuel : Nat} {c : Char} {rest : List Char}
    (row : isStepRow fuel (c :: rest) = true) : isNameChar c = false := by
  unfold isStepRow at row
  split at row
  · next none_left => cases none_left
  · next point => obtain ⟨rfl, -⟩ := List.cons.inj point; rfl
  · next bracket => obtain ⟨rfl, -⟩ := List.cons.inj bracket; rfl
  · cases row

theorem takeWhile_of_isStepRow {fuel : Nat} {name steps : List Char}
    (plain : ∀ c ∈ name, isNameChar c = true) (row : isStepRow fuel steps = true) :
    (name ++ steps).takeWhile isNameChar = name := by
  rw [List.takeWhile_append_of_pos plain]
  cases steps with
  | nil => exact List.append_nil name
  | cons c rest =>
      rw [List.takeWhile_cons_of_neg (by simp [not_isNameChar_of_isStepRow row]), List.append_nil]

/-- What is given to a plain name is given under the name itself or under a step into it. -/
theorem entry_eq_iff {given : String} {read : SettingValue} (plain : Plain name)
    (named : name ≠ "") :
    entry given value = (name, read) ↔
      (given.toList = name.toList ∧ read = value) ∨
        ∃ steps, given.toList = name.toList ++ steps ∧ steps ≠ [] ∧
          isStepRow steps.length steps = true ∧ read = .table := by
  have chars : ∀ c ∈ name.toList, isNameChar c = true :=
    fun c member => isNameChar_of_plain (plain c member)
  constructor
  · intro same
    unfold entry at same
    dsimp only at same
    split at same
    · obtain ⟨rfl, rfl⟩ := Prod.mk.inj same
      exact .inl ⟨rfl, rfl⟩
    · next stepped =>
      obtain ⟨rfl, rfl⟩ := Prod.mk.inj same
      rw [not_or, not_or] at stepped
      obtain ⟨-, onward, row⟩ := stepped
      refine .inr ⟨_, ?_, fun none_behind => onward (List.isEmpty_iff.mpr none_behind),
        Bool.not_eq_false _ |>.mp row, rfl⟩
      have front : given.toList.takeWhile isNameChar <+: given.toList := List.takeWhile_prefix _
      rw [String.toList_ofList]
      exact List.prefix_iff_eq_append.mp front |>.symm
  · rintro (⟨same, rfl⟩ | ⟨steps, split, onward, row, rfl⟩)
    · rw [String.toList_inj.mp same, entry_of_plain plain]
    · have head := takeWhile_of_isStepRow chars row
      have behind : (name.toList ++ steps).drop name.toList.length = steps := List.drop_left
      have some_name : name.toList ≠ [] := fun none => named (String.toList_eq_nil_iff.mp none)
      rw [entry, split, head, behind, if_neg]
      · simp
      · simp [some_name, onward, row]

theorem variableName?_eq_some_iff {key setting : String} :
    variableName? key = some setting ↔
      key.toList.map lowercase = variableMark ++ setting.toList := by
  rw [variableName?, Option.ite_none_right_eq_some, List.isPrefixOf_iff_prefix, Option.some.injEq]
  constructor
  · rintro ⟨⟨rest, split⟩, rfl⟩
    rw [← split, List.drop_left, String.toList_ofList]
  · intro split
    rw [split, List.drop_left, String.ofList_toList]
    exact ⟨List.prefix_append _ _, rfl⟩

theorem entry_variableName?_eq_some_iff {key text : String} (plain : Plain name)
    (named : name ≠ "") :
    (variableName? key).map (fun setting => entry setting (.text text)) = some (name, value) ↔
      Sets key text name value := by
  simp only [Option.map_eq_some_iff, entry_eq_iff plain named, variableName?_eq_some_iff]
  constructor
  · rintro ⟨setting, marked, ⟨same, rfl⟩ | ⟨steps, split, onward, row, rfl⟩⟩
    · exact .whole (same ▸ marked)
    · exact .part (split ▸ marked) onward row
  · rintro (marked | ⟨marked, onward, row⟩)
    · exact ⟨name, marked, .inl ⟨rfl, rfl⟩⟩
    · refine ⟨String.ofList _, ?_, .inr ⟨_, String.toList_ofList, onward, row, rfl⟩⟩
      rwa [String.toList_ofList]

/-- What the environment gives to a plain name is what the last variable gives that is about it. -/
theorem defines_ofEnvironment_iff (plain : Plain name) (named : name ≠ "")
    (environment : List (String × String)) :
    (ofEnvironment environment).Defines name value ↔
      ∃ front key text back, environment = front ++ (key, text) :: back ∧
        Sets key text name value ∧ ∀ later ∈ back, ∀ value, ¬ Sets later.1 later.2 name value := by
  have sets_iff (key text : String) (value : SettingValue) :
      (variableName? key).map (fun setting => entry setting (.text text)) = some (name, value) ↔
        Sets key text name value := entry_variableName?_eq_some_iff plain named
  constructor
  · rintro ⟨front, back, split, others⟩
    obtain ⟨before, after, rfl, -, given⟩ := List.filterMap_eq_append_iff.mp split
    obtain ⟨unset, ⟨key, text⟩, behind, rfl, -, sets, rest⟩ := List.filterMap_eq_cons_iff.mp given
    refine ⟨before ++ unset, key, text, behind, by simp, (sets_iff ..).mp sets, ?_⟩
    intro later member value resets
    refine others (name, value) ?_ rfl
    rw [← rest]
    exact List.mem_filterMap.mpr ⟨later, member, (sets_iff ..).mpr resets⟩
  · rintro ⟨front, key, text, back, rfl, sets, others⟩
    refine ⟨ofEnvironment front, ofEnvironment back, ?_, ?_⟩
    · have given : ofEnvironment ((key, text) :: back) = (name, value) :: ofEnvironment back :=
        List.filterMap_cons_some ((sets_iff ..).mpr sets)
      rw [← given]
      exact List.filterMap_append
    · rintro ⟨_, value⟩ member rfl
      obtain ⟨later, at_back, resets⟩ := List.mem_filterMap.mp member
      exact others later at_back value ((sets_iff ..).mp resets)

end SettingSource

namespace Settings

variable {sources : List SettingSource} {name : String} {value : SettingValue}

/-! ## Several sources -/

/-- The value is that of the last of the sources that define the name. -/
def Wins (sources : List SettingSource) (name : String) (value : SettingValue) : Prop :=
  ∃ lower source higher, sources = lower ++ source :: higher ∧ source.Defines name value ∧
    ∀ source ∈ higher, ∀ value, ¬ source.Defines name value

theorem value?_eq_some_iff : value? sources name = some value ↔ Wins sources name value := by
  rw [value?, List.findSome?_eq_some_iff]
  simp only [SettingSource.value?_eq_some_iff, SettingSource.value?_eq_none_iff]
  constructor
  · rintro ⟨higher, source, lower, split, defined, others⟩
    refine ⟨lower.reverse, source, higher.reverse, ?_, defined, ?_⟩
    · rw [← List.reverse_inj, split]
      simp
    · simpa using others
  · rintro ⟨lower, source, higher, rfl, defined, others⟩
    exact ⟨higher.reverse, source, lower.reverse, by simp, defined, by simpa using others⟩

theorem value?_eq_none_iff :
    value? sources name = none ↔ ∀ source ∈ sources, ∀ value, ¬ source.Defines name value := by
  simp [value?, SettingSource.value?_eq_none_iff]

inductive TextOf (sources : List SettingSource) (name fallback : String) : String → Prop
  | read {value : SettingValue} {text : String} (wins : Wins sources name value)
      (readable : value.ReadsAsText text) : TextOf sources name fallback text
  | unread {value : SettingValue} (wins : Wins sources name value)
      (unreadable : ∀ text, ¬ value.ReadsAsText text) : TextOf sources name fallback fallback
  | undefined (silent : ∀ source ∈ sources, ∀ value, ¬ source.Defines name value) :
      TextOf sources name fallback fallback

inductive SwitchOf (sources : List SettingSource) (name : String) (fallback : Bool) : Bool → Prop
  | read {value : SettingValue} {switch : Bool} (wins : Wins sources name value)
      (readable : value.ReadsAsSwitch switch) : SwitchOf sources name fallback switch
  | undefined (silent : ∀ source ∈ sources, ∀ value, ¬ source.Defines name value) :
      SwitchOf sources name fallback fallback

theorem TextOf.eq {fallback result : String} (given : TextOf sources name fallback result) :
    text sources name fallback = result := by
  rw [text]
  cases given with
  | read wins readable =>
      rw [value?_eq_some_iff.mpr wins, Option.bind_some]
      rw [SettingValue.asText?_eq_some_iff.mpr readable, Option.getD_some]
  | unread wins unreadable =>
      rw [value?_eq_some_iff.mpr wins, Option.bind_some]
      rw [SettingValue.asText?_eq_none_iff.mpr unreadable, Option.getD_none]
  | undefined silent =>
      rw [value?_eq_none_iff.mpr silent, Option.bind_none, Option.getD_none]

theorem textOf_text (sources : List SettingSource) (name fallback : String) :
    TextOf sources name fallback (text sources name fallback) := by
  rw [text]
  cases found : value? sources name with
  | none => exact .undefined (value?_eq_none_iff.mp found)
  | some value =>
      rw [Option.bind_some]
      cases readable : value.asText? with
      | none =>
          have unreadable := SettingValue.asText?_eq_none_iff.mp readable
          exact .unread (value?_eq_some_iff.mp found) unreadable
      | some text =>
          have readable := SettingValue.asText?_eq_some_iff.mp readable
          exact .read (value?_eq_some_iff.mp found) readable

theorem switch_eq_ok_iff {fallback result : Bool} :
    switch sources name fallback = .ok result ↔ SwitchOf sources name fallback result := by
  constructor
  · rw [switch]
    intro said
    cases found : value? sources name with
    | none =>
        rw [found] at said
        obtain rfl := Except.ok.inj said
        exact .undefined (value?_eq_none_iff.mp found)
    | some value =>
        rw [found] at said
        cases readable : value.asSwitch? with
        | none =>
            simp only [readable] at said
            cases said
        | some switch =>
            simp only [readable] at said
            obtain rfl := Except.ok.inj said
            have readable := SettingValue.asSwitch?_eq_some_iff.mp readable
            exact .read (value?_eq_some_iff.mp found) readable
  · rw [switch]
    rintro (⟨wins, readable⟩ | silent)
    · simp only [value?_eq_some_iff.mpr wins, SettingValue.asSwitch?_eq_some_iff.mpr readable]
    · rw [value?_eq_none_iff.mpr silent]

theorem switch_eq_error_iff {fallback : Bool} {error : SettingsError} :
    switch sources name fallback = .error error ↔
      error = .invalidSwitch name ∧
        ∃ value, Wins sources name value ∧ ∀ b, ¬ value.ReadsAsSwitch b := by
  simp only [← value?_eq_some_iff, ← SettingValue.asSwitch?_eq_none_iff]
  rw [switch]
  cases value? sources name with
  | none => simp
  | some value =>
      cases readable : value.asSwitch? with
      | none => simp [readable, eq_comm]
      | some switch => simp [readable]

structure Decided (sources : List SettingSource) (settings : Settings) : Prop where
  databasePath : TextOf sources "database_path" "tsvm-db" settings.databasePath
  genesisData : TextOf sources "genesis_data" "" settings.genesisData
  logFilter : TextOf sources "log_filter" "info,fjall=warn" settings.logFilter
  clearOnStart : SwitchOf sources "clear_on_start" false settings.clearOnStart

theorem ofSources_eq_map (sources : List SettingSource) :
    ofSources sources =
      (switch sources "clear_on_start" default.clearOnStart).map (Settings.mk
        (text sources "database_path" default.databasePath)
        (text sources "genesis_data" default.genesisData)
        (text sources "log_filter" default.logFilter)) := by
  rw [ofSources]
  cases switch sources "clear_on_start" default.clearOnStart <;> rfl

theorem ofSources_eq_ok_iff {settings : Settings} :
    ofSources sources = .ok settings ↔ Decided sources settings := by
  rw [ofSources, bind_eq_ok_iff]
  constructor
  · rintro ⟨clearOnStart, switched, built⟩
    obtain rfl := Except.ok.inj built
    exact ⟨textOf_text .., textOf_text .., textOf_text .., switch_eq_ok_iff.mp switched⟩
  · rintro ⟨databasePath, genesisData, logFilter, clearOnStart⟩
    refine ⟨settings.clearOnStart, switch_eq_ok_iff.mpr clearOnStart, congrArg Except.ok ?_⟩
    calc Settings.mk _ _ _ settings.clearOnStart
        = Settings.mk settings.databasePath settings.genesisData settings.logFilter
            settings.clearOnStart := by
          rw [← databasePath.eq, ← genesisData.eq, ← logFilter.eq]
          rfl
      _ = settings := rfl

theorem ofSources_eq_error_iff {error : SettingsError} :
    ofSources sources = .error error ↔ error = .invalidSwitch "clear_on_start" ∧
      ∃ value, Wins sources "clear_on_start" value ∧ ∀ b, ¬ value.ReadsAsSwitch b := by
  rw [ofSources_eq_map, map_eq_error_iff, switch_eq_error_iff]

/-! ## Loading -/

theorem mapM_eq_some_iff {α β : Type} {f : α → Option β} {R : α → β → Prop} {as : List α}
    {bs : List β} (yields : ∀ a ∈ as, ∀ b, f a = some b ↔ R a b) :
    as.mapM f = some bs ↔ List.Forall₂ R as bs := by
  induction as generalizing bs with
  | nil => simp [eq_comm]
  | cons a as ih =>
      obtain ⟨here, there⟩ := List.forall_mem_cons.mp yields
      simp only [List.mapM_cons, Option.bind_eq_bind, Option.bind_eq_some_iff, here, ih there,
        List.forall₂_cons_left_iff]
      constructor
      · rintro ⟨b, first, rest, others, together⟩
        exact ⟨b, rest, first, others, (Option.some.inj together).symm⟩
      · rintro ⟨b, rest, first, others, rfl⟩
        exact ⟨b, first, rest, others, rfl⟩

theorem mapM_eq_none_iff {α β : Type} {f : α → Option β} {as : List α} :
    as.mapM f = none ↔ ∃ a ∈ as, f a = none := by
  induction as with
  | nil => simp
  | cons a as ih =>
      simp only [List.mapM_cons, List.mem_cons, exists_eq_or_imp, ← ih]
      cases f a with
      | none => simp
      | some b => cases as.mapM f <;> simp

variable {file? : String → Option String} {paths : List String}
  {environment : List (String × String)}

theorem load_eq_unreadable_iff :
    load file? paths environment = .error .unreadable ↔
      ∃ path ∈ paths, SettingSource.Unusable file? path := by
  simp only [← SettingSource.ofFile?_eq_none_iff, ← mapM_eq_none_iff]
  rw [load]
  cases paths.mapM (SettingSource.ofFile? file?) with
  | none => simp
  | some files => simp [ofSources_eq_error_iff]

/-- What is loaded, if every file can be used. -/
theorem load_eq_iff
    (plain : ∀ path ∈ paths, ∀ entries, SettingSource.Contains file? path entries →
      ∀ entry ∈ entries, SettingSource.Plain entry.1)
    {result : Except SettingsError Settings} (usable : result ≠ .error .unreadable) :
    load file? paths environment = result ↔
      ∃ files, List.Forall₂ (SettingSource.Contains file?) paths files ∧
        ofSources (files ++ [SettingSource.ofEnvironment environment]) = result := by
  have contents : ∀ path ∈ paths, ∀ entries, SettingSource.ofFile? file? path = some entries ↔
      SettingSource.Contains file? path entries :=
    fun path listed entries => SettingSource.ofFile?_eq_some_iff (plain path listed)
  simp only [← mapM_eq_some_iff contents]
  rw [load]
  cases paths.mapM (SettingSource.ofFile? file?) with
  | none => simp [usable.symm]
  | some files => simp

theorem load_eq_error {error : SettingsError}
    (failed : load file? paths environment = .error error) :
    error = .invalidSwitch "clear_on_start" ∨ error = .unreadable := by
  rw [load] at failed
  cases read : paths.mapM (SettingSource.ofFile? file?) with
  | none =>
      rw [read] at failed
      exact .inr (Except.error.inj failed).symm
  | some files =>
      rw [read] at failed
      exact .inl (ofSources_eq_error_iff.mp failed).1

theorem toList_message_invalidSwitch (name : String) :
    (SettingsError.invalidSwitch name).message.toList =
      "invalid '".toList ++ (name.toList ++ "'".toList) := by
  change ("invalid '" ++ name ++ "'").toList = _
  rw [String.toList_append, String.toList_append, List.append_assoc]

/-- No two errors look alike. -/
theorem message_eq_message_iff {a b : SettingsError} : a.message = b.message ↔ a = b := by
  have apart (name : String) :
      SettingsError.unreadable.message ≠ (SettingsError.invalidSwitch name).message := by
    intro same
    have letters := congrArg String.toList same
    rw [toList_message_invalidSwitch] at letters
    cases letters
  refine ⟨fun same => ?_, congrArg _⟩
  cases a with
  | unreadable =>
      cases b with
      | unreadable => rfl
      | invalidSwitch name => exact absurd same (apart name)
  | invalidSwitch name =>
      cases b with
      | unreadable => exact absurd same.symm (apart name)
      | invalidSwitch other =>
          have letters := congrArg String.toList same
          simp only [toList_message_invalidSwitch] at letters
          have names := List.append_cancel_right (List.append_cancel_left letters)
          rw [String.toList_inj.mp names]

theorem mapError_message_eq_iff (x : Except SettingsError Settings) (error : SettingsError) :
    x.mapError SettingsError.message = .error error.message ↔ x = .error error := by
  cases x <;> simp [Except.mapError, message_eq_message_iff]

/-- Settings are loaded from files, in order, and then from the environment, so that the last of them which
defines a setting decides it. -/
structure Layered (file? : String → Option String) (paths : List String)
    (environment : List (String × String)) : Prop where
  loaded : ∀ settings, load file? paths environment = .ok settings ↔
    ∃ files, List.Forall₂ (SettingSource.Contains file?) paths files ∧
      Decided (files ++ [SettingSource.ofEnvironment environment]) settings
  invalid : (load file? paths environment).mapError SettingsError.message =
      .error "invalid 'clear_on_start'" ↔
    ∃ files, List.Forall₂ (SettingSource.Contains file?) paths files ∧
      ∃ value, Wins (files ++ [SettingSource.ofEnvironment environment]) "clear_on_start" value ∧
        ∀ b, ¬ value.ReadsAsSwitch b
  unreadable : (load file? paths environment).mapError SettingsError.message =
      .error "failed to read configuration" ↔
    ∃ path ∈ paths, SettingSource.Unusable file? path
  failed : ∀ error, load file? paths environment = .error error →
    error.message = "invalid 'clear_on_start'" ∨ error.message = "failed to read configuration"
  inherited : ∀ name, SettingSource.Plain name → name ≠ "" → ∀ value,
    (SettingSource.ofEnvironment environment).Defines name value ↔
      ∃ front key text back, environment = front ++ (key, text) :: back ∧
        SettingSource.Sets key text name value ∧
        ∀ later ∈ back, ∀ value, ¬ SettingSource.Sets later.1 later.2 name value

/-- The last source that defines a setting decides it, whether or not what it says can be read. -/
theorem last_source_decides
    (plain : ∀ path ∈ paths, ∀ entries, SettingSource.Contains file? path entries →
      ∀ entry ∈ entries, SettingSource.Plain entry.1) : Layered file? paths environment := by
  constructor
  case loaded =>
    intro settings
    rw [load_eq_iff plain (by simp)]
    simp only [ofSources_eq_ok_iff]
  case invalid =>
    refine (mapError_message_eq_iff _ (.invalidSwitch "clear_on_start")).trans ?_
    rw [load_eq_iff plain (by simp)]
    simp only [ofSources_eq_error_iff, true_and]
  case unreadable =>
    exact (mapError_message_eq_iff _ .unreadable).trans load_eq_unreadable_iff
  case failed =>
    intro error failed
    rcases load_eq_error failed with rfl | rfl
    · exact .inl rfl
    · exact .inr rfl
  case inherited =>
    intro name plain named value
    exact SettingSource.defines_ofEnvironment_iff plain named environment

namespace Sample

/-- Two settings files. The second one, read later, gives no text for what the first names. -/
def fileText? : String → Option String
  | "node.toml" => some "clear_on_start = \"maybe\"\ngenesis_data = \"hello\"\nlog_filter = 3\n"
  | "local.json" =>
    some "\x7b\"clear_on_start\": \"Yes\", \"genesis_data\": null, \"log_filter\": -2.50\x7d"
  | _ => none

def exported : List (String × String) := [("PATH", "/bin"), ("tsvm_Database_Path", "/tmp/chain")]

def garbled : List (String × String) := exported ++ [("TSVM_CLEAR_ON_START", "nope")]

def chosen : Settings where
  databasePath := "/tmp/chain"
  genesisData := ""
  logFilter := "-2.5"
  clearOnStart := true

end Sample

/-- A switch that cannot be read does no harm when a later file gives another one, and a text that cannot be
read leaves the default rather than the text of an earlier file. A switch that cannot be read is an error where
no later source gives another one. -/
theorem overridden_switch_harmless :
    (∀ path ∈ ["node.toml", "local"], ∀ entries, SettingSource.Contains Sample.fileText? path entries →
      ∀ entry ∈ entries, SettingSource.Plain entry.1) ∧
    (load Sample.fileText? ["node.toml", "local"] Sample.exported = .ok Sample.chosen ∧
      ∃ files, List.Forall₂ (SettingSource.Contains Sample.fileText?) ["node.toml", "local"] files ∧
        Decided (files ++ [SettingSource.ofEnvironment Sample.exported]) Sample.chosen) ∧
    load Sample.fileText? ["node.toml", "local"] Sample.garbled =
        .error (.invalidSwitch "clear_on_start") ∧
      ∃ files, List.Forall₂ (SettingSource.Contains Sample.fileText?) ["node.toml", "local"] files ∧
        ∃ value, Wins (files ++ [SettingSource.ofEnvironment Sample.garbled]) "clear_on_start" value ∧
          ∀ b, ¬ value.ReadsAsSwitch b := by
  have plain : ∀ path ∈ ["node.toml", "local"], ∀ entries,
      SettingSource.Contains Sample.fileText? path entries →
        ∀ entry ∈ entries, SettingSource.Plain entry.1 := by
    have named : ∀ path ∈ ["node.toml", "local"],
        ∀ entries ∈ SettingSource.contents? Sample.fileText? path,
          ∀ entry ∈ entries, SettingSource.Plain entry.1 := by
      decide +kernel
    intro path listed entries contained
    exact named path listed entries (SettingSource.contains_iff.mp contained)
  have loaded : load Sample.fileText? ["node.toml", "local"] Sample.exported = .ok Sample.chosen := by
    decide +kernel
  have failed : load Sample.fileText? ["node.toml", "local"] Sample.garbled =
      .error (.invalidSwitch "clear_on_start") := by
    decide +kernel
  have shown := (mapError_message_eq_iff _ _).mpr failed
  exact ⟨plain, ⟨loaded, (last_source_decides plain).loaded _ |>.mp loaded⟩, failed,
    (last_source_decides plain).invalid.mp shown⟩

end Settings

end TimestampChain
