import TimestampChain.Settings.File

/-!
# Settings of a node

Settings come from files, in order, and from the environment, which is asked last. The last source
that names a setting decides it, even when its value cannot be read. A text that cannot be read
leaves the setting at its default, and a switch that cannot be read is an error.
-/

namespace TimestampChain

inductive SettingsError where
  | unreadable
  | invalidSwitch (name : String)
deriving DecidableEq

def SettingsError.message : SettingsError → String
  | unreadable => "failed to read configuration"
  | invalidSwitch name => s!"invalid '{name}'"

structure Settings where
  /-- The directory of the chain database. -/
  databasePath : String
  /-- The payload of the first block. -/
  genesisData : String
  /-- What is logged. -/
  logFilter : String
  /-- Whether the database is emptied before it is opened. -/
  clearOnStart : Bool
deriving DecidableEq

namespace Settings

/-- The settings that no source names. -/
def default : Settings where
  databasePath := "tsvm-db"
  genesisData := ""
  logFilter := "info,fjall=warn"
  clearOnStart := false

/-- The value of a setting: that of the last source that names it. -/
def value? (sources : List SettingSource) (name : String) : Option SettingValue :=
  sources.reverse.findSome? fun source => source.value? name

def text (sources : List SettingSource) (name fallback : String) : String :=
  ((value? sources name).bind SettingValue.asText?).getD fallback

def switch (sources : List SettingSource) (name : String) (fallback : Bool) :
    Except SettingsError Bool :=
  match value? sources name with
  | none => .ok fallback
  | some value =>
    match value.asSwitch? with
    | some b => .ok b
    | none => .error (.invalidSwitch name)

def ofSources (sources : List SettingSource) : Except SettingsError Settings := do
  let clearOnStart ← switch sources "clear_on_start" default.clearOnStart
  return {
    databasePath := text sources "database_path" default.databasePath
    genesisData := text sources "genesis_data" default.genesisData
    logFilter := text sources "log_filter" default.logFilter
    clearOnStart }

/-- Load settings from files, where `file?` yields the text of a file, and from the environment.
Every file must be readable. -/
def load (file? : String → Option String) (paths : List String)
    (environment : List (String × String)) : Except SettingsError Settings :=
  match paths.mapM (SettingSource.ofFile? file?) with
  | none => .error .unreadable
  | some sources => ofSources (sources ++ [SettingSource.ofEnvironment environment])

end Settings

end TimestampChain
