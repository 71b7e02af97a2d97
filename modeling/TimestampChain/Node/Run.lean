import TimestampChain.Engine
import TimestampChain.Settings.Layers
import TimestampChain.Text.Blank

/-!
# A run of a node

A node sets its chain up, makes a payload of every line of its input, and prints the blocks that are
accepted. Blank lines and lines that are too long are passed over.
-/

namespace TimestampChain

inductive NodeError where
  | settings (cause : SettingsError)
  | invalidLogFilter
  | cannotClear (path : String)
  | cannotOpen
  | cannotStart (cause : ControllerError)
  | unreadableInput
  | controller (cause : ControllerError)

def NodeError.message : NodeError → String
  | settings cause => cause.message
  | invalidLogFilter => "invalid log filter"
  | cannotClear path => s!"failed to clear {path}"
  | cannotOpen => "failed to open chain database"
  | cannotStart _ => "failed to initialize VM"
  | unreadableInput => "failed to read stdin"
  | controller cause => cause.message

/-- What a run leaves behind on its output: the blocks it printed, and why it failed. -/
structure Transcript where
  blocks : List Block
  failure : Option NodeError

namespace Node

def controllerOver (table : Table Bytes) (clock : Clock) : Controller :=
  .ofBackend (.ofTable table) (.ofDepth Channel.defaultDepth) clock

def start (genesisData : String) : Controller.Step Unit := Engine.start (Bytes.ofText genesisData)

/-- Make blocks of a line, which is taken without the blanks around it. -/
def feed (line : String) : Controller.Step (List Block) := do
  let text := trimText line
  if text.isEmpty then return []
  else
    match ← (Engine.submit (Bytes.ofText text)).attempt with
    | .ok () => Engine.drain
    | .error _ => return []

/-- Feed lines one after another, up to the first that cannot be read or fails. -/
def feedAll : List (Option String) → List Block → Controller → Transcript × Controller
  | [], blocks, c => (⟨blocks, none⟩, c)
  | none :: _, blocks, c => (⟨blocks, some .unreadableInput⟩, c)
  | some line :: rest, blocks, c =>
    match (feed line).run c with
    | (.ok made, c) => feedAll rest (blocks ++ made) c
    | (.error e, c) => (⟨blocks, some (.controller e)⟩, c)

def run (genesisData : String) (lines : List (Option String)) (c : Controller) :
    Transcript × Controller :=
  match (start genesisData).run c with
  | (.error e, c) => (⟨[], some (.cannotStart e)⟩, c)
  | (.ok (), c) =>
    match feedAll lines [] c with
    | (⟨blocks, some e⟩, c) => (⟨blocks, some e⟩, c)
    | (⟨blocks, none⟩, c) =>
      match Engine.shutdown.run c with
      | (.ok (), c) => (⟨blocks, none⟩, c)
      | (.error e, c) => (⟨blocks, some (.controller e)⟩, c)

end Node

end TimestampChain
