import TimestampChain.Node.Input
import TimestampChain.Node.Launch
import TimestampChain.Node.Place

/-!
# Workspaces

A directory in which nodes run one after another: its files, the directories in it, and the
databases that the runs leave behind. A database is kept in a directory, beside what else is there.
-/

namespace TimestampChain

inductive Item where
  | file (text : String)
  | directory (database : Option (Table Bytes))

structure Workspace where
  items : List (Place × Item)

namespace Workspace

/-! ## Items -/

def item? (w : Workspace) (place : Place) : Option Item :=
  match w.items.find? fun entry => entry.1 = place with
  | some entry => some entry.2
  | none => if place.isGiven then some (.directory none) else none

def put (w : Workspace) (place : Place) (item : Item) : Workspace where
  items := (place, item) :: w.items.filter fun entry => entry.1 ≠ place

def remove (w : Workspace) (place : Place) : Workspace where
  items := w.items.filter fun entry => !Place.isWithin entry.1 place

def putFile (w : Workspace) (place : Place) (text : String) : Workspace :=
  let ways := (List.range (place.length - 1)).map fun n => place.take (n + 1)
  (ways.foldl (fun w way => w.put way (.directory none)) w).put place (.file text)

def ofFiles (files : List (String × String)) : Workspace :=
  files.foldl
    (fun w (path, text) => w.putFile ((Place.steps path).filter fun step => !Place.stays step) text)
    ⟨[]⟩

/-! ## Following paths -/

/-- The place that a step leads to. A step is possible only in a directory. -/
def step? (w : Workspace) (place : Place) (step : String) : Option Place :=
  match w.item? place with
  | some (.directory _) =>
    if Place.stays step then some place
    else if step = ".." then some place.parent
    else if Place.isName step then some (place ++ [step])
    else none
  | _ => none

def follow? (w : Workspace) (place : Place) (steps : List String) : Option (Place × Item) := do
  let place ← steps.foldlM w.step? place
  return (place, ← w.item? place)

def find? (w : Workspace) (path : String) : Option (Place × Item) :=
  if Place.isPath path then w.follow? (Place.start path) (Place.steps path) else none

def file? (w : Workspace) (path : String) : Option String :=
  match w.find? path with
  | some (_, .file text) => some text
  | _ => none

/-- Follow steps from a place and make the directories that are missing. Those made on the way stay,
even if a later step is not possible. The flag tells whether there are any. -/
def enter : List String → Place → Bool → Workspace → Option (Place × Bool) × Workspace
  | [], place, made, w => (some (place, made), w)
  | step :: rest, place, made, w =>
    match w.step? place step with
    | none => (none, w)
    | some next =>
      match w.item? next with
      | some _ => enter rest next made w
      | none => enter rest next true (w.put next (.directory none))

/-! ## Databases -/

/-- Empty the directory at a path and remove it, if there is one. A file is not a directory. A path
that led through the directory's own contents leads nowhere once these are gone, and the directory
stays. Otherwise the last step has to be the name of the directory. -/
def clear (w : Workspace) (path : String) : Except NodeError Unit × Workspace :=
  match w.find? path with
  | none => (.ok (), w)
  | some (_, .file _) => (.error (.cannotClear path), w)
  | some (place, .directory _) =>
    let emptied := (w.remove place).put place (.directory none)
    let steps := (Place.steps path).filter (· ≠ "")
    match emptied.follow? (Place.start path) steps.dropLast with
    | some (_, .directory _) =>
      if steps.getLast?.any Place.isName then (.ok (), w.remove place)
      else (.error (.cannotClear path), emptied)
    | _ => (.ok (), emptied)

/-- Open the database at a path, or a new one. Steps that stay where one is do not count. A path
that leads through directories that are missing is one for a new database. -/
def openDatabase (w : Workspace) (path : String) : Option (Place × Table Bytes) × Workspace :=
  let path := Place.plain path
  if Place.isPath path then
    match w.enter (Place.steps path) (Place.start path) false with
    | (none, w) => (none, w)
    | (some (place, made), w) =>
      match w.item? place, made with
      | some (.directory none), _ => (some (place, Table.empty), w)
      | some (.directory (some table)), false => (some (place, table), w)
      | _, _ => (none, w)
  else (none, w)

/-! ## Runs -/

def runAt (w : Workspace) (place : Place) (table : Table Bytes) (genesisData : String)
    (input : Bytes) (clock : Clock) : Outcome × Workspace :=
  let lines := (Input.lines input).map Input.text?
  let (transcript, c) := Node.run genesisData lines (Node.controllerOver table clock)
  (.ofTranscript transcript, w.put place (.directory (some c.store.backend.table)))

/-- Run a node with the given settings. Without a path for its database the run breaks off. -/
def run (w : Workspace) (settings : Settings) (input : Bytes) (clock : Clock) :
    Outcome × Workspace :=
  let path := settings.databasePath
  let (cleared, w) := if settings.clearOnStart then w.clear path else (.ok (), w)
  match cleared with
  | .error cause => (.ofFailure cause, w)
  | .ok () =>
    if path = "" then (.brokenOff, w)
    else
      match w.openDatabase path with
      | (none, w) => (.ofFailure .cannotOpen, w)
      | (some (place, table), w) => w.runAt place table settings.genesisData input clock

def launch (w : Workspace) (words : List String) (environment : List (String × String))
    (input : Bytes) (clock : Clock) : Outcome × Workspace :=
  match Launch.plan w.file? words environment with
  | .print text => (.ofText text, w)
  | .usage => (.ofUsage, w)
  | .fail cause => (.ofFailure cause, w)
  | .breakOff => (.brokenOff, w)
  | .run settings => w.run settings input clock

end Workspace

end TimestampChain
