import Std.Time.DateTime.Timestamp
import TimestampChain.Node.Input
import TimestampChain.Node.Journal
import TimestampChain.Node.Launch
import TimestampChain.Node.Place

/-!
# Command line

Runs a node in the current directory: reads the settings files and the environment, keeps the
database as a journal file in its own directory, and turns the lines of the standard input into
blocks, which it prints as they are accepted.
-/

namespace TimestampChain.CommandLine

/-- The time in seconds. Before 1970 it reads as zero. -/
def readTime : IO UInt64 := do
  let now ← Std.Time.Timestamp.now
  return UInt64.ofNat now.toSecondsSinceUnixEpoch.val.toNat

def readText? (path : String) : IO (Option String) := do
  try return some (← IO.FS.readFile path) catch _ => return none

def readEnvironment : IO (List (String × String)) := do
  try
    let block ← IO.FS.readBinFile "/proc/self/environ"
    return Input.environment block.data.toList
  catch _ => return []

def readSettingsFiles (words : List String) : IO (List (String × String)) := do
  match Invocation.parse? words with
  | some (.run paths) =>
    (paths.flatMap SettingSource.spellings).filterMapM fun path => do
      return (← readText? path).map fun text => (path, text)
  | _ => return []

def isReadable (path : String) : IO Bool := do
  try
    let _ ← IO.FS.Handle.mk path .read
    return true
  catch _ => return false

/-- Whether a path leads to a directory. Only a directory has a step to where one is. -/
def isDirectory (path : String) : IO Bool := isReadable (path ++ "/.")

def clearDirectory (path : String) : IO (Except NodeError Unit) := do
  if !Place.isPath path then return .ok ()
  else if ← isDirectory path then
    try
      IO.FS.removeDirAll path
      return .ok ()
    catch
      | .noFileOrDirectory .. => return .ok ()
      | _ => return .error (.cannotClear path)
  else if ← isReadable path then return .error (.cannotClear path)
  else return .ok ()

/-- Open a database directory, and yield its table and the file that its batches are added to. A
directory that had to be made holds no database. -/
def openDatabase (path : String) : IO (Except NodeError (Table Bytes × IO.FS.Handle)) := do
  let path := Place.plain path
  if !Place.isPath path then return .error .cannotOpen
  try
    let found ← isDirectory path
    if !found then IO.FS.createDirAll path
    let file := path ++ "/journal"
    let text ← readText? file
    match Journal.table? (text.getD "") with
    | none => return .error .cannotOpen
    | some table =>
      if text.isSome && !found then return .error .cannotOpen
      if text.isNone && (← isReadable file) then return .error .cannotOpen
      let complete := Journal.complete (text.getD "")
      if text.any (· ≠ complete) then IO.FS.writeFile file complete
      return .ok (table, ← IO.FS.Handle.mk file .append)
  catch _ => return .error .cannotOpen

def saveBatches (file : IO.FS.Handle) (c : Controller) : IO Controller := do
  let (batches, backend) := c.store.backend.takeJournal
  for batch in batches do
    file.putStr (Journal.line batch)
  file.flush
  return { c with store := { c.store with backend := backend } }

/-- Feed one line at the current time, save what it led to, and print the blocks. -/
def feedLine (file : IO.FS.Handle) (line : Bytes) (c : Controller) :
    IO (Except NodeError Controller) := do
  match Input.text? line with
  | none => return .error .unreadableInput
  | some line =>
    let (made, c) := (Node.feed line).run { c with clock := Clock.still (← readTime) }
    let c ← saveBatches file c
    match made with
    | .error e => return .error (.controller e)
    | .ok blocks =>
      let output ← IO.getStdout
      for block in blocks do
        output.putStr ((BlockReply.ofBlock block).render ++ "\n")
      output.flush
      return .ok c

def feedLines (file : IO.FS.Handle) : List Bytes → Controller → IO (Except NodeError Controller)
  | [], c => return .ok c
  | line :: rest, c => do
    match ← feedLine file line c with
    | .error e => return .error e
    | .ok c => feedLines file rest c

/-- Feed the standard input as it arrives. What follows the last line feed waits for more. -/
partial def feedInput (file : IO.FS.Handle) (waiting : Bytes) (c : Controller) :
    IO (Except NodeError Controller) := do
  let chunk ← (← IO.getStdin).read 65536
  if chunk.isEmpty then feedLines file (Input.lines waiting) c
  else
    let pieces := Input.pieces 10 (waiting ++ chunk.data.toList)
    match ← feedLines file pieces.dropLast c with
    | .error e => return .error e
    | .ok c => feedInput file (pieces.getLastD []) c

def brokenOffCode : UInt32 := UInt32.ofNat Outcome.brokenOff.code

def runNode (settings : Settings) : IO (Except NodeError Unit) := do
  if settings.clearOnStart then
    if let .error e ← clearDirectory settings.databasePath then return .error e
  match ← openDatabase settings.databasePath with
  | .error e => return .error e
  | .ok (table, file) =>
    let fresh := Node.controllerOver table (Clock.still (← readTime))
    let (started, c) := (Node.start settings.genesisData).run fresh
    let c ← saveBatches file c
    match started with
    | .error e => return .error (.cannotStart e)
    | .ok () =>
      match ← feedInput file [] c with
      | .error e => return .error e
      | .ok c => return (Engine.shutdown.run c).1.mapError .controller

end TimestampChain.CommandLine

open TimestampChain in
def main (words : List String) : IO UInt32 := do
  let files ← CommandLine.readSettingsFiles words
  match Launch.plan (List.lookup · files) words (← CommandLine.readEnvironment) with
  | .print text =>
    IO.print text
    return 0
  | .usage =>
    IO.eprint Invocation.helpText
    return 2
  | .fail cause =>
    IO.eprintln s!"Error: {cause.message}"
    return 1
  | .breakOff => return CommandLine.brokenOffCode
  | .run settings =>
    if settings.databasePath = "" then return CommandLine.brokenOffCode
    match ← CommandLine.runNode settings with
    | .ok () => return 0
    | .error cause =>
      IO.eprintln s!"Error: {cause.message}"
      return 1
