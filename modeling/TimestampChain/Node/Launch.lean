import TimestampChain.Node.Invocation
import TimestampChain.Node.LogFilter
import TimestampChain.Node.Run
import TimestampChain.Service

/-!
# Launching a node

What a command line, the settings and the environment decide before any database is touched, and how
a run ends.
-/

namespace TimestampChain

/-- A decision on how a launch goes on, before any database is touched. -/
inductive Launch where
  | print (text : String)
  | usage
  | fail (cause : NodeError)
  | breakOff
  | run (settings : Settings)

namespace Launch

def judge (settings : Settings) : Launch :=
  match LogFilter.check settings.logFilter with
  | .ok () => .run settings
  | .error .invalid => .fail .invalidLogFilter
  | .error .torn => .breakOff

/-- Go on with settings. The variable `RUST_LOG` takes the place of the log filter in the settings
if it holds a filter. -/
def goOn (environment : List (String × String)) (settings : Settings) : Launch :=
  match environment.find? fun entry => entry.1 = "RUST_LOG" with
  | none => judge settings
  | some (_, filter) =>
    match LogFilter.check filter with
    | .ok () => .run settings
    | .error .invalid => judge settings
    | .error .torn => .breakOff

def plan (file? : String → Option String) (words : List String)
    (environment : List (String × String)) : Launch :=
  match Invocation.parse? words with
  | none => .usage
  | some .help => .print Invocation.helpText
  | some .version => .print s!"{machineName}@{machineVersion}\n"
  | some (.run files) =>
    match Settings.load file? files environment with
    | .error e => .fail (.settings e)
    | .ok settings => goOn environment settings

end Launch

structure Outcome where
  code : Nat
  failure : Option NodeError
  text : String
  blocks : List Block

namespace Outcome

def ofText (text : String) : Outcome := ⟨0, none, text, []⟩

def ofUsage : Outcome := ⟨2, none, "", []⟩

def brokenOff : Outcome := ⟨101, none, "", []⟩

def ofFailure (cause : NodeError) : Outcome := ⟨1, some cause, "", []⟩

def ofTranscript (t : Transcript) : Outcome :=
  ⟨if t.failure.isSome then 1 else 0, t.failure, "", t.blocks⟩

/-- The first line of a text. A carriage return at its end belongs to the end of the line. -/
def firstLine (text : String) : String :=
  let line := text.toList.takeWhile (· ≠ '\n')
  String.ofList (if line.getLast? = some '\r' then line.dropLast else line)

def report? (o : Outcome) : Option String := o.failure.map fun cause => firstLine cause.message

def blockLines (o : Outcome) : List String :=
  o.blocks.map fun block => (BlockReply.ofBlock block).render

end Outcome

end TimestampChain
