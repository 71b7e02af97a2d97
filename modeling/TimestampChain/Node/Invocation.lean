/-!
# Command lines

What a command line asks a node to do.
-/

namespace TimestampChain

inductive Invocation where
  | version
  | help
  | run (settingsFiles : List String)
deriving DecidableEq

namespace Invocation

def helpText : String :=
  "Single-node timestamp VM\n\n" ++
  "Usage: tsvm-node [OPTIONS]\n\n" ++
  "Options:\n" ++
  "      --config <PATH>  Configuration file, may be given more than once\n" ++
  "      --version        Print the VM version and exit\n" ++
  "  -h, --help           Print help\n"

def isOption (word : String) : Bool := word.startsWith "-" && word ≠ "-"

/-- The value in a word of the form `--config=value`. -/
def attachedFile? (word : String) : Option String :=
  let mark := "--config=".toList
  if mark.isPrefixOf word.toList then some (String.ofList (word.toList.drop mark.length)) else none

/-- Read the words after those that gave the files and the version flag. Help is given at once, and
the version flag counts once. -/
def parseFrom? (files : List String) (version : Bool) : List String → Option Invocation
  | [] => some (if version then .version else .run files)
  | "--" :: rest =>
    if rest.isEmpty then some (if version then .version else .run files) else none
  | "--help" :: _ => some .help
  | "--version" :: rest => if version then none else parseFrom? files true rest
  | "--config" :: file :: rest =>
    if isOption file then none else parseFrom? (files ++ [file]) version rest
  | word :: rest =>
    match attachedFile? word with
    | some file => parseFrom? (files ++ [file]) version rest
    | none => if word.startsWith "-h" then some .help else none

def parse? (words : List String) : Option Invocation := parseFrom? [] false words

end Invocation

end TimestampChain
