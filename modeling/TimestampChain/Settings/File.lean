import TimestampChain.Settings.Source
import TimestampChain.Settings.Toml.Document
import TimestampChain.Text.Blank

/-!
# Settings files

A settings file is TOML or JSON text, as the ending of its name says. A path that names no file
stands for the files with an ending behind it.
-/

namespace TimestampChain.SettingSource

inductive Format where
  | toml
  | json
deriving DecidableEq

def Format.ending : Format → String
  | .toml => "toml"
  | .json => "json"

/-- Read the text of a file. A byte order mark in front of it does not count. -/
def ofText? (format : Format) (text : String) : Option SettingSource :=
  let text := String.ofList (dropOrderMark text.toList)
  match format with
  | .toml => (Toml.parse? text).map fun entries => entries.map fun (name, value) => entry name value
  | .json => ofJson? text

def lastStep (path : List Char) : List Char := (path.reverse.takeWhile (· ≠ '/')).reverse

/-- The ending of a path, behind the last point of its last step. A point at the start of a step
begins no ending. -/
def ending? (path : String) : Option String :=
  let name := lastStep path.toList
  let ending := (name.reverse.takeWhile (· ≠ '.')).reverse
  if ending.length + 1 < name.length then some (String.ofList ending) else none

def formatOf? (path : String) : Option Format :=
  match ending? path with
  | some ending => [Format.toml, Format.json].find? fun format => format.ending = ending
  | none => none

def trimSteps : List Char → List Char
  | '/' :: rest => trimSteps rest
  | '.' :: '/' :: rest => trimSteps rest
  | text => text

/-- A path with the ending of a format behind it. If the last step of the path has an ending, the new
one goes behind the whole text of the path, and behind a name of its own after a slash. -/
def withEnding (path : String) (format : Format) : String :=
  let front := String.ofList (trimSteps path.toList.reverse).reverse
  if (ending? front).isNone then front ++ "." ++ format.ending
  else if path.toList.getLast? = some '/' then path ++ ".placeholder." ++ format.ending
  else path ++ "." ++ format.ending

/-- The paths at which a settings file is looked for, in order: the path itself, and with the ending
of each format. A path whose last step is no name has no other spelling. -/
def spellings (path : String) : List String :=
  let name := lastStep (trimSteps path.toList.reverse).reverse
  if name = [] ∨ name = ['.'] ∨ name = ['.', '.'] then [path]
  else path :: [Format.toml, Format.json].map (withEnding path)

/-- Read a file by its path, where `file?` yields the text of a file. The first spelling of the path
that names a file decides. -/
def ofFile? (file? : String → Option String) (path : String) : Option SettingSource :=
  let found := (spellings path).findSome? fun path => (file? path).map fun text => (path, text)
  found.bind fun (path, text) => (formatOf? path).bind fun format => ofText? format text

end TimestampChain.SettingSource
