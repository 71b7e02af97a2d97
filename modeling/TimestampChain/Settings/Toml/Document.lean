import TimestampChain.Settings.Toml.Lexeme
import TimestampChain.Settings.Toml.Scalar
import TimestampChain.Settings.Toml.Table
import TimestampChain.Text.Blank

/-!
# Reading TOML text

A text is read line by line: keys with values, and headers that open tables. What is read is the
root table. Arrays and tables in braces may be spread across lines.
-/

namespace TimestampChain.Toml

mutual

def value? : Nat → Nat → List Char → Option (SettingValue × List Char)
  | 0, _, _ => none
  | fuel + 1, depth, text =>
    match text with
    | '"' :: _ => (string? text).map fun (s, rest) => (.text s, rest)
    | '\'' :: _ => (string? text).map fun (s, rest) => (.text s, rest)
    | '[' :: rest =>
      if depth = 0 then none
      else (items? fuel (depth - 1) rest).map fun rest => (.list, rest)
    | '\x7b' :: rest =>
      if depth = 0 then none
      else (members? fuel (depth - 1) [] rest).map fun rest => (.table, rest)
    | _ =>
      let word := leadingWord text
      (wordValue? word).map fun value => (value, text.drop word.length)

def items? : Nat → Nat → List Char → Option (List Char)
  | 0, _, _ => none
  | fuel + 1, depth, text =>
    match skipLines text.length text with
    | ']' :: rest => some rest
    | text => do
      let (_, rest) ← value? fuel depth text
      match skipLines rest.length rest with
      | ']' :: rest => some rest
      | ',' :: rest => items? fuel depth rest
      | _ => none

def members? : Nat → Nat → Entries → List Char → Option (List Char)
  | 0, _, _, _ => none
  | fuel + 1, depth, entries, text =>
    match skipLines text.length text with
    | '\x7d' :: rest => some rest
    | text => do
      let (key, rest) ← key? text
      match skipLines rest.length rest with
      | '=' :: rest => do
        let (value, rest) ← value? fuel depth (skipLines rest.length rest)
        let entries ← addValue key value entries
        match skipLines rest.length rest with
        | '\x7d' :: rest => some rest
        | ',' :: rest => members? fuel depth entries rest
        | _ => none
      | _ => none

end

/-- The root table so far and the path of the table that is open. -/
structure Document where
  root : Entries
  path : List String

def header? (row : Bool) (doc : Document) (text : List Char) : Option (Document × List Char) := do
  let (path, rest) ← key? text
  let rest ←
    match row, rest with
    | false, ']' :: rest => some rest
    | true, ']' :: ']' :: rest => some rest
    | _, _ => none
  let root ← openTable row path doc.root
  return (⟨root, path⟩, rest)

def keyValue? (doc : Document) (text : List Char) : Option (Document × List Char) := do
  let (key, rest) ← key? text
  match rest with
  | '=' :: rest => do
    let (value, rest) ← value? (2 * rest.length + 2) depthLimit (skipBlanks rest)
    let root ← changeTable (addValue key value) doc.path doc.root
    return (⟨root, doc.path⟩, rest)
  | _ => none

/-- The lines of a text, at most `fuel` of them. -/
def lines? : Nat → Document → List Char → Option Document
  | 0, _, _ => none
  | fuel + 1, doc, text =>
    match skipLines text.length text with
    | [] => some doc
    | text => do
      let (doc, rest) ←
        match text with
        | '[' :: '[' :: rest => header? true doc rest
        | '[' :: rest => header? false doc rest
        | text => keyValue? doc text
      let rest ← lineEnd? rest
      lines? fuel doc rest

/-- Read a text as a table. A byte order mark in front of it does not count. -/
def parse? (text : String) : Option (List (String × SettingValue)) :=
  let chars := dropOrderMark text.toList
  (lines? (chars.length + 1) ⟨[], []⟩ chars).map fun doc =>
    doc.root.map fun (key, node) => (key, node.toValue)

end TimestampChain.Toml
