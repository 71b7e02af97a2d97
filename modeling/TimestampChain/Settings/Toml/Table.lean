import TimestampChain.Settings.Value

/-!
# TOML tables under construction

The tables of a TOML text while it is read: which of them may still be added to, and by what.
-/

namespace TimestampChain.Toml

/-- How a table came into being, which decides what may still be added to it. -/
inductive Origin where
  /-- Named on the way to another table. -/
  | passed
  /-- Opened by its own header. -/
  | header
  /-- Made or added to by a key with several parts. -/
  | dotted
deriving DecidableEq

inductive Node where
  | leaf (value : SettingValue)
  | table (origin : Origin) (entries : List (String × Node))
  | tables (all : List (List (String × Node)))

abbrev Entries := List (String × Node)

def lookup? (key : String) : Entries → Option Node
  | [] => none
  | (k, node) :: rest => if k = key then some node else lookup? key rest

/-- Set what stands under a key, in its old place if it had one. -/
def assign (key : String) (node : Node) : Entries → Entries
  | [] => [(key, node)]
  | (k, old) :: rest => if k = key then (k, node) :: rest else (k, old) :: assign key node rest

/-- Add a value under a key of one or more parts. No key is given twice, and a table that its own
header opened is not added to. A key with several parts passes through the last table of a row, but
its value does not go there. -/
def addValue : List String → SettingValue → Entries → Option Entries
  | [], _, _ => none
  | [key], value, entries =>
    match lookup? key entries with
    | none => some (assign key (.leaf value) entries)
    | some _ => none
  | key :: rest, value, entries =>
    match lookup? key entries with
    | none => (addValue rest value []).map fun inner => assign key (.table .dotted inner) entries
    | some (.leaf _) => none
    | some (.table .header _) => none
    | some (.table _ inner) =>
      (addValue rest value inner).map fun inner => assign key (.table .dotted inner) entries
    | some (.tables all) =>
      if rest.length < 2 then none
      else
        (addValue rest value (all.getLastD [])).map fun inner =>
          assign key (.tables (all.dropLast ++ [inner])) entries

/-- Open a table by its header, or add one to a row of tables. -/
def openTable (row : Bool) : List String → Entries → Option Entries
  | [], _ => none
  | [key], entries =>
    match row, lookup? key entries with
    | false, none => some (assign key (.table .header []) entries)
    | false, some (.table .passed inner) => some (assign key (.table .header inner) entries)
    | true, none => some (assign key (.tables [[]]) entries)
    | true, some (.tables all) => some (assign key (.tables (all ++ [[]])) entries)
    | _, _ => none
  | key :: rest, entries =>
    match lookup? key entries with
    | none => (openTable row rest []).map fun inner => assign key (.table .passed inner) entries
    | some (.table origin inner) =>
      (openTable row rest inner).map fun inner => assign key (.table origin inner) entries
    | some (.tables all) =>
      (openTable row rest (all.getLastD [])).map fun inner =>
        assign key (.tables (all.dropLast ++ [inner])) entries
    | some (.leaf _) => none

def changeTable (f : Entries → Option Entries) : List String → Entries → Option Entries
  | [], entries => f entries
  | key :: rest, entries =>
    match lookup? key entries with
    | some (.table origin inner) =>
      (changeTable f rest inner).map fun inner => assign key (.table origin inner) entries
    | some (.tables all) =>
      (changeTable f rest (all.getLastD [])).map fun inner =>
        assign key (.tables (all.dropLast ++ [inner])) entries
    | _ => none

def Node.toValue : Node → SettingValue
  | leaf value => value
  | table .. => .table
  | tables _ => .list

end TimestampChain.Toml
