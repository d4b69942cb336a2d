/-
  ConnPool.PoolFile.Decode

  From the contents of a document to the entries of a pool file.

  The entries are the items of the array `pool`; other keys of the document
  mean nothing.  An entry is a table with named fields, or an array that gives
  the fields in their order.  The first thing that does not fit is reported.
-/

import ConnPool.Decimal.Shortest
import ConnPool.PoolFile.Entry
import ConnPool.Text.Quoted
import ConnPool.Toml.Document

namespace ConnPool
namespace PoolFile

open Toml (Node Entries)

/-! ## Errors -/

/-- What is wanted at some place of a pool file. -/
inductive Wanted where
  | text
  | size
  | flag
  | table
  | array
  | entry
  deriving DecidableEq

/-- What is wanted, in the words of a report. -/
def Wanted.phrase : Wanted → String
  | text => "a string"
  | size => "usize"
  | flag => "a boolean"
  | table => "a map"
  | array => "a sequence"
  | entry => "struct PoolEntry"

/-- What does not fit in a pool file. -/
inductive DecodeError where
  | unknownField (name : String)
  /-- An entry has no key. -/
  | missingKey
  /-- Something else was found than was wanted. -/
  | unfit (found : String) (wanted : Wanted)
  /-- A size is negative. -/
  | negativeSize (value : Int)
  /-- An entry given as an array ends before a field that it needs. -/
  | tooShort (length : Nat)
  deriving DecidableEq

/-- The report of what does not fit. -/
def DecodeError.message : DecodeError → String
  | unknownField name =>
    s!"unknown field `{name}`, expected one of `key`, `min_size`, `max_size`, "
      ++ "`spawn_batch`, `uri`, `params`, `expand_dbname`"
  | missingKey => "missing field `key`"
  | unfit found wanted => s!"invalid type: {found}, expected {wanted.phrase}"
  | negativeSize value => s!"invalid value: integer `{value}`, expected usize"
  | tooShort length =>
    s!"invalid length {length}, expected struct PoolEntry with 7 elements"

/-- What a node is, in the words of a report.  Dates count as tables. -/
def found : Node → String
  | .text value => "string " ++ Text.quoted value
  | .integer value => s!"integer `{value}`"
  | .float value => s!"floating point `{value.text}`"
  | .boolean value => s!"boolean `{value}`"
  | .datetime _ | .table .. => "map"
  | .array _ | .tables _ => "sequence"

/-- The key of the only entry of a date, where a date is taken for a table. -/
def datetimeKey : String := "$__toml_private_datetime"

/-! ## Fields -/

def textOf : Node → Except DecodeError String
  | .text value => .ok value
  | node => .error (.unfit (found node) .text)

def sizeOf : Node → Except DecodeError Nat
  | .integer value => if value < 0 then .error (.negativeSize value) else .ok value.toNat
  | node => .error (.unfit (found node) .size)

def flagOf : Node → Except DecodeError Bool
  | .boolean value => .ok value
  | node => .error (.unfit (found node) .flag)

/-- Parameters: a table of texts. -/
def paramsOf : Node → Except DecodeError (KeyMap String)
  | .table _ entries =>
    entries.foldlM (fun params (key, node) => do pure (params.insert key (← textOf node))) .empty
  | .datetime value => .ok (KeyMap.empty.insert datetimeKey value.text)
  | node => .error (.unfit (found node) .table)

/-! ## Entries -/

/-- The fields of an entry that were given so far. -/
structure Draft where
  key : Option String := none
  entry : PoolEntry := { key := "" }

/-- Takes one named field. -/
def Draft.take (draft : Draft) (name : String) (node : Node) : Except DecodeError Draft := do
  let entry := draft.entry
  match name with
  | "key" => return { draft with key := some (← textOf node) }
  | "min_size" => return { draft with entry := { entry with minSize := ← sizeOf node } }
  | "max_size" => return { draft with entry := { entry with maxSize := ← sizeOf node } }
  | "spawn_batch" => return { draft with entry := { entry with spawnBatch := ← sizeOf node } }
  | "uri" => return { draft with entry := { entry with uri := some (← textOf node) } }
  | "params" => return { draft with entry := { entry with params := some (← paramsOf node) } }
  | "expand_dbname" =>
    return { draft with entry := { entry with expandDbname := ← flagOf node } }
  | _ => throw (.unknownField name)

/-- An entry from its named fields. -/
def ofFields (fields : Entries) : Except DecodeError PoolEntry := do
  let draft ← fields.foldlM (fun (draft : Draft) (name, node) => draft.take name node) {}
  match draft.key with
  | some key => return { draft.entry with key }
  | none => throw .missingKey

/-- The field at a place of an entry given as an array; it must be there. -/
def needed {α : Type} (items : List Node) (place : Nat)
    (decode : Node → Except DecodeError α) : Except DecodeError α :=
  match items[place]? with
  | some node => decode node
  | none => throw (.tooShort place)

/-- The field at a place of an entry given as an array, or a default. -/
def optional {α : Type} (items : List Node) (place : Nat) (default : α)
    (decode : Node → Except DecodeError α) : Except DecodeError α :=
  match items[place]? with
  | some node => decode node
  | none => pure default

/-- An entry from its fields in their order. -/
def ofItems (items : List Node) : Except DecodeError PoolEntry := do
  let key ← needed items 0 textOf
  let minSize ← optional items 1 0 sizeOf
  let maxSize ← optional items 2 0 sizeOf
  let spawnBatch ← optional items 3 0 sizeOf
  let uri ← needed items 4 textOf
  let params ← needed items 5 paramsOf
  let expandDbname ← optional items 6 false flagOf
  return { key, minSize, maxSize, spawnBatch, uri := some uri, params := some params, expandDbname }

/-- One entry. -/
def entryOf : Node → Except DecodeError PoolEntry
  | .table _ fields => ofFields fields
  | .array items => ofItems items
  | .datetime _ => throw (.unknownField datetimeKey)
  | node => throw (.unfit (found node) .entry)

/-- The entries of a document. -/
def entriesOf (document : Entries) : Except DecodeError (List PoolEntry) :=
  match document.lookup "pool" with
  | none => pure []
  | some (.array items) => items.mapM entryOf
  | some (.tables items) => items.mapM ofFields
  | some node => throw (.unfit (found node) .array)

end PoolFile
end ConnPool
