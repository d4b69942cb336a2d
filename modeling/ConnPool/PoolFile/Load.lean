/-
  ConnPool.PoolFile.Load

  Loading a registry from a pool file that is a document.  Pools registered
  before one that is refused leave their log records.
-/

import ConnPool.PoolFile.Decode

namespace ConnPool
namespace PoolFile

/-- Why a pool file could not be loaded. -/
inductive LoadError where
  /-- There is no such file. -/
  | notFound
  /-- The file is not text. -/
  | notText
  /-- The text is not a document. -/
  | notDocument
  /-- The document does not hold pool entries. -/
  | shape (error : DecodeError)
  /-- An entry was refused. -/
  | pool (error : PoolError)
  deriving DecidableEq

/-- The entries of a text that is a document. -/
def decode (text : String) : Except LoadError (List PoolEntry) :=
  match Toml.parse? text with
  | none => .error .notDocument
  | some document => (entriesOf document).mapError .shape

/-- Loads a registry from the text of a pool file. -/
def loadText (text : String) : Except LoadError Unit × RegistryDraft :=
  load decode .pool text

/-- Loads a registry from the contents of a pool file, if there is one. -/
def loadFile (contents : Option ByteArray) : Except LoadError Unit × RegistryDraft :=
  match contents with
  | none => (.error .notFound, {})
  | some bytes =>
    match String.fromUTF8? bytes with
    | none => (.error .notText, {})
    | some text => loadText text

end PoolFile
end ConnPool
