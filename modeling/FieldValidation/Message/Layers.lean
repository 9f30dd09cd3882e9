import FieldValidation.Json.Reader
import FieldValidation.Message.Phrase
import FieldValidation.Settings.Environment
import FieldValidation.Settings.Files

/-!
# Catalogs from files

A catalog is read from a list of files, a later file laid over the earlier ones key by key. It is
read when it is first asked for a message, whole or not at all, and is then never read again. The
file that comes with the library is one like any other.

## Main definitions

* `Catalog.ofDocument`: the catalog that a document holds
* `Catalog.ofFiles`: the catalog of several files
* `CatalogReader`: a catalog that is read when first asked
-/

namespace FieldValidation

namespace Catalog

/-- The texts of a message by language. -/
def textsOf (key : Text) : Entries Value → Except CatalogFault (List (Text × Text))
  | [] => .ok []
  | (language, value) :: rest =>
    if language = [] then .error (.emptyLanguage key)
    else
      match value with
      | .text text => do return (language, text) :: (← textsOf key rest)
      | _ => .error (.malformedText key language)

/-- What an entry of a document says of a key. -/
def unitOf (key : Text) (value : Value) : Except CatalogFault CatalogUnit :=
  if key = [] then .error .emptyKey
  else
    match value with
    | .text other => .ok (.reference other)
    | .record entries => do return .texts (← textsOf key entries)
    | _ => .error (.malformedEntry key)

/-- The catalog that a document holds. -/
def ofDocument : Value → Except CatalogFault Catalog
  | .record entries => entries.mapM fun (key, value) => do return (key, ← unitOf key value)
  | _ => .error .rootNotObject

/-- The catalog of one file. -/
def ofFile (files : Files) (path : Text) : Except CatalogFault Catalog :=
  match files path with
  | .absent => .error (.unreadable path .missingFile)
  | .unreadable _ => .error (.unreadable path .unreadableFile)
  | .content content =>
    match Json.read? content with
    | none => .error (.unreadable path .malformedJson)
    | some document => ofDocument document

/-- The catalog of several files, laid over one another from `lower` on. -/
def ofFilesOver (files : Files) (lower : Catalog) : List Text → Except CatalogFault Catalog
  | [] => .ok lower
  | path :: rest => do
    let upper ← ofFile files path
    ofFilesOver files (upper.layeredOver lower) rest

/-- The catalog of several files. -/
def ofFiles (files : Files) (paths : List Text) : Except CatalogFault Catalog :=
  ofFilesOver files [] paths

end Catalog

/-- A catalog that is read when first asked: where the file that comes with the library is, the
files and the language it was told, and what it has read. -/
structure CatalogReader where
  shippedPath : Text
  filePaths : Option (List Text)
  language : Option Text
  loaded : Option Catalog

namespace CatalogReader

/-- The files to read: those it was told, or the one that comes with the library and the one that
the environment names. -/
def paths (reader : CatalogReader) (environment : Environment) : List Text :=
  match reader.filePaths with
  | some paths => paths
  | none => reader.shippedPath :: (environment.nonEmpty? "VALIDATION_MESSAGES_PATH").toList

/-- The language of the texts it gives. -/
def languageIn (reader : CatalogReader) (environment : Environment) : Text :=
  reader.language.getD environment.language

/-- What it has read, reading it if nothing has been read so far. -/
def load (reader : CatalogReader) (files : Files) (environment : Environment) :
    Except CatalogFault Catalog :=
  match reader.loaded with
  | some catalog => .ok catalog
  | none => Catalog.ofFiles files (reader.paths environment)

/-- The reader after it was asked. -/
def afterLoad (reader : CatalogReader) (files : Files) (environment : Environment) :
    CatalogReader :=
  { reader with loaded := (reader.load files environment).toOption }

/-- The text of a message with its arguments filled in. -/
def get (reader : CatalogReader) (files : Files) (environment : Environment) (key : Text)
    (args : List Text) : Except CatalogFault Text := do
  let catalog ← reader.load files environment
  catalog.get (reader.languageIn environment) key args

/-- Whether there is a message under a key. -/
def has (reader : CatalogReader) (files : Files) (environment : Environment) (key : Text) :
    Except CatalogFault Bool := do
  return (← reader.load files environment).has key

end CatalogReader

end FieldValidation
