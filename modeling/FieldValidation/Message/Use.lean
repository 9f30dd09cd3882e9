import FieldValidation.Message.Layers

/-!
# Using a catalog

An application looks messages up in a catalog that is read when first asked. Between one question
and the next the files and the environment may change in any way: files are written and removed or
become unreadable, variables are set and unset, or settings are loaded into them.

## Main definitions

* `CatalogUse`: a catalog reader among files and variables
* `CatalogUse.Step`: what happens next
* `CatalogUse.after`: what is there after some steps
* `CatalogUse.answer`: what a question is answered
-/

namespace FieldValidation

/-- A catalog reader, with the files and the environment at the time. -/
structure CatalogUse where
  files : Files
  environment : Environment
  reader : CatalogReader

namespace CatalogUse

/-- A change of the files or of the environment, to what they are from then on. -/
inductive Change where
  | files (files : Files)
  | environment (environment : Environment)

/-- A question for which a catalog is needed. -/
inductive Lookup where
  | get (key : Text) (args : List Text)
  | has (key : Text)

/-- A question to the reader. -/
inductive Question where
  | lookup (l : Lookup)
  | language
  | paths

/-- What a question is answered. -/
inductive Answer where
  | text (result : Except CatalogFault Text)
  | presence (result : Except CatalogFault Bool)
  | language (language : Text)
  | paths (paths : List Text)

/-- What happens next. -/
inductive Step where
  | change (c : Change)
  | ask (q : Question)

/-- A reader that has read nothing. -/
def start (files : Files) (environment : Environment) (shippedPath : Text)
    (filePaths : Option (List Text)) (language : Option Text) : CatalogUse :=
  ⟨files, environment, ⟨shippedPath, filePaths, language, none⟩⟩

/-- What is there after a change. -/
def change (use : CatalogUse) : Change → CatalogUse
  | .files files => { use with files }
  | .environment environment => { use with environment }

/-- What is there after a step. -/
def step (use : CatalogUse) : Step → CatalogUse
  | .change c => use.change c
  | .ask (.lookup _) => { use with reader := use.reader.afterLoad use.files use.environment }
  | .ask _ => use

/-- What is there after some steps. -/
def after (use : CatalogUse) (steps : List Step) : CatalogUse := steps.foldl step use

/-- What a question is answered now. -/
def answer (use : CatalogUse) : Question → Answer
  | .lookup (.get key args) => .text (use.reader.get use.files use.environment key args)
  | .lookup (.has key) => .presence (use.reader.has use.files use.environment key)
  | .language => .language (use.reader.languageIn use.environment)
  | .paths => .paths (use.reader.paths use.environment)

end CatalogUse

end FieldValidation
