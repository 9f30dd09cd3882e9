import FieldValidation.Text.Basic

/-!
# Files

Settings, catalogs and rule sets are read from text files. All that counts of the files at a moment
is what is found under each path: nothing, a text, or something that cannot be read as one. Which
paths lead to the same file is left to the system.

## Main definitions

* `FileState`: what is found under a path
* `Files`: what is found under every path, at a moment
-/

namespace FieldValidation

/-- What is found under a path. -/
inductive FileState where
  | absent
  /-- There is something, but no text can be read from it, for a reason that the system gives. -/
  | unreadable (reason : Text)
  | content (t : Text)
  deriving DecidableEq

/-- What is found under every path, at a moment. -/
abbrev Files := Text → FileState

namespace Files

/-- There is no file. -/
def none : Files := fun _ => .absent

/-- The files with something else under one path. -/
def set (files : Files) (path : Text) (state : FileState) : Files :=
  fun other => if other = path then state else files other

/-- The files with a text written under a path. -/
def write (files : Files) (path content : Text) : Files := files.set path (.content content)

@[simp] theorem write_self (files : Files) (path content : Text) :
    files.write path content path = .content content := if_pos rfl

end Files

end FieldValidation
