import FieldValidation.Text.Lower
import FieldValidation.Text.Blank
import FieldValidation.Value.Basic

/-!
# Bodies of several parts

A body of several parts has a boundary before each part and after the last. A part has header
lines, an empty line, and its content; its name, and for a file the name of the file, are in the
header `Content-Disposition`.

## Main definitions

* `Multipart.parameter?`: a parameter of a header's value
* `Multipart.parts?`: the names and the values of the parts
-/

namespace FieldValidation

namespace Multipart

/-- The end of a line. -/
def lineEnd : Text := [unit '\r', unit '\n']

/-- The text without quotes around it, if it is quoted. -/
def unquoted (t : Text) : Text :=
  match t with
  | u :: rest => if u = unit '"' then rest.takeWhile (· != u) else t
  | [] => []

/-- The pieces of a header's value between semicolons that are outside quotes. -/
def pieces (inQuotes : Bool) : Text → List Text
  | [] => [[]]
  | u :: rest =>
    if u = unit ';' ∧ !inQuotes then [] :: pieces false rest
    else
      match pieces (if u = unit '"' then !inQuotes else inQuotes) rest with
      | [] => [[u]]
      | piece :: others => (u :: piece) :: others

/-- The value of a parameter in a header's value. -/
def parameter? (name : Text) (header : Text) : Option Text :=
  (pieces false header).tail.findSome? fun piece => do
    let (key, value) ← Text.splitFirst? (unit '=') piece
    if (Text.trim key).toLower = name then some (unquoted (Text.trim value)) else none

/-- What stands before and after the first occurrence of `mark`. -/
def cutAt? (mark : Text) : Text → Option (Text × Text)
  | [] => if mark.isEmpty then some ([], []) else none
  | u :: rest =>
    match Text.dropPrefix? mark (u :: rest) with
    | some after => some ([], after)
    | none => (cutAt? mark rest).map fun (before, after) => (u :: before, after)

/-- The header lines at the front of a part, and what follows the empty line after them. -/
def headers? : (fuel : Nat) → Text → Option (List (Text × Text) × Text)
  | 0, _ => none
  | fuel + 1, t => do
    let (line, rest) ← cutAt? lineEnd t
    if line.isEmpty then return ([], rest)
    let (name, value) ← Text.splitFirst? (unit ':') line
    let (headers, content) ← headers? fuel rest
    return (((Text.trim name).toLower, Text.trim value) :: headers, content)

/-- The units that are escaped in the name of a part, with their escapes. -/
def nameEscapes : List (Text × CodeUnit) :=
  [("%0A", unit '\n'), ("%0D", unit '\r'), ("%22", unit '"')]

/-- The name of a part, its escapes decoded. -/
def decodeName : Text → Text
  | [] => []
  | u :: a :: b :: rest =>
    match nameEscapes.find? fun (escape, _) => escape == [u, a, b] with
    | some (_, v) => v :: decodeName rest
    | none => u :: decodeName (a :: b :: rest)
  | u :: rest => u :: decodeName rest

/-- The value of a part with the given content: a file, if a file's name is given, or the text
without a mark of byte order. -/
def valueOf (disposition content : Text) : Value :=
  match parameter? "filename" disposition with
  | some name => .file (decodeName name)
  | none => .text (if content.head? = some 0xFEFF then content.tail else content)

/-- The header that names a part, in small letters. -/
def dispositionHeader : Text := "content-disposition"

/-- The parts from a boundary on, at most `fuel`. -/
def partsFrom? (boundary : Text) : (fuel : Nat) → Text → Option (List (Text × Value))
  | 0, _ => none
  | fuel + 1, t => do
    let afterBoundary ← Text.dropPrefix? boundary t
    if Text.startsWith afterBoundary "--" then return []
    let (headers, content) ← headers? t.length (← Text.dropPrefix? lineEnd afterBoundary)
    let (value, _) ← cutAt? (lineEnd ++ boundary) content
    let disposition ← headers.lookup dispositionHeader
    let name ← parameter? "name" disposition
    let others ← partsFrom? boundary fuel (content.drop (value.length + lineEnd.length))
    return (decodeName name, valueOf disposition value) :: others

/-- The text without the line ends it begins with. -/
def skipLineEnds : Text → Text
  | u :: v :: rest => if [u, v] = lineEnd then skipLineEnds rest else u :: v :: rest
  | t => t

/-- The names and the values of the parts of a body, by the boundary that the type of its content
tells; `none` if the body is not made of parts. -/
def parts? (contentType body : Text) : Option (List (Text × Value)) := do
  let boundary ← parameter? "boundary" contentType
  partsFrom? (Text.ofString "--" ++ boundary) (body.length + 1) (skipLineEnds body)

end Multipart

end FieldValidation
