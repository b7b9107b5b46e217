import SchemaMerge.Pointer
import SchemaMerge.Text.Affix

/-!
References to schema definitions. `#/components/schemas/<name>` points at the definition itself, a
longer pointer into it. `split?` takes a reference apart into the name of the definition and the
part below it, which is empty or starts with a slash.
-/

namespace SchemaMerge.SchemaRef

/-- The pointer of the container that holds the definitions. -/
def container : String := "#/components/schemas"

/-- What every reference to a definition starts with. -/
def start : String := "#/components/schemas/"

/-- The reference to the definition called `name`. -/
def ofName (name : String) : String :=
  start ++ Pointer.escape name

/-- The definition that a reference enters, and the part of the pointer below it. -/
def split? (reference : String) : Option (String × String) :=
  match Text.afterStart? start reference with
  | none => none
  | some rest =>
      let head := rest.toList.takeWhile (· != '/')
      let tail := rest.toList.dropWhile (· != '/')
      if head.isEmpty then none
      else some (String.ofList (Pointer.unescapeChars head), String.ofList tail)

/-- The definition that a reference names, if it points at no part of it. -/
def name? (reference : String) : Option String :=
  match split? reference with
  | some (name, "") => some name
  | _ => none

/-- A definition may be named without a pointer. A text with `#`, `/` or `.` is a pointer or an
address instead. -/
def isBareName (text : String) : Bool :=
  !text.isEmpty && text.toList.all fun c => c != '#' && c != '/' && c != '.'

end SchemaMerge.SchemaRef
