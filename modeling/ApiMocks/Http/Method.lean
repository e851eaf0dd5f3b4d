/-!
# HTTP methods

The seven methods that an operation can have, in the order in which the operations of one path are
listed, and their names.  Main definitions: `Method.all`, `Method.name`, `Method.ofName?`.
-/

namespace ApiMocks

/-- The methods under which a path can declare an operation. -/
inductive Method
  | get | post | put | patch | delete | head | options
  deriving DecidableEq, Repr

namespace Method

/-- Every method, in the order in which the operations of one path are listed. -/
def all : List Method := [get, post, put, patch, delete, head, options]

/-- The lower-case name. -/
def name : Method → String
  | get => "get"
  | post => "post"
  | put => "put"
  | patch => "patch"
  | delete => "delete"
  | head => "head"
  | options => "options"

/-- The text with its ASCII capitals made small. -/
def foldCase (s : String) : List Char := s.toList.map Char.toLower

/-- The method with this name, in any ASCII casing. -/
def ofName? (s : String) : Option Method :=
  all.find? fun m => m.name.toList = foldCase s

end Method

/-- A text that names none of the seven methods. -/
structure UnknownMethod where
  given : String

/-- The wording of the error. -/
def UnknownMethod.message (e : UnknownMethod) : String := "unknown HTTP method: " ++ e.given

/-- Reads a method name; the error keeps the text as given. -/
def Method.ofName (s : String) : Except UnknownMethod Method :=
  match Method.ofName? s with
  | some m => .ok m
  | none => .error ⟨s⟩

end ApiMocks
