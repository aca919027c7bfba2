import ProgramGraph.Text.Split

/-! Dotted names such as `pkg.mod.Class`, as plain text: any text is allowed, empty segments too.
    The dotted beginnings of a name are the name and each part of it that ends just before a dot. -/

namespace ProgramGraph.Dotted
open Text

/-- `owner.member`. -/
def qualify (owner member : String) : String :=
  owner ++ "." ++ member

/-- A path below an owner that may be empty, as the top of a module is. -/
def extend (path tag : String) : String :=
  if path.isEmpty then tag else qualify path tag

/-- The first segment. -/
def head (name : String) : String :=
  (splitAt '.' name).headD ""

/-- The segments that are not empty. -/
def segments (name : String) : List String :=
  fields '.' name

/-- The parts of a text that end just before a dot, shortest first. -/
def cuts : List Char → List (List Char)
  | [] => []
  | c :: cs =>
    let later := (cuts cs).map (c :: ·)
    if c = '.' then [] :: later else later

/-- The dotted beginnings of a name, longest first: the name itself, then the parts before its dots. -/
def beginnings (name : String) : List String :=
  name :: (cuts name.toList).reverse.map String.ofList

/-- The entry of the longest dotted beginning of a name that a table knows, with that beginning. -/
def longest? (find : String → Option α) (name : String) : Option (String × α) :=
  (beginnings name).findSome? fun part => (find part).map (part, ·)

end ProgramGraph.Dotted
