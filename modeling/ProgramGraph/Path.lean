import ProgramGraph.Text.Split

/-! Slash-separated paths: their components, the name and ending of the file they lead to, and a
    path taken relative to a folder. Repeated slashes and inner `.` components say nothing; `..`
    is kept as written. -/

namespace ProgramGraph.Path
open Text

/-- One step of a path. A `.` counts only at the front of a relative path. -/
inductive Component
  | root
  | here
  | up
  | name (text : String)
  deriving DecidableEq, Repr

def stepsOf (parts : List String) : List Component :=
  parts.filterMap fun part =>
    if part = "" || part = "." then none else if part = ".." then some .up else some (.name part)

/-- The components of a path, in order. -/
def components (path : String) : List Component :=
  match splitAt '/' path with
  | [] => []
  | first :: rest =>
    if first = "" then
      if rest.isEmpty then [] else .root :: stepsOf rest
    else if first = "." then .here :: stepsOf rest
    else stepsOf (first :: rest)

def stepText : Component → Option String
  | .name text => some text
  | .up => some ".."
  | .root | .here => none

/-- The components joined by single slashes, without the root and without a leading `.`; the path
    that has none is `.`. -/
def render (steps : List Component) : String :=
  match steps.filterMap stepText with
  | [] => "."
  | parts => "/".intercalate parts

def normalize (path : String) : String :=
  render (components path)

/-- What remains of a list after the leading part `front`. -/
def afterPrefix? [DecidableEq α] : (front whole : List α) → Option (List α)
  | [], whole => some whole
  | _ :: _, [] => none
  | a :: front, b :: whole => if a = b then afterPrefix? front whole else none

/-- The normalised path of `path` below `folder`, if `path` starts with all components of `folder`. -/
def relative? (folder path : String) : Option String :=
  (afterPrefix? (components folder) (components path)).map render

/-- The path below `folder`, or a complaint. -/
def relative (folder path : String) : Except String String :=
  match relative? folder path with
  | some rest => .ok rest
  | none => .error s!"strip prefix {folder} from {path}"

/-- The name of the file a path leads to; a path that ends in `..` or in nothing leads to none. -/
def fileName? (path : String) : Option String :=
  match (components path).getLast? with
  | some (.name text) => some text
  | _ => none

/-- A file name cut at its last dot. A dot in front does not start an ending. -/
def cutName (name : String) : String × Option String :=
  match splitLast '.' name with
  | some (stem, ending) => if stem = "" then (name, none) else (stem, some ending)
  | none => (name, none)

def stem? (path : String) : Option String :=
  (fileName? path).map fun name => (cutName name).1

def ending? (path : String) : Option String :=
  (fileName? path).bind fun name => (cutName name).2

/-- A source file is one whose ending is `py` or `pyi`. -/
def isSource (path : String) : Bool :=
  ending? path == some "py" || ending? path == some "pyi"

end ProgramGraph.Path
