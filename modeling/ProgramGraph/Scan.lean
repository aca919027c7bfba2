import ProgramGraph.FileTree
import ProgramGraph.Ignore.Rules
import ProgramGraph.Path

/-! Finding the source files below a folder. A file is found if no step that leads to it is passed over: the
    folders of tools and caches always are, and so is what the ignore files say. The folder that is searched
    is never passed over itself. -/

namespace ProgramGraph

/-- A place below the working directory: the names that lead to it. -/
abbrev Place := List String

/-- The files below the working directory. -/
structure Disk where
  files : List (Place × ByteArray)
  /-- Folders, of which those that hold files need no mention. -/
  folders : List Place := []

namespace Disk

/-- The place that a path leads to when every name in it is taken as it stands. -/
def placeOf (path : String) : Place :=
  (Path.components path).filterMap Path.stepText

/-- The files at some paths, and further folders. -/
def ofPaths (files : List (String × ByteArray)) (folders : List String) : Disk where
  files := files.map fun (path, content) => (placeOf path, content)
  folders := folders.map placeOf

def isFolder (d : Disk) (place : Place) : Bool :=
  place.isEmpty || (d.files.any fun (file, _) => place.isPrefixOf file && place.length < file.length) ||
    d.folders.any place.isPrefixOf

def content? (d : Disk) (place : Place) : Option ByteArray :=
  (d.files.find? fun (file, _) => file == place).map (·.2)

/-- The folder that a path leads to from the working directory; what lies outside of that is not known. -/
def folder? (d : Disk) (path : String) : Option Place :=
  (Path.components path).foldlM (fun place step =>
    match step with
    | .root => none
    | .here => some place
    | .up => if place.isEmpty then none else some place.dropLast
    | .name text => if d.isFolder (place ++ [text]) then some (place ++ [text]) else none) []

/-! ### What is passed over -/

/-- Names that are always passed over. -/
def skippedNames : List String :=
  [".git", "__pycache__", ".venv", "venv", "node_modules", ".tox", ".mypy_cache"]

/-- The files of rules that a folder can hold. Those of the first name win over those of the second, whatever
    folder they are in, and those over the last. -/
def ruleFiles : List Place :=
  [[".ignore"], [".gitignore"], [".git", "info", "exclude"]]

/-- The folders that hold a place, the nearest first. -/
def holders (place : Place) : List Place :=
  ((List.range place.length).map place.take).reverse

/-- What the files of rules say about a place: of the files of one name, the nearest that says something. -/
def verdict? (d : Disk) (place : Place) : Option Ignore.Verdict :=
  ruleFiles.findSome? fun file =>
    (holders place).findSome? fun holder => do
      let rules := Ignore.Rules.ofContent (← d.content? (holder ++ file))
      rules.verdict? ("/".intercalate (place.drop holder.length)) (d.isFolder place)

/-- Whether a place below the searched folder is passed over. -/
def isSkipped (d : Disk) (heedRules : Bool) (place : Place) : Bool :=
  place.getLast?.any skippedNames.contains || (heedRules && d.verdict? place == some .ignored)

/-! ### Searching -/

/-- The places on the way from a folder to a place below it, which is the last of them. -/
def way (folder place : Place) : List Place :=
  (List.range (place.length - folder.length)).map fun n => place.take (folder.length + n + 1)

/-- Whether a file is a source file to be found below a folder. -/
def isFound (d : Disk) (heedRules : Bool) (folder file : Place) : Bool :=
  folder.isPrefixOf file && file.getLast?.any Path.isSource &&
    (way folder file).all fun place => !d.isSkipped heedRules place

/-- The tree of the source files below a folder. A file that is no text is left out. -/
def sources (d : Disk) (heedRules : Bool) (folder : Place) : FileTree :=
  .ofFiles <| (d.files.filter fun (file, _) => d.isFound heedRules folder file).filterMap fun (file, content) =>
    (String.fromUTF8? content).map fun text => ("/".intercalate (file.drop folder.length), text)

/-- The tree of the source files below the folder that a path leads to, or a complaint. -/
def scan (d : Disk) (heedRules : Bool) (path : String) : Except String FileTree :=
  match d.folder? path with
  | some folder => .ok (d.sources heedRules folder)
  | none => .error s!"{path} is not a directory"

end Disk

end ProgramGraph
