import ProgramGraph.Dotted
import ProgramGraph.Path
import ProgramGraph.Text.Blank

/-! The dotted name of the module that a file holds, and the absolute form of relative imports. A
    package is the module of its `__init__` file. -/

namespace ProgramGraph.ModuleName
open Text

/-- The stem of a package's own file, and the name of the module of a path that has no other. -/
def packageStem : String := "__init__"

/-- `pkg/sub/mod.py` holds `pkg.sub.mod`, and `pkg/__init__.py` holds `pkg`. -/
def ofPath (path : String) : String :=
  match (fields '/' path).reverse with
  | [] => packageStem
  | file :: folders =>
    let stem := (Path.stem? file).getD file
    let parts := if stem = packageStem then folders.reverse else folders.reverse ++ [stem]
    if parts.isEmpty then packageStem else ".".intercalate parts

/-- A package's own file. -/
def isPackageFile (path : String) : Bool :=
  let last := (splitAt '/' path).getLastD ""
  last == "__init__.py" || last == "__init__.pyi"

/-- The package to which relative imports of a file refer: the module itself for a package's own
    file, else the module without its last segment. -/
def package (path module : String) : List String :=
  let parts := Dotted.segments module
  if isPackageFile path then parts else parts.dropLast

/-- The absolute name of an imported module. Leading dots climb from `package`: one stays in it, each
    further one leaves one segment. There is none when the dots climb too far or nothing is left. -/
def absolute? (package : List String) (imported : String) : Option String :=
  let name := trim imported
  if name.isEmpty then none
  else if !name.startsWith "." then some name
  else
    let chars := name.toList
    let up := (chars.takeWhile (· == '.')).length - 1
    if package.length < up then none
    else
      let rest := Dotted.segments (String.ofList (chars.dropWhile (· == '.')))
      match package.take (package.length - up) ++ rest with
      | [] => none
      | parts => some (".".intercalate parts)

end ProgramGraph.ModuleName
