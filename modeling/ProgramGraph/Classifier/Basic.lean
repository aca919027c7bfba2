import ProgramGraph.Classifier.Tables
import ProgramGraph.Dotted
import ProgramGraph.Node
import ProgramGraph.Settings

/-! What a run is told about the world outside the project: where a top-level package comes from, and
    which names need no import. -/

namespace ProgramGraph

structure Classifier where
  /-- The origin of a top-level package that the project does not hold. -/
  origin : String → Origin
  /-- A name that needs no import. -/
  isBuiltin : String → Bool

namespace Classifier

def isStandard (topLevel : String) : Bool :=
  standardModules.contains topLevel

/-- The classifier of plain settings: the standard library first, then the third-party list. A package
    without a name, as relative imports that climb too far have, comes from nowhere. -/
def ofPackages (thirdParty : List String) (assumeThirdParty : Bool) : Classifier where
  origin topLevel :=
    if topLevel.isEmpty || topLevel.startsWith "." then .unresolved
    else if isStandard topLevel then .standardLibrary
    else if assumeThirdParty || thirdParty.contains topLevel then .thirdParty
    else .unresolved
  isBuiltin name := builtinNames.contains name

def ofSettings (s : Settings) : Classifier :=
  ofPackages s.thirdParty s.assumeThirdParty

/-- A classifier given by a table of origins and, perhaps, its own list of builtin names. -/
def ofTable (origins : List (String × Origin)) (otherwise : Origin) (builtins : Option (List String)) :
    Classifier where
  origin topLevel := (origins.lookup topLevel).getD otherwise
  isBuiltin name := (builtins.getD builtinNames).contains name

end Classifier

end ProgramGraph
