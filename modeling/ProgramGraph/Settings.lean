import ProgramGraph.Graph.Audit
import ProgramGraph.Text.Blank

/-! The settings of a run and how variables of the environment set them. A value that cannot be read
    leaves its setting as it was. -/

namespace ProgramGraph
open Text

structure Settings where
  orphanPolicy : OrphanPolicy := .debug
  /-- Visit files in parallel; no result depends on it. -/
  parallel : Bool := true
  /-- Further top-level packages that count as third-party. -/
  thirdParty : List String := []
  /-- Count every import that is neither of the project nor of the standard library as third-party. -/
  assumeThirdParty : Bool := false
  /-- The most bytes of a literal or callee that a label shows. -/
  labelLimit : Nat := 48
  deriving DecidableEq, Repr

namespace Settings

/-- A policy by its name in any case. -/
def readPolicy? (s : String) : Option OrphanPolicy :=
  OrphanPolicy.ofText? (trim s).toLower

def readSwitch? (s : String) : Option Bool :=
  let word := (trim s).toLower
  if ["1", "true", "yes", "on"].contains word then some true
  else if ["0", "false", "no", "off"].contains word then some false
  else none

/-- The number that decimal digits write, if there is a digit and nothing else. -/
def digits? (cs : List Char) : Option Nat :=
  if cs.isEmpty || !cs.all Char.isDigit then none
  else some (cs.foldl (fun n c => 10 * n + (c.toNat - 48)) 0)

/-- A positive number of 64 bits, with an optional plus sign. -/
def readLimit? (s : String) : Option Nat :=
  let digits := match (trim s).toList with
    | '+' :: cs => cs
    | cs => cs
  (digits? digits).filter fun n => 0 < n && n < 0x10000000000000000

/-- The variables that are looked up. -/
def variableNames : List String :=
  ["SRCGRAPH_ORPHAN_POLICY", "SRCGRAPH_PARALLEL", "SRCGRAPH_THIRD_PARTY", "SRCGRAPH_ASSUME_THIRD_PARTY",
    "SRCGRAPH_CONST_LABEL_MAX"]

/-- The settings that an environment asks for. -/
def ofLookup (lookup : String → Option String) : Settings :=
  let standard : Settings := {}
  { orphanPolicy := ((lookup "SRCGRAPH_ORPHAN_POLICY").bind readPolicy?).getD standard.orphanPolicy
    parallel := ((lookup "SRCGRAPH_PARALLEL").bind readSwitch?).getD standard.parallel
    thirdParty := ((lookup "SRCGRAPH_THIRD_PARTY").map commaList).getD standard.thirdParty
    assumeThirdParty :=
      ((lookup "SRCGRAPH_ASSUME_THIRD_PARTY").bind readSwitch?).getD standard.assumeThirdParty
    labelLimit := ((lookup "SRCGRAPH_CONST_LABEL_MAX").bind readLimit?).getD standard.labelLimit }

end Settings

end ProgramGraph
