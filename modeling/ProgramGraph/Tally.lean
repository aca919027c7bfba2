import Std.Data.TreeMap

/-! How often each name occurs in a list. Only names that occur have an entry. -/

namespace ProgramGraph
open Std

abbrev Tally := TreeMap String Nat

namespace Tally

def bump (t : Tally) (name : String) : Tally :=
  t.insert name (t.getD name 0 + 1)

def ofList (names : List String) : Tally :=
  names.foldl bump ∅

end Tally

end ProgramGraph
