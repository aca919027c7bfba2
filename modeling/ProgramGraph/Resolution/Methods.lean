import ProgramGraph.Resolution.Inheritance

/-! The methods of a class: its own and those that it inherits through project bases. Own methods win;
    a name that different bases give different meanings is ambiguous. A class that comes up again while
    its own table is being made contributes its own methods only. -/

namespace ProgramGraph
open Std

inductive MethodSlot
  | own (id : NodeId)
  | inherited (id : NodeId)
  | ambiguous
  deriving DecidableEq, Repr

abbrev MethodTable := TreeMap String MethodSlot

namespace MethodSlot

/-- A slot as a class that inherits it sees it. -/
def passedOn : MethodSlot → MethodSlot
  | own id | inherited id => inherited id
  | ambiguous => ambiguous

end MethodSlot

namespace MethodTable

/-- The methods that a class declares itself. -/
def own (s : Symbols) (cls : String) : MethodTable :=
  (s.functionsOf cls).map fun _ id => .own id

/-- Adds an inherited slot to a table. -/
def merge (table : MethodTable) (name : String) (incoming : MethodSlot) : MethodTable :=
  match table[name]? with
  | none => table.insert name incoming
  | some (.own _) => table
  | some present => if present = incoming then table else table.insert name .ambiguous

/-- Adds all that a base passes on. -/
def absorb (table base : MethodTable) : MethodTable :=
  base.toList.foldl (fun table (name, slot) => merge table name slot.passedOn) table

end MethodTable

/-- The tables made so far and the classes whose tables are being made. -/
structure TableState where
  made : TreeMap String MethodTable := ∅
  visiting : TreeSet String := ∅

namespace Hierarchy

/-- The method table of a class. `depth` bounds how many classes are visited inside one another. -/
def methodTable (s : Symbols) (h : Hierarchy) : (depth : Nat) → String → TableState →
    MethodTable × TableState
  | 0, cls, state => (.own s cls, state)
  | depth + 1, cls, state =>
    match state.made[cls]? with
    | some table => (table, state)
    | none =>
      if state.visiting.contains cls then (.own s cls, state)
      else
        let (table, state) := (h.bases cls).foldl
          (fun (table, state) base =>
            let (inherited, state) := methodTable s h depth base state
            (table.absorb inherited, state))
          (MethodTable.own s cls, { state with visiting := state.visiting.insert cls })
        (table, { made := state.made.insert cls table, visiting := state.visiting.erase cls })

/-- The tables of all classes of a hierarchy and of their bases. Only classes of the hierarchy have
    bases, so no more than all of them and one other are visited inside one another. -/
def methodTables (s : Symbols) (h : Hierarchy) : TreeMap String MethodTable :=
  (h.keys.foldl
    (fun (made : TreeMap String MethodTable) cls => (methodTable s h (h.size + 1) cls { made }).2.made)
    ∅)

/-- Enters one inherited slot of a class. -/
def enter (cls : String) (s : Symbols) (slot : String × MethodSlot) : Symbols :=
  match slot with
  | (_, .own _) => s
  | (name, .inherited id) => s.inherit cls name id
  | (name, .ambiguous) => s.markAmbiguous cls name

/-- The names of a project with the inherited methods of every class entered. -/
def mergeInherited (h : Hierarchy) (s : Symbols) : Symbols :=
  (methodTables s h).toList.foldl (fun s (cls, table) => table.toList.foldl (enter cls) s) s

end Hierarchy

end ProgramGraph
