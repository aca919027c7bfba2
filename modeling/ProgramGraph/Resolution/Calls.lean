import ProgramGraph.Resolution.Linking

/-! Deciding calls. A call whose target is known becomes an edge from the declaration that makes it; one
    whose target stays unknown becomes a call node with the nodes of its arguments, unless it stands in
    the arguments of a call that left no node itself. -/

namespace ProgramGraph
open Std

inductive CallOutcome
  | resolved (id : NodeId)
  /-- No target; the problem is there if the call should have had one. -/
  | unresolved (problem : Option Problem)
  deriving DecidableEq, Repr

namespace Linking

/-- The target of `cls.method(...)` for a class of the project. -/
def methodCall (l : Linking) (module cls method reference : String) : CallOutcome :=
  if l.symbols.isAmbiguous cls method then
    .unresolved (some (.unresolvedReference module reference
      ("`" ++ method ++ "` is inherited from several bases of " ++ cls)))
  else
    match (l.symbols.function? cls method).or (l.symbols.class? (Dotted.qualify cls method)) with
    | some id => .resolved id
    | none =>
      if l.openClasses.contains cls then .unresolved none
      else
        .unresolved (some (.unresolvedReference module reference
          ("class " ++ cls ++ " has no method `" ++ method ++ "`")))

/-- The target of `target.member(...)` for a module of the project. -/
def moduleCall (l : Linking) (module target member reference : String) : CallOutcome :=
  match (l.symbols.function? target member).or (l.symbols.class? (Dotted.qualify target member)) with
  | some id => .resolved id
  | none =>
    .unresolved (some (.unresolvedReference module reference
      ("module " ++ target ++ " has no function or class `" ++ member ++ "`")))

/-- The target of `name(...)`: a function of an enclosing function counts first, innermost first. -/
def nameCall (w : World) (l : Linking) (module : String) (owners : List String) (name : String) :
    CallOutcome :=
  match owners.findSome? fun owner => l.symbols.function? owner name with
  | some id => .resolved id
  | none =>
    match (l.symbols.declared? module name).getD (l.symbols.resolve w.classifier module name) with
    | .class _ id | .function id => .resolved id
    | _ => .unresolved none

def decideCall (w : World) (l : Linking) (module : String) (site : CallSite) : CallOutcome :=
  match site.target with
  | .computed => .unresolved none
  | .name name => nameCall w l module site.owners name
  | .attribute object method =>
    let reference := Dotted.qualify object method
    if object = "self" || object = "cls" then
      match site.classScope with
      | some cls => l.methodCall module cls method reference
      | none => .unresolved none
    else
      match l.symbols.resolve w.classifier module object with
      | .class qualname _ => l.methodCall module qualname method reference
      | .module name _ => l.moduleCall module name method reference
      | _ => .unresolved none

/-- Records the problem of a call, if it has one. -/
def reportCall (w : World) (module : String) (site : CallSite) (l : Linking) (p : Problem) : Linking :=
  report w l p module (some site.line)

/-- Places the nodes of a call without target. -/
def keepCall (w : World) (module : String) (l : Linking) (site : CallSite) : Linking × Bool :=
  let placement := l.graph.placeAll (site.fallback :: site.fragment)
  let placed := { l with graph := placement.graph }
  (placement.problems.foldl (reportCall w module site) placed,
    !placement.rejected.contains site.fallback.id)

/-- Decides one call. `kept` says of each earlier call of the outline whether it left a node. -/
def linkCall (w : World) (module : String) (state : Linking × Array Bool) (site : CallSite) :
    Linking × Array Bool :=
  let (l, kept) := state
  match decideCall w l module site with
  | .resolved id =>
    ({ l.link ⟨site.scope, id, .calls⟩ with counts.callsResolved := l.counts.callsResolved + 1 },
      kept.push false)
  | .unresolved problem =>
    let counted := { l with counts.callsUnresolved := l.counts.callsUnresolved + 1 }
    let reachable := site.enclosing.all fun place => kept.getD place false
    let (placed, here) := if reachable then keepCall w module counted site else (counted, false)
    (problem.elim placed (reportCall w module site placed), kept.push here)

def linkCalls (w : World) (l : Linking) (o : Outline) : Linking :=
  (o.callSites.foldl (linkCall w o.module) (l, #[])).1

end Linking

end ProgramGraph
