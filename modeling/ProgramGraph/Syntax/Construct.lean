import ProgramGraph.Syntax.Subtree

/-! The visible part of a tree: constructs and tokens as they stand in the text, each with its kind and its
    role in the construct around it. -/

namespace ProgramGraph.Syntax
open Automaton

inductive Construct
  | mk (kind : Kind) (role : Option Role) (start size : Extent) (parts : List Construct)

namespace Construct

def kind : Construct → Kind
  | mk kind .. => kind

def role : Construct → Option Role
  | mk _ role .. => role

def start : Construct → Extent
  | mk _ _ start .. => start

def size : Construct → Extent
  | mk _ _ _ size _ => size

def parts : Construct → List Construct
  | mk _ _ _ _ parts => parts

/-- The text that a construct spells. -/
def text (t : SourceText) (c : Construct) : String :=
  t.slice c.start c.size

/-- The first construct of some in a role. -/
def inRole? (role : Role) (cs : List Construct) : Option Construct :=
  cs.find? fun c => c.role == some role

/-- Whether a construct is a word or a sign of the grammar itself. -/
def isMark (c : Construct) : Bool :=
  c.kind == .mark

end Construct

namespace Subtree

def roleAt? (labels : Labels) (place : Nat) : Option Role :=
  (labels.roles.find? fun e => e.1 == place).map (·.2)

mutual

/-- Puts the visible constructs of a tree before others. `before` is the place where the blanks before the
    tree start; `role` and `kind` are what the tree is in the construct around it. The role of a hidden tree
    goes to the first of its parts. -/
def visible (before : Extent) (role : Option Role) (kind : Option Kind) :
    Subtree → List Construct → List Construct
  | mk tag parts, others =>
    match kind.or tag.symbol.kind? with
    | some kind =>
      let inner := visibleAll (labelsOf tag.labels) 0 before none parts []
      .mk kind role (before ++ tag.lead) tag.size inner :: others
    | none => visibleAll (labelsOf tag.labels) 0 before role parts others

/-- Puts the visible constructs of parts before others. `place` counts the parts before that are not extra.
    -/
def visibleAll (labels : Labels) (place : Nat) (before : Extent) (role : Option Role) :
    List Subtree → List Construct → List Construct
  | [], others => others
  | t :: rest, others =>
    if t.isExtra then
      visible before none none t (visibleAll labels place (before ++ t.total) role rest others)
    else
      visible before ((roleAt? labels place).or role) (kindAt? labels place) t
        (visibleAll labels (place + 1) (before ++ t.total) none rest others)

end

/-- The visible constructs of a tree that stands at the start of a text. -/
def constructs (t : Subtree) : List Construct :=
  t.visible {} none none []

mutual

/-- The place of the first visible fault in a tree, in the order of the text: of a stretch that was passed
    over, or of a token that was put in. -/
def firstFault? (before : Extent) (isVisible : Bool) : Subtree → Option Extent
  | mk tag parts =>
    if isVisible && (tag.symbol == .fault || tag.missing) then some (before ++ tag.lead)
    else firstFaultOf? (labelsOf tag.labels) 0 before parts

def firstFaultOf? (labels : Labels) (place : Nat) (before : Extent) : List Subtree → Option Extent
  | [] => none
  | t :: rest =>
    let isVisible := t.symbol.isVisible || (!t.isExtra && (kindAt? labels place).isSome)
    let found := if 0 < t.cost then firstFault? before isVisible t else none
    match found with
    | some e => some e
    | none => firstFaultOf? labels (if t.isExtra then place else place + 1) (before ++ t.total) rest

end

end Subtree

end ProgramGraph.Syntax
