import ProgramGraph.Syntax.Layout

/-! The trees that the automaton builds, hidden symbols included. A tree carries what is asked of it often:
    its extent, the cost of the faults in it, and how many visible symbols it has. -/

namespace ProgramGraph.Syntax
open Automaton

/-- What a tree carries besides its parts. -/
structure Tag where
  symbol : Symbol
  /-- The blanks before the tree. -/
  lead : Extent := {}
  size : Extent := {}
  /-- The tree belongs to no construct, as a comment does. -/
  extra : Bool := false
  /-- The tree stands for a token that the text lacks. -/
  missing : Bool := false
  /-- The cost of the faults in the tree. -/
  cost : Nat := 0
  /-- The weights of the productions in the tree together. -/
  weight : Int := 0
  /-- The number of visible trees that its construct has as parts. -/
  width : Nat := 0
  /-- The number of visible trees in it. -/
  count : Nat := 0
  /-- The number of the labels of the parts. -/
  labels : Nat := 0
  /-- Of a token: the state in which it was read. -/
  state : State := .astray
  /-- Of a token: whether it is spelled like a word of the grammar. -/
  isWord : Bool := false
  /-- Of a token of the layout: the context behind it. -/
  context : Option Context := none
  /-- Of a token of the layout: whether the context behind it is another one than before. -/
  turns : Bool := false
  deriving Inhabited

inductive Subtree
  | mk (tag : Tag) (parts : List Subtree)
  deriving Inhabited

namespace Subtree

def tag : Subtree → Tag
  | mk tag _ => tag

def parts : Subtree → List Subtree
  | mk _ parts => parts

def symbol (t : Subtree) : Symbol := t.tag.symbol
def cost (t : Subtree) : Nat := t.tag.cost
def weight (t : Subtree) : Int := t.tag.weight
def isExtra (t : Subtree) : Bool := t.tag.extra

/-- The extent with the blanks before it. -/
def total (t : Subtree) : Extent := t.tag.lead ++ t.tag.size

/-- The tree, as belonging to no construct or not. -/
def setExtra (extra : Bool) : Subtree → Subtree
  | mk tag parts => mk { tag with extra } parts

/-! ### Costs of faults -/

/-- The cost of a token that the text lacks. -/
def missingCost : Nat := 610

/-- The cost of passing over something at all. -/
def faultCost : Nat := 500

/-- The cost of passing over a visible tree. -/
def skippedTreeCost : Nat := 100

/-- The cost of passing over a stretch of text. -/
def stretchCost (e : Extent) : Nat := e.bytes + 30 * e.lines

/-! ### Building trees -/

/-- A token that the text lacks. -/
def missingToken (s : Symbol) : Subtree :=
  mk { symbol := s, missing := true, cost := missingCost } []

/-- Characters that start no token. They cost nothing until they are passed over. -/
def stray (lead size : Extent) (state : State) : Subtree :=
  mk { symbol := .fault, lead, size, state } []

/-- Sums over the parts of a construct. -/
structure Sums where
  /-- The number of parts that are not extra. -/
  place : Nat := 0
  cost : Nat := 0
  weight : Int := 0
  width : Nat := 0
  count : Nat := 0

/-- The kind that labels give to a part. -/
def kindAt? (labels : Labels) (place : Nat) : Option Kind :=
  (labels.kinds.find? fun e => e.1 == place).map (·.2)

/-- The cost of a part as one of a stretch that is passed over. -/
def passedCost (t : Subtree) : Nat :=
  if t.isExtra || (t.symbol = .fault && t.parts.isEmpty) then 0
  else if t.symbol.isVisible then skippedTreeCost
  else skippedTreeCost * t.tag.width

namespace Sums

/-- The sums with one more part. -/
def add (labels : Labels) (inFault : Bool) (s : Sums) (t : Subtree) : Sums :=
  let visible := t.symbol.isVisible || (!t.isExtra && (kindAt? labels s.place).isSome)
  { place := if t.isExtra then s.place else s.place + 1
    cost := s.cost + (if t.symbol = .passedOver then 0 else t.cost) + (if inFault then passedCost t else 0)
    weight := s.weight + t.weight
    width := s.width + if visible then 1 else t.tag.width
    count := s.count + t.tag.count + if visible then 1 else 0 }

end Sums

/-- The extent of trees that follow each other, less the blanks before the first. -/
def sizeOf : List Subtree → Extent
  | [] => {}
  | first :: rest => rest.foldl (fun e t => e ++ t.total) first.tag.size

/-- The tree of a symbol with its parts. -/
def node (symbol : Symbol) (parts : List Subtree) (labels : Nat) : Subtree :=
  let inFault := symbol.isFault
  let sums := parts.foldl (Sums.add (labelsOf labels) inFault) {}
  let lead := (parts.head?.map fun t => t.tag.lead).getD {}
  let size := sizeOf parts
  mk
    { symbol
      lead
      size
      cost := sums.cost + if inFault then faultCost + stretchCost size else 0
      weight := sums.weight
      width := sums.width
      count := sums.count
      labels }
    parts

/-- The tree of a reduction. -/
def ofProduction (p : Production) (parts : List Subtree) : Subtree :=
  match node p.head parts p.labels with
  | mk tag parts => mk { tag with weight := tag.weight + p.weight } parts

/-- Splits off the extra trees at the end of a list. -/
def splitTrailing (ts : List Subtree) : List Subtree × List Subtree :=
  let trailing := (ts.reverse.takeWhile isExtra).reverse
  (ts.take (ts.length - trailing.length), trailing)

/-! ### Choosing between trees -/

mutual

/-- Orders trees by their symbols, then by the number of their parts, then by the parts in turn. -/
def order : Subtree → Subtree → Ordering
  | mk a as, mk b bs =>
    match compare a.symbol.code b.symbol.code with
    | .eq =>
      match compare as.length bs.length with
      | .eq => orderAll as bs
      | o => o
    | o => o

def orderAll : List Subtree → List Subtree → Ordering
  | a :: as, b :: bs =>
    match order a b with
    | .eq => orderAll as bs
    | o => o
  | _, _ => .eq

end

/-- Whether a later tree of one stretch of text is chosen over an earlier one: the cheaper, then the
    weightier; then the later one if there are faults, else the lesser one. -/
def yieldsTo (earlier later : Subtree) : Bool :=
  if later.cost != earlier.cost then later.cost < earlier.cost
  else if later.weight != earlier.weight then earlier.weight < later.weight
  else 0 < earlier.cost || order earlier later == .gt

/-- Whether two trees can stand for each other on the stack. -/
def alike (a b : Subtree) : Bool :=
  a.symbol == b.symbol &&
    ((0 < a.cost && 0 < b.cost) ||
      (a.tag.lead.bytes == b.tag.lead.bytes && a.tag.size.bytes == b.tag.size.bytes &&
        a.parts.length == b.parts.length && a.isExtra == b.isExtra && a.tag.context == b.tag.context))

/-- What a tree adds to the count of a stack. -/
def countOnStack (t : Subtree) : Nat :=
  t.tag.count + (if t.symbol.isVisible then 1 else 0) + if t.symbol = .passedOver then 1 else 0

end Subtree

end ProgramGraph.Syntax
