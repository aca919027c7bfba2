import ProgramGraph.Syntax.Subtree

/-! Stacks that share their lower parts. A cell stands for a state and for the stacks below it: one link for
    each way in which the text up to its place was read. Walks down from a cell follow all links. -/

namespace ProgramGraph.Syntax

/-- A link to a cell below. Without a tree it marks the place where a text went astray. -/
structure Link where
  below : Nat
  tree : Option Subtree
  deriving Inhabited

structure Cell where
  state : State
  links : List Link := []
  place : Extent := {}
  /-- The cost of the faults up to the cell. -/
  cost : Nat := 0
  /-- The weight of the heaviest stack. -/
  weight : Int := 0
  /-- The number of visible trees on the largest stack. -/
  count : Nat := 0
  deriving Inhabited

/-- The cells of all stacks. A link leads to a cell by its number. -/
abbrev Cells := Array Cell

namespace Cells

def cell (cs : Cells) (i : Nat) : Cell :=
  cs[i]?.getD default

/-- A cell over another one. -/
def above (cs : Cells) (below : Nat) (tree : Option Subtree) (state : State) : Cell :=
  let c := cs.cell below
  let next : Cell := { c with state, links := [⟨below, tree⟩] }
  match tree with
  | none => next
  | some t =>
    { next with
      place := c.place ++ t.total
      cost := c.cost + t.cost
      weight := c.weight + t.weight
      count := c.count + t.countOnStack }

/-! ### Joining stacks -/

/-- The number of links that a cell can have. -/
def linkLimit : Nat := 8

def alikeTrees : Option Subtree → Option Subtree → Bool
  | none, none => true
  | some a, some b => a.alike b
  | _, _ => false

/-- Whether one cell can take over the links of another. -/
def joinable (a b : Cell) : Bool :=
  a.state == b.state && a.place.bytes == b.place.bytes && a.cost == b.cost

def weightOf (tree : Option Subtree) : Int :=
  (tree.map Subtree.weight).getD 0

/-- The cell with the tree of one link replaced, where the new tree weighs more. -/
def upgrade (below c : Cell) (i : Nat) (link : Link) : Cell :=
  match c.links[i]?.bind (·.tree), link.tree with
  | some old, some new =>
    if old.weight < new.weight then
      { c with links := c.links.set i link, weight := below.weight + new.weight }
    else c
  | _, _ => c

/-- The cell with one more link. -/
def extend (below c : Cell) (link : Link) : Cell :=
  if c.links.length = linkLimit then c
  else
    { c with
      links := c.links ++ [link]
      count := max c.count (below.count + (link.tree.map Subtree.countOnStack).getD 0)
      weight := max c.weight (below.weight + weightOf link.tree) }

/-- Gives a cell one more link. Where it has a link with a like tree already, the cells below are joined
    instead. -/
def link : (fuel : Nat) → Cells → (target : Nat) → Link → Cells
  | 0, cs, _, _ => cs
  | n + 1, cs, target, l =>
    if l.below = target then cs
    else
      let c := cs.cell target
      let below := cs.cell l.below
      let found := c.links.findIdx? fun e =>
        alikeTrees e.tree l.tree && (e.below == l.below || joinable (cs.cell e.below) below)
      match found with
      | none => cs.setIfInBounds target (extend below c l)
      | some i =>
        let e := c.links[i]?.getD l
        if e.below = l.below then cs.setIfInBounds target (upgrade below c i l)
        else
          let cs := below.links.foldl (fun cs l => link n cs e.below l) cs
          let c := cs.cell target
          cs.setIfInBounds target { c with weight := max c.weight ((cs.cell l.below).weight + weightOf l.tree) }

/-- Gives one cell all links of another. -/
def join (cs : Cells) (target other : Nat) : Cells :=
  (cs.cell other).links.foldl (fun cs l => link cs.size cs target l) cs

end Cells

/-! ### Walks -/

/-- A walk down a stack. -/
structure Walker where
  cell : Nat
  /-- The trees on the way, the lowest first. -/
  trees : List Subtree := []
  /-- The number of trees on the way that are not extra, and of marks. -/
  depth : Nat := 0

inductive Verdict
  | goOn
  | stop
  /-- The walk has come where it should. -/
  | arrive

namespace Walker

/-- The walk along a link. -/
def follow (w : Walker) (l : Link) : Walker :=
  match l.tree with
  | none => { w with cell := l.below, depth := w.depth + 1 }
  | some t =>
    { cell := l.below, trees := t :: w.trees, depth := if t.isExtra then w.depth else w.depth + 1 }

/-- The number of walks that are under way at once. -/
def limit : Nat := 64

/-- The walks of a round: those that have gone on, those that branched off, and those that have arrived,
    each the latest first, with what the walks have noted. -/
structure Round (σ : Type) where
  notes : σ
  kept : List Walker := []
  branched : List Walker := []
  arrived : List Walker := []

variable {σ : Type}

/-- Takes each walk one step further. At a cell with several links a walk goes on along the first, and a new
    walk branches off along each other. -/
def round (cs : Cells) (judge : σ → Walker → σ × Verdict) : Round σ → List Walker → Round σ
  | r, [] => r
  | r, w :: rest =>
    let (notes, verdict) := judge r.notes w
    let r := { r with notes }
    match verdict with
    | .arrive => round cs judge { r with arrived := w :: r.arrived } rest
    | .stop => round cs judge r rest
    | .goOn =>
      match (cs.cell w.cell).links with
      | [] => round cs judge r rest
      | first :: others =>
        let room := limit - (r.kept.length + 1 + rest.length + r.branched.length)
        let branches := (others.take room).map w.follow
        round cs judge
          { r with kept := w.follow first :: r.kept, branched := branches.reverse ++ r.branched } rest

/-- Walks until no walk is under way. Gives the notes, and the walks that have arrived in their order. -/
def walkAll (cs : Cells) (judge : σ → Walker → σ × Verdict) :
    (fuel : Nat) → σ → (arrived : List Walker) → List Walker → σ × List Walker
  | 0, notes, arrived, _ => (notes, arrived.reverse)
  | _, notes, arrived, [] => (notes, arrived.reverse)
  | n + 1, notes, arrived, ws =>
    let r := round cs judge { notes, arrived } ws
    walkAll cs judge n r.notes r.arrived (r.kept.reverse ++ r.branched.reverse)

/-- Walks down from a cell. -/
def walk (cs : Cells) (judge : σ → Walker → σ × Verdict) (notes : σ) (start : Nat) : σ × List Walker :=
  walkAll cs judge (cs.size + 2) notes [] [{ cell := start }]

/-- The lists of trees of walks, by the cells that the walks have come to, in the order of arrival. -/
def byCell (ws : List Walker) : List (Nat × List (List Subtree)) :=
  ws.foldl add []
where
  add (groups : List (Nat × List (List Subtree))) (w : Walker) : List (Nat × List (List Subtree)) :=
    match groups with
    | [] => [(w.cell, [w.trees])]
    | (cell, lists) :: rest =>
      if cell = w.cell then (cell, lists ++ [w.trees]) :: rest else (cell, lists) :: add rest w

end Walker

end ProgramGraph.Syntax
