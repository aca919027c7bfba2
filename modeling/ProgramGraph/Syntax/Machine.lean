import ProgramGraph.Syntax.Stack

/-! The machine that reads a text with the automaton. It keeps several threads, each on a stack of its own:
    one for every way in which the text may be read, where the grammar leaves a choice or the text is at
    fault. Threads that come to the same state at the same place are joined. -/

namespace ProgramGraph.Syntax
open Automaton

inductive Status
  | active
  | halted
  /-- The thread waits at a token that it cannot read on with. -/
  | paused (token : Subtree)
  deriving Inhabited

/-- A cell to which a thread at fault may go back. -/
structure Landing where
  place : Extent
  /-- The number of trees above the cell. -/
  depth : Nat
  state : State

/-- One way in which the text up to a place may be read. -/
structure Thread where
  top : Nat
  /-- The count of the stack at the latest fault. -/
  settled : Nat := 0
  /-- The context behind the latest token of the layout. -/
  context : Option Context := none
  status : Status := .active
  landings : Option (List Landing) := none
  deriving Inhabited

namespace Thread

def isActive (t : Thread) : Bool :=
  match t.status with
  | .active => true
  | _ => false

def isHalted (t : Thread) : Bool :=
  match t.status with
  | .halted => true
  | _ => false

def isPaused (t : Thread) : Bool :=
  match t.status with
  | .paused _ => true
  | _ => false

end Thread

/-- The latest token that was read, with what it depends on. -/
structure Recent where
  place : Nat
  context : Option Context
  token : Subtree

structure Machine where
  text : SourceText
  cells : Cells
  threads : List Thread
  /-- What the latest reading of layout said of open strings with replacement fields. -/
  inFormatted : Bool := false
  recent : Option Recent := none
  /-- The best tree of the whole text so far. -/
  finished : Option Subtree := none
  /-- The number of trees of the whole text that were found. -/
  finishes : Nat := 0

/-- A step of the machine. -/
abbrev Step := StateM Machine

namespace Machine

/-- The machine before the first token. -/
def start (text : SourceText) : Machine where
  text
  cells := #[{ state := .initial }]
  threads := [{ top := 0 }]

/-- The number of threads that stay after each round. -/
def threadLimit : Nat := 6

/-- The number of threads beyond the limit that a round may start. -/
def overflow : Nat := 4

def thread (m : Machine) (v : Nat) : Thread :=
  m.threads[v]?.getD default

def top (m : Machine) (v : Nat) : Cell :=
  m.cells.cell (m.thread v).top

def modifyThread (m : Machine) (v : Nat) (f : Thread → Thread) : Machine :=
  { m with threads := m.threads.modify v f }

def halt (m : Machine) (v : Nat) : Machine :=
  m.modifyThread v fun t => { t with status := .halted }

def remove (m : Machine) (v : Nat) : Machine :=
  { m with threads := m.threads.eraseIdx v }

def swap (m : Machine) (v w : Nat) : Machine :=
  { m with threads := (m.threads.set v (m.thread w)).set w (m.thread v) }

/-- Adds a thread like another one, at the end. -/
def copy (m : Machine) (v : Nat) : Machine :=
  { m with threads := m.threads ++ [{ m.thread v with landings := none }] }

/-- Puts a thread in the place of another one. -/
def replace (m : Machine) (old new : Nat) : Machine :=
  if old = new then m
  else
    let o := m.thread old
    let n := m.thread new
    let landings := if n.landings.isNone then o.landings else n.landings
    { m with threads := (m.threads.set old { n with landings }).eraseIdx new }

/-- Puts a tree on the stack of a thread. -/
def push (m : Machine) (v : Nat) (tree : Subtree) (state : State) : Machine :=
  let c := m.cells.above (m.thread v).top (some tree) state
  let top := m.cells.size
  { m with cells := m.cells.push c, threads := m.threads.modify v fun t => { t with top } }

def pushAll (m : Machine) (v : Nat) (trees : List Subtree) (state : State) : Machine :=
  trees.foldl (fun m t => m.push v t state) m

/-- Marks on the stack of a thread that the text has gone astray. -/
def pushMark (m : Machine) (v : Nat) : Machine :=
  let c := m.cells.above (m.thread v).top none .astray
  let top := m.cells.size
  { m with
    cells := m.cells.push c
    threads := m.threads.modify v fun t => { t with top, settled := c.count } }

/-! ### Taking trees off a stack -/

/-- A thread that came of taking trees off a stack, with the lists of trees taken off. -/
structure Slice where
  thread : Nat
  lists : List (List Subtree)

namespace Slice

def trees (s : Slice) : List Subtree :=
  s.lists.headD []

end Slice

/-- Starts a thread at every cell that walks from a thread have come to. -/
def fork (m : Machine) (v : Nat) (groups : List (Nat × List (List Subtree))) : List Slice × Machine :=
  let origin := m.thread v
  let started : List Thread := groups.map fun g =>
    { top := g.1, settled := origin.settled, context := origin.context }
  let first := m.threads.length
  let slices := groups.zipIdx.map fun (g, i) => ⟨first + i, g.2⟩
  (slices, { m with threads := m.threads ++ started })

/-- Takes trees off the stack of a thread, in every way there is. -/
def pop (m : Machine) (v : Nat) (arrived : Walker → Bool) : List Slice × Machine :=
  let judge (_ : Unit) (w : Walker) := ((), if arrived w then Verdict.arrive else Verdict.goOn)
  m.fork v (Walker.byCell (Walker.walk m.cells judge () (m.thread v).top).2)

/-- Takes a number of trees off the stack of a thread. -/
def popCount (m : Machine) (v n : Nat) : List Slice × Machine :=
  m.pop v fun w => w.depth = n

/-- Takes off all trees. -/
def popAll (m : Machine) (v : Nat) : List Slice × Machine :=
  m.pop v fun w => (m.cells.cell w.cell).links.isEmpty

/-- Takes a fault off the top of the stack of a thread, if there is one. -/
def popFault (m : Machine) (v : Nat) : Option Subtree × Machine :=
  let isFault (t : Subtree) : Bool := t.symbol == .fault
  if (m.top v).links.any fun l => l.tree.any isFault then
    let judge (found : Bool) (w : Walker) :=
      match w.trees with
      | [] => (found, Verdict.goOn)
      | t :: _ => if !found && isFault t then (true, .arrive) else (found, .stop)
    match m.fork v (Walker.byCell (Walker.walk m.cells judge false (m.thread v).top).2) with
    | (s :: _, m) => (s.trees.head?, m.replace v s.thread)
    | ([], m) => (none, m)
  else (none, m)

/-- How far down a thread at fault may go back. -/
def landingDepth : Nat := 16

/-- The cells to which a thread may go back, the nearest first. -/
def landingsOf (m : Machine) (v : Nat) : List Landing :=
  let judge (found : List Landing) (w : Walker) :=
    let c := m.cells.cell w.cell
    if landingDepth < w.depth then (found, Verdict.stop)
    else
      let known := (found.takeWhile fun l => w.depth ≤ l.depth).any fun l =>
        l.depth == w.depth && l.state == c.state
      (if known then found else ⟨c.place, w.depth, c.state⟩ :: found, .goOn)
  (Walker.walk m.cells judge [] (m.thread v).top).1.reverse

/-! ### Joining threads -/

def canJoin (m : Machine) (v w : Nat) : Bool :=
  let a := m.thread v
  let b := m.thread w
  a.isActive && b.isActive && Cells.joinable (m.top v) (m.top w) && a.context == b.context

/-- Joins a thread with another one, which goes. -/
def join (m : Machine) (v w : Nat) : Machine :=
  let top := (m.thread v).top
  let m := { m with cells := m.cells.join top (m.thread w).top }
  let c := m.cells.cell top
  let m := if c.state = .astray then m.modifyThread v fun t => { t with settled := c.count } else m
  m.remove w

/-- The first of some threads that a thread can be joined with. -/
def partner? (m : Machine) (among : List Nat) (w : Nat) : Option Nat :=
  among.find? fun v => m.canJoin v w

/-! ### Comparing threads -/

/-- The cost of what a thread has passed over and put in. -/
def cost (m : Machine) (v : Nat) : Nat :=
  let c := m.top v
  let atMark := c.state = .astray && !(c.links.head?.any fun l => l.tree.isSome)
  c.cost + if (m.thread v).isPaused || atMark then Subtree.faultCost else 0

/-- The growth of a stack since its latest fault. A stack that has become smaller settles at its new size.
    -/
def growth (m : Machine) (v : Nat) : Nat × Machine :=
  let count := (m.top v).count
  let m := m.modifyThread v fun t => { t with settled := min count t.settled }
  (count - (m.thread v).settled, m)

/-- What threads are compared by. -/
structure Standing where
  cost : Nat
  growth : Nat
  weight : Int
  /-- The thread is at a fault. -/
  atFault : Bool

inductive Preference
  | firstOnly
  | first
  | none
  | second
  | secondOnly
  deriving DecidableEq

/-- Threads differ by too much in cost for the dearer one to be kept, the sooner the further they have come.
    -/
def costGap : Nat := 1800

def Standing.compare (a b : Standing) : Preference :=
  if !a.atFault && b.atFault then if a.cost < b.cost then .firstOnly else .first
  else if a.atFault && !b.atFault then if b.cost < a.cost then .secondOnly else .second
  else if a.cost < b.cost then
    if costGap < (b.cost - a.cost) * (1 + a.growth) then .firstOnly else .first
  else if b.cost < a.cost then
    if costGap < (a.cost - b.cost) * (1 + b.growth) then .secondOnly else .second
  else if b.weight < a.weight then .first
  else if a.weight < b.weight then .second
  else .none

def standing (m : Machine) (v : Nat) : Standing × Machine :=
  let paused := (m.thread v).isPaused
  let cost := m.cost v + if paused then Subtree.skippedTreeCost else 0
  let (growth, m) := m.growth v
  let c := m.top v
  ({ cost, growth, weight := c.weight, atFault := paused || c.state = .astray }, m)

/-- Whether another thread is better than a thread would be that had gone on at a cost. -/
def outdone (m : Machine) (v : Nat) (cost : Nat) : Bool × Machine :=
  if m.finished.any fun t => t.cost ≤ cost then (true, m)
  else
    let (growth, m) := m.growth v
    let c := m.top v
    let own : Standing := { cost, growth, weight := c.weight, atFault := false }
    go own c.place.bytes m.threads.length 0 m
where
  go (own : Standing) (place : Nat) : Nat → Nat → Machine → Bool × Machine
    | 0, _, m => (false, m)
    | n + 1, w, m =>
      if w = v || !(m.thread w).isActive || (m.top w).place.bytes < place then go own place n (w + 1) m
      else
        let (other, m) := m.standing w
        match own.compare other with
        | .secondOnly => (true, m)
        | .second => if m.canJoin w v then (true, m) else go own place n (w + 1) m
        | _ => go own place n (w + 1) m

end Machine

end ProgramGraph.Syntax
