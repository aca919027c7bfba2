import ProgramGraph.Syntax.Machine

/-! Reductions: the trees on top of a stack become the parts of a construct. Where a stack holds several
    readings of the same text, the best one is chosen. -/

namespace ProgramGraph.Syntax.Machine
open Automaton

/-- The tree of a reduction from the lists of parts that there are, with the extra trees behind it. -/
def bestConstruct (p : Production) (lists : List (List Subtree)) : Subtree × List Subtree :=
  match lists with
  | [] => (.ofProduction p [], [])
  | first :: others =>
    let (parts, trailing) := others.foldl better (Subtree.splitTrailing first)
    (.ofProduction p parts, trailing)
where
  better (best : List Subtree × List Subtree) (other : List Subtree) : List Subtree × List Subtree :=
    let (parts, trailing) := Subtree.splitTrailing other
    let old := Subtree.node p.head best.1 p.labels
    if old.yieldsTo (.node p.head parts 0) then (parts, trailing) else best

/-- Puts constructs on the stacks that reductions have left, and joins what can be joined. `gone` threads of
    those before have been removed. -/
def finishReductions (v : Nat) (p : Production) (room : Nat) : List Slice → (gone : Nat) → Machine → Machine
  | [], _, m => m
  | s :: rest, gone, m =>
    let w := s.thread - gone
    if room < w then finishReductions v p room rest (gone + 1) (m.remove w)
    else
      let (tree, trailing) := bestConstruct p s.lists
      let state := Automaton.next (m.top w).state p.head
      let m := (m.push w tree state).pushAll w trailing state
      match m.partner? ((List.range w).filter (· != v)) w with
      | some u => finishReductions v p room rest (gone + 1) (m.join u w)
      | none => finishReductions v p room rest gone m

/-- Carries out a reduction in every way there is. Each result is a thread of its own, unless it joins
    another one; the first of the new threads is given. -/
def reduce (m : Machine) (v : Nat) (p : Production) : Option Nat × Machine :=
  let first := m.threads.length
  let (slices, m) := m.popCount v p.arity
  let room := threadLimit + overflow + (m.threads.filter Thread.isHalted).length
  let m := finishReductions v p room slices 0 m
  (if first < m.threads.length then some first else none, m)

/-- Carries out several reductions. Gives the first of the new threads of the last one. -/
def reduceAll (m : Machine) (v : Nat) (ps : List Production) : Option Nat × Machine :=
  ps.foldl (fun r p => r.2.reduce v p) (none, m)

/-- The tree of a whole text. The last construct on the stack takes in what stands around it. -/
def wholeTree (trees : List Subtree) : Option Subtree :=
  let (trees, trailing) := Subtree.splitTrailing trees
  trees.getLast?.map fun t => .node t.symbol (trees.dropLast ++ t.parts ++ trailing) t.tag.labels

/-- Notes a tree of the whole text, if it is the best so far. -/
def noteFinished (m : Machine) (trees : List Subtree) : Machine :=
  match wholeTree trees with
  | none => m
  | some t =>
    let best :=
      match m.finished with
      | none => t
      | some old => if old.yieldsTo t then t else old
    { m with finished := some best, finishes := m.finishes + 1 }

/-- Ends a thread that has read the whole text. -/
def finish (m : Machine) (v : Nat) (token : Subtree) : Machine :=
  let (slices, m) := (m.push v token .initial).popAll v
  let m := (slices.flatMap Slice.lists).foldl noteFinished m
  match slices with
  | [] => m.halt v
  | s :: _ => (m.remove s.thread).halt v

/-! ### Reductions that a text at fault allows -/

/-- What can be done in a state on some tokens: whether one of them can be taken, and the reductions. -/
structure Options where
  takes : Bool := false
  reductions : List Production := []

namespace Options

def addMove (o : Options) : Move → Options
  | .shift _ | .recover => { o with takes := true }
  | .reduce p =>
    if p.arity = 0 || o.reductions.any fun q => q.head == p.head && q.arity == p.arity then o
    else { o with reductions := o.reductions ++ [p] }
  | _ => o

def ofTokens (s : State) (tokens : List Symbol) : Options :=
  tokens.foldl (fun o t => (moves s t).foldl addMove o) {}

end Options

/-- All tokens but the end of the text. -/
def allTokens : List Symbol :=
  (List.range (Symbol.tokenCount - 1)).map fun i => ⟨i + 1⟩

/-- No text at fault needs as many steps. -/
def reductionSteps : Nat := 1000

/-- Carries out all reductions that a token allows on a thread and on what comes of it, or that any token
    allows. Says whether the token can be taken afterwards; threads that cannot take it are removed. -/
def reduceFor (m : Machine) (origin : Nat) (token : Option Symbol) : Bool × Machine :=
  go reductionSteps 0 origin false m
where
  first : Nat := m.threads.length
  tokens : List Symbol :=
    match token with
    | some t => [t]
    | none => allTokens
  go : (fuel : Nat) → (round v : Nat) → Bool → Machine → Bool × Machine
    | 0, _, _, takes, m => (takes, m)
    | n + 1, round, v, takes, m =>
      let count := m.threads.length
      if count ≤ v then (takes, m)
      else
        match m.partner? ((List.range v).filter (first ≤ ·)) v with
        | some u => go n (round + 1) v takes (m.join u v)
        | none =>
          let o := Options.ofTokens (m.top v).state tokens
          let (new, m) := m.reduceAll v o.reductions
          let after := if v = origin then count else v + 1
          match o.takes, new with
          | true, _ => go n (round + 1) after true m
          | false, some w =>
            if round < threadLimit then go n (round + 1) v takes (m.replace v w)
            else go n (round + 1) after takes (if token.isSome then m.remove v else m)
          | false, none => go n (round + 1) after takes (if token.isSome then m.remove v else m)

end ProgramGraph.Syntax.Machine
