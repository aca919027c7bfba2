import ProgramGraph.Syntax.Machine.Reduction

/-! What the machine does about a fault. A thread that cannot read on puts in a token that the text may
    lack, goes back to a cell that can read on, or passes over the token; each has a cost, and the cheapest
    reading of the whole text is kept. -/

namespace ProgramGraph.Syntax.Machine
open Automaton

/-- The tree of a fault: what was passed over. -/
def faultTree (parts : List Subtree) : Subtree :=
  (Subtree.node .fault parts 0).setExtra true

/-- The threads of slices that have come to a state, with what was taken off as a fault; the other ones are
    halted. Says whether there are any. -/
def closeFaults (goal : State) : List Slice → Bool → Machine → Bool × Machine
  | [], any, m => (any, m)
  | s :: rest, any, m =>
    if (m.top s.thread).state != goal then closeFaults goal rest any (m.halt s.thread)
    else
      let (fault, m) := m.popFault s.thread
      let trees := (fault.map Subtree.parts).getD [] ++ s.trees
      let (parts, trailing) := Subtree.splitTrailing trees
      let m := if parts.isEmpty then m else m.push s.thread (faultTree parts) goal
      closeFaults goal rest true (m.pushAll s.thread trailing goal)

/-- Takes a number of trees off a stack, as a fault, where this leads back to a state. -/
def goBack (m : Machine) (v depth : Nat) (goal : State) : Bool × Machine :=
  let (slices, m) := m.popCount v depth
  closeFaults goal slices false m

/-- The cost of going back to a cell. -/
def backCost (place : Extent) (l : Landing) : Nat :=
  l.depth * Subtree.skippedTreeCost + Subtree.stretchCost (place.since l.place)

/-- Goes back to the nearest cell that can go on with a token, unless it is too dear. `count` threads were
    there before; where one of them is in the state of a cell already, the cell is left to it. -/
def goBackFor (v count : Nat) (token : Symbol) (growth cost : Nat) : List Landing → Machine → Bool × Machine
  | [], m => (false, m)
  | l :: rest, m =>
    let place := (m.top v).place
    let taken := (List.range count).any fun w =>
      (m.top w).state == l.state && (m.top w).place.bytes == place.bytes
    if l.state = .astray || l.place.bytes = place.bytes || taken then goBackFor v count token growth cost rest m
    else
      let (outdone, m) := m.outdone v (cost + backCost place l)
      if outdone then (false, m)
      else if accepts l.state token then
        let (done, m) := m.goBack v (if 0 < growth then l.depth + 1 else l.depth) l.state
        if done then (true, m) else goBackFor v count token growth cost rest m
      else goBackFor v count token growth cost rest m

/-- Keeps the active ones of the threads from a number on. -/
def keepActive (m : Machine) (first : Nat) : Machine :=
  { m with threads := m.threads.take first ++ (m.threads.drop first).filter Thread.isActive }

/-- Ends a thread at the end of the text. -/
def finishAstray (m : Machine) (v : Nat) (token : Subtree) : Machine :=
  (m.push v (.node .fault [] 0) .initial).finish v token

/-- Whether a token is extra, as a comment is, wherever it stands. -/
def isExtraToken (token : Symbol) : Bool :=
  match (moves .initial token).getLast? with
  | some .pass => true
  | _ => false

/-- Passes over a token. What was passed over just before joins it. -/
def passOver (m : Machine) (v : Nat) (token : Subtree) (growth : Nat) : Machine :=
  let token := if isExtraToken token.symbol then token.setExtra true else token
  let passed := Subtree.node .passedOver [token] 0
  let (passed, m) :=
    if growth = 0 then (passed, m)
    else
      match m.popCount v 1 with
      | (s :: _, m) =>
        let m := { m with threads := m.threads.take (s.thread + 1) }
        (Subtree.node .passedOver (s.trees ++ [passed]) 0, m.replace v s.thread)
      | ([], m) => (passed, m)
  let m := m.push v passed .astray
  match token.tag.context with
  | some context => m.modifyThread v fun t => { t with context := some context }
  | none => m

/-- Goes on with a token in the state of a text at fault. -/
def recover (m : Machine) (v : Nat) (token : Subtree) : Machine :=
  let count := m.threads.length
  let landings := (m.thread v).landings.getD []
  let (growth, m) := m.growth v
  let cost := m.cost v
  let (back, m) :=
    if token.symbol = .fault then (false, m) else goBackFor v count token.symbol growth cost landings m
  let m := m.keepActive count
  if back && (threadLimit < m.threads.length || token.tag.turns) then m.halt v
  else if token.symbol = .finish then m.finishAstray v token
  else
    let (outdone, m) := m.outdone v (cost + Subtree.skippedTreeCost + Subtree.stretchCost token.total)
    if outdone then m.halt v else m.passOver v token growth

/-- Puts in a token after which the next one can be taken, if there is one. Before the end of the text it is
    enough that any token could follow. -/
def putIn (m : Machine) (v : Nat) (token : Symbol) : Bool × Machine :=
  let state := (m.top v).state
  go state allTokens m
where
  following : Option Symbol :=
    if token = .finish then none else some token
  reduces (s : State) : Bool :=
    match moves s token with
    | .reduce _ :: _ => true
    | _ => false
  go (state : State) : List Symbol → Machine → Bool × Machine
    | [], m => (false, m)
    | missing :: rest, m =>
      let after := Automaton.next state missing
      if after = .astray || after = state || !reduces after then go state rest m
      else
        let w := m.threads.length
        let (takes, m) := ((m.copy v).push w (.missingToken missing) after).reduceFor w following
        if takes then (true, m) else go state rest m

/-- Lets threads go astray, and puts in a token for the first of them that a token helps. -/
def goAstray (token : Symbol) : List Nat → (helped : Bool) → Machine → Machine
  | [], _, m => m
  | v :: rest, helped, m =>
    let (helped, m) := if helped then (true, m) else m.putIn v token
    goAstray token rest helped (m.pushMark v)

/-- Joins the threads that have gone astray: those of some numbers in a row with one before. -/
def joinAstray (v first : Nat) : (number : Nat) → Machine → Machine
  | 0, m => m
  | n + 1, m => joinAstray v first n (if m.canJoin v first then m.join v first else m)

/-- What a thread does when it cannot go on with a token. -/
def handleFault (m : Machine) (v : Nat) (token : Subtree) : Machine :=
  let first := m.threads.length
  let m := (m.reduceFor v none).2
  let number := m.threads.length - first
  let m := goAstray token.symbol (v :: (List.range number).map (first + ·)) false m
  let m := joinAstray v first number m
  let landings := m.landingsOf v
  (m.modifyThread v fun t => { t with landings := some landings }).recover v token

end ProgramGraph.Syntax.Machine
