import ProgramGraph.Syntax.Machine.Recovery
import ProgramGraph.Syntax.Machine.Token

/-! Running the machine. In a round each thread reads on until it is ahead of those before it; then the
    threads are weighed against each other, and of those at a fault the best one is repaired. -/

namespace ProgramGraph.Syntax.Machine
open Automaton

/-! ### One token -/

/-- What came of the moves on a token. -/
inductive Outcome
  /-- The thread has done with the token. -/
  | done
  /-- The reductions have left threads, of which one goes on. -/
  | goOn (thread : Nat)
  /-- The reductions have left no thread of their own. -/
  | absorbed
  /-- There was no move. -/
  | stuck

/-- Takes a token. -/
def shift (m : Machine) (v : Nat) (token : Subtree) (extra : Bool) (target : State) : Machine :=
  let m := m.push v (token.setExtra extra) target
  match token.tag.context with
  | some context => m.modifyThread v fun t => { t with context := some context }
  | none => m

/-- Carries out the moves on a token. A move that takes the token ends them. -/
def carryOut (v : Nat) (token : Subtree) : List Move → Outcome → Machine → Outcome × Machine
  | [], o, m => (o, m)
  | .shift target :: _, _, m => (.done, m.shift v token false target)
  | .pass :: _, _, m => (.done, m.shift v token true (m.top v).state)
  | .accept :: _, _, m => (.done, m.finish v token)
  | .recover :: _, _, m => (.done, m.recover v token)
  | .yielded _ :: rest, o, m => carryOut v token rest o m
  | .reduce p :: rest, o, m =>
    let (new, m) := m.reduce v p
    let o :=
      match new, o with
      | some w, _ => .goOn w
      | none, .stuck => .absorbed
      | none, o => o
    carryOut v token rest o m

/-- A word of the grammar, as a name. -/
def asName : Subtree → Subtree
  | .mk tag parts => .mk { tag with symbol := .name } parts

/-- Pauses a thread at a token. -/
def pause (m : Machine) (v : Nat) (token : Subtree) : Machine :=
  let count := (m.top v).count
  m.modifyThread v fun t => { t with status := .paused token, settled := count }

/-- Reads on with a token until it is taken. -/
def readOn : (fuel : Nat) → (v : Nat) → (token : Subtree) → Machine → Machine
  | 0, v, _, m => m.halt v
  | n + 1, v, token, m =>
    let state := (m.top v).state
    match carryOut v token (moves state token.symbol) .stuck m with
    | (.done, m) => m
    | (.goOn w, m) => readOn n v token (m.replace v w)
    | (.absorbed, m) => m.halt v
    | (.stuck, m) =>
      let mayBeName := token.tag.isWord && token.symbol != .name && !(mode state).refuses token.symbol
      if mayBeName && accepts state .name then readOn n v (asName token) m
      else m.pause v token

/-- The next token of a thread is read and taken, or the thread is paused. No construct reduces to itself,
    so the number of reductions is bounded by the height of the stack. -/
def advance (m : Machine) (v : Nat) : Machine :=
  let (token, m) := m.nextToken v
  readOn (reductionSteps * (m.cells.size + 1)) v token m

/-! ### Rounds -/

/-- Lets a thread read on until it is ahead of the ones before it. `front` is how far they have come. -/
def runThread : (fuel : Nat) → (v : Nat) → (front : Nat) → Machine → Nat × Machine
  | 0, _, front, m => (front, m)
  | n + 1, v, front, m =>
    if !(m.thread v).isActive then (front, m)
    else
      let m := m.advance v
      let place := (m.top v).place.bytes
      if front < place || (0 < v && place = front) then (place, m) else runThread n v front m

/-- Lets each thread read on. -/
def runThreads : (fuel : Nat) → (v : Nat) → (front : Nat) → Machine → Nat × Machine
  | 0, _, front, m => (front, m)
  | n + 1, v, front, m =>
    if m.threads.length ≤ v then (front, m)
    else
      let (front, m) := runThread (reductionSteps + 4 * m.text.length) v front m
      runThreads n (v + 1) front m

/-- Weighs a thread against the ones before it, from one on. Gives the next thread to be weighed. -/
def weigh (own : Standing) : (fuel : Nat) → (w v : Nat) → Machine → Nat × Machine
  | 0, w, _, m => (w + 1, m)
  | n + 1, w, v, m =>
    if w ≤ v then (w + 1, m)
    else
      let (other, m) := m.standing v
      match other.compare own with
      | .firstOnly => (w, m.remove w)
      | .secondOnly => weigh own n (w - 1) v (m.remove v)
      | preference =>
        if m.canJoin v w then (w, m.join v w)
        else weigh own n w (v + 1) (if preference = .second then m.swap v w else m)

/-- Weighs the threads from one on against those before them. Gives the least cost of a thread that is not
    at a fault. -/
def weighAll : (fuel : Nat) → (w : Nat) → (least : Option Nat) → Machine → Option Nat × Machine
  | 0, _, least, m => (least, m)
  | n + 1, w, least, m =>
    if m.threads.length ≤ w then (least, m)
    else if (m.thread w).isHalted then weighAll n w least (m.remove w)
    else
      let (own, m) := m.standing w
      let least := if own.atFault then least else some ((least.map (min own.cost)).getD own.cost)
      let (next, m) := weigh own (m.threads.length + 1) w 0 m
      weighAll n next least m

/-- Repairs the first of the paused threads, if it comes before all others, and drops the other ones. -/
def wake : (number : Nat) → (v : Nat) → (awake : Bool) → (least : Option Nat) → Machine → Option Nat × Machine
  | 0, _, _, least, m => (least, m)
  | n + 1, v, awake, least, m =>
    match (m.thread v).status with
    | .paused token =>
      if !awake && m.finishes < threadLimit then
        let least := some (m.cost v)
        let m := (m.modifyThread v fun t => { t with status := .active }).handleFault v token
        wake n (v + 1) true least m
      else wake n v awake least (m.remove v)
    | _ => wake n (v + 1) true least m

/-- Drops the threads that are not worth going on with. Gives the least cost of a thread. -/
def condense (m : Machine) : Option Nat × Machine :=
  let (least, m) := weighAll (2 * m.threads.length + 2) 0 none m
  let m := { m with threads := m.threads.take threadLimit }
  wake m.threads.length 0 false least m

/-- Runs rounds until no thread is left, or until none can give a better tree of the text than there is. -/
def rounds : (fuel : Nat) → (front : Nat) → Machine → Machine
  | 0, _, m => m
  | n + 1, front, m =>
    let (front, m) := runThreads reductionSteps 0 front m
    let count := m.threads.length
    let (least, m) := m.condense
    let settled := m.finished.any fun t => least.all (t.cost < ·)
    if settled || count = 0 then m else rounds n front m

/-- The best tree of a source text. -/
def parse (text : SourceText) : Option Subtree :=
  (rounds (reductionSteps * (text.length + 1)) 0 (start text)).finished

end ProgramGraph.Syntax.Machine
