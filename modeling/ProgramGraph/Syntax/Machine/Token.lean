import ProgramGraph.Syntax.Lexeme
import ProgramGraph.Syntax.Machine

/-! Reading the next token of a thread. The layout is asked first, then the letters. Where no token starts
    that the state of the thread asks for, any token is looked for, and characters that start none become a
    stray token. -/

namespace ProgramGraph.Syntax.Machine
open Automaton

/-- Whether a thread has read any text since its latest fault. -/
def hasAdvanced (m : Machine) (v : Nat) : Bool :=
  let t := m.thread v
  (m.cells.cell t.top).cost = 0 || go t.settled m.cells.size t.top
where
  go (settled : Nat) : (fuel : Nat) → (cell : Nat) → Bool
    | 0, _ => false
    | n + 1, i =>
      let c := m.cells.cell i
      match c.links.head? with
      | some ⟨below, some tree⟩ =>
        0 < tree.total.bytes || (settled < c.count && tree.cost = 0 && go settled n below)
      | _ => false

/-- The cursor at a place. A byte order mark at the start of the text is passed over. -/
def cursorAt (text : SourceText) (place : Extent) : Cursor :=
  let c := text.cursor place
  if place.bytes = 0 && c.shows '\ufeff' then c.next else c

/-- Where a search for a token starts, and what it depends on. -/
structure Search where
  state : State
  start : Extent
  context : Option Context
  advanced : Bool

namespace Search

/-- The token of the layout that was found at a place, unless it has no text and no effect where one is
    needed. -/
def layoutToken? (s : Search) (atFault : Bool) (place : Extent) (t : Laid) : Option Subtree :=
  let context := some t.context.remembered
  let turns := context != s.context
  let isExtra := Automaton.next s.state t.symbol == s.state
  if t.stop.bytes ≤ place.bytes && !turns && (atFault || !s.advanced || isExtra) then none
  else
    some <| .mk
      { symbol := t.symbol
        lead := t.start.since s.start
        size := t.stop.since t.start
        state := s.state
        context
        turns }
      []

/-- The token that was read letter by letter. A word of the grammar is a name where it cannot stand as a
    word. -/
def lexemeToken (s : Search) (symbol : Symbol) (start stop : Cursor) : Subtree :=
  let size := stop.place.since start.place
  let word? := if symbol = .name then Symbol.ofWord? (String.ofList (start.rest.take size.chars)) else none
  let symbol :=
    match word? with
    | some word => if accepts s.state word || (mode s.state).refuses word then word else symbol
    | none => symbol
  .mk
    { symbol
      lead := start.place.since s.start
      size
      extra := symbol = .finish
      state := s.state
      isWord := word?.isSome }
    []

/-- A stray token of the characters between two places. -/
def strayToken (s : Search) (first last : Extent) : Subtree :=
  .stray (first.since s.start) (last.since first) s.state

/-- The token that a search gives which has found one: behind characters that start no token they come
    first. -/
def settle (s : Search) (stray : Option (Extent × Extent)) (found : Subtree) : Subtree :=
  match stray with
  | none => found
  | some (first, last) => s.strayToken first last

/-- Looks for a token from a place on. `stray` are the first and the last place of the characters that were
    passed over, and `inFormatted` is what is assumed of strings where no context is known. -/
def run (s : Search) (text : SourceText) :
    (fuel : Nat) → (atFault : Bool) → (stray : Option (Extent × Extent)) → (place : Extent) →
      (inFormatted : Bool) → Subtree × Bool
  | 0, _, stray, place, inFormatted => (s.settle stray (s.strayToken place place), inFormatted)
  | n + 1, atFault, stray, place, inFormatted =>
    let m := mode (if atFault then .astray else s.state)
    let cursor := cursorAt text place
    let context := s.context.getD { inFormatted }
    let laid := Layout.read m (text.length + 1) context cursor
    let inFormatted := ((laid.map Laid.context).getD context).inFormatted
    match laid.bind (s.layoutToken? atFault place) with
    | some t => (s.settle stray t, inFormatted)
    | none =>
      match Lexeme.read m cursor with
      | .found symbol start stop => (s.settle stray (s.lexemeToken symbol start stop), inFormatted)
      | .missing start seen =>
        if !atFault then run s text n true none s.start inFormatted
        else
          let (first, last) := stray.getD (start.place, start.place)
          if seen.place.bytes != last.bytes then
            run s text n true (some (first, seen.place)) seen.place inFormatted
          else if seen.atEnd then (s.strayToken first last, inFormatted)
          else
            let place := seen.next.place
            run s text n true (some (first, place)) place inFormatted

end Search

/-- Reads the next token of a thread. -/
def readToken (m : Machine) (v : Nat) : Subtree × Machine :=
  let state := (m.top v).state
  let place := (m.top v).place
  let s : Search := { state, start := place, context := (m.thread v).context, advanced := m.hasAdvanced v }
  let (token, inFormatted) := s.run m.text (m.text.length + 4) (state == .astray) none place m.inFormatted
  (token, { m with inFormatted })

/-- Whether a token that was read in one state can stand in another. -/
def canReuse (state : State) (token : Subtree) : Bool :=
  let t := token.tag
  accepts state t.symbol && (mode state).id == (mode t.state).id &&
    (t.symbol != .name || (!t.isWord && t.state == state))

/-- The next token of a thread: the latest one that was read, if it stands there, or a new one. -/
def nextToken (m : Machine) (v : Nat) : Subtree × Machine :=
  let c := m.top v
  let context := (m.thread v).context
  let known := m.recent.filter fun r =>
    r.place == c.place.bytes && r.context == context && canReuse c.state r.token
  match known with
  | some r => (r.token, m)
  | none =>
    let (token, m) := m.readToken v
    (token, { m with recent := some ⟨c.place.bytes, context, token⟩ })

end ProgramGraph.Syntax.Machine
