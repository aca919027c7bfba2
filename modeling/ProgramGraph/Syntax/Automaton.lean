import ProgramGraph.Syntax.Automaton.Choices
import ProgramGraph.Syntax.Automaton.Gotos
import ProgramGraph.Syntax.Automaton.Productions
import ProgramGraph.Syntax.Automaton.Shifts
import ProgramGraph.Syntax.Automaton.States

/-! The automaton of the grammar. In a state it takes a token, or it reduces the parts on top of its stack
    to a construct; where the grammar leaves open which, the automaton lists several moves, and each of them
    is tried. State 0 is the state of a text at fault: it takes every token, and knows of none what it is
    for. -/

namespace ProgramGraph.Syntax

/-- A state of the automaton. -/
structure State where
  index : Nat
  deriving DecidableEq, Repr, Inhabited

namespace State

/-- The state of a text at fault. -/
def astray : State := ⟨0⟩

/-- The state before the first token. -/
def initial : State := ⟨1⟩

end State

/-- How a text is read in a state. -/
structure Mode where
  /-- States of one mode read every text alike. -/
  id : Nat
  /-- The tokens that are looked for letter by letter, as a mask of their codes. -/
  lexemes : Nat
  /-- The tokens that layout decides, as a mask of their codes. -/
  layout : Nat
  /-- Whether reserved words are refused as names. -/
  reserves : Bool
  deriving Inhabited

namespace Mode

def admits (m : Mode) (s : Symbol) : Bool :=
  m.lexemes.testBit s.code

def lays (m : Mode) (s : Symbol) : Bool :=
  m.layout.testBit s.code

/-- Whether a word is refused as a name. -/
def refuses (m : Mode) (s : Symbol) : Bool :=
  m.reserves && s.isReserved

end Mode

/-- A production of the grammar: a construct and the number of its parts. -/
structure Production where
  head : Symbol
  arity : Nat
  /-- Of two readings of one text the one of the greater weight is preferred. -/
  weight : Int
  /-- The number of the labels of the parts. -/
  labels : Nat
  deriving DecidableEq, Repr, Inhabited

inductive Move
  /-- Takes the token. -/
  | shift (target : State)
  /-- Would take the token, but gives way to the reductions beside it. -/
  | yielded (target : State)
  /-- Takes the token as one that belongs to no construct. -/
  | pass
  | reduce (p : Production)
  | accept
  /-- Takes the token in the state of a text at fault. -/
  | recover
  deriving Repr

namespace Automaton

/-! ### The tables, unpacked -/

structure StateRows where
  mode : Nat
  shifts : Nat
  choices : Nat
  gotos : Nat

namespace StateRows

def ofWord (word : Nat) : StateRows :=
  let ds := wordDigits word
  ⟨ds.getD 0 0, ds.getD 1 0, ds.getD 2 0, ds.getD 3 0⟩

end StateRows

def states : Pages StateRows := stateWords.map StateRows.ofWord
def shiftRows : Pages Row := shiftWords.map Row.ofWord
def choiceRows : Pages Row := choiceRowWords.map Row.ofWord
def gotoRows : Pages Row := gotoWords.map Row.ofWord

def modes : Pages (Nat × Nat × Bool) :=
  modeWords.map fun word =>
    let ds := wordDigits word
    (lexemeSets.getD (ds.getD 0 0) 0, layoutSets.getD (ds.getD 1 0) 0, ds.getD 2 0 != 0)

def productions : Pages Production :=
  productionWords.map fun word =>
    let ds := wordDigits word
    ⟨⟨ds.getD 0 0⟩, ds.getD 1 0, (ds.getD 2 0 : Int) - 1, ds.getD 3 0⟩

/-- A move from its form and the state or production that it goes to. -/
def moveOf? : Nat × Nat → Option Move
  | (1, target) => some (.shift ⟨target⟩)
  | (2, target) => some (.yielded ⟨target⟩)
  | (3, p) => (productions.get? p).map .reduce
  | (4, _) => some .accept
  | (5, _) => some .recover
  | _ => none

def choices : Pages (List Move) :=
  choiceWords.map fun word => (pairs (wordDigits word)).filterMap moveOf?

def labelTable : Array Labels := labels.toArray

/-! ### What the automaton does -/

def rows (s : State) : StateRows :=
  (states.get? s.index).getD ⟨0, 0, 0, 0⟩

/-- How a text is read in a state. -/
def mode (s : State) : Mode :=
  let id := (rows s).mode
  let (lexemes, layout, reserves) := (modes.get? id).getD (0, 0, false)
  { id, lexemes, layout, reserves }

/-- Whether a key of the choices stands for a token. -/
def keyMatches (token key : Nat) : Bool :=
  if key < 128 then key == token else ((tokenSets.get? (key - 128)).getD 0).testBit token

/-- What the automaton may do on a token. Comments and joined lines may stand anywhere. -/
def moves (s : State) (token : Symbol) : List Move :=
  if token.isToken then
    let r := rows s
    match lookUp shiftRows (· == token.code) r.shifts with
    | some (target + 1) => [.shift ⟨target + 1⟩]
    | _ =>
      match lookUp choiceRows (keyMatches token.code) r.choices with
      | some (choice + 1) => (choices.get? choice).getD []
      | _ => if token = Symbol.comment || token = Symbol.joinedLine then [.pass] else []
  else []

/-- Whether the automaton can go on with a token. -/
def accepts (s : State) (token : Symbol) : Bool :=
  !(moves s token).isEmpty

/-- The state behind a complete construct. -/
def goto (s : State) (construct : Symbol) : State :=
  ⟨(lookUp gotoRows (· == construct.code) (rows s).gotos).getD 0⟩

/-- The state behind a symbol, or state 0 if it cannot stand there. -/
def next (s : State) (symbol : Symbol) : State :=
  if symbol.isFault then .astray
  else if symbol.isToken then
    match (moves s symbol).getLast? with
    | some (.shift target) => target
    | some (.yielded target) => target
    | some .pass => s
    | _ => .astray
  else goto s symbol

/-- The labels of the parts of a production. -/
def labelsOf (number : Nat) : Labels :=
  (labelTable[number]?).getD ⟨[], []⟩

end Automaton

end ProgramGraph.Syntax
