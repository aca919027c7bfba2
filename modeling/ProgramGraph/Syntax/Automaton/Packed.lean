/-! Packed tables. A table is a sequence of words in pages of 64; a word is a sequence of digits of twelve
    bits, the lowest first. A row of a table lists keys with values, and it may extend an earlier row. -/

namespace ProgramGraph.Syntax.Automaton

/-- A sequence in pages of 64. -/
structure Pages (α : Type) where
  pages : Array (Array α)

namespace Pages

variable {α β : Type}

def get? (t : Pages α) (i : Nat) : Option α :=
  match t.pages[i / 64]? with
  | some page => page[i % 64]?
  | none => none

def map (f : α → β) (t : Pages α) : Pages β :=
  ⟨t.pages.map fun page => page.map f⟩

end Pages

/-- The digits of a word, at most `n`, without the zeros at its end. -/
def digits : (n : Nat) → (word : Nat) → List Nat
  | 0, _ => []
  | n + 1, word => if word = 0 then [] else word % 4096 :: digits n (word / 4096)

/-- No word has as many digits. -/
def digitLimit : Nat := 128

def wordDigits (word : Nat) : List Nat :=
  digits digitLimit word

/-- A list in pairs. A zero at the end may be left out. -/
def pairs : List Nat → List (Nat × Nat)
  | a :: b :: rest => (a, b) :: pairs rest
  | [a] => [(a, 0)]
  | [] => []

/-- A row of a table. -/
structure Row where
  /-- The earlier row that this one extends, counted from 1, or zero. -/
  base : Nat
  /-- The keys that the row itself lists, with their values. -/
  entries : List (Nat × Nat)
  deriving Repr

namespace Row

/-- A row from its word: the base, then the entries. -/
def ofWord (word : Nat) : Row :=
  match wordDigits word with
  | base :: rest => ⟨base, pairs rest⟩
  | [] => ⟨0, []⟩

end Row

/-- The value of the first key that passes a test, in a row or in the rows that it extends. A row extends an
    earlier one, so a chain of rows is no longer than the number of its last. -/
def lookUp (rows : Pages Row) (is : Nat → Bool) (row : Nat) : Option Nat :=
  go (row + 1) row
where
  go : Nat → Nat → Option Nat
    | 0, _ => none
    | n + 1, row =>
      match rows.get? row with
      | none => none
      | some r =>
        match r.entries.find? fun e => is e.1 with
        | some e => some e.2
        | none => if r.base = 0 then none else go n (r.base - 1)

end ProgramGraph.Syntax.Automaton
