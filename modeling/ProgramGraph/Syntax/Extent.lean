/-! Places in a source text, the stretches between them, and cursors that walk from place to place. -/

namespace ProgramGraph.Syntax

/-- A place in a file: the line, and the byte within the line, both counted from 1. -/
structure Position where
  line : Nat
  column : Nat
  deriving DecidableEq, Repr

/-- How far a stretch of text reaches. A place is the stretch from the start of the text to it. -/
structure Extent where
  chars : Nat := 0
  bytes : Nat := 0
  /-- The line ends in the stretch. -/
  lines : Nat := 0
  /-- The bytes behind the last line end. -/
  columns : Nat := 0
  deriving DecidableEq, Repr, Inhabited

namespace Extent

/-- One stretch with another one behind it. -/
def append (a b : Extent) : Extent where
  chars := a.chars + b.chars
  bytes := a.bytes + b.bytes
  lines := a.lines + b.lines
  columns := if 0 < b.lines then b.columns else a.columns + b.columns

instance : Append Extent := ⟨append⟩

/-- The stretch from an earlier place to a place. -/
def since (place earlier : Extent) : Extent where
  chars := place.chars - earlier.chars
  bytes := place.bytes - earlier.bytes
  lines := place.lines - earlier.lines
  columns := if earlier.lines < place.lines then place.columns else place.columns - earlier.columns

/-- The place behind a character. -/
def afterChar (e : Extent) (c : Char) : Extent :=
  if c = '\n' then
    { chars := e.chars + 1, bytes := e.bytes + 1, lines := e.lines + 1, columns := 0 }
  else
    { e with chars := e.chars + 1, bytes := e.bytes + c.utf8Size, columns := e.columns + c.utf8Size }

def position (place : Extent) : Position :=
  ⟨place.lines + 1, place.columns + 1⟩

end Extent

/-- A source text. From each place the characters that follow can be read. -/
structure SourceText where
  /-- The ends of the text, the longest first. -/
  tails : Array (List Char)

namespace SourceText

def ofChars (cs : List Char) : SourceText :=
  ⟨go #[] cs⟩
where
  go (tails : Array (List Char)) : List Char → Array (List Char)
    | [] => tails.push []
    | c :: cs => go (tails.push (c :: cs)) cs

/-- The characters from a place on. -/
def behind (t : SourceText) (place : Extent) : List Char :=
  t.tails[place.chars]?.getD []

/-- The number of characters. -/
def length (t : SourceText) : Nat :=
  t.tails.size - 1

/-- The text of a stretch that starts at a place. -/
def slice (t : SourceText) (place size : Extent) : String :=
  String.ofList ((t.behind place).take size.chars)

end SourceText

/-- A place in a text with the characters from there on. -/
structure Cursor where
  rest : List Char
  place : Extent
  deriving Inhabited

namespace Cursor

/-- The character at the cursor. A NUL shows no character, as the end of the text does. -/
def shown? (c : Cursor) : Option Char :=
  match c.rest with
  | [] => none
  | x :: _ => if x = '\x00' then none else some x

def shows (c : Cursor) (x : Char) : Bool :=
  c.shown? == some x

def atEnd (c : Cursor) : Bool :=
  c.rest.isEmpty

/-- The cursor behind its character. -/
def next (c : Cursor) : Cursor :=
  match c.rest with
  | [] => c
  | x :: rest => ⟨rest, c.place.afterChar x⟩

/-- The cursor behind its character if the character passes a test. -/
def nextIf (c : Cursor) (is : Char → Bool) : Cursor :=
  if c.shown?.any is then c.next else c

/-- The cursor behind some characters. -/
def skip (c : Cursor) : Nat → Cursor
  | 0 => c
  | n + 1 => c.next.skip n

end Cursor

namespace SourceText

def cursor (t : SourceText) (place : Extent) : Cursor :=
  ⟨t.behind place, place⟩

end SourceText

end ProgramGraph.Syntax
