import ProgramGraph.Syntax.Automaton
import ProgramGraph.Syntax.Extent
import ProgramGraph.Syntax.Numeral
import ProgramGraph.Text.Blank
import ProgramGraph.Text.Digit
import ProgramGraph.Text.Identifier

/-! Tokens that are read letter by letter. Of the tokens that a mode admits the longest one is read. Blanks
    before a token are passed over, except before an escape of a string, which stands where the string goes
    on. -/

namespace ProgramGraph.Syntax
open Text

/-- What is found at a place. -/
inductive Lexeme
  | found (symbol : Symbol) (start stop : Cursor)
  /-- No token starts there. `seen` is where the search for one has come. -/
  | missing (start seen : Cursor)

namespace Lexeme

/-- Blanks between tokens. -/
def isSeparator (c : Char) : Bool :=
  isBlank c || c.toNat == 0xfeff || c.toNat == 0x2060 || c.toNat == 0x200b

/-- The cursor at the first character that fails a test. -/
def skipWhile (is : Char → Bool) (c : Cursor) : Cursor :=
  go c.rest c.place
where
  go : List Char → Extent → Cursor
    | [], place => ⟨[], place⟩
    | x :: rest, place => if is x then go rest (place.afterChar x) else ⟨x :: rest, place⟩

/-! ### Escapes of strings -/

/-- The length of an escape of `n` hexadecimal digits behind its letter, or zero. -/
def hexEscape (n : Nat) (cs : List Char) : Nat :=
  if (cs.take n).length = n && (cs.take n).all Numeral.isHexDigit then n + 2 else 0

/-- The length of an escape by the name of a character, from the brace on behind `\N`, or zero. -/
def namedEscape : List Char → Nat
  | '\x7b' :: cs =>
    let name := cs.takeWhile fun c => c != '\x7d' && c != '\x00'
    if name.isEmpty || (cs.drop name.length).head? != some '\x7d' then 0 else name.length + 4
  | _ => 0

/-- The length of an escape, or zero. -/
def escapeLength : List Char → Nat
  | '\\' :: c :: cs =>
    if c = 'u' then hexEscape 4 cs
    else if c = 'U' then hexEscape 8 cs
    else if c = 'x' then hexEscape 2 cs
    else if c = 'N' then namedEscape cs
    else if isDecimal c then 1 + (((c :: cs).take 3).takeWhile isDecimal).length
    else if c = '\n' then 2
    else if c = '\r' then if cs.head? = some '\n' then 3 else 0
    else if "'\"abfrntv\\".toList.contains c then 2
    else 0
  | _ => 0

/-- The length of a backslash that joins lines, with the line end, or zero. -/
def joinLength : List Char → Nat
  | '\\' :: '\n' :: _ => 2
  | '\\' :: '\x00' :: _ => 2
  | '\\' :: '\r' :: '\n' :: _ => 3
  | _ => 0

/-! ### Tokens by their length -/

/-- The tokens that may start with the characters ahead, with their lengths; `atOnce` says that no blank was
    passed over. -/
def candidates (atOnce : Bool) (cs : List Char) : List (Symbol × Nat) :=
  match cs with
  | [] => []
  | c :: rest =>
    if startsIdentifier c then [(.name, 1 + (rest.takeWhile continuesIdentifier).length)]
    else if c = '#' then [(.comment, 1 + (rest.takeWhile fun x => x != '\n' && x != '\x00').length)]
    else if c = '\\' then
      let escapes := if atOnce then [(.escape, escapeLength cs), (.backslash, 1)] else []
      escapes ++ [(.joinedLine, joinLength cs)]
    else if c = '!' && rest.head?.any (fun x => 'a' ≤ x && x ≤ 'z') then [(.conversion, 2)]
    else
      let numerals := if c.isDigit || c = '.' then
          [(.integer, Numeral.integer cs), (.float, Numeral.fractional cs)]
        else []
      numerals ++ Symbol.signs.filterMap fun (s, text) =>
        if text.isPrefixOf cs then some (s, text.length) else none

/-- The longer of two tokens; the first of two that are as long. -/
def longer (a b : Symbol × Nat) : Symbol × Nat :=
  if a.2 < b.2 then b else a

/-- The longest admitted token at the front of a text, with its length. -/
def longest? (m : Mode) (atOnce : Bool) (cs : List Char) : Option (Symbol × Nat) :=
  match (candidates atOnce cs).filter fun (s, n) => 0 < n && m.admits s with
  | [] => none
  | first :: rest => some (rest.foldl longer first)

/-- How far a search goes that finds no token. -/
def searched : List Char → Nat
  | '\\' :: '\r' :: _ => 2
  | '\\' :: _ => 1
  | '!' :: _ => 1
  | _ => 0

/-- The token at a cursor. Text in a format goes before every other token. -/
def read (m : Mode) (c : Cursor) : Lexeme :=
  let start := if m.admits .formatText then skipWhile (· == '\n') c else skipWhile isSeparator c
  if start.atEnd then
    if m.admits .finish then .found .finish start start else .missing start start
  else
    let format :=
      if m.admits .formatText then
        (start.rest.takeWhile fun x => x != '\x7b' && x != '\x7d' && x != '\n' && x != '\x00').length
      else 0
    if 0 < format then .found .formatText start (start.skip format)
    else
      match longest? m (start.place.chars == c.place.chars) start.rest with
      | some (s, n) => .found s start (start.skip n)
      | none => .missing start (start.skip (searched start.rest))

end Lexeme

end ProgramGraph.Syntax
