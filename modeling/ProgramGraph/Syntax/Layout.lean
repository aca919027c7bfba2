import ProgramGraph.Syntax.Automaton
import ProgramGraph.Syntax.Extent

/-! Tokens that layout decides: line ends and changes of indentation, and the parts of strings. What they
    are depends on the blocks and strings that are open, which a context remembers. -/

namespace ProgramGraph.Syntax

/-- The form of a string, as its opening quote gives it. -/
structure StringForm where
  quote : Char
  triple : Bool
  raw : Bool
  /-- Braces in it open replacement fields. -/
  formatted : Bool
  bytes : Bool
  deriving DecidableEq, Repr

/-- What layout depends on besides the text ahead. -/
structure Context where
  /-- The last quote opened a string with replacement fields. -/
  inFormatted : Bool := false
  /-- The open strings, innermost first. -/
  strings : List StringForm := []
  /-- The indentations of the open blocks, innermost first, over the margin. -/
  indents : List Nat := [0]
  deriving DecidableEq, Repr

namespace Context

/-- The last members of a list, at most `n`. -/
def lastOnes {α : Type} (n : Nat) (l : List α) : List α :=
  l.drop (l.length - n)

/-- The number of strings that a context can remember. -/
def stringLimit : Nat := 255

/-- The number of indentations that a context of some strings can remember over the margin. -/
def indentLimit (strings : Nat) : Nat :=
  (1024 - (2 + strings) + 1) / 2

/-- What of a context is remembered: a context has room for a limited number of strings and indentations,
    and the innermost ones are forgotten first. -/
def remembered (c : Context) : Context :=
  let strings := lastOnes stringLimit c.strings
  { c with strings, indents := lastOnes (indentLimit strings.length + 1) c.indents }

def openString (c : Context) (f : StringForm) : Context :=
  { c with strings := f :: c.strings, inFormatted := f.formatted }

def closeString (c : Context) : Context :=
  { c with strings := c.strings.tail, inFormatted := false }

end Context

/-- A token of the layout, with the context behind it. -/
structure Laid where
  symbol : Symbol
  start : Extent
  stop : Extent
  context : Context

namespace Layout

def isBrace (c : Char) : Bool := c == '\x7b' || c == '\x7d'

def isQuote (c : Char) : Bool := c == '\x22' || c == '\x27' || c == '\x60'

/-! ### Inside a string -/

/-- How far the text of a string goes. -/
inductive Content
  | piece (stop : Cursor)
  | closing (stop : Cursor)
  /-- The string cannot go on there. -/
  | refused
  /-- The whole text has ended. -/
  | unfinished (c : Cursor)

/-- A piece of text that ends at a cursor, if there is any. -/
def Content.upTo (any : Bool) (c : Cursor) : Content :=
  if any then .piece c else .refused

/-- The cursor behind an escaped quote or line end of a raw string. -/
def behindRawEscape (f : StringForm) (c : Cursor) : Cursor :=
  let c := c.next.nextIf fun x => x == f.quote || x == '\\'
  if c.shows '\r' then c.next.nextIf (· == '\n') else c.nextIf (· == '\n')

/-- Quotes of a string in triple quotes: three of them close it, unless text precedes. -/
def tripleQuotes (f : StringForm) (any : Bool) (c : Cursor) : Content :=
  let second := c.next
  if second.shows f.quote then
    let third := second.next
    if third.shows f.quote then if any then .piece c else .closing third.next
    else .piece third
  else .piece second

/-- Reads the text of a string; `any` says that some has been read. -/
def content (f : StringForm) : (fuel : Nat) → (any : Bool) → Cursor → Content
  | 0, _, c => .unfinished c
  | n + 1, any, c =>
    match c.shown? with
    | none => .unfinished c
    | some x =>
      if f.formatted && isBrace x then .upTo any c
      else if x = '\\' then
        if f.raw then content f n any (behindRawEscape f c)
        else if f.bytes && c.next.shown?.any fun y => y == 'N' || y == 'u' || y == 'U' then
          content f n true (c.skip 3)
        else .upTo any c
      else if x = f.quote then
        if f.triple then tripleQuotes f any c
        else if any then .piece c
        else .closing c.next
      else if x = '\n' && any && !f.triple then .refused
      else content f n true c.next

/-! ### Between tokens -/

/-- The blanks before a token. -/
structure Gap where
  cursor : Cursor
  /-- The place behind the blanks. -/
  start : Extent
  /-- Whether a line ends in the gap, as it does at the end of the text. -/
  breaks : Bool := false
  /-- The indentation of the line that the gap leads to. -/
  indent : Nat := 0
  /-- The indentation of the first comment line. -/
  remark : Option Nat := none

namespace Gap

/-- The gap with its next character. -/
def pass (g : Gap) : Gap :=
  let cursor := g.cursor.next
  { g with cursor, start := cursor.place }

/-- The gap up to the end of a line. -/
def passLine : Nat → Gap → Gap
  | 0, g => g
  | n + 1, g => if g.cursor.shown?.all (· == '\n') then g else passLine n g.pass

/-- A gap with its next comment line, of at most `n` characters. -/
def passRemark (n : Nat) (g : Gap) : Gap :=
  let remark := g.remark.getD g.indent
  { (passLine n g).pass with indent := 0, remark := some remark }

/-- A gap with a backslash and the line end that it joins. -/
def passJoin? (g : Gap) : Option Gap :=
  let g := g.pass
  let g := if g.cursor.shows '\r' then g.pass else g
  if g.cursor.shows '\n' || g.cursor.atEnd then some g.pass else none

/-- A gap with all blanks ahead; `remarks` says that comment lines belong to it. No token follows if a
    comment or a backslash stands where none can. -/
def whole? (remarks : Bool) : (fuel : Nat) → Gap → Option Gap
  | 0, g => some g
  | n + 1, g =>
    if g.cursor.atEnd then some { g with indent := 0, breaks := true }
    else
      match g.cursor.shown? with
      | none => some g
      | some x =>
        if x = '\n' then whole? remarks n { g.pass with breaks := true, indent := 0 }
        else if x = ' ' then whole? remarks n { g.pass with indent := g.indent + 1 }
        else if x = '\t' then whole? remarks n { g.pass with indent := g.indent + 8 }
        else if x = '\r' || x = '\x0c' then whole? remarks n { g.pass with indent := 0 }
        else if x = '#' && remarks then if g.breaks then whole? remarks n (g.passRemark n) else none
        else if x = '\\' then
          match g.passJoin? with
          | some g => whole? remarks n g
          | none => none
        else some g

end Gap

/-! ### Opening quotes -/

/-- The string that a cursor stands before, with the cursor behind its opening quote; `f` is what its
    letters so far say. -/
def openingQuote? : (fuel : Nat) → (f : StringForm) → Cursor → Option (StringForm × Cursor)
  | 0, _, _ => none
  | n + 1, f, c =>
    match c.shown? with
    | none => none
    | some x =>
      if ['f', 'F', 't', 'T'].contains x then openingQuote? n { f with formatted := true } c.next
      else if x = 'r' || x = 'R' then openingQuote? n { f with raw := true } c.next
      else if x = 'b' || x = 'B' then openingQuote? n { f with bytes := true } c.next
      else if x = 'u' || x = 'U' then openingQuote? n f c.next
      else if !isQuote x then none
      else
        let f := { f with quote := x }
        let first := c.next
        let triple := x != '\x60' && first.shows x && first.next.shows x
        some ({ f with triple }, if triple then first.skip 2 else first)

/-! ### Tokens -/

/-- A token that ends before the blanks ahead: they belong to the next one. -/
def laid (symbol : Symbol) (start stop : Extent) (context : Context) : Laid :=
  { symbol, start := if stop.bytes < start.bytes then stop else start, stop, context }

/-- The change of indentation at the end of a line. -/
def indentation? (m : Mode) (context : Context) (g : Gap) (stop : Extent) : Option Laid :=
  match context.indents with
  | [] => none
  | current :: outer =>
    let indent := g.indent % 65536
    if m.lays .indent && current < indent then
      some (laid .indent g.start stop { context with indents := indent :: context.indents })
    else
      let inBrackets := m.lays .closeBrace || m.lays .closeParen || m.lays .closeBracket
      let stringAhead := m.lays .stringStart && g.cursor.shown?.any isQuote
      if (m.lays .dedent || (!m.lays .lineEnd && !stringAhead && !inBrackets)) && indent < current &&
          !context.inFormatted && g.remark.all (· < current) then
        some (laid .dedent g.start stop { context with indents := outer })
      else none

/-- The token behind a gap; `stop` is where a token without text ends. -/
def afterGap (m : Mode) (limit : Nat) (context : Context) (g : Gap) (stop : Extent) : Option Laid :=
  let atFault := m.lays .stringText && m.lays .indent
  match if g.breaks then indentation? m context g stop else none with
  | some t => some t
  | none =>
    if g.breaks && m.lays .lineEnd && !atFault then some (laid .lineEnd g.start stop context)
    else if g.remark.isNone && m.lays .stringStart then
      match openingQuote? limit ⟨'\x22', false, false, false, false⟩ g.cursor with
      | some (f, c) => some (laid .stringStart g.start c.place (context.openString f))
      | none => none
    else none

/-- The token behind the blanks at a cursor. -/
def betweenTokens (m : Mode) (limit : Nat) (context : Context) (start : Extent) (c : Cursor) : Option Laid :=
  let remarks := m.lays .indent || m.lays .dedent || m.lays .lineEnd || m.lays .exceptWord
  match Gap.whole? remarks limit { cursor := c, start } with
  | some g => afterGap m limit context g c.place
  | none => none

/-- The doubled brace at a cursor. -/
def doubledBrace? (context : Context) (c : Cursor) : Option Laid :=
  if c.shown? == c.next.shown? then some (laid .doubledBrace c.place (c.skip 2).place context) else none

/-- The token of the layout at a cursor, of those that a mode asks for. In the state of a text at fault
    strings are not looked into. `limit` is more than the number of characters ahead. -/
def read (m : Mode) (limit : Nat) (context : Context) (c : Cursor) : Option Laid :=
  let atFault := m.lays .stringText && m.lays .indent
  match context.strings with
  | [] => betweenTokens m limit context c.place c
  | f :: _ =>
    if m.lays .doubledBrace && !atFault && f.formatted && c.shown?.any isBrace then doubledBrace? context c
    else if m.lays .stringText && !atFault then
      match content f limit false c with
      | .piece stop => some (laid .stringText c.place stop.place context)
      | .closing stop => some (laid .stringEnd c.place stop.place context.closeString)
      | .refused => none
      | .unfinished stop => betweenTokens m limit context c.place stop
    else betweenTokens m limit context c.place c

end Layout

end ProgramGraph.Syntax
