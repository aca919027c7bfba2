/-! Patterns for slash-separated paths. `?` and `*` stand for anything but slashes, `**` as a whole
    component for any number of components, brackets for one of a set, braces for one of several patterns.
    A path is matched as a whole and byte by byte. -/

namespace ProgramGraph.Ignore

/-- One part of a path that a pattern asks for. -/
inductive Step
  | byte (b : UInt8)
  /-- One byte that is no slash. -/
  | any
  /-- Any number of bytes that are no slashes. -/
  | run
  /-- One byte inside, or outside, of some ranges. -/
  | oneOf (negated : Bool) (ranges : List (UInt8 × UInt8))
  /-- A leading `**`: any folders at the front of the path. -/
  | anywhere
  /-- A `**` at the end: all that is below. -/
  | below
  /-- A `**` between two components: any folders between them. -/
  | between
  /-- The pattern `**`: every path. -/
  | everything
  deriving DecidableEq, Repr

namespace Step

def slash : UInt8 :=
  47

/-- What can be left of a path when some of its leading bytes, all of which satisfy a test, are taken off. -/
def tails (free : UInt8 → Bool) : List UInt8 → List (List UInt8)
  | [] => [[]]
  | b :: rest => (b :: rest) :: (if free b then tails free rest else [])

/-- What can be left of a path behind one of its slashes. -/
def behindSlash : List UInt8 → List (List UInt8)
  | [] => []
  | b :: rest => (if b = slash then [rest] else []) ++ behindSlash rest

/-- What can be left of a path behind a step at its front. -/
def rests : Step → List UInt8 → List (List UInt8)
  | byte b, path => if path.head? = some b then [path.tail] else []
  | any, path => if path.head?.any (· != slash) then [path.tail] else []
  | run, path => tails (· != slash) path
  | oneOf negated ranges, path =>
    let within := fun b => ranges.any fun (lo, hi) => lo ≤ b && b ≤ hi
    if path.head?.any fun b => within b != negated then [path.tail] else []
  | anywhere, path => path :: behindSlash path
  | below, path => if path.head? = some slash then tails (fun _ => true) path.tail else []
  | between, path => if path.head? = some slash then path.tail :: behindSlash path.tail else []
  | everything, path => tails (fun _ => true) path

/-- Whether steps one after the other lead through a whole path. -/
def matchAll : List Step → List UInt8 → Bool
  | [], path => path.isEmpty
  | s :: steps, path => (s.rests path).any (matchAll steps)

end Step

/-! ### Reading patterns -/

/-- The signs of a pattern. -/
inductive Sign
  | literal (c : Char)
  | question
  | star
  | set (negated : Bool) (ranges : List (Char × Char))
  | opening
  | closing
  | comma
  deriving DecidableEq

namespace Sign

/-- The ranges of a set, the last one first, and whether the next character ends the last range. -/
structure Ranges where
  ranges : List (Char × Char) := []
  ending : Bool := false

/-- Adds a character of a set; a range that runs backwards spoils the pattern. -/
def Ranges.add? (r : Ranges) (c : Char) : Option Ranges :=
  if c = '-' && !r.ending && !r.ranges.isEmpty then some { r with ending := true }
  else
    match r.ending, r.ranges with
    | true, (lo, _) :: earlier => if c < lo then none else some { ranges := (lo, c) :: earlier }
    | _, ranges => some { ranges := (c, c) :: ranges }

/-- The ranges that the text of a set writes. A dash at its end stands for itself. -/
def ranges? (text : List Char) : Option (List (Char × Char)) :=
  (text.foldlM Ranges.add? {}).map fun r =>
    (if r.ending then ('-', '-') :: r.ranges else r.ranges).reverse

/-- The text of a set up to its closing bracket, which is never the first character, and what follows. -/
def setText? : List Char → Option (List Char × List Char)
  | [] => none
  | c :: rest =>
    match rest.dropWhile (· != ']') with
    | [] => none
    | _ :: after => some (c :: rest.takeWhile (· != ']'), after)

/-- The signs of a pattern, or `none` if it ends in a lone backslash or holds a faulty set. A bracket that is
    not closed stands for itself. `bound` is at least the length of the text. -/
def read? : (bound : Nat) → List Char → Option (List Sign)
  | 0, _ | _, [] => some []
  | bound + 1, c :: rest =>
    match c with
    | '?' => (question :: ·) <$> read? bound rest
    | '*' => (star :: ·) <$> read? bound rest
    | '\x7b' => (opening :: ·) <$> read? bound rest
    | '\x7d' => (closing :: ·) <$> read? bound rest
    | ',' => (comma :: ·) <$> read? bound rest
    | '\\' =>
      match rest with
      | [] => none
      | escaped :: rest => (literal escaped :: ·) <$> read? bound rest
    | '[' =>
      let negated := rest.head? = some '!' || rest.head? = some '^'
      match setText? (if negated then rest.tail else rest) with
      | none => (literal '[' :: ·) <$> read? bound rest
      | some (text, after) => do
        let ranges ← ranges? text
        return set negated ranges :: (← read? bound after)
    | c => (literal c :: ·) <$> read? bound rest

def isSlash (s : Sign) : Bool :=
  s == literal '/'

end Sign

/-- A pattern as it nests. -/
inductive Piece
  | step (s : Step)
  | oneOf (branches : List (List Piece))

namespace Piece

def bytes (c : Char) : List UInt8 :=
  c.toString.toUTF8.toList

/-- The bytes of a range of characters: it runs from the last byte of its lower end to the first byte of its
    upper end, and the other bytes of both stand for themselves. -/
def byteRanges (lo hi : Char) : List (UInt8 × UInt8) :=
  if lo = hi then (bytes lo).map fun b => (b, b)
  else
    match (bytes lo).reverse, bytes hi with
    | last :: earlier, first :: later =>
      (earlier.reverse ++ later).map (fun b => (b, b)) ++ [(last, first)]
    | _, _ => []

mutual

/-- The ways through a piece. Empty branches count only if there are no others. -/
def ways : Piece → List (List Step)
  | step s => [[s]]
  | oneOf branches =>
    match (waysOfEach branches).filter fun way => !way.isEmpty with
    | [] => [[]]
    | others => others

def waysOfEach : List (List Piece) → List (List Step)
  | [] => []
  | branch :: rest => waysOfAll branch ++ waysOfEach rest

/-- The ways through pieces one after the other. -/
def waysOfAll : List Piece → List (List Step)
  | [] => [[]]
  | p :: rest => (ways p).flatMap fun front => (waysOfAll rest).map fun back => front ++ back

end

end Piece

/-- The branches that are being read, the innermost first, each with its last piece first. -/
structure Branches where
  stack : List (List Piece) := [[]]
  /-- For every open brace the number of branches outside of it. -/
  outside : List Nat := []

namespace Branches

def push (b : Branches) (pieces : List Piece) : Branches :=
  match b.stack with
  | [] => b
  | current :: others => { b with stack := (pieces.reverse ++ current) :: others }

def begin (b : Branches) : Branches :=
  { b with stack := [] :: b.stack }

/-- Closes the innermost brace; without an open one the pattern is faulty. -/
def close? (b : Branches) : Option Branches :=
  match b.outside with
  | [] => none
  | n :: outside =>
    let inner := b.stack.take (b.stack.length - n)
    let branches := (inner.map List.reverse).reverse
    some (Branches.push { stack := b.stack.drop inner.length, outside } [.oneOf branches])

/-- Puts a `**` that ends a component in place of the slash before it. Next to another `**` it says
    nothing. -/
def deepen (b : Branches) (s : Step) : Branches :=
  match b.stack with
  | (last :: current) :: others =>
    let s := match last with
      | .step .anywhere => .anywhere
      | .step .below => .below
      | _ => s
    { b with stack := (.step s :: current) :: others }
  | _ => b

/-- Reads the signs of a pattern behind a sign. -/
def read? (b : Branches) (before : Option Sign) : List Sign → Option Branches
  | [] => some b
  | .literal c :: rest =>
    (b.push ((Piece.bytes c).map fun byte => .step (.byte byte))).read? (some (.literal c)) rest
  | .question :: rest => (b.push [.step .any]).read? (some .question) rest
  | .set negated ranges :: rest =>
    let bytes := ranges.flatMap fun (lo, hi) => Piece.byteRanges lo hi
    (b.push [.step (.oneOf negated bytes)]).read? (some (.set negated ranges)) rest
  | .opening :: rest =>
    ({ b.begin with outside := b.stack.length :: b.outside }).read? (some .opening) rest
  | .closing :: rest => do (← b.close?).read? (some .closing) rest
  | .comma :: rest =>
    if b.outside.isEmpty then (b.push [.step (.byte 44)]).read? (some .comma) rest
    else b.begin.read? (some .comma) rest
  | .star :: .star :: rest =>
    let fresh := b.stack.head?.all (·.isEmpty)
    let inBraces := 2 ≤ b.stack.length
    let behind := before.any Sign.isSlash || (inBraces && (before = some .comma || before = some .opening))
    let twoRuns := b.push [.step .run, .step .run]
    match rest with
    | [] => some (if fresh then b.push [.step .anywhere] else if behind then b.deepen .below else twoRuns)
    | .literal c :: after =>
      if c = '/' && fresh then (b.push [.step .anywhere]).read? (some (.literal c)) after
      else if c = '/' && behind then (b.deepen .between).read? (some (.literal c)) after
      else twoRuns.read? (some .star) (.literal c :: after)
    | sign :: after =>
      if !fresh && behind && inBraces && (sign = .comma || sign = .closing) then
        (b.deepen .below).read? (some .star) (sign :: after)
      else twoRuns.read? (some .star) (sign :: after)
  | .star :: rest => (b.push [.step .run]).read? (some .star) rest

end Branches

/-- A pattern, as the ways that lead through the paths it matches. -/
structure Glob where
  ways : List (List Step)
  deriving DecidableEq, Repr

namespace Glob

/-- The pattern that a text writes, if it writes one. -/
def ofText? (text : String) : Option Glob := do
  let signs ← Sign.read? text.length text.toList
  match (← Branches.read? {} none signs).stack with
  | [[.step .anywhere]] => return ⟨[[.everything]]⟩
  | [pieces] => return ⟨Piece.waysOfAll pieces.reverse⟩
  | _ => none

def isMatch (g : Glob) (path : String) : Bool :=
  g.ways.any fun way => Step.matchAll way path.toUTF8.toList

end Glob

end ProgramGraph.Ignore
