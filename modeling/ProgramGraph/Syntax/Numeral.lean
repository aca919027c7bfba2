/-! Numerals. Each reader gives the length of the longest numeral of its form at the front of a text, or
    zero. Digits may have single underscores between and after them. -/

namespace ProgramGraph.Syntax.Numeral

/-- The length of a run of digits with underscores, each of which follows a digit. -/
def digitRun (isDigit : Char → Bool) : List Char → Nat
  | [] => 0
  | c :: '_' :: rest => if isDigit c then 2 + digitRun isDigit rest else 0
  | c :: rest => if isDigit c then 1 + digitRun isDigit rest else 0

/-- The length of a run of digits with underscores, each of which precedes a digit. -/
def laterRun (isDigit : Char → Bool) : List Char → Nat
  | [] => 0
  | '_' :: c :: rest => if isDigit c then 2 + laterRun isDigit rest else 0
  | c :: rest => if isDigit c then 1 + laterRun isDigit rest else 0

def decimalRun (cs : List Char) : Nat :=
  digitRun Char.isDigit cs

def isHexDigit (c : Char) : Bool :=
  c.isDigit || ('a' ≤ c && c ≤ 'f') || ('A' ≤ c && c ≤ 'F')

/-- One character that satisfies `is` after `length` others, if it is there. -/
def withSuffix (is : Char → Bool) (cs : List Char) (length : Nat) : Nat :=
  match cs.drop length with
  | c :: _ => if is c then length + 1 else length
  | [] => length

def isLongMark (c : Char) : Bool := c == 'l' || c == 'L'
def isImaginaryMark (c : Char) : Bool := c == 'j' || c == 'J'

/-- A numeral with a base, as in `0x1F`. -/
def based (lower upper : Char) (isDigit : Char → Bool) (cs : List Char) : Nat :=
  match cs with
  | '0' :: mark :: rest =>
    let run := laterRun isDigit rest
    if (mark == lower || mark == upper) && 0 < run then withSuffix isLongMark cs (2 + run) else 0
  | _ => 0

/-- A decimal integer, with the mark of a long or of an imaginary number. -/
def decimal (cs : List Char) : Nat :=
  let run := decimalRun cs
  if run = 0 then 0 else withSuffix (fun c => isLongMark c || isImaginaryMark c) cs run

/-- An exponent, as in `e-7`. -/
def exponent (cs : List Char) : Nat :=
  match cs with
  | mark :: rest =>
    if mark == 'e' || mark == 'E' then
      match rest with
      | sign :: more =>
        if sign == '+' || sign == '-' then
          let run := decimalRun more
          if run = 0 then 0 else 2 + run
        else
          let run := decimalRun rest
          if run = 0 then 0 else 1 + run
      | [] => 0
    else 0
  | [] => 0

/-- A number with a point or an exponent. -/
def fractional (cs : List Char) : Nat :=
  let whole := decimalRun cs
  let length := match cs.drop whole with
    | '.' :: rest =>
      let fraction := decimalRun rest
      if whole = 0 && fraction = 0 then 0
      else whole + 1 + fraction + exponent (rest.drop fraction)
    | rest =>
      let tail := exponent rest
      if whole = 0 || tail = 0 then 0 else whole + tail
  if length = 0 then 0 else withSuffix isImaginaryMark cs length

/-- The longest integer, of any base. -/
def integer (cs : List Char) : Nat :=
  [based 'x' 'X' isHexDigit cs, based 'o' 'O' (fun c => '0' ≤ c && c ≤ '7') cs,
    based 'b' 'B' (fun c => c == '0' || c == '1') cs, decimal cs].foldl max 0

end ProgramGraph.Syntax.Numeral
