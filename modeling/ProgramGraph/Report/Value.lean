/-! The values that a report is made of, and how they are written as JSON: on one line, or with a line for
    every entry and two blanks of indentation for every level. -/

namespace ProgramGraph.Report

inductive Value
  | null
  | number (n : Nat)
  | text (s : String)
  | list (items : List Value)
  | record (fields : List (String × Value))

namespace Value

/-- The record of some fields, sorted by their names. -/
def ofFields (fields : List (String × Value)) : Value :=
  record (fields.mergeSort fun a b => decide (a.1 ≤ b.1))

/-- The last two hexadecimal digits of a number. -/
def hexPair (n : Nat) : String :=
  String.ofList [Nat.digitChar (n / 16 % 16), Nat.digitChar (n % 16)]

/-- A character as it is written inside of quotes. Only quotes, backslashes and control characters are
    written in another way than as themselves. -/
def escape (c : Char) : String :=
  if c = '\x22' then "\\\x22"
  else if c = '\\' then "\\\\"
  else if c = '\n' then "\\n"
  else if c = '\r' then "\\r"
  else if c = '\t' then "\\t"
  else if c = '\x08' then "\\b"
  else if c = '\x0c' then "\\f"
  else if c.toNat < 0x20 then "\\u00" ++ hexPair c.toNat
  else c.toString

def quote (s : String) : String :=
  "\x22" ++ String.join (s.toList.map escape) ++ "\x22"

mutual

/-- A value on one line, without blanks. -/
def compact : Value → String
  | null => "null"
  | number n => toString n
  | text s => quote s
  | list items => "[" ++ ",".intercalate (compactItems items) ++ "]"
  | record fields => "\x7b" ++ ",".intercalate (compactFields fields) ++ "\x7d"

def compactItems : List Value → List String
  | [] => []
  | v :: rest => compact v :: compactItems rest

def compactFields : List (String × Value) → List String
  | [] => []
  | (name, v) :: rest => (quote name ++ ":" ++ compact v) :: compactFields rest

end

def indentation (depth : Nat) : String :=
  String.ofList (List.replicate (2 * depth) ' ')

/-- Entries between brackets, a line for each of them; without entries the brackets stand alone. -/
def bracketed (opening closing : String) (depth : Nat) : List String → String
  | [] => opening ++ closing
  | entries =>
    let lines := entries.map fun entry => indentation (depth + 1) ++ entry
    opening ++ "\n" ++ ",\n".intercalate lines ++ "\n" ++ indentation depth ++ closing

mutual

/-- A value on lines of its own, at a depth of indentation. -/
def indented (depth : Nat) : Value → String
  | null => "null"
  | number n => toString n
  | text s => quote s
  | list items => bracketed "[" "]" depth (indentedItems (depth + 1) items)
  | record fields => bracketed "\x7b" "\x7d" depth (indentedFields (depth + 1) fields)

def indentedItems (depth : Nat) : List Value → List String
  | [] => []
  | v :: rest => indented depth v :: indentedItems depth rest

def indentedFields (depth : Nat) : List (String × Value) → List String
  | [] => []
  | (name, v) :: rest => (quote name ++ ": " ++ indented depth v) :: indentedFields depth rest

end

end Value

end ProgramGraph.Report
