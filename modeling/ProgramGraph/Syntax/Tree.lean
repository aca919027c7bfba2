import ProgramGraph.Syntax.Extent

/-! The syntax tree of a source file, as far as outlines depend on it. Statements contain expressions and
    statements; expressions contain expressions only. Where only the order of the parts matters, a
    construct is a plain group of its parts. -/

namespace ProgramGraph.Syntax

inductive Expr
  | name (start : Position) (text : String)
  /-- A number, a truth value, `None`, `...`, or strings without replacement fields, as written. -/
  | constant (start : Position) (text : String)
  /-- `object.member`, with the text that writes it. -/
  | attribute (object : Expr) (member written : String)
  /-- A call, with the text that writes the callee. -/
  | call (start : Position) (callee : Expr) (written : String) (arguments : List Expr)
  /-- `name=value` in an argument list. -/
  | keyword (value : Expr)
  /-- A string with replacement fields. -/
  | joined (start : Position) (parts : List Expr)
  /-- Text between the replacement fields of a string. -/
  | piece (start : Position) (text : String)
  /-- A replacement field: its value, and the fields inside its format. -/
  | field (start : Position) (value : Expr) (format : List Expr)
  /-- A type: an annotation, a type parameter or a side of a type alias. -/
  | typing (parts : List Expr)
  | group (parts : List Expr)
  deriving Repr

/-- A parameter of a function. Separators and parameters that are patterns have no name. -/
structure Parameter where
  start : Position
  name : Option String
  typing : List Expr
  value : Option Expr
  deriving Repr

/-- A name in an import statement: the imported path, and the name it is bound to if that is given. -/
structure ImportedName where
  path : String
  localName : Option String
  deriving DecidableEq, Repr

inductive Stmt
  /-- A statement, or the head of one, that is made of expressions. -/
  | expressions (parts : List Expr)
  /-- A statement that is made of statements and heads, in order. -/
  | block (parts : List Stmt)
  | loop (start : Position) (parts : List Stmt)
  | importing (start : Position) (names : List ImportedName)
  /-- `from module import names`; without names, `from module import *`. -/
  | importingFrom (start : Position) (module : String) (names : Option (List ImportedName))
  | function (start : Position) (name : String) (typeParameters : List Expr) (parameters : List Parameter)
      (result : List Expr) (body : List Stmt)
  | class (start : Position) (name : String) (typeParameters : List Expr) (arguments : List Expr)
      (body : List Stmt)
  deriving Repr

end ProgramGraph.Syntax
