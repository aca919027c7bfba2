import ProgramGraph.Syntax.Construct
import ProgramGraph.Syntax.Tree
import ProgramGraph.Text.Blank

/-! From constructs to the syntax tree: what a construct is as an expression, as a parameter and as a
    statement. -/

namespace ProgramGraph.Syntax
namespace Construct
open Automaton

/-- Whether a construct has no part in the syntax tree. -/
def isSilent (c : Construct) : Bool :=
  c.kind == .mark || c.kind == .comment

/-- The text of the first construct in a role. -/
def roleText (t : SourceText) (role : Role) (cs : List Construct) : String :=
  ((inRole? role cs).map (text t)).getD ""

/-- The text of the first construct in a role, without blanks. -/
def roleName (t : SourceText) (role : Role) (cs : List Construct) : String :=
  Text.dropBlanks (roleText t role cs)

/-- Whether the parts of a string are those of one with replacement fields, by the letters before its quote.
    -/
def isFormatted (t : SourceText) (parts : List Construct) : Bool :=
  match parts.find? fun c => c.kind == .stringStart with
  | some start => ((start.text t).toList.takeWhile Char.isAlpha).any fun c => c == 'f' || c == 'F'
  | none => false

/-- Whether one of some strings has replacement fields. -/
def anyFormatted (t : SourceText) (strings : List Construct) : Bool :=
  strings.any fun c => c.kind == .string && isFormatted t c.parts

/-! ### Expressions -/

mutual

def expression (t : SourceText) : Construct → Expr
  | mk kind _ start size parts =>
    let constant : Expr := .constant start.position (t.slice start size)
    match kind with
    | .identifier => .name start.position (t.slice start size)
    | .literal => constant
    | .attribute =>
      .attribute (expressionIn t .object parts) (roleText t .member parts) (t.slice start size)
    | .call =>
      .call start.position (expressionIn t .callee parts) (roleText t .callee parts)
        (partsIn t .arguments parts)
    | .keyword => .keyword (expressionIn t .value parts)
    | .string => if isFormatted t parts then .joined start.position (pieces t parts) else constant
    | .joinedStrings => if anyFormatted t parts then .group (expressions t parts) else constant
    | .stringPiece => .piece start.position (t.slice start size)
    | .replacement => .field start.position (expressionIn t .value parts) (formats t parts)
    | .typing => .typing (expressions t parts)
    | _ => .group (expressions t parts)

def expressions (t : SourceText) : List Construct → List Expr
  | [] => []
  | c :: rest => if c.isSilent then expressions t rest else expression t c :: expressions t rest

/-- The first construct in a role, as an expression. -/
def expressionIn (t : SourceText) (role : Role) : List Construct → Expr
  | [] => .group []
  | c :: rest => if c.role = some role then expression t c else expressionIn t role rest

/-- The parts of the first construct in a role, as expressions. -/
def partsIn (t : SourceText) (role : Role) : List Construct → List Expr
  | [] => []
  | mk _ r _ _ parts :: rest => if r = some role then expressions t parts else partsIn t role rest

/-- The text and the replacement fields of a string. -/
def pieces (t : SourceText) : List Construct → List Expr
  | [] => []
  | c :: rest =>
    if c.kind = .stringPiece || c.kind = .replacement then expression t c :: pieces t rest else pieces t rest

/-- The fields in the format of a replacement field. -/
def formats (t : SourceText) : List Construct → List Expr
  | [] => []
  | mk kind _ _ _ parts :: rest =>
    if kind = .formatting then expressions t parts ++ formats t rest else formats t rest

end

/-! ### Parameters -/

mutual

/-- The name of a parameter, which may stand inside of a type, of stars or of a default. -/
def parameterName (t : SourceText) : Construct → Option String
  | mk kind _ start size parts =>
    match kind with
    | .identifier => some (t.slice start size)
    | .defaulted => nameInRole t parts
    | .typed | .splat => firstName t parts
    | _ => none

def nameInRole (t : SourceText) : List Construct → Option String
  | [] => none
  | c :: rest => if c.role = some .name then parameterName t c else nameInRole t rest

/-- The name of the first construct that is no mark and no type. A comment there leaves none. -/
def firstName (t : SourceText) : List Construct → Option String
  | [] => none
  | c :: rest => if c.isMark || c.kind = .typing then firstName t rest else parameterName t c

end

def ofKind (kind : Kind) (cs : List Construct) : List Construct :=
  cs.filter fun c => c.kind == kind

def parameter (t : SourceText) (c : Construct) : Parameter where
  start := c.start.position
  name := parameterName t c
  typing := expressions t (ofKind .typing c.parts)
  value := (inRole? .value c.parts).map (expression t)

/-- The parameters of a function, from its parts. -/
def parameters (t : SourceText) (parts : List Construct) : List Parameter :=
  match inRole? .parameters parts with
  | some list => (list.parts.filter fun c => !c.isSilent).map (parameter t)
  | none => []

/-! ### Statements -/

/-- A name in an import statement. -/
def importedName? (t : SourceText) (c : Construct) : Option ImportedName :=
  if c.role != some .name then none
  else
    match c.kind with
    | .dottedName => some ⟨Text.dropBlanks (c.text t), none⟩
    | .aliasedImport => some ⟨roleName t .name c.parts, some (roleText t .alias c.parts)⟩
    | _ => none

/-- The names that an import statement imports, or none if it imports all. -/
def importedNames (t : SourceText) (parts : List Construct) : Option (List ImportedName) :=
  if parts.any fun c => c.kind == .wildcard then none else some (parts.filterMap (importedName? t))

/-- The type parameters of a declaration. -/
def typeParameters (t : SourceText) (parts : List Construct) : List Expr :=
  (ofKind .typeParameters parts).flatMap fun c => expressions t c.parts

/-- A definition by its name. One without a name is passed over. -/
def definition (name : String) (make : String → Stmt) : List Stmt :=
  if name.isEmpty then [] else [make name]

mutual

/-- The statements that a construct is read as: one, or none if it has no content. -/
def statements (t : SourceText) : Construct → List Stmt
  | mk kind role start size parts =>
    match kind with
    | .compound => [.block (allStatements t parts)]
    | .loop => [.loop start.position (allStatements t parts)]
    | .functionDefinition =>
      definition (roleText t .name parts) fun name =>
        .function start.position name (typeParameters t parts) (parameters t parts)
          (expressions t (ofKind .typing parts)) (body t parts)
    | .classDefinition =>
      definition (roleText t .name parts) fun name =>
        .class start.position name (typeParameters t parts) (partsIn t .bases parts) (body t parts)
    | .importing => [.importing start.position (parts.filterMap (importedName? t))]
    | .importingFrom => [.importingFrom start.position (roleName t .source parts) (importedNames t parts)]
    | .futureImport | .comment | .mark => []
    | .group => [.expressions (expressions t parts)]
    | kind => [.expressions [expression t (mk kind role start size parts)]]

def allStatements (t : SourceText) : List Construct → List Stmt
  | [] => []
  | c :: rest => statements t c ++ allStatements t rest

/-- The statements in the body of a declaration. -/
def body (t : SourceText) : List Construct → List Stmt
  | [] => []
  | mk _ role _ _ parts :: rest => if role = some .body then allStatements t parts else body t rest

end

end Construct

end ProgramGraph.Syntax
