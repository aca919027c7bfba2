/-! The symbols of the grammar. A token is a symbol of the text itself; a construct is a symbol for a
    stretch of tokens. A symbol that is not hidden has a kind, which is all that a reader of the finished
    tree sees of it. -/

namespace ProgramGraph.Syntax

/-- What a visible symbol means to a reader of the tree. -/
inductive Kind
  /-- A construct of statements and of the heads that govern them. -/
  | compound
  | loop
  | functionDefinition
  | classDefinition
  | importing
  | importingFrom
  /-- An import of language features, which binds nothing. -/
  | futureImport
  | aliasedImport
  | dottedName
  | wildcard
  | identifier
  /-- A number, a truth value, `None` or `...`. -/
  | literal
  | attribute
  | call
  | keyword
  | string
  | joinedStrings
  | stringStart
  | stringPiece
  /-- A replacement field of a string. -/
  | replacement
  /-- The format of a replacement field. -/
  | formatting
  | typing
  | typeParameters
  /-- A parameter with a default. -/
  | defaulted
  /-- A parameter with a type. -/
  | typed
  /-- A parameter with stars. -/
  | splat
  | comment
  /-- A construct of which only the parts matter. -/
  | group
  /-- A word or sign of the grammar itself, which has no content. -/
  | mark
  deriving DecidableEq, Repr

/-- How a token is written. -/
inductive TokenForm
  /-- The end of the text. -/
  | finish
  | name
  | sign (text : String)
  /-- A word that can never be a name. -/
  | keyword (text : String)
  /-- A word that is a name wherever it is not needed as a keyword. -/
  | softKeyword (text : String)
  /-- An escape in a string. -/
  | escape
  /-- A backslash in a string that starts no escape. -/
  | backslash
  /-- Text in the format of a replacement field. -/
  | formatText
  /-- The conversion of a replacement field, as in `!r`. -/
  | conversion
  | integer
  | float
  | comment
  /-- A backslash that joins a line to the next. -/
  | joinedLine
  | lineEnd
  | indent
  | dedent
  | stringStart
  | stringText
  /-- A doubled brace, which stands for one brace of text. -/
  | doubledBrace
  | stringEnd
  deriving DecidableEq, Repr

namespace TokenForm

/-- The kind of a visible token. -/
def kind? : TokenForm → Option Kind
  | finish | formatText | lineEnd | indent | dedent | stringText => none
  | name => some .identifier
  | integer | float => some .literal
  | sign text => some (if text = "..." then .literal else .mark)
  | keyword text => some (if ["True", "False", "None"].contains text then .literal else .mark)
  | softKeyword _ | backslash => some .mark
  | comment | joinedLine => some .comment
  | stringStart => some .stringStart
  | escape | conversion | doubledBrace | stringEnd => some .group

end TokenForm

/-- A symbol of the grammar: the tokens come first, then the constructs. -/
structure Symbol where
  code : Nat
  deriving DecidableEq, Repr, Inhabited

namespace Symbol

/-- The tokens, in order. -/
def tokens : Array TokenForm :=
  #[
    .finish, .name, .sign ";", .keyword "import", .sign ".", .keyword "from", .softKeyword "__future__",
    .sign "(", .sign ")", .sign ",", .keyword "as", .sign "*", .softKeyword "print", .sign ">>",
    .keyword "assert", .sign ":=", .keyword "return", .keyword "del", .keyword "raise", .keyword "pass",
    .keyword "break", .keyword "continue", .keyword "if", .sign ":", .keyword "elif", .keyword "else",
    .softKeyword "match", .softKeyword "case", .keyword "async", .keyword "for", .keyword "in",
    .keyword "while", .keyword "try", .keyword "except", .keyword "finally", .keyword "with",
    .keyword "def", .sign "->", .sign "**", .keyword "global", .keyword "nonlocal", .softKeyword "exec",
    .softKeyword "type", .sign "=", .keyword "class", .sign "[", .sign "]", .sign "@", .sign "-",
    .softKeyword "_", .sign "|", .sign "\x7b", .sign "\x7d", .sign "+", .keyword "not", .keyword "and",
    .keyword "or", .sign "/", .sign "%", .sign "//", .sign "&", .sign "^", .sign "<<", .sign "~",
    .keyword "is", .sign "<", .sign "<=", .sign "==", .sign "!=", .sign ">=", .sign ">", .sign "<>",
    .keyword "lambda", .sign "+=", .sign "-=", .sign "*=", .sign "/=", .sign "@=", .sign "//=", .sign "%=",
    .sign "**=", .sign ">>=", .sign "<<=", .sign "&=", .sign "^=", .sign "|=", .keyword "yield",
    .sign "...", .escape, .backslash, .formatText, .conversion, .integer, .float, .keyword "await",
    .keyword "True", .keyword "False", .keyword "None", .comment, .joinedLine, .lineEnd, .indent, .dedent,
    .stringStart, .stringText, .doubledBrace, .stringEnd]

/-- The kinds of the constructs, in order, where hidden ones have none. -/
def constructs : List (Option Kind) :=
    [some .compound,        -- module
     none,                  -- statement
     none,                  -- simple statements
     some .importing,       -- import statement
     some .group,           -- import prefix
     some .group,           -- relative import
     some .futureImport,    -- future import statement
     some .importingFrom,   -- import from statement
     none,                  -- import list
     some .aliasedImport,   -- aliased import
     some .wildcard,        -- wildcard import
     some .group,           -- print statement
     some .group,           -- chevron
     some .group,           -- assert statement
     some .group,           -- expression statement
     some .group,           -- named expression
     none,                  -- named expression lhs
     some .group,           -- return statement
     some .group,           -- delete statement
     some .group,           -- raise statement
     some .group,           -- pass statement
     some .group,           -- break statement
     some .group,           -- continue statement
     some .compound,        -- if statement
     some .compound,        -- elif clause
     some .compound,        -- else clause
     some .compound,        -- match statement
     some .compound,        -- match block
     some .compound,        -- case clause
     some .loop,            -- for statement
     some .compound,        -- while statement
     some .compound,        -- try statement
     some .compound,        -- except clause
     some .compound,        -- finally clause
     some .compound,        -- with statement
     some .group,           -- with clause
     some .group,           -- with item
     some .functionDefinition,   -- function definition
     some .group,           -- parameters
     some .group,           -- lambda parameters
     some .group,           -- list splat
     some .group,           -- dictionary splat
     some .group,           -- global statement
     some .group,           -- nonlocal statement
     some .group,           -- exec statement
     some .group,           -- type alias statement
     some .classDefinition,      -- class definition
     some .typeParameters,  -- type parameter
     some .group,           -- parenthesized list splat
     some .group,           -- argument list
     some .compound,        -- decorated definition
     some .group,           -- decorator
     some .compound,        -- block
     some .group,           -- expression list
     some .dottedName,      -- dotted name
     some .group,           -- case pattern
     none,                  -- simple pattern
     some .group,           -- as pattern
     some .group,           -- union pattern
     some .group,           -- list pattern
     some .group,           -- tuple pattern
     some .group,           -- dict pattern
     none,                  -- key value pattern
     some .group,           -- keyword pattern
     some .group,           -- splat pattern
     some .group,           -- class pattern
     some .group,           -- complex pattern
     none,                  -- parameters
     none,                  -- patterns
     none,                  -- parameter
     none,                  -- pattern
     some .group,           -- tuple pattern
     some .group,           -- list pattern
     some .defaulted,       -- default parameter
     some .defaulted,       -- typed default parameter
     some .splat,           -- list splat pattern
     some .splat,           -- dictionary splat pattern
     some .group,           -- as pattern
     none,                  -- expression within for in clause
     none,                  -- expression
     none,                  -- primary expression
     some .group,           -- not operator
     some .group,           -- boolean operator
     some .group,           -- binary operator
     some .group,           -- unary operator
     some .mark,            -- not in
     some .mark,            -- is not
     some .group,           -- comparison operator
     some .group,           -- lambda
     some .group,           -- lambda within for in clause
     some .group,           -- assignment
     some .group,           -- augmented assignment
     some .group,           -- pattern list
     none,                  -- right hand side
     some .group,           -- yield
     some .attribute,       -- attribute
     some .group,           -- subscript
     some .group,           -- slice
     some .call,            -- call
     some .typed,           -- typed parameter
     some .typing,          -- type
     some .group,           -- splat type
     some .group,           -- generic type
     some .group,           -- union type
     some .group,           -- constrained type
     some .group,           -- member type
     some .keyword,         -- keyword argument
     some .group,           -- list
     some .group,           -- set
     some .group,           -- tuple
     some .group,           -- dictionary
     some .group,           -- pair
     some .group,           -- list comprehension
     some .group,           -- dictionary comprehension
     some .group,           -- set comprehension
     some .group,           -- generator expression
     none,                  -- comprehension clauses
     some .group,           -- parenthesized expression
     none,                  -- collection elements
     some .group,           -- for in clause
     some .group,           -- if clause
     some .group,           -- conditional expression
     some .joinedStrings,   -- concatenated string
     some .string,          -- string
     some .stringPiece,     -- string content
     some .replacement,     -- interpolation
     none,                  -- f expression
     none,                  -- not escape sequence
     some .formatting,      -- format specifier
     some .group,           -- await
     some .group,           -- positional separator
     some .group,           -- keyword separator
     none,                  -- module list
     none,                  -- simple statements list
     none,                  -- import prefix list
     none,                  -- import list list
     none,                  -- print statement list
     none,                  -- assert statement list
     none,                  -- if statement list
     none,                  -- match statement list
     none,                  -- match block list
     none,                  -- case clause list
     none,                  -- try statement list
     none,                  -- except clause list
     none,                  -- with clause list
     none,                  -- global statement list
     none,                  -- type parameter list
     none,                  -- argument list list
     none,                  -- decorated definition list
     none,                  -- dotted name list
     none,                  -- union pattern list
     none,                  -- dict pattern list
     none,                  -- parameters list
     none,                  -- patterns list
     none,                  -- comparison operator list
     none,                  -- subscript list
     none,                  -- dictionary list
     none,                  -- comprehension clauses list
     none,                  -- collection elements list
     none,                  -- for in clause list
     none,                  -- concatenated string list
     none,                  -- string list
     none,                  -- string content list
     none]                  -- format specifier list

/-- The number of tokens. -/
def tokenCount : Nat := 107

/-! ### Tokens with a part of their own in reading -/

def finish : Symbol := ⟨0⟩
def name : Symbol := ⟨1⟩
def closeParen : Symbol := ⟨8⟩
def exceptWord : Symbol := ⟨33⟩
def closeBracket : Symbol := ⟨46⟩
def closeBrace : Symbol := ⟨52⟩
def escape : Symbol := ⟨88⟩
def backslash : Symbol := ⟨89⟩
def formatText : Symbol := ⟨90⟩
def conversion : Symbol := ⟨91⟩
def integer : Symbol := ⟨92⟩
def float : Symbol := ⟨93⟩
def comment : Symbol := ⟨98⟩
def joinedLine : Symbol := ⟨99⟩
def lineEnd : Symbol := ⟨100⟩
def indent : Symbol := ⟨101⟩
def dedent : Symbol := ⟨102⟩
def stringStart : Symbol := ⟨103⟩
def stringText : Symbol := ⟨104⟩
def doubledBrace : Symbol := ⟨105⟩
def stringEnd : Symbol := ⟨106⟩

/-! ### Faults -/

/-- A stretch of tokens and constructs that were passed over together, while more may join them. -/
def passedOver : Symbol := ⟨271⟩

/-- A fault: what a repair passed over, or characters that start no token. -/
def fault : Symbol := ⟨272⟩

def isToken (s : Symbol) : Bool :=
  s.code < tokenCount

/-- Whether a symbol stands for what was passed over. -/
def isFault (s : Symbol) : Bool :=
  s == fault || s == passedOver

/-- The kinds of all symbols but the faults. -/
def kinds : Array (Option Kind) :=
  (tokens.toList.map TokenForm.kind? ++ constructs).toArray

/-- The kind of a visible symbol. -/
def kind? (s : Symbol) : Option Kind :=
  if s = fault then some .group else (kinds[s.code]?).getD none

def isVisible (s : Symbol) : Bool :=
  s.kind?.isSome

/-- Numbers the members of a list from a number on. -/
def numbered {α : Type} (first : Nat) : List α → List (Symbol × α)
  | [] => []
  | x :: rest => (⟨first⟩, x) :: numbered (first + 1) rest

/-- The signs with their texts. -/
def signs : List (Symbol × List Char) :=
  (numbered 0 tokens.toList).filterMap fun (s, form) =>
    match form with
    | .sign text => some (s, text.toList)
    | _ => none

/-- The words of the grammar. The flag marks those that can never be names. -/
def words : List (String × Symbol × Bool) :=
  (numbered 0 tokens.toList).filterMap fun (s, form) =>
    match form with
    | .keyword text => some (text, s, true)
    | .softKeyword text => some (text, s, false)
    | _ => none

/-- The symbol of a word of the grammar. -/
def ofWord? (text : String) : Option Symbol :=
  (words.find? fun w => w.1 == text).map fun w => w.2.1

/-- Whether a token is a word that can never be a name. -/
def isReserved (s : Symbol) : Bool :=
  match tokens[s.code]? with
  | some (.keyword _) => true
  | _ => false

end Symbol

end ProgramGraph.Syntax
