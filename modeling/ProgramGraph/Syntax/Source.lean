import ProgramGraph.Syntax.Machine.Run
import ProgramGraph.Syntax.Reading

/-! Parsing a source text. -/

namespace ProgramGraph.Syntax

/-- The statements of a source text, or the place of its first visible fault. -/
def parseText (text : SourceText) : Except (Option Position) (List Stmt) :=
  match Machine.parse text with
  | none => .error none
  | some tree =>
    if tree.cost = 0 then .ok (tree.constructs.flatMap fun c => Construct.allStatements text c.parts)
    else .error ((tree.firstFault? {} true).map Extent.position)

/-- The statements of a source text, or the position of its fault if one shows. -/
def parse (source : String) : Except (Option Position) (List Stmt) :=
  parseText (.ofChars source.toList)

end ProgramGraph.Syntax
