/-! Cutting text at separators. Empty pieces are kept, so the pieces joined by the separators give the
    text back; the callers that want none of the empty ones filter them out. -/

namespace ProgramGraph.Text

/-- A text cut at every occurrence of one character. -/
def splitAt (sep : Char) (s : String) : List String :=
  (s.toList.splitOn sep).map String.ofList

/-- A text cut at every occurrence of one character, without the empty pieces. -/
def fields (sep : Char) (s : String) : List String :=
  (splitAt sep s).filter fun piece => !piece.isEmpty

/-- The text before and after the last occurrence of a character, if it occurs. -/
def splitLast (sep : Char) (s : String) : Option (String × String) :=
  let reversed := s.toList.reverse
  let after := reversed.takeWhile (· != sep)
  match reversed.dropWhile (· != sep) with
  | [] => none
  | _ :: before => some (String.ofList before.reverse, String.ofList after.reverse)

end ProgramGraph.Text
