import ProgramGraph.Text.Blank

/-! Text cut to a number of UTF-8 bytes without cutting a character. -/

namespace ProgramGraph.Text

/-- The characters from the front that fit into `limit` bytes, taken while the next one still fits. -/
def clipChars : Nat → List Char → List Char
  | _, [] => []
  | limit, c :: cs => if c.utf8Size ≤ limit then c :: clipChars (limit - c.utf8Size) cs else []

/-- The longest beginning of a text that has at most `limit` bytes. -/
def clip (limit : Nat) (s : String) : String :=
  if s.utf8ByteSize ≤ limit then s else String.ofList (clipChars limit s.toList)

/-- The text of a literal or a callee as labels show it: white space squashed, then clipped. -/
def labelText (limit : Nat) (raw : String) : String :=
  clip limit (squash raw)

end ProgramGraph.Text
