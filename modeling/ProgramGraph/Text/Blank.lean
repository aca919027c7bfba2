import ProgramGraph.Text.Split

/-! White space in the sense of the Unicode property `White_Space`: trimming a text, its words, and
    the text with every run of white space squashed to one space. -/

namespace ProgramGraph.Text

/-- The characters with the Unicode property `White_Space`. -/
def isBlank (c : Char) : Bool :=
  let n := c.toNat
  (0x09 ≤ n && n ≤ 0x0d) || n == 0x20 || n == 0x85 || n == 0xa0 || n == 0x1680 ||
    (0x2000 ≤ n && n ≤ 0x200a) || n == 0x2028 || n == 0x2029 || n == 0x202f || n == 0x205f || n == 0x3000

/-- A text without the white space at its two ends. -/
def trim (s : String) : String :=
  String.ofList (((s.toList.dropWhile isBlank).reverse.dropWhile isBlank).reverse)

/-- The longest stretches of a text that hold no white space. -/
def words (s : String) : List String :=
  ((s.toList.splitOnP isBlank).filter fun w => !w.isEmpty).map String.ofList

/-- A text with its words set one space apart. -/
def squash (s : String) : String :=
  " ".intercalate (words s)

/-- A text without any white space. -/
def dropBlanks (s : String) : String :=
  String.join (words s)

/-- A list written with commas: each entry trimmed, empty entries left out. -/
def commaList (s : String) : List String :=
  ((splitAt ',' s).map trim).filter fun entry => !entry.isEmpty

end ProgramGraph.Text
