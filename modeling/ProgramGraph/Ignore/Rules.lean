import ProgramGraph.Ignore.Glob
import ProgramGraph.Text.Blank

/-! Files of ignore rules. Every line holds a pattern for paths below the folder of the file; the last rule
    that matches a path decides about it. -/

namespace ProgramGraph.Ignore
open Text

inductive Verdict
  | ignored
  /-- Kept whatever another file of rules says. -/
  | kept
  deriving DecidableEq, Repr

structure Rule where
  glob : Glob
  verdict : Verdict := .ignored
  /-- The rule says nothing about files. -/
  foldersOnly : Bool := false
  deriving DecidableEq, Repr

namespace Rule

/-- The text behind a text that another one starts with. -/
def after? (start text : String) : Option String :=
  if start.toList.isPrefixOf text.toList then some (String.ofList (text.toList.drop start.length)) else none

def endsWith (text ending : String) : Bool :=
  ending.toList.isSuffixOf text.toList

/-- A text without the white space at its end. -/
def trimEnd (s : String) : String :=
  String.ofList ((s.toList.reverse.dropWhile isBlank).reverse)

/-- A pattern without slashes matches at any depth; a pattern that ends in `/**` matches what is below a
    folder, but not the folder. -/
def complete (anchored : Bool) (pattern : String) : String :=
  let free := !anchored && !pattern.contains '/' && pattern != "**"
  let pattern := if free then "**/" ++ pattern else pattern
  if endsWith pattern "/**" then pattern ++ "/*" else pattern

/-- A pattern without the slash at its end, which says that it means folders only. -/
def cutSlash (pattern : String) : String × Bool :=
  match pattern.toList.reverse with
  | '/' :: '\\' :: rest | '/' :: rest => (String.ofList rest.reverse, true)
  | _ => (pattern, false)

/-- The rule of a pattern; `anchored` says that it starts at the folder of its file. -/
def ofPattern? (verdict : Verdict) (anchored : Bool) (pattern : String) : Option Rule :=
  let (pattern, foldersOnly) := cutSlash pattern
  (Glob.ofText? (complete anchored pattern)).map fun glob => { glob, verdict, foldersOnly }

/-- The rule on a line, if there is one. A line that starts with `#` is a comment and one that starts with
    `!` keeps what it matches; a backslash takes this meaning from either sign. A slash in front anchors the
    pattern. White space at the end says nothing, unless a backslash stands before it. -/
def ofLine? (line : String) : Option Rule :=
  if line.startsWith "#" then none
  else
    let line := if endsWith line "\\ " then line else trimEnd line
    if line.isEmpty then none
    else if line.startsWith "\\!" || line.startsWith "\\#" then
      ofPattern? .ignored false (String.ofList (line.toList.drop 1))
    else
      let kept := after? "!" line
      let pattern := kept.getD line
      let anchored := after? "/" pattern
      ofPattern? (if kept.isSome then .kept else .ignored) anchored.isSome (anchored.getD pattern)

def isMatch (r : Rule) (path : String) (isFolder : Bool) : Bool :=
  (isFolder || !r.foldersOnly) && r.glob.isMatch path

end Rule

/-- The rules of one file, in order. -/
abbrev Rules := List Rule

namespace Rules

/-- A line without the carriage return at its end. -/
def chompReturn (line : String) : String :=
  if Rule.endsWith line "\r" then String.ofList line.toList.dropLast else line

/-- The lines of a text in bytes, up to the first one that is no text. -/
def lines (content : ByteArray) : List String :=
  let texts := (content.toList.splitOn 10).map fun bytes => String.fromUTF8? ⟨bytes.toArray⟩
  (texts.takeWhile (·.isSome)).filterMap fun text => text.map chompReturn

/-- The rules of a file. A mark of the byte order in front of the first line says nothing. -/
def ofContent (content : ByteArray) : Rules :=
  match lines content with
  | [] => []
  | first :: rest =>
    (String.ofList (first.toList.dropWhile (· == '\ufeff')) :: rest).filterMap Rule.ofLine?

/-- What the rules say about a path. -/
def verdict? (rules : Rules) (path : String) (isFolder : Bool) : Option Verdict :=
  (rules.reverse.find? fun r => r.isMatch path isFolder).map (·.verdict)

end Rules

end ProgramGraph.Ignore
