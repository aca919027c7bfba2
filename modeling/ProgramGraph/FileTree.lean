import ProgramGraph.Text.Split

/-! Source files in folders. A file is put in under a slash-separated path; the listing gives every file
    under its path, sorted. The name of the outermost folder is part of no path. -/

namespace ProgramGraph
open Text

structure SourceFile where
  name : String
  text : String
  deriving DecidableEq, Repr

/-- The size of a file in bytes. -/
def SourceFile.size (f : SourceFile) : Nat :=
  f.text.utf8ByteSize

inductive Folder
  | mk (name : String) (files : List SourceFile) (folders : List Folder)

namespace Folder

def name : Folder → String
  | mk name _ _ => name

/-- A folder with nothing in it. -/
def bare (name : String) : Folder :=
  mk name [] []

/-- Changes the first entry that satisfies `is`, or appends a changed `new` one. -/
def updateFirst (is : α → Bool) (new : α) (change : α → α) : List α → List α
  | [] => [change new]
  | a :: rest => if is a then change a :: rest else a :: updateFirst is new change rest

def putFile (file : SourceFile) : List SourceFile → List SourceFile :=
  updateFirst (fun f => f.name == file.name) file fun _ => file

/-- Puts a file below the named folders, which are made where they are missing. -/
def put (file : SourceFile) : List String → Folder → Folder
  | [], mk name files folders => mk name (putFile file files) folders
  | part :: parts, mk name files folders =>
    mk name files (updateFirst (fun f => f.name == part) (bare part) (fun f => put file parts f) folders)

/-- Puts a text under a path. Empty segments of the path say nothing, and a path without any other
    names no file. -/
def insert (folder : Folder) (path text : String) : Folder :=
  match (fields '/' path).reverse with
  | [] => folder
  | file :: parts => put ⟨file, text⟩ parts.reverse folder

def join (path name : String) : String :=
  if path.isEmpty then name else s!"{path}/{name}"

mutual

/-- The files of a folder with their paths below `path`, its own files before those of its folders. -/
def collect (path : String) : Folder → List (String × SourceFile)
  | mk _ files folders => (files.map fun f => (join path f.name, f)) ++ collectAll path folders

def collectAll (path : String) : List Folder → List (String × SourceFile)
  | [] => []
  | f :: rest => collect (join path f.name) f ++ collectAll path rest

end

end Folder

/-- A tree of source files. -/
structure FileTree where
  root : Folder := .bare ""

namespace FileTree

/-- The tree of texts put in one after the other; a later text replaces an earlier one of its path. -/
def ofFiles (files : List (String × String)) : FileTree where
  root := files.foldl (fun folder (path, text) => folder.insert path text) (.bare "")

/-- Every file with its path, sorted by path. -/
def files (t : FileTree) : List (String × SourceFile) :=
  (t.root.collect "").mergeSort fun a b => decide (a.1 ≤ b.1)

end FileTree

end ProgramGraph
