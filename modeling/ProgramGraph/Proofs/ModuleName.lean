import ProgramGraph.ModuleName
import ProgramGraph.Proofs.Text.Split

/-! Relative imports from file to file. The name of the module that a file holds is made of the path, the package of
    the file of the name, and the absolute form of an import of the package; together they lead to the file of the
    imported name in the folder that the dots climb to (`ModuleName.relative_import_iff`). The one file where they do
    not is the package file at the top of the tree: it has no folder to be named after, so its package is taken for a
    folder that there is not. -/

namespace ProgramGraph

namespace ModuleName
open Text

/-- A name as folders, stems and imported modules have it: there is something, and no dot and no slash in it. -/
structure Plain (name : String) : Prop where
  full : name ≠ ""
  noDot : '.' ∉ name.toList
  noSlash : '/' ∉ name.toList

instance (name : String) : Decidable (Plain name) :=
  decidable_of_iff (name ≠ "" ∧ '.' ∉ name.toList ∧ '/' ∉ name.toList)
    ⟨fun ⟨full, noDot, noSlash⟩ => ⟨full, noDot, noSlash⟩, fun plain => ⟨plain.full, plain.noDot, plain.noSlash⟩⟩

/-- Where a source file stands in a tree: in which folder, under which stem, and whether it is a stub. -/
structure Location where
  folders : List String
  stem : String
  stub : Bool
  plainFolders : ∀ folder ∈ folders, Plain folder
  plainStem : Plain stem

namespace Location

def ending (place : Location) : String :=
  if place.stub then "pyi" else "py"

def file (place : Location) : String :=
  place.stem ++ "." ++ place.ending

def path (place : Location) : String :=
  "/".intercalate (place.folders ++ [place.file])

/-- The file of another name, `up` folders above that of `place`. -/
def climb (place : Location) (up : Nat) {name : String} (plain : Plain name) : Location where
  folders := place.folders.take (place.folders.length - up)
  stem := name
  stub := false
  plainFolders folder member := place.plainFolders folder (List.mem_of_mem_take member)
  plainStem := plain

/-- The package file at the top of the tree, which is in no folder. -/
def IsTop (place : Location) : Prop :=
  place.folders = [] ∧ place.stem = packageStem

instance (place : Location) : Decidable place.IsTop :=
  inferInstanceAs (Decidable (_ ∧ _))

/-- What the module of a file is named after: its folders, and its stem unless it is the package's own file. -/
def segments (place : Location) : List String :=
  if place.stem = packageStem then place.folders else place.folders ++ [place.stem]

variable (place : Location)

theorem noDot_ending : '.' ∉ place.ending.toList := by
  unfold ending
  split <;> decide

theorem noSlash_file : '/' ∉ place.file.toList := by
  have ending : '/' ∉ place.ending.toList := by
    unfold Location.ending
    split <;> decide
  simp [file, place.plainStem.noSlash, ending]

theorem splitLast_file : splitLast '.' place.file = some (place.stem, place.ending) :=
  splitLast_append rfl place.stem place.noDot_ending

theorem splitAt_path : splitAt '/' place.path = place.folders ++ [place.file] := by
  refine splitAt_intercalate rfl (fun part member => ?_) (by simp)
  rcases List.mem_append.mp member with folder | file
  · exact (place.plainFolders part folder).noSlash
  · rw [List.mem_singleton.mp file]
    exact place.noSlash_file

/-- A file of a place is no empty text and no step of a path: it has a stem before its last dot and an ending after. -/
theorem file_ne {text : String} (cut : splitLast '.' text = none ∨ ∃ before after, splitLast '.' text = some (before, after) ∧
    (before = "" ∨ after = "")) : place.file ≠ text := by
  rintro rfl
  rw [splitLast_file] at cut
  rcases cut with none | ⟨before, after, same, empty⟩
  · cases none
  · cases same
    rcases empty with stem | ending
    · exact place.plainStem.full stem
    · unfold Location.ending at ending
      split at ending <;> simp at ending

theorem stem?_file : Path.stem? place.file = some place.stem := by
  have alone : splitAt '/' place.file = [place.file] := by
    rw [splitAt, List.splitOn_eq_singleton place.noSlash_file]
    simp
  have full : place.file ≠ "" := place.file_ne (Or.inl rfl)
  have noHere : place.file ≠ "." := place.file_ne (Or.inr ⟨"", "", by decide, Or.inl rfl⟩)
  have noUp : place.file ≠ ".." := place.file_ne (Or.inr ⟨".", "", by decide, Or.inr rfl⟩)
  have steps : Path.components place.file = [.name place.file] := by
    simp [Path.components, alone, Path.stepsOf, full, noHere, noUp]
  have named : Path.fileName? place.file = some place.file := by
    simp [Path.fileName?, steps]
  have cut : Path.cutName place.file = (place.stem, some place.ending) := by
    simp [Path.cutName, splitLast_file, place.plainStem.full]
  simp [Path.stem?, named, cut]

/-- The module of a file is named after its segments; the package file at the top has none. -/
theorem ofPath_path : ofPath place.path = if place.IsTop then packageStem else ".".intercalate place.segments := by
  have parts : fields '/' place.path = place.folders ++ [place.file] := by
    rw [fields, splitAt_path, List.filter_eq_self]
    intro part member
    rcases List.mem_append.mp member with folder | file
    · simpa using (place.plainFolders part folder).full
    · rw [List.mem_singleton.mp file]
      simpa using place.file_ne (Or.inl rfl)
  unfold ofPath
  simp only [parts, List.reverse_append, List.reverse_cons, List.reverse_nil, List.nil_append, List.singleton_append,
    List.reverse_reverse, stem?_file, Option.getD_some]
  unfold IsTop segments
  by_cases own : place.stem = packageStem <;> simp [own]

theorem plain_of_mem_segments {part : String} (member : part ∈ place.segments) : Plain part := by
  unfold segments at member
  split at member
  · exact place.plainFolders part member
  · rcases List.mem_append.mp member with folder | stem
    · exact place.plainFolders part folder
    · rw [List.mem_singleton.mp stem]
      exact place.plainStem

theorem isPackageFile_path : isPackageFile place.path = decide (place.stem = packageStem) := by
  have last : (splitAt '/' place.path).getLastD "" = place.file := by
    simp [splitAt_path]
  unfold isPackageFile
  simp only [last]
  rw [Bool.eq_iff_iff, Bool.or_eq_true, beq_iff_eq, beq_iff_eq, decide_eq_true_eq]
  constructor
  · have cut := place.splitLast_file
    rintro (here | here) <;> rw [here] at cut <;> exact (Prod.mk.inj (Option.some.inj cut)).1.symm
  · intro own
    unfold file ending
    rw [own]
    cases place.stub
    · exact Or.inl rfl
    · exact Or.inr rfl

/-- The package of a file is made of its folders, but for the package file at the top, whose own name stands for them. -/
theorem package_path : package place.path (ofPath place.path) = if place.IsTop then [packageStem] else place.folders := by
  have cut : Dotted.segments (ofPath place.path) = if place.IsTop then [packageStem] else place.segments := by
    rw [ofPath_path]
    split
    · decide
    · exact fields_intercalate rfl (fun part member => (place.plain_of_mem_segments member).noDot)
        fun part member => (place.plain_of_mem_segments member).full
  unfold package
  rw [cut, isPackageFile_path]
  by_cases top : place.IsTop
  · simp [top, top.2]
  · by_cases own : place.stem = packageStem <;> simp [top, segments, own]

theorem ofPath_climb (up : Nat) {name : String} (plain : Plain name) (other : name ≠ packageStem) :
    ofPath (place.climb up plain).path =
      ".".intercalate (place.folders.take (place.folders.length - up) ++ [name]) := by
  have inside : ¬(place.climb up plain).IsTop := fun top => other top.2
  have named : (place.climb up plain).segments = place.folders.take (place.folders.length - up) ++ [name] := if_neg other
  rw [ofPath_path, if_neg inside, named]

end Location

/-! ### Dots -/

/-- A relative import of `name` as it is written: a dot for the package, and one for each folder further up. -/
def relative (up : Nat) (name : String) : String :=
  String.ofList (List.replicate (up + 1) '.') ++ name

theorem toList_relative (up : Nat) (name : String) :
    (relative up name).toList = List.replicate (up + 1) '.' ++ name.toList := by
  simp [relative]

section
variable {name : String} (plain : Plain name)
include plain

/-- Nothing is trimmed: the text begins with a dot and ends like the name. -/
theorem trim_relative (up : Nat) (tight : ∀ c ∈ name.toList.getLast?, isBlank c = false) :
    trim (relative up name) = relative up name := by
  have ends : (relative up name).toList.getLast? = name.toList.getLast? := by
    rw [toList_relative]
    exact List.getLast?_append_of_ne_nil _ fun empty => plain.full (String.toList_eq_nil_iff.mp empty)
  refine trim_eq_self (fun c first => ?_) (by rwa [ends])
  rw [toList_relative, List.replicate_succ] at first
  cases first
  decide

theorem noDot_head : ∀ c ∈ name.toList.head?, (c == '.') = false := by
  intro c first
  rw [beq_eq_false_iff_ne]
  rintro rfl
  exact plain.noDot (List.mem_of_mem_head? first)

/-- The leading dots are the ones that were written, and the name is behind them. -/
theorem dots_relative (up : Nat) : (relative up name).toList.takeWhile (· == '.') = List.replicate (up + 1) '.' ∧
    (relative up name).toList.dropWhile (· == '.') = name.toList := by
  have dots : ∀ c ∈ List.replicate (up + 1) '.', (c == '.') = true := by
    intro c member
    rw [List.eq_of_mem_replicate member]
    rfl
  rw [toList_relative, List.takeWhile_append_of_pos dots, List.dropWhile_append_of_pos dots,
    List.takeWhile_eq_nil_iff.mpr (not_of_head? (noDot_head plain)),
    List.dropWhile_eq_self_iff.mpr (not_of_head? (noDot_head plain)), List.append_nil]
  exact ⟨rfl, rfl⟩

/-- A relative import keeps what is left of the package after one folder for each dot but the first. -/
theorem absolute?_relative (package : List String) (up : Nat)
    (tight : ∀ c ∈ name.toList.getLast?, isBlank c = false) :
    absolute? package (relative up name) =
      if package.length < up then none else some (".".intercalate (package.take (package.length - up) ++ [name])) := by
  have chars := toList_relative up name
  have full : (relative up name).isEmpty = false := by
    rw [Bool.eq_false_iff, Ne, String.isEmpty_iff, ← String.toList_eq_nil_iff, chars]
    simp [List.replicate_succ]
  have dotted : (relative up name).startsWith "." = true := by
    rw [String.startsWith_string_iff, chars, List.replicate_succ, List.cons_append]
    exact ⟨_, rfl⟩
  obtain ⟨dots, behind⟩ := dots_relative plain up
  have rest : Dotted.segments name = [name] := by
    have alone : fields '.' (".".intercalate [name]) = [name] :=
      fields_intercalate rfl (List.forall_mem_singleton.mpr plain.noDot) (List.forall_mem_singleton.mpr plain.full)
    rwa [String.intercalate_singleton] at alone
  unfold absolute?
  simp only [trim_relative plain up tight, full, dotted, dots, behind, List.length_replicate, Nat.add_sub_cancel,
    String.ofList_toList, rest, Bool.false_eq_true, Bool.not_true, if_false]
  split
  · rfl
  · cases parts : package.take (package.length - up) ++ [name] with
    | nil => simp at parts
    | cons _ _ => rfl

end

/-- A relative import leads to the module of the file of that name in the folder that the dots climb to, if they do not
    climb out of the tree, exactly for the files other than the package file at the top, and for that one where the
    dots climb further than one step out of the tree. -/
theorem relative_import_iff (place : Location) (up : Nat) {name : String} (plain : Plain name) (other : name ≠ packageStem)
    (tight : ∀ c ∈ name.toList.getLast?, isBlank c = false) :
    absolute? (package place.path (ofPath place.path)) (relative up name) =
        (if up ≤ place.folders.length then some (ofPath (place.climb up plain).path) else none) ↔
      ¬(place.IsTop ∧ up ≤ 1) := by
  have there := place.ofPath_climb up plain other
  rw [place.package_path, absolute?_relative plain _ up tight, there]
  by_cases top : place.IsTop
  · rw [if_pos top, top.1]
    -- the package is one segment where there is no folder: the first two imports see it, later ones are out of both
    rcases up with _ | _ | up
    · have longer : ".".intercalate [packageStem, name] ≠ ".".intercalate [name] := by
        intro same
        have lengths := congrArg String.length same
        have dot : ".".length = 1 := rfl
        simp only [String.intercalate_cons_cons, String.intercalate_singleton, String.length_append] at lengths
        omega
      exact iff_of_false (fun same => longer (Option.some.inj same)) fun away => away ⟨top, Nat.zero_le 1⟩
    · exact iff_of_false (fun same => nomatch same) fun away => away ⟨top, Nat.le_refl 1⟩
    · exact iff_of_true rfl fun here => nomatch here.2
  · rw [if_neg top]
    have inTree : ¬place.folders.length < up ↔ up ≤ place.folders.length := Nat.not_lt
    by_cases out : place.folders.length < up
    · simp [top, out]
    · simp [top, out, inTree.mp out]

/-- The theorem for a file two folders deep, from which an import leads to its package. -/
theorem relative_import_iff_nested :
    let place : Location :=
      { folders := ["pkg", "sub"], stem := "mod", stub := false, plainFolders := by decide, plainStem := by decide }
    relative 1 "core" = "..core" ∧
      absolute? (package place.path (ofPath place.path)) (relative 1 "core") = some (ofPath "pkg/core.py") := by
  intro place
  have tight : ∀ c ∈ "core".toList.getLast?, isBlank c = false := by
    intro c last
    cases (last : some 'e' = some c)
    decide
  have leads := (relative_import_iff place 1 (by decide : Plain "core") (by decide) tight).mpr (by decide)
  constructor
  · decide +kernel
  · rw [leads]
    decide +kernel

/-- From the package file at the top of the tree one dot leads into a folder that is not there, and two dots lead back
    into the tree. -/
theorem top_package_is_no_folder :
    ofPath "__init__.py" = "__init__" ∧ ofPath "t.py" = "t" ∧
      absolute? (package "__init__.py" (ofPath "__init__.py")) ".t" = some "__init__.t" ∧
      absolute? (package "__init__.py" (ofPath "__init__.py")) "..t" = some "t" := by
  decide +kernel

end ModuleName

end ProgramGraph
