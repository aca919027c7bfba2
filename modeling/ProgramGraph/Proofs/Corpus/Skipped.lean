import ProgramGraph.Proofs.Corpus.Entries
import ProgramGraph.Proofs.Resolution.Inheritance
import ProgramGraph.Proofs.Resolution.Records

/-! Files that are passed over. A file that is no source file is not looked at; one that does not parse, or whose
    module an earlier file has, leaves a record and a count (`Intake.skip_bare`). Records and counts are carried
    along by all that follows (`Intake.foldl_after`, `resolveOutlines_after`), so without the file everything else
    comes out the same. -/

namespace ProgramGraph
open Std

/-! ### Carrying records and counts along -/

namespace Intake

/-- The state with earlier records and earlier skipped files in front of its own. -/
def after (i : Intake) (records : Array Diagnostic) (skipped : Nat) : Intake :=
  { i with graph := i.graph.after records, skipped := skipped + i.skipped }

/-- The state without its records and its count of skipped files. -/
def bare (i : Intake) : Intake :=
  { i with graph := { i.graph with diagnostics := #[] }, skipped := 0 }

section
variable (i : Intake) (records : Array Diagnostic) (skipped : Nat)

theorem skip_after (path : String) (p : Problem) :
    (i.after records skipped).skip path p = (i.skip path p).after records skipped := by
  unfold skip after
  simp only [Graph.report_after, Nat.add_assoc]

theorem enter_after (path : String) (o : Outline) :
    (i.after records skipped).enter path o = (i.enter path o).after records skipped := by
  have placed : (i.after records skipped).graph.placeAll o.nodes = (i.graph.placeAll o.nodes).after records :=
    i.graph.placeAll_after records o.nodes
  unfold enter
  simp only [placed]
  unfold after
  simp only
  rw [← Graph.reportAll_after]
  rfl

theorem add_after (file : String × Except Problem Outline) :
    (i.after records skipped).add file = (i.add file).after records skipped := by
  obtain ⟨path, p | o⟩ := file
  · exact skip_after ..
  · have holders : (i.after records skipped).holders = i.holders := rfl
    unfold add
    simp only [holders]
    split
    · exact skip_after ..
    · exact enter_after ..

theorem foldl_after (files : List (String × Except Problem Outline)) :
    files.foldl add (i.after records skipped) = (files.foldl add i).after records skipped :=
  List.foldl_hom (after · records skipped) fun i file => add_after i records skipped file

theorem after_bare : i.bare.after i.graph.diagnostics i.skipped = i := by
  unfold bare after Graph.after
  simp

/-- A file that is skipped leaves a record and a count. -/
theorem skip_bare {path : String} {p : Problem} {d : Diagnostic}
    (located : Diagnostic.located? p (some path) none = some d) :
    i.skip path p = i.bare.after (i.graph.diagnostics.push d) (i.skipped + 1) := by
  unfold skip Graph.report
  rw [located]
  unfold Graph.record bare after Graph.after
  simp

end

/-! ### Holders of modules -/

/-- A module is held by a file that has it, as soon as some file has it. -/
structure Held (files : List (String × Except Problem Outline)) (i : Intake) : Prop where
  file : ∀ {module kept : String}, i.holders[module]? = some kept → ∃ o, (kept, .ok o) ∈ files ∧ o.module = module
  held : ∀ {path o}, (path, .ok o) ∈ files → o.module ∈ i.holders

namespace Held
variable {files : List (String × Except Problem Outline)} {i : Intake} {file : String × Except Problem Outline}

/-- A file may be skipped if its module, should it have one, is held already. -/
theorem skip (held : i.Held files) (path : String) (p : Problem)
    (known : ∀ path o, file = (path, .ok o) → o.module ∈ i.holders) : (i.skip path p).Held (files ++ [file]) where
  file found := by
    obtain ⟨o, member, same⟩ := held.file found
    exact ⟨o, List.mem_append_left _ member, same⟩
  held {path o} member := by
    rcases List.mem_append.mp member with member | member
    · exact held.held member
    · exact known path o (List.mem_singleton.mp member).symm

theorem enter (held : i.Held files) (path : String) (o : Outline) :
    (i.enter path o).Held (files ++ [(path, .ok o)]) where
  file {module kept} found := by
    change (i.holders.insert o.module path)[module]? = some kept at found
    rw [TreeMap.getElem?_insert] at found
    split at found
    · rename_i same
      cases found
      exact ⟨o, List.mem_append_right _ (List.mem_singleton.mpr rfl), Std.compare_eq_iff_eq.mp same⟩
    · obtain ⟨o', member, same⟩ := held.file found
      exact ⟨o', List.mem_append_left _ member, same⟩
  held {path' o'} member := by
    refine TreeMap.mem_insert.mpr ?_
    rcases List.mem_append.mp member with member | member
    · exact Or.inr (held.held member)
    · cases List.mem_singleton.mp member
      exact Or.inl (Std.compare_eq_iff_eq.mpr rfl)

theorem add (held : i.Held files) (file : String × Except Problem Outline) : (i.add file).Held (files ++ [file]) := by
  obtain ⟨path, p | o⟩ := file
  · exact held.skip path p nofun
  · rcases add_cases i path o with ⟨kept, taken, next⟩ | ⟨-, next⟩ <;> rw [next]
    · refine held.skip path _ fun path' o' same => ?_
      cases same
      rw [TreeMap.mem_iff_isSome_getElem?]
      exact Option.isSome_of_eq_some taken
    · exact held.enter path o

end Held

theorem held_ofFiles (files : List (String × Except Problem Outline)) : (ofFiles files).Held files :=
  Linking.foldl_done (P := fun done (i : Intake) => i.Held done) files ⟨fun found => by simp at found, nofun⟩
    fun _ file _ _ _ held => held.add file

end Intake

/-! ### Trees -/

theorem SourceUnit.outline_of_error {u : SourceUnit} (labelLimit : Nat) {fault : Option Syntax.Position}
    (failed : Syntax.parse u.text = .error fault) : u.outline labelLimit = .error (syntaxProblem u.path fault) := by
  unfold outline
  rw [failed]

namespace FileTree

/-- The source files of a listing with their outlines. -/
def readAll (files : List (String × SourceFile)) (labelLimit : Nat) : List (String × Except Problem Outline) :=
  (files.filter fun file => Path.isSource file.1).map fun file =>
    (file.1, (SourceUnit.ofFile file.1 file.2).outline labelLimit)

/-- Why a source file is skipped after the files `before`: it does not parse, or an earlier file has its module. -/
inductive SkippedFor (labelLimit : Nat) (before : List (String × SourceFile)) (path : String) (file : SourceFile) :
    Problem → Prop
  | unreadable {p : Problem} : (SourceUnit.ofFile path file).outline labelLimit = .error p →
      SkippedFor labelLimit before path file p
  | taken {o o' : Outline} {kept : String} : (SourceUnit.ofFile path file).outline labelLimit = .ok o →
      (kept, .ok o') ∈ readAll before labelLimit → o'.module = o.module →
      SkippedFor labelLimit before path file (.duplicateSymbol o.module kept path)

section
variable {labelLimit : Nat} {before after : List (String × SourceFile)} {path : String} {file : SourceFile}

theorem outlines_eq (t : FileTree) (labelLimit : Nat) : t.outlines labelLimit = readAll t.files labelLimit := by
  unfold outlines units readAll
  rw [List.map_map]
  rfl

theorem readAll_append (before after : List (String × SourceFile)) (labelLimit : Nat) :
    readAll (before ++ after) labelLimit = readAll before labelLimit ++ readAll after labelLimit := by
  unfold readAll
  rw [List.filter_append, List.map_append]

theorem readAll_source (source : Path.isSource path = true) :
    readAll ((path, file) :: after) labelLimit =
      (path, (SourceUnit.ofFile path file).outline labelLimit) :: readAll after labelLimit := by
  unfold readAll
  rw [List.filter_cons_of_pos (by exact source), List.map_cons]

theorem readAll_other (other : Path.isSource path = false) :
    readAll ((path, file) :: after) labelLimit = readAll after labelLimit := by
  unfold readAll
  rw [List.filter_cons_of_neg (by rw [other]; exact Bool.false_ne_true)]

/-- A file is skipped for a problem that is recorded with the path of the file. -/
theorem SkippedFor.located {p : Problem} (skipped : SkippedFor labelLimit before path file p) :
    ∃ d, Diagnostic.located? p (some path) none = some d := by
  cases skipped with
  | unreadable failed =>
    unfold SourceUnit.outline at failed
    split at failed
    · cases failed
    · rename_i fault _
      cases failed
      cases fault <;> exact ⟨_, rfl⟩
  | taken => exact ⟨_, rfl⟩

/-- Where there is a reason to skip a file, the file is skipped for such a reason. -/
theorem SkippedFor.add {p : Problem} (skipped : SkippedFor labelLimit before path file p) :
    ∃ p, SkippedFor labelLimit before path file p ∧
      (Intake.ofFiles (readAll before labelLimit)).add (path, (SourceUnit.ofFile path file).outline labelLimit) =
        (Intake.ofFiles (readAll before labelLimit)).skip path p := by
  cases skipped with
  | unreadable failed =>
    refine ⟨p, .unreadable failed, ?_⟩
    rw [failed]
    rfl
  | taken read member same =>
    have held := Intake.held_ofFiles (readAll before labelLimit)
    rw [read]
    rename_i o o' _
    rcases Intake.add_cases (Intake.ofFiles (readAll before labelLimit)) path o with ⟨kept, taken, next⟩ | ⟨free, -⟩
    · obtain ⟨holder, there, module⟩ := held.file taken
      exact ⟨_, .taken read there module, next⟩
    · have known := held.held member
      rw [same, TreeMap.mem_iff_isSome_getElem?, free] at known
      cases known

variable (labelLimit)

theorem linking_after {t : FileTree} {i : Intake} {records : Array Diagnostic} {skipped : Nat}
    (entered : t.intake labelLimit = i.after records skipped) (c : Classifier) :
    t.linking labelLimit c = (resolveOutlines c i.graph i.symbols i.outlines.toList).after records := by
  unfold linking
  rw [entered]
  exact resolveOutlines_after c i.graph records i.symbols i.outlines.toList

/-- The state after all files, from the state after some of them. -/
theorem intake_eq_foldl {t : FileTree} (files : t.files = before ++ after) :
    t.intake labelLimit = (readAll after labelLimit).foldl Intake.add (.ofFiles (readAll before labelLimit)) := by
  unfold intake Intake.ofFiles
  rw [outlines_eq, files, readAll_append, List.foldl_append]

/-- With and without a file that is skipped, the same is entered. -/
theorem intake_skipped {t t' : FileTree} (files : t.files = before ++ (path, file) :: after)
    (rest : t'.files = before ++ after) (source : Path.isSource path = true) {p : Problem}
    (skipped : SkippedFor labelLimit before path file p) :
    ∃ p d, SkippedFor labelLimit before path file p ∧ Diagnostic.located? p (some path) none = some d ∧
      ∃ (i : Intake) (records : Array Diagnostic) (count : Nat),
        t.intake labelLimit = i.after (records.push d) (count + 1) ∧ t'.intake labelLimit = i.after records count := by
  obtain ⟨p, skipped, next⟩ := skipped.add
  obtain ⟨d, located⟩ := skipped.located
  have whole := intake_eq_foldl labelLimit files
  have without := intake_eq_foldl labelLimit rest
  rw [readAll_source source, List.foldl_cons, next] at whole
  generalize Intake.ofFiles (readAll before labelLimit) = first at whole without
  refine ⟨p, d, skipped, located, (readAll after labelLimit).foldl Intake.add first.bare, first.graph.diagnostics,
    first.skipped, ?_, ?_⟩
  · rw [whole, first.skip_bare located, Intake.foldl_after]
  · rw [without, ← Intake.foldl_after, first.after_bare]

theorem intake_ignored {t t' : FileTree} (files : t.files = before ++ (path, file) :: after)
    (rest : t'.files = before ++ after) (other : Path.isSource path = false) :
    t.intake labelLimit = t'.intake labelLimit := by
  rw [intake_eq_foldl labelLimit files, intake_eq_foldl labelLimit rest, readAll_other other]

theorem ignored_append {t : FileTree} (files : t.files = before ++ after) :
    t.ignored = (before.countP fun file => !Path.isSource file.1) + after.countP fun file => !Path.isSource file.1 := by
  unfold ignored
  rw [files]
  exact List.countP_append

end

end FileTree

/-- The graphs have the same nodes, edges and containment parents. -/
structure Graph.SameContent (g g' : Graph) : Prop where
  nodes : g.nodes = g'.nodes
  edges : g.edges = g'.edges
  parents : g.parents = g'.parents

namespace FileTree

section
variable {t t' : FileTree} {before after : List (String × SourceFile)} {path : String} {file : SourceFile}
  (labelLimit : Nat) (c : Classifier)

theorem length_files (files : t.files = before ++ (path, file) :: after) (rest : t'.files = before ++ after) :
    t.files.length = t'.files.length + 1 := by
  rw [files, rest, List.length_append, List.length_cons, List.length_append, Nat.add_assoc]

/-- Without a file that is no source file all is the same, and a file fewer is ignored. -/
theorem ignored_is_inert (files : t.files = before ++ (path, file) :: after) (rest : t'.files = before ++ after)
    (other : Path.isSource path = false) :
    t.linking labelLimit c = t'.linking labelLimit c ∧
      (t.resolve labelLimit c).statistics = { (t'.resolve labelLimit c).statistics with
        filesSeen := (t'.resolve labelLimit c).statistics.filesSeen + 1
        filesIgnored := (t'.resolve labelLimit c).statistics.filesIgnored + 1 } := by
  have entered := intake_ignored labelLimit files rest other
  have linked : t.linking labelLimit c = t'.linking labelLimit c := by
    unfold linking
    rw [entered]
  have seen := length_files files rest
  have ignored : t.ignored = t'.ignored + 1 := by
    rw [ignored_append files, ignored_append rest, List.countP_cons_of_pos (by rw [other]; rfl), Nat.add_assoc]
  refine ⟨linked, ?_⟩
  change t.counters (t.intake labelLimit) (t.linking labelLimit c).counts = _
  unfold counters
  rw [linked, entered, ignored, seen]
  rfl

/-- Without a file that is skipped all is the same but for its record, and a file fewer is skipped. -/
theorem skipped_is_inert (files : t.files = before ++ (path, file) :: after) (rest : t'.files = before ++ after)
    (source : Path.isSource path = true) {p : Problem} (skipped : SkippedFor labelLimit before path file p) :
    (∃ p d, SkippedFor labelLimit before path file p ∧ Diagnostic.located? p (some path) none = some d ∧
      ∃ l records, t.linking labelLimit c = Linking.after l (records.push d) ∧
        t'.linking labelLimit c = Linking.after l records) ∧
      (t.resolve labelLimit c).statistics = { (t'.resolve labelLimit c).statistics with
        filesSeen := (t'.resolve labelLimit c).statistics.filesSeen + 1
        filesSkipped := (t'.resolve labelLimit c).statistics.filesSkipped + 1 } := by
  obtain ⟨p, d, skipped, located, i, records, count, entered, entered'⟩ :=
    intake_skipped labelLimit files rest source skipped
  have linked := linking_after labelLimit entered c
  have linked' := linking_after labelLimit entered' c
  have seen := length_files files rest
  have ignored : t.ignored = t'.ignored := by
    rw [ignored_append files, ignored_append rest, List.countP_cons_of_neg (by rw [source]; exact Bool.false_ne_true)]
  -- Both runs go on from one state but for the record, so they link the same.
  have counts : (t.linking labelLimit c).counts = (t'.linking labelLimit c).counts := by
    rw [linked, linked']
    rfl
  refine ⟨⟨p, d, skipped, located, _, records, linked, linked'⟩, ?_⟩
  have there : (t'.resolve labelLimit c).statistics =
      t'.counters (t'.intake labelLimit) (t'.linking labelLimit c).counts := rfl
  change t.counters (t.intake labelLimit) (t.linking labelLimit c).counts = _
  rw [there]
  unfold counters
  rw [counts, ignored, seen, entered, entered']
  simp only [Intake.after, Nat.add_right_comm]

end

/-- A file that is no source file, or is skipped, is inert: without it the graph and what the resolution counts are
    the same. The records are the same but for the one of a skipped file, and besides the files seen only the
    files ignored, or the files skipped, are one fewer. -/
theorem files_passed_over_are_inert (t t' : FileTree) (labelLimit : Nat) (c : Classifier)
    {before after : List (String × SourceFile)} {path : String} {file : SourceFile}
    (files : t.files = before ++ (path, file) :: after) (rest : t'.files = before ++ after)
    (passedOver : Path.isSource path = false ∨ ∃ p, SkippedFor labelLimit before path file p) :
    let r := t.resolve labelLimit c
    let r' := t'.resolve labelLimit c
    r.SameContent r' ∧ (t.linking labelLimit c).counts = (t'.linking labelLimit c).counts ∧
      ((Path.isSource path = false ∧ r.diagnostics = r'.diagnostics ∧
          r.statistics = { r'.statistics with
            filesSeen := r'.statistics.filesSeen + 1
            filesIgnored := r'.statistics.filesIgnored + 1 }) ∨
        (Path.isSource path = true ∧
          (∃ p d earlier later, SkippedFor labelLimit before path file p ∧
            Diagnostic.located? p (some path) none = some d ∧
            r.diagnostics = earlier.push d ++ later ∧ r'.diagnostics = earlier ++ later) ∧
          r.statistics = { r'.statistics with
            filesSeen := r'.statistics.filesSeen + 1
            filesSkipped := r'.statistics.filesSkipped + 1 })) := by
  intro r r'
  cases source : Path.isSource path with
  | false =>
    obtain ⟨linked, statistics⟩ := ignored_is_inert labelLimit c files rest source
    refine ⟨⟨?_, ?_, ?_⟩, congrArg Linking.counts linked, Or.inl ⟨rfl, ?_, statistics⟩⟩
    · exact congrArg (·.graph.nodes) linked
    · exact congrArg (·.graph.edges) linked
    · exact congrArg (·.graph.parents) linked
    · exact congrArg (·.graph.diagnostics) linked
  | true =>
    obtain ⟨p, skipped⟩ := passedOver.resolve_left (by rw [source]; exact nofun)
    obtain ⟨⟨p, d, skipped, located, l, records, linked, linked'⟩, statistics⟩ :=
      skipped_is_inert labelLimit c files rest source skipped
    -- Both runs end in the same state, after different records.
    have both {α : Type} (view : Linking → α) (blind : view (l.after (records.push d)) = view (l.after records)) :
        view (t.linking labelLimit c) = view (t'.linking labelLimit c) := by
      rw [linked, linked', blind]
    refine ⟨⟨?_, ?_, ?_⟩, both (·.counts) rfl, Or.inr ⟨rfl, ⟨p, d, records, l.graph.diagnostics, skipped, located, ?_, ?_⟩,
      statistics⟩⟩
    · exact both (·.graph.nodes) rfl
    · exact both (·.graph.edges) rfl
    · exact both (·.graph.parents) rfl
    · exact congrArg (·.graph.diagnostics) linked
    · exact congrArg (·.graph.diagnostics) linked'

set_option maxRecDepth 100000 in
/-- The theorem for a file that does not parse, before an empty one. -/
theorem files_passed_over_are_inert_unreadable :
    let t := FileTree.ofFiles [("bad.py", "("), ("m.py", "")]
    let t' := FileTree.ofFiles [("m.py", "")]
    let c := Classifier.ofPackages [] false
    let r := t.resolve 48 c
    let r' := t'.resolve 48 c
    t.files = [] ++ ("bad.py", ⟨"bad.py", "("⟩) :: [("m.py", ⟨"m.py", ""⟩)] ∧ t'.files = [] ++ [("m.py", ⟨"m.py", ""⟩)] ∧
      (∃ p, SkippedFor 48 [] "bad.py" ⟨"bad.py", "("⟩ p) ∧ r.SameContent r' ∧
      (t.linking 48 c).counts = (t'.linking 48 c).counts ∧
      (∃ p d earlier later, SkippedFor 48 [] "bad.py" ⟨"bad.py", "("⟩ p ∧
        Diagnostic.located? p (some "bad.py") none = some d ∧
        r.diagnostics = earlier.push d ++ later ∧ r'.diagnostics = earlier ++ later) ∧
      r.statistics = { r'.statistics with
        filesSeen := r'.statistics.filesSeen + 1
        filesSkipped := r'.statistics.filesSkipped + 1 } := by
  intro t t' c r r'
  have files : t.files = [] ++ ("bad.py", ⟨"bad.py", "("⟩) :: [("m.py", ⟨"m.py", ""⟩)] :=
    (files_of_sorted (by decide +kernel)).trans (by decide +kernel)
  have rest : t'.files = [] ++ [("m.py", ⟨"m.py", ""⟩)] :=
    (files_of_sorted (by decide +kernel)).trans (by decide +kernel)
  have skipped : ∃ p, SkippedFor 48 [] "bad.py" ⟨"bad.py", "("⟩ p := by
    have unread : (Syntax.parse "(").toOption = none := by decide +kernel
    obtain ⟨fault, failed⟩ : ∃ fault, Syntax.parse "(" = .error fault := by
      generalize Syntax.parse "(" = result at unread ⊢
      cases result with
      | error fault => exact ⟨fault, rfl⟩
      | ok => cases unread
    exact ⟨_, .unreadable (SourceUnit.outline_of_error 48 failed)⟩
  obtain ⟨content, counts, ⟨other, -⟩ | ⟨-, records, statistics⟩⟩ :=
    files_passed_over_are_inert t t' 48 c files rest (Or.inr skipped)
  · exact absurd other (by decide)
  · exact ⟨files, rest, skipped, content, counts, records, statistics⟩

end FileTree

end ProgramGraph
