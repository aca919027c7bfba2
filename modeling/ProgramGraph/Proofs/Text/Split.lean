import Mathlib.Data.List.Basic
import Mathlib.Data.List.TakeWhile
import ProgramGraph.Text.Blank

/-! Texts that are cut where they were joined. The pieces of a text do not hold the separator, and parts that do not
    hold it are the pieces of the text they are joined to. -/

namespace ProgramGraph.Text

theorem separator_notMem_splitOn {sep : Char} {cs w : List Char} (member : w ∈ cs.splitOn sep) : sep ∉ w := by
  induction cs generalizing w with
  | nil =>
    obtain rfl := List.mem_singleton.mp member
    exact List.not_mem_nil
  | cons c cs ih =>
    rw [List.splitOn_cons_eq_if_modifyHead] at member
    split at member
    · rcases List.mem_cons.mp member with rfl | later
      · exact List.not_mem_nil
      · exact ih later
    · rename_i inside
      obtain ⟨first, others, cut⟩ := List.exists_cons_of_ne_nil (List.splitOn_ne_nil sep cs)
      rw [cut] at member ih
      rcases List.mem_cons.mp member with rfl | later
      · refine List.not_mem_cons_of_ne_of_not_mem ?_ (ih List.mem_cons_self)
        rintro rfl
        exact inside BEq.rfl
      · exact ih (List.mem_cons_of_mem _ later)

/-- What is cut off at a separator is not empty and does not hold it. -/
theorem mem_fields {sep : Char} {s part : String} (member : part ∈ fields sep s) : part ≠ "" ∧ sep ∉ part.toList := by
  obtain ⟨member, full⟩ := List.mem_filter.mp member
  obtain ⟨w, piece, rfl⟩ := List.mem_map.mp member
  refine ⟨by simpa using full, ?_⟩
  rw [String.toList_ofList]
  exact separator_notMem_splitOn piece

variable {sep : Char} {joint : String}

/-- A text that was joined of parts without the separator is cut into these parts. -/
theorem splitAt_intercalate (single : joint.toList = [sep]) {parts : List String} (apart : ∀ p ∈ parts, sep ∉ p.toList)
    (any : parts ≠ []) : splitAt sep (joint.intercalate parts) = parts := by
  rw [splitAt, String.toList_intercalate, single, List.splitOn_intercalate]
  · simp
  · simpa using apart
  · simpa using any

theorem fields_intercalate (single : joint.toList = [sep]) {parts : List String} (apart : ∀ p ∈ parts, sep ∉ p.toList)
    (full : ∀ p ∈ parts, p ≠ "") : fields sep (joint.intercalate parts) = parts := by
  by_cases any : parts = []
  · subst any
    rfl
  · rw [fields, splitAt_intercalate single apart any, List.filter_eq_self]
    intro p member
    simpa using full p member

/-- A text is cut at the last separator, after which there is none. -/
theorem splitLast_append (single : joint.toList = [sep]) (before : String) {after : String} (apart : sep ∉ after.toList) :
    splitLast sep (before ++ joint ++ after) = some (before, after) := by
  have others : ∀ c ∈ after.toList.reverse, (c != sep) = true := by
    intro c member
    rw [bne_iff_ne]
    rintro rfl
    exact apart (List.mem_reverse.mp member)
  -- The last separator is the first one of the text read backwards.
  have turned : (before ++ joint ++ after).toList.reverse = after.toList.reverse ++ sep :: before.toList.reverse := by
    simp [single]
  unfold splitLast
  simp only [turned, List.dropWhile_append_of_pos others, List.takeWhile_append_of_pos others]
  simp

/-- A text is cut at the last separator, or holds none. -/
theorem splitLast_cases (single : joint.toList = [sep]) (s : String) :
    (sep ∉ s.toList ∧ splitLast sep s = none) ∨
      ∃ before after, s = before ++ joint ++ after ∧ sep ∉ after.toList ∧ splitLast sep s = some (before, after) := by
  by_cases member : sep ∈ s.toList
  · obtain ⟨last, front, turned, apart⟩ := List.eq_append_cons_of_mem (List.mem_reverse.mpr member)
    have whole : s = String.ofList front.reverse ++ joint ++ String.ofList last.reverse := by
      rw [← String.toList_inj, ← List.reverse_inj, turned]
      simp [single]
    have apart' : sep ∉ (String.ofList last.reverse).toList := by simpa using apart
    exact Or.inr ⟨_, _, whole, apart', whole ▸ splitLast_append single _ apart'⟩
  · refine Or.inl ⟨member, ?_⟩
    have others : ∀ c ∈ s.toList.reverse, (c != sep) = true := by
      intro c here
      rw [bne_iff_ne]
      rintro rfl
      exact member (List.mem_reverse.mp here)
    unfold splitLast
    simp only [List.dropWhile_eq_nil_iff.mpr others]

theorem not_of_head? {α : Type} {p : α → Bool} {l : List α} (first : ∀ a ∈ l.head?, p a = false) (filled : 0 < l.length) :
    ¬p l[0] = true := by
  rw [first l[0] (by simp [List.head?_eq_getElem?, filled])]
  exact Bool.false_ne_true

/-- A text that neither starts nor ends with a blank has none to be trimmed. -/
theorem trim_eq_self {s : String} (first : ∀ c ∈ s.toList.head?, isBlank c = false)
    (last : ∀ c ∈ s.toList.getLast?, isBlank c = false) : trim s = s := by
  have last' : ∀ c ∈ s.toList.reverse.head?, isBlank c = false := by rwa [List.head?_reverse]
  unfold trim
  rw [List.dropWhile_eq_self_iff.mpr (not_of_head? first), List.dropWhile_eq_self_iff.mpr (not_of_head? last'),
    List.reverse_reverse, String.ofList_toList]

end ProgramGraph.Text
