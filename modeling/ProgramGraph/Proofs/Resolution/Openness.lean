import ProgramGraph.Proofs.Resolution.Merge
import ProgramGraph.Resolution.Inheritance

/-! How openness spreads. A sweep opens the classes that have an open base; the sweeps end, since each but the last
    opens a class, and what is open then are the classes from which an open class is reached. -/

namespace ProgramGraph
open Std Relation

namespace Linking

section
variable {h : Hierarchy}

theorem mem_toList_of_hasBase {cls base : String} (has : h.HasBase cls base) :
    ∃ bases, (cls, bases) ∈ h.toList ∧ base ∈ bases := by
  unfold Hierarchy.HasBase Hierarchy.bases at has
  cases found : h[cls]? with
  | none =>
    rw [TreeMap.getD_eq_getD_getElem?, found] at has
    cases has
  | some bases =>
    rw [TreeMap.getD_eq_getD_getElem?, found] at has
    exact ⟨bases, TreeMap.mem_toList_iff_getElem?_eq_some.mpr found, has⟩

theorem hasBase_of_getElem? {cls base : String} {bases : List String} (found : h[cls]? = some bases)
    (member : base ∈ bases) : h.HasBase cls base := by
  unfold Hierarchy.HasBase Hierarchy.bases
  rw [TreeMap.getD_eq_getD_getElem?, found]
  exact member

/-- What a sweep does at one class. -/
def openEntry (opened : TreeSet String) (entry : String × List String) : TreeSet String :=
  if !opened.contains entry.1 && entry.2.any opened.contains then opened.insert entry.1 else opened

theorem sweepOpen_eq (h : Hierarchy) (opened : TreeSet String) : sweepOpen h opened = h.toList.foldl openEntry opened := rfl

theorem openEntry_cases (opened : TreeSet String) (entry : String × List String) :
    (entry.1 ∉ opened ∧ openEntry opened entry = opened.insert entry.1) ∨
      ((∀ base ∈ entry.2, base ∈ opened → entry.1 ∈ opened) ∧ openEntry opened entry = opened) := by
  unfold openEntry
  split
  · rename_i opens
    obtain ⟨new, -⟩ := Bool.and_eq_true_iff.mp opens
    rw [Bool.not_eq_true', ← Bool.not_eq_true] at new
    exact Or.inl ⟨new, rfl⟩
  · rename_i keeps
    refine Or.inr ⟨fun base has here => ?_, rfl⟩
    by_contra fresh
    refine keeps (Bool.and_eq_true_iff.mpr ⟨?_, List.any_eq_true.mpr ⟨base, has, here⟩⟩)
    rw [Bool.not_eq_true', ← Bool.not_eq_true]
    exact fresh

/-- A sweep either opens nothing, and then nothing was left to open, or it opens a class. -/
theorem sweep_cases (entries : List (String × List String)) (opened : TreeSet String) :
    (∀ q ∈ opened, q ∈ entries.foldl openEntry opened) ∧
      (((entries.foldl openEntry opened).size = opened.size ∧
          ∀ entry ∈ entries, ∀ base ∈ entry.2, base ∈ opened → entry.1 ∈ opened) ∨
        (opened.size < (entries.foldl openEntry opened).size ∧
          ∃ entry ∈ entries, entry.1 ∉ opened ∧ entry.1 ∈ entries.foldl openEntry opened)) := by
  induction entries generalizing opened with
  | nil => exact ⟨fun q here => here, Or.inl ⟨rfl, List.forall_mem_nil _⟩⟩
  | cons entry entries ih =>
    rw [List.foldl_cons]
    rcases openEntry_cases opened entry with ⟨fresh, next⟩ | ⟨settled, next⟩ <;> rw [next]
    · obtain ⟨sub, more⟩ := ih (opened.insert entry.1)
      have size : (opened.insert entry.1).size = opened.size + 1 := by
        rw [TreeSet.size_insert]
        exact if_neg fresh
      refine ⟨fun q here => sub q (TreeSet.mem_insert.mpr (Or.inr here)), Or.inr ⟨?_, ?_⟩⟩
      · rcases more with ⟨same, -⟩ | ⟨larger, -⟩ <;> omega
      · exact ⟨entry, List.mem_cons_self, fresh, sub _ TreeSet.mem_insert_self⟩
    · obtain ⟨sub, more⟩ := ih opened
      refine ⟨sub, more.imp (fun ⟨same, closed⟩ => ⟨same, ?_⟩) fun ⟨larger, other, member, new⟩ =>
        ⟨larger, other, List.mem_cons_of_mem _ member, new⟩⟩
      exact List.forall_mem_cons.mpr ⟨settled, closed⟩

/-- With more sweeps than classes wait, the sweeps end at a set that is closed under the hierarchy. -/
theorem closeOpen_closed : ∀ (sweeps : Nat) (opened : TreeSet String), (h.pending opened).length < sweeps →
    (∀ q ∈ opened, q ∈ closeOpen h sweeps opened) ∧
      ∀ {cls base : String}, h.HasBase cls base → base ∈ closeOpen h sweeps opened → cls ∈ closeOpen h sweeps opened
  | 0, _, enough => absurd enough (Nat.not_lt_zero _)
  | sweeps + 1, opened, enough => by
    obtain ⟨sub, more⟩ := sweep_cases h.toList opened
    rw [← sweepOpen_eq] at sub more
    have step : closeOpen h (sweeps + 1) opened =
        if (sweepOpen h opened).size = opened.size then opened else closeOpen h sweeps (sweepOpen h opened) := rfl
    rw [step]
    rcases more with ⟨same, closed⟩ | ⟨larger, ⟨cls, bases⟩, member, fresh, new⟩
    · rw [if_pos same]
      refine ⟨fun q here => here, fun {cls base} has here => ?_⟩
      obtain ⟨bases, entry, member⟩ := mem_toList_of_hasBase has
      exact closed _ entry base member here
    · -- The sweep opened a class that was waiting, so the sweeps that are left are still more than what waits.
      rw [if_neg (Nat.ne_of_gt larger)]
      have waits : cls ∈ h := by
        rw [TreeMap.mem_iff_isSome_getElem?, TreeMap.mem_toList_iff_getElem?_eq_some.mp member]
        rfl
      have fewer := Hierarchy.length_pending_lt waits sub fresh new
      obtain ⟨later, closed⟩ := closeOpen_closed sweeps (sweepOpen h opened)
        (Nat.lt_of_lt_of_le fewer (Nat.le_of_lt_succ enough))
      exact ⟨fun q here => later q (sub q here), closed⟩

/-- The open classes are closed under the hierarchy: there are more sweeps than classes. -/
theorem spreadOpen_closed (h : Hierarchy) (opened : TreeSet String) : (∀ q ∈ opened, q ∈ spreadOpen h opened) ∧
    ∀ {cls base : String}, h.HasBase cls base → base ∈ spreadOpen h opened → cls ∈ spreadOpen h opened :=
  closeOpen_closed (h.size + 1) opened (Nat.lt_succ_of_le (h.length_pending_le_size opened))

/-- Every class from which an open class is reached is open. -/
theorem mem_spreadOpen {opened : TreeSet String} {q q' : String} (above : ReflTransGen h.HasBase q q')
    (here : q' ∈ opened) :
    q ∈ spreadOpen h opened := by
  obtain ⟨sub, closed⟩ := spreadOpen_closed h opened
  induction above using ReflTransGen.head_induction_on with
  | refl => exact sub q' here
  | head has _ ih => exact closed has ih

/-- What passes from bases to classes holds of all that a sweep opens if it holds of what is open. -/
theorem sweep_within {P : String → Prop} (passes : ∀ {cls base}, h.HasBase cls base → P base → P cls)
    {entries : List (String × List String)} (stated : ∀ entry ∈ entries, entry ∈ h.toList) {opened : TreeSet String}
    (all : ∀ q ∈ opened, P q) : ∀ q ∈ entries.foldl openEntry opened, P q := by
  refine List.foldlRecOn entries openEntry (motive := fun opened => ∀ q ∈ opened, P q) all ?_
  intro opened all entry member q here
  unfold openEntry at here
  split at here
  · rename_i opens
    obtain ⟨-, some⟩ := Bool.and_eq_true_iff.mp opens
    obtain ⟨base, names, open_⟩ := List.any_eq_true.mp some
    rcases TreeSet.mem_insert.mp here with same | here
    · rw [← Std.compare_eq_iff_eq.mp same]
      have found := TreeMap.mem_toList_iff_getElem?_eq_some.mp (stated entry member)
      exact passes (hasBase_of_getElem? found names) (all base open_)
    · exact all q here
  · exact all q here

theorem closeOpen_within {P : String → Prop} (passes : ∀ {cls base}, h.HasBase cls base → P base → P cls)
    (sweeps : Nat) {opened : TreeSet String} (all : ∀ q ∈ opened, P q) : ∀ q ∈ closeOpen h sweeps opened, P q := by
  induction sweeps generalizing opened with
  | zero => exact all
  | succ sweeps ih =>
    have swept : ∀ q ∈ sweepOpen h opened, P q := sweep_within passes (fun _ member => member) all
    unfold closeOpen
    simp only
    split
    · exact all
    · exact ih swept

/-- Exactly the classes from which an open class is reached end up open. -/
theorem mem_spreadOpen_iff {opened : TreeSet String} {q : String} :
    q ∈ spreadOpen h opened ↔ ∃ q' ∈ opened, ReflTransGen h.HasBase q q' := by
  constructor
  · refine closeOpen_within (P := fun q => ∃ q' ∈ opened, ReflTransGen h.HasBase q q') ?_ (h.size + 1) ?_ q
    · rintro cls base has ⟨q', here, above⟩
      exact ⟨q', here, above.head has⟩
    · exact fun q here => ⟨q, here, .refl⟩
  · rintro ⟨q', here, above⟩
    exact mem_spreadOpen above here

end

end Linking

end ProgramGraph
