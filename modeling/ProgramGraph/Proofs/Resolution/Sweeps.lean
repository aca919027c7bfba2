import Mathlib.Data.Nat.Find
import ProgramGraph.Proofs.Resolution.Openness

/-! The sweeps by which openness spreads, with the classes visited in any order. A sweep that changes nothing leaves
    nothing to open; every other one opens a class that waits, so the loop ends after as many sweeps as there are
    classes, and one more. What is open then does not depend on the orders: it is what was open, and the classes
    from which a way over bases leads to that. -/

namespace ProgramGraph
open Std Relation

namespace Linking

/-- What is open after some sweeps. Every sweep visits the classes in an order of its own. -/
def sweeps (orders : Nat → List (String × List String)) (opened : TreeSet String) : Nat → TreeSet String
  | 0 => opened
  | n + 1 => (orders n).foldl openEntry (sweeps orders opened n)

/-- The loop ends with sweep `n`: each sweep before it opens a class, and it changes nothing. -/
structure EndsWith (orders : Nat → List (String × List String)) (opened : TreeSet String) (n : Nat) : Prop where
  opens : ∀ m < n, ∃ cls, cls ∉ sweeps orders opened m ∧ cls ∈ sweeps orders opened (m + 1)
  rests : sweeps orders opened (n + 1) = sweeps orders opened n

variable {h : Hierarchy} {opened : TreeSet String}

/-! ### One sweep -/

theorem foldl_openEntry_of_closed (entries : List (String × List String))
    (closed : ∀ entry ∈ entries, ∀ base ∈ entry.2, base ∈ opened → entry.1 ∈ opened) :
    entries.foldl openEntry opened = opened := by
  induction entries with
  | nil => rfl
  | cons entry entries ih =>
    obtain ⟨first, rest⟩ := List.forall_mem_cons.mp closed
    have keeps : openEntry opened entry = opened := by
      rcases openEntry_cases opened entry with ⟨fresh, next⟩ | ⟨-, next⟩
      · unfold openEntry
        refine if_neg fun opens => fresh ?_
        obtain ⟨-, some⟩ := Bool.and_eq_true_iff.mp opens
        obtain ⟨base, names, here⟩ := List.any_eq_true.mp some
        exact first base names here
      · exact next
    rw [List.foldl_cons, keeps, ih rest]

/-- A sweep over all classes, in any order, changes nothing and leaves nothing to open, or it opens a class. -/
theorem sweep_rests_or_opens {entries : List (String × List String)} (visits : entries.Perm h.toList)
    (opened : TreeSet String) :
    (entries.foldl openEntry opened = opened ∧
        ∀ {cls base : String}, h.HasBase cls base → base ∈ opened → cls ∈ opened) ∨
      ∃ cls ∈ h, cls ∉ opened ∧ cls ∈ entries.foldl openEntry opened := by
  obtain ⟨-, ⟨-, closed⟩ | ⟨-, ⟨cls, bases⟩, member, fresh, new⟩⟩ := sweep_cases entries opened
  · refine Or.inl ⟨foldl_openEntry_of_closed entries closed, fun {cls base} has here => ?_⟩
    obtain ⟨bases, stated, names⟩ := mem_toList_of_hasBase has
    exact closed (cls, bases) (visits.mem_iff.mpr stated) base names here
  · refine Or.inr ⟨cls, ?_, fresh, new⟩
    rw [TreeMap.mem_iff_isSome_getElem?, TreeMap.mem_toList_iff_getElem?_eq_some.mp (visits.mem_iff.mp member)]
    rfl

/-! ### The loop -/

section
variable {orders : Nat → List (String × List String)}

theorem sweeps_grow (n : Nat) : ∀ q ∈ opened, q ∈ sweeps orders opened n := by
  induction n with
  | zero => exact fun q here => here
  | succ n ih => exact fun q here => (sweep_cases (orders n) _).1 q (ih q here)

variable (visits : ∀ n, (orders n).Perm h.toList)
include visits

/-- As long as no sweep rests, every sweep leaves fewer classes waiting. -/
theorem rests_or_fewer (opened : TreeSet String) (m : Nat) :
    (∃ n < m, sweeps orders opened (n + 1) = sweeps orders opened n) ∨
      (h.pending (sweeps orders opened m)).length + m ≤ (h.pending opened).length := by
  induction m with
  | zero => exact Or.inr (Nat.le_refl _)
  | succ m ih =>
    rcases ih with ⟨n, before, rests⟩ | fewer
    · exact Or.inl ⟨n, Nat.lt_succ_of_lt before, rests⟩
    rcases sweep_rests_or_opens (visits m) (sweeps orders opened m) with ⟨rests, -⟩ | ⟨cls, member, fresh, new⟩
    · exact Or.inl ⟨m, Nat.lt_succ_self m, rests⟩
    · have grows := (sweep_cases (orders m) (sweeps orders opened m)).1
      have less := Hierarchy.length_pending_lt member grows fresh new
      change (h.pending (sweeps orders opened (m + 1))).length < _ at less
      exact Or.inr (by omega)

theorem exists_endsWith (opened : TreeSet String) : ∃ n ≤ h.size, EndsWith orders opened n := by
  have bound := h.length_pending_le_size opened
  have rests : ∃ n, sweeps orders opened (n + 1) = sweeps orders opened n := by
    rcases rests_or_fewer visits opened (h.size + 1) with ⟨n, -, rests⟩ | fewer
    · exact ⟨n, rests⟩
    · omega
  -- The loop ends at the first sweep that rests.
  classical
  refine ⟨Nat.find rests, ?_, fun m before => ?_, Nat.find_spec rests⟩
  · rcases rests_or_fewer visits opened (h.size + 1) with ⟨n, before, here⟩ | fewer
    · exact Nat.le_trans (Nat.find_min' rests here) (Nat.le_of_lt_succ before)
    · omega
  · rcases sweep_rests_or_opens (visits m) (sweeps orders opened m) with ⟨here, -⟩ | ⟨cls, -, fresh, new⟩
    · exact absurd here (Nat.find_min rests before)
    · exact ⟨cls, fresh, new⟩

theorem sweeps_within {P : String → Prop} (passes : ∀ {cls base}, h.HasBase cls base → P base → P cls)
    (all : ∀ q ∈ opened, P q) (n : Nat) : ∀ q ∈ sweeps orders opened n, P q := by
  induction n with
  | zero => exact all
  | succ n ih => exact sweep_within passes (fun _ member => (visits n).mem_iff.mp member) ih

/-- Where the loop ends, exactly the classes from which an open class is reached are open besides. -/
theorem EndsWith.mem_iff {n : Nat} (ends : EndsWith orders opened n) (q : String) :
    q ∈ sweeps orders opened n ↔ q ∈ opened ∨ q ∈ h ∧ ∃ q' ∈ opened, TransGen h.HasBase q q' := by
  constructor
  · refine sweeps_within visits (P := fun q => q ∈ opened ∨ q ∈ h ∧ ∃ q' ∈ opened, TransGen h.HasBase q q') ?_
      (fun q here => Or.inl here) n q
    rintro cls base has (here | ⟨-, q', here, above⟩)
    · exact Or.inr ⟨Hierarchy.mem_of_hasBase has, base, here, .single has⟩
    · exact Or.inr ⟨Hierarchy.mem_of_hasBase has, q', here, above.head has⟩
  · -- The last sweep rests, so nothing is left that it could open.
    have closed : ∀ {cls base : String}, h.HasBase cls base → base ∈ sweeps orders opened n →
        cls ∈ sweeps orders opened n := by
      rcases sweep_rests_or_opens (visits n) (sweeps orders opened n) with ⟨-, closed⟩ | ⟨cls, -, fresh, new⟩
      · exact closed
      · exact absurd (ends.rests ▸ new) fresh
    rintro (here | ⟨-, q', here, above⟩)
    · exact sweeps_grow n q here
    · induction above using TransGen.head_induction_on with
      | single has => exact closed has (sweeps_grow n q' here)
      | head has _ ih => exact closed has ih

end

/-! ### The bound on the sweeps -/

/-- Sweeps in the order of names, with a bound that is not reached, stop where the loop ends. -/
theorem closeOpen_eq {n : Nat} (ends : EndsWith (fun _ => h.toList) opened n) :
    ∀ bound m, m ≤ n → n < m + bound →
      closeOpen h bound (sweeps (fun _ => h.toList) opened m) = sweeps (fun _ => h.toList) opened n
  | 0, m, le, lt => absurd lt (by omega)
  | bound + 1, m, le, lt => by
    have step : sweepOpen h (sweeps (fun _ => h.toList) opened m) = sweeps (fun _ => h.toList) opened (m + 1) := rfl
    unfold closeOpen
    simp only [step]
    rcases Nat.eq_or_lt_of_le le with rfl | before
    · rw [ends.rests, if_pos rfl]
    · obtain ⟨cls, fresh, new⟩ := ends.opens m before
      -- The loop compares sizes: before its end a sweep opens a class, so the sizes differ.
      have larger : (sweeps (fun _ => h.toList) opened (m + 1)).size ≠ (sweeps (fun _ => h.toList) opened m).size := by
        obtain ⟨-, ⟨-, closed⟩ | ⟨larger, -⟩⟩ := sweep_cases h.toList (sweeps (fun _ => h.toList) opened m)
        · have same : sweeps (fun _ => h.toList) opened (m + 1) = sweeps (fun _ => h.toList) opened m :=
            foldl_openEntry_of_closed h.toList closed
          exact absurd (same ▸ new) fresh
        · exact Nat.ne_of_gt larger
      rw [if_neg larger]
      exact closeOpen_eq ends bound (m + 1) before (by omega)

/-- Openness spreads to exactly the classes from which a way over bases leads to an open class; all but the last class
    on such a way are classes of the hierarchy. The loop ends within one sweep more than there are classes, so the
    bound on its sweeps is never what stops it; and with the classes visited in any order it ends as well, and with
    the same classes open. -/
theorem openness_spreads (h : Hierarchy) (opened : TreeSet String) :
    (∀ q, q ∈ spreadOpen h opened ↔ q ∈ opened ∨ q ∈ h ∧ ∃ q' ∈ opened, TransGen h.HasBase q q') ∧
    (∃ n ≤ h.size, EndsWith (fun _ => h.toList) opened n ∧
      spreadOpen h opened = sweeps (fun _ => h.toList) opened n) ∧
    ∀ orders : Nat → List (String × List String), (∀ n, (orders n).Perm h.toList) →
      ∃ n ≤ h.size, EndsWith orders opened n ∧ ∀ q, q ∈ sweeps orders opened n ↔ q ∈ spreadOpen h opened := by
  have own : ∀ n : Nat, ((fun _ => h.toList) n).Perm h.toList := fun _ => .refl _
  obtain ⟨n, le, ends⟩ := exists_endsWith own opened
  have same : spreadOpen h opened = sweeps (fun _ => h.toList) opened n :=
    closeOpen_eq ends (h.size + 1) 0 (Nat.zero_le n) (by omega)
  have reached : ∀ q, q ∈ spreadOpen h opened ↔ q ∈ opened ∨ q ∈ h ∧ ∃ q' ∈ opened, TransGen h.HasBase q q' := by
    rw [same]
    exact ends.mem_iff own
  refine ⟨reached, ⟨n, le, ends, same⟩, fun orders visits => ?_⟩
  obtain ⟨n, le, ends⟩ := exists_endsWith visits opened
  exact ⟨n, le, ends, fun q => (ends.mem_iff visits q).trans (reached q).symm⟩

theorem openness_spreads_cycle :
    let h : Hierarchy := .ofList [("A", ["B"]), ("B", ["A", "X"]), ("C", ["D", "Y"]), ("D", [])]
    (∀ _ : Nat, h.toList.reverse.Perm h.toList) ∧
      (spreadOpen h {"X"}).toList = ["A", "B", "X"] ∧
      ∃ n ≤ h.size, EndsWith (fun _ => h.toList.reverse) {"X"} n ∧
        ∀ q, q ∈ sweeps (fun _ => h.toList.reverse) {"X"} n ↔ q ∈ spreadOpen h {"X"} := by
  intro h
  have visits : ∀ _ : Nat, h.toList.reverse.Perm h.toList := fun _ => List.reverse_perm _
  refine ⟨visits, by decide +kernel, ?_⟩
  obtain ⟨-, -, any⟩ := openness_spreads h {"X"}
  exact any (fun _ => h.toList.reverse) visits

end Linking

end ProgramGraph
