import ProgramGraph.Dotted
import ProgramGraph.Proofs.Text.Split

/-! The longest beginning of a dotted name that a table knows. A search tries the name, then what is before its last
    dot, and so on (`Searches`). As each part that it tries is shorter than the one before, it ends; and as what it
    tries are all the beginnings of the name, it ends with the longest one that is known, or with none if none is
    (`Searches.longest`). `longest?` gives what the search ends with (`searches_iff`). Names may be any text: dots at
    the ends or side by side only make beginnings that end in a dot or are empty. -/

namespace ProgramGraph.Dotted
open Text

/-! ### Beginnings -/

/-- A beginning of a name is the name itself, or what is before one of its dots. -/
def IsBeginning (part name : String) : Prop :=
  name = part ∨ ∃ rest, name = qualify part rest

theorem mem_cuts_cons {c : Char} {part cs : List Char} :
    part ∈ cuts (c :: cs) ↔ (c = '.' ∧ part = []) ∨ ∃ front ∈ cuts cs, part = c :: front := by
  have later : part ∈ (cuts cs).map (c :: ·) ↔ ∃ front ∈ cuts cs, part = c :: front := by
    simp only [List.mem_map, eq_comm]
  rw [cuts]
  split
  · rename_i dot
    rw [List.mem_cons, later, and_iff_right dot]
  · rename_i other
    rw [later, or_iff_right fun here => other here.1]

theorem mem_cuts {part cs : List Char} : part ∈ cuts cs ↔ ∃ rest, cs = part ++ '.' :: rest := by
  induction cs generalizing part with
  | nil => simp [cuts]
  | cons c cs ih =>
    rw [mem_cuts_cons]
    constructor
    · rintro (⟨rfl, rfl⟩ | ⟨front, member, rfl⟩)
      · exact ⟨cs, rfl⟩
      · obtain ⟨rest, rfl⟩ := ih.mp member
        exact ⟨rest, rfl⟩
    · rintro ⟨rest, split⟩
      cases part with
      | nil => exact Or.inl ⟨(List.cons.inj split).1, rfl⟩
      | cons d front =>
        obtain ⟨rfl, split'⟩ := List.cons.inj split
        exact Or.inr ⟨front, ih.mpr ⟨rest, split'⟩, rfl⟩

theorem mem_beginnings {part name : String} : part ∈ beginnings name ↔ IsBeginning part name := by
  unfold beginnings
  rw [List.mem_cons, List.mem_map]
  refine or_congr eq_comm ⟨?_, ?_⟩
  · rintro ⟨front, member, rfl⟩
    obtain ⟨rest, split⟩ := mem_cuts.mp (List.mem_reverse.mp member)
    refine ⟨String.ofList rest, ?_⟩
    rw [← String.toList_inj, split]
    simp [qualify]
  · rintro ⟨rest, rfl⟩
    refine ⟨part.toList, List.mem_reverse.mpr (mem_cuts.mpr ⟨rest.toList, ?_⟩), String.ofList_toList⟩
    simp [qualify]

example : beginnings ".a..b" = [".a..b", ".a.", ".a", ""] := by decide

theorem cuts_of_noDot {cs : List Char} (noDot : '.' ∉ cs) : cuts cs = [] := by
  rw [List.eq_nil_iff_forall_not_mem]
  rintro part member
  obtain ⟨rest, rfl⟩ := mem_cuts.mp member
  simp at noDot

theorem cuts_append {last : List Char} (noDot : '.' ∉ last) (front : List Char) :
    cuts (front ++ '.' :: last) = cuts front ++ [front] := by
  induction front with
  | nil => simp [cuts, cuts_of_noDot noDot]
  | cons c front ih =>
    rw [List.cons_append, cuts, ih, cuts]
    split <;> simp

/-- The beginnings of a name are the name and the beginnings of what is before its last dot. -/
theorem beginnings_eq (name : String) :
    beginnings name = name :: ((splitLast '.' name).elim [] fun cut => beginnings cut.1) := by
  have single : ".".toList = ['.'] := rfl
  rcases splitLast_cases single name with ⟨noDot, cut⟩ | ⟨front, last, rfl, noDot, cut⟩
  · rw [cut, beginnings, cuts_of_noDot noDot]
    rfl
  · have letters : (front ++ "." ++ last).toList = front.toList ++ '.' :: last.toList := by simp
    rw [cut, beginnings, letters, cuts_append noDot]
    simp [beginnings]

section
variable {name : String}

theorem IsBeginning.refl (name : String) : IsBeginning name name :=
  Or.inl rfl

theorem IsBeginning.isPrefix {part : String} (begins : IsBeginning part name) : part.toList <+: name.toList := by
  rcases begins with rfl | ⟨rest, rfl⟩
  · exact List.prefix_refl _
  · exact ⟨'.' :: rest.toList, by simp [qualify]⟩

theorem IsBeginning.eq_of_length {a b : String} (ha : IsBeginning a name) (hb : IsBeginning b name)
    (same : a.length = b.length) : a = b := by
  have same : a.toList.length = b.toList.length := by rwa [String.length_toList, String.length_toList]
  have within := List.prefix_of_prefix_length_le ha.isPrefix hb.isPrefix (Nat.le_of_eq same)
  exact String.toList_inj.mp (within.eq_of_length same)

theorem IsBeginning.length_le {part : String} (begins : IsBeginning part name) : part.length ≤ name.length := by
  rw [← String.length_toList, ← String.length_toList]
  exact begins.isPrefix.length_le

theorem isBeginning_of_noDot (noDot : splitLast '.' name = none) {part : String} :
    IsBeginning part name ↔ part = name := by
  rw [← mem_beginnings, beginnings_eq, noDot]
  exact List.mem_singleton

/-- The beginnings of a name with a dot are the name, and those of what is before its last dot. -/
theorem isBeginning_of_cut {front last : String} (cut : splitLast '.' name = some (front, last)) {part : String} :
    IsBeginning part name ↔ part = name ∨ IsBeginning part front := by
  rw [← mem_beginnings, ← mem_beginnings, beginnings_eq, cut]
  exact List.mem_cons

theorem length_lt_of_cut {front last : String} (cut : splitLast '.' name = some (front, last)) :
    front.length < name.length := by
  have single : ".".toList = ['.'] := rfl
  rcases splitLast_cases single name with ⟨-, none⟩ | ⟨before, after, rfl, -, cut'⟩
  · cases none.symm.trans cut
  · cases cut'.symm.trans cut
    rw [String.length_append, String.length_append, show ".".length = 1 from rfl]
    omega

end

/-! ### The search -/

/-- A search for a beginning that a table knows: the name itself is tried, then what is before its last dot, and so on
    until something is known or no dot is left. -/
inductive Searches {α : Type} (find : String → Option α) : String → Option (String × α) → Prop
  | known {name : String} {a : α} (known : find name = some a) : Searches find name (some (name, a))
  | exhausted {name : String} (unknown : find name = none) (noDot : splitLast '.' name = none) : Searches find name none
  | shortened {name front last : String} {answer : Option (String × α)} (unknown : find name = none)
      (cut : splitLast '.' name = some (front, last)) (later : Searches find front answer) : Searches find name answer

/-- What a search is for: the entry of the longest beginning that the table knows, or none if it knows no beginning. -/
inductive Longest {α : Type} (find : String → Option α) (name : String) : Option (String × α) → Prop
  | none (unknown : ∀ part, IsBeginning part name → find part = none) : Longest find name none
  | some {part : String} {a : α} (begins : IsBeginning part name) (known : find part = some a)
      (longest : ∀ other, IsBeginning other name → (find other).isSome = true → other.length ≤ part.length) :
      Longest find name (some (part, a))

section
variable {α : Type} {find : String → Option α} {name : String}

theorem longest?_of_known {a : α} (known : find name = some a) : longest? find name = some (name, a) := by
  rw [longest?, beginnings, List.findSome?_cons, known]
  rfl

theorem longest?_of_unknown (unknown : find name = none) :
    longest? find name = (splitLast '.' name).bind fun cut => longest? find cut.1 := by
  rw [longest?, beginnings_eq, List.findSome?_cons, unknown, Option.map_none]
  cases splitLast '.' name <;> rfl

theorem searches_longest? (find : String → Option α) (name : String) : Searches find name (longest? find name) := by
  cases known : find name with
  | some a =>
    rw [longest?_of_known known]
    exact .known known
  | none =>
    rw [longest?_of_unknown known]
    cases cut : splitLast '.' name with
    | none => exact .exhausted known cut
    | some cut' =>
      -- The search ends because what is before the last dot is shorter.
      have shorter := length_lt_of_cut cut
      exact .shortened known cut (searches_longest? find cut'.1)
termination_by name.length

theorem Searches.longest {answer : Option (String × α)} (run : Searches find name answer) : Longest find name answer := by
  -- The beginnings that are left after a step are those of the part that the search goes on with.
  induction run with
  | known known => exact .some (.refl _) known fun other begins _ => begins.length_le
  | exhausted unknown noDot =>
    refine .none fun part begins => ?_
    rw [(isBeginning_of_noDot noDot).mp begins]
    exact unknown
  | shortened unknown cut _ ih =>
    cases ih with
    | none unknown' =>
      refine .none fun part begins => ?_
      rcases (isBeginning_of_cut cut).mp begins with rfl | begins
      · exact unknown
      · exact unknown' part begins
    | some begins known longest =>
      refine .some ((isBeginning_of_cut cut).mpr (Or.inr begins)) known fun other begins' known' => ?_
      rcases (isBeginning_of_cut cut).mp begins' with rfl | begins'
      · rw [unknown] at known'
        cases known'
      · exact longest other begins' known'

theorem Longest.unique {a b : Option (String × α)} (ha : Longest find name a) (hb : Longest find name b) : a = b := by
  cases ha with
  | none unknown =>
    cases hb with
    | none => rfl
    | some begins known => cases (unknown _ begins).symm.trans known
  | some begins known longest =>
    cases hb with
    | none unknown => cases (unknown _ begins).symm.trans known
    | some begins' known' longest' =>
      have same := begins.eq_of_length begins' (Nat.le_antisymm (longest' _ begins (Option.isSome_of_eq_some known))
        (longest _ begins' (Option.isSome_of_eq_some known')))
      subst same
      cases known.symm.trans known'
      rfl

theorem longest_longest? (find : String → Option α) (name : String) : Longest find name (longest? find name) :=
  (searches_longest? find name).longest

theorem longest?_eq_some {part : String} {a : α} (found : longest? find name = some (part, a)) :
    IsBeginning part name ∧ find part = some a := by
  have longest := longest_longest? find name
  rw [found] at longest
  cases longest with
  | some begins known => exact ⟨begins, known⟩

theorem searches_iff {answer : Option (String × α)} : Searches find name answer ↔ answer = longest? find name := by
  constructor
  · intro run
    exact run.longest.unique (longest_longest? find name)
  · rintro rfl
    exact searches_longest? find name

end

end ProgramGraph.Dotted
