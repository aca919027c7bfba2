import ProgramGraph.Outline.Visit

/-! Texts cut at a byte. A character may take several bytes, and a cut inside of one is no cut (`cutAt?`). Cutting a
    text back to a limit searches from the limit towards the front for a position inside no character
    (`cutBack?`); clipping takes characters from the front while they fit. Both give the longest part of the text that
    fits (`Fills`), of which there is one, so the search never comes out inside a character
    (`clip_cuts_no_character`). -/

namespace ProgramGraph.Text

/-! ### Cutting at a byte -/

/-- The parts of a text before and after a byte position. There are none if the position is beyond the end of the text
    or inside a character. -/
def cutAt? (n : Nat) (s : String) : Option (String × String) :=
  if whole : String.Pos.Raw.IsValid s ⟨n⟩ then
    let p : s.Pos := ⟨⟨n⟩, whole⟩
    some ((s.sliceTo p).copy, (s.sliceFrom p).copy)
  else none

/-- The last position at or before `n` that is inside no character, searched backwards one byte at a time. -/
def boundary (s : String) : (n : Nat) → Nat
  | 0 => 0
  | n + 1 => if String.Pos.Raw.isValid s ⟨n + 1⟩ then n + 1 else boundary s n

/-- A text cut back to `limit` bytes: the whole text if it has no more, else what is before the last position within
    the limit that is inside no character. -/
def cutBack? (limit : Nat) (s : String) : Option String :=
  if s.utf8ByteSize ≤ limit then some s else (cutAt? (boundary s limit) s).map Prod.fst

theorem cutAt?_eq_some_iff {n : Nat} {s before after : String} :
    cutAt? n s = some (before, after) ↔ s = before ++ after ∧ before.utf8ByteSize = n := by
  constructor
  · intro cut
    unfold cutAt? at cut
    split at cut
    · rename_i whole
      have parts := (⟨⟨n⟩, whole⟩ : s.Pos).splits
      simp only [Option.some.injEq, Prod.mk.injEq] at cut
      rw [cut.1, cut.2] at parts
      exact ⟨parts.eq_append, (congrArg String.Pos.Raw.byteIdx parts.offset_eq_rawEndPos).symm⟩
    · cases cut
  · rintro ⟨rfl, rfl⟩
    have whole : String.Pos.Raw.IsValid (before ++ after) ⟨before.utf8ByteSize⟩ :=
      String.Pos.Raw.isValid_iff_exists_append.mpr ⟨before, after, rfl, rfl⟩
    have parts : (⟨⟨before.utf8ByteSize⟩, whole⟩ : (before ++ after).Pos).Splits before after := ⟨rfl, rfl⟩
    have same := (String.Pos.splits _).eq parts
    rw [cutAt?, dif_pos whole]
    simp only [same.1, same.2]

theorem exists_cutAt? {n : Nat} {s : String} (whole : String.Pos.Raw.IsValid s ⟨n⟩) :
    ∃ before after, cutAt? n s = some (before, after) :=
  ⟨_, _, dif_pos whole⟩

section
variable (s : String)

theorem boundary_le : ∀ n : Nat, boundary s n ≤ n
  | 0 => Nat.le_refl 0
  | n + 1 => by
    unfold boundary
    split
    · exact Nat.le_refl _
    · exact Nat.le_succ_of_le (boundary_le n)

theorem isValid_boundary : ∀ n : Nat, String.Pos.Raw.IsValid s ⟨boundary s n⟩
  | 0 => String.Pos.Raw.isValid_zero
  | n + 1 => by
    unfold boundary
    split
    · rename_i whole
      exact String.Pos.Raw.isValid_eq_true_iff.mp whole
    · exact isValid_boundary n

theorem le_boundary {m : Nat} (whole : String.Pos.Raw.IsValid s ⟨m⟩) : ∀ n : Nat, m ≤ n → m ≤ boundary s n
  | 0, within => within
  | n + 1, within => by
    unfold boundary
    split
    · exact within
    · rename_i inside
      -- What the search passes over is inside a character, and so is not `m`.
      have other : m ≠ n + 1 := by
        rintro rfl
        exact inside (String.Pos.Raw.isValid_eq_true_iff.mpr whole)
      exact le_boundary whole n (Nat.le_of_lt_succ (Nat.lt_of_le_of_ne within other))

end

/-! ### The longest part that fits -/

/-- The longest part from the front of a text that has at most `limit` bytes and ends where a character ends. -/
structure Fills (limit : Nat) (s part : String) : Prop where
  begins : ∃ rest, s = part ++ rest
  fits : part.utf8ByteSize ≤ limit
  longest : ∀ n ≤ limit, String.Pos.Raw.IsValid s ⟨n⟩ → n ≤ part.utf8ByteSize

theorem Fills.unique {limit : Nat} {s a b : String} (fa : Fills limit s a) (fb : Fills limit s b) : a = b := by
  -- The end of one part is a position that the other one reaches too.
  have at_most {a b : String} (fa : Fills limit s a) (fb : Fills limit s b) : a.utf8ByteSize ≤ b.utf8ByteSize := by
    obtain ⟨rest, split⟩ := fa.begins
    exact fb.longest _ fa.fits (String.Pos.Raw.isValid_iff_exists_append.mpr ⟨a, rest, split, rfl⟩)
  have size : b.utf8ByteSize = a.utf8ByteSize := Nat.le_antisymm (at_most fb fa) (at_most fa fb)
  obtain ⟨restA, splitA⟩ := fa.begins
  obtain ⟨restB, splitB⟩ := fb.begins
  have cutA := cutAt?_eq_some_iff.mpr ⟨splitA, rfl⟩
  have cutB := cutAt?_eq_some_iff.mpr ⟨splitB, size⟩
  cases cutA.symm.trans cutB
  rfl

theorem fills_whole {limit : Nat} {s : String} (small : s.utf8ByteSize ≤ limit) : Fills limit s s where
  begins := ⟨"", by simp⟩
  fits := small
  longest _ _ whole := whole.le_utf8ByteSize

theorem cutBack?_fills (limit : Nat) (s : String) : ∃ part, cutBack? limit s = some part ∧ Fills limit s part := by
  unfold cutBack?
  split
  · rename_i small
    exact ⟨s, rfl, fills_whole small⟩
  · obtain ⟨before, after, cut⟩ := exists_cutAt? (isValid_boundary s limit)
    obtain ⟨split, size⟩ := cutAt?_eq_some_iff.mp cut
    rw [cut]
    refine ⟨before, rfl, ⟨after, split⟩, ?_, ?_⟩
    · rw [size]
      exact boundary_le s limit
    · intro n within whole
      rw [size]
      exact le_boundary s whole limit within

/-! ### Clipping character by character -/

theorem clipChars_prefix : ∀ (limit : Nat) (cs : List Char), clipChars limit cs <+: cs
  | _, [] => List.prefix_refl []
  | limit, c :: cs => by
    unfold clipChars
    split
    · exact List.cons_prefix_cons.mpr ⟨rfl, clipChars_prefix _ cs⟩
    · exact List.nil_prefix

theorem utf8ByteSize_ofList_cons (c : Char) (cs : List Char) :
    (String.ofList (c :: cs)).utf8ByteSize = c.utf8Size + (String.ofList cs).utf8ByteSize := by
  rw [String.ofList_cons, String.utf8ByteSize_append, String.utf8ByteSize_singleton]

theorem utf8ByteSize_clipChars : ∀ (limit : Nat) (cs : List Char),
    (String.ofList (clipChars limit cs)).utf8ByteSize ≤ limit
  | _, [] => Nat.zero_le _
  | limit, c :: cs => by
    unfold clipChars
    split
    · rename_i fits
      have rest := utf8ByteSize_clipChars (limit - c.utf8Size) cs
      rw [utf8ByteSize_ofList_cons]
      omega
    · exact Nat.zero_le _

theorem prefix_clipChars : ∀ (limit : Nat) {part cs : List Char}, part <+: cs →
    (String.ofList part).utf8ByteSize ≤ limit → part <+: clipChars limit cs
  | _, [], _, _, _ => List.nil_prefix
  | _, _ :: _, [], front, _ => absurd (List.prefix_nil.mp front) (List.cons_ne_nil _ _)
  | limit, c :: part, d :: cs, front, fits => by
    obtain ⟨rfl, others⟩ := List.cons_prefix_cons.mp front
    rw [utf8ByteSize_ofList_cons] at fits
    rw [clipChars, if_pos (Nat.le_trans (Nat.le_add_right _ _) fits)]
    exact List.cons_prefix_cons.mpr ⟨rfl, prefix_clipChars (limit - c.utf8Size) others (Nat.le_sub_of_add_le' fits)⟩

theorem clip_fills (limit : Nat) (s : String) : Fills limit s (clip limit s) := by
  unfold clip
  split
  · rename_i small
    exact fills_whole small
  · obtain ⟨rest, whole⟩ := clipChars_prefix limit s.toList
    refine ⟨⟨String.ofList rest, ?_⟩, utf8ByteSize_clipChars limit s.toList, fun n within valid => ?_⟩
    · rw [← String.ofList_append, whole, String.ofList_toList]
    · obtain ⟨before, after, rfl, ends⟩ := String.Pos.Raw.isValid_iff_exists_append.mp valid
      have size : n = before.utf8ByteSize := congrArg String.Pos.Raw.byteIdx ends
      have front : before.toList <+: (before ++ after).toList := ⟨after.toList, String.toList_append.symm⟩
      have small : (String.ofList before.toList).utf8ByteSize ≤ limit := by rwa [String.ofList_toList, ← size]
      obtain ⟨more, same⟩ := prefix_clipChars limit front small
      rw [size, ← same, String.ofList_append, String.ofList_toList, String.utf8ByteSize_append]
      exact Nat.le_add_right _ _

/-- Cutting back always succeeds and gives the clipped text, which is the longest part that fits; and the text of a
    label is the longest part that fits of the text with its white space squashed. -/
theorem clip_cuts_no_character (limit : Nat) (s : String) (v : Visit) (raw : String) :
    (cutBack? limit s = some (clip limit s) ∧ Fills limit s (clip limit s)) ∧
      Fills v.labelLimit (squash raw) (v.labelText raw) := by
  obtain ⟨part, cut, fills⟩ := cutBack?_fills limit s
  refine ⟨⟨?_, clip_fills limit s⟩, clip_fills v.labelLimit (squash raw)⟩
  rw [cut, fills.unique (clip_fills limit s)]

example : clip 2 "héllo" = "h" ∧ cutAt? 2 "héllo" = none ∧ clip 1 "é" = "" := by decide +kernel

end ProgramGraph.Text
