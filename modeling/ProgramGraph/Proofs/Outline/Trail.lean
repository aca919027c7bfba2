import ProgramGraph.Node

/-! Labels as trails of tags. A label is spelled by joining the tags of the nodes around a node, and its own,
    with dots. Tags hold dots themselves, but only behind a bracket that they open; so two trails that are
    spelled alike are equal unless they part at two tags of calls (`spell_parts`). -/

namespace ProgramGraph.Label

/-- A dot joins tags; a bracket opens the text in a tag. -/
def IsMark (c : Char) : Prop :=
  c = '.' ∨ c = '('

def Unmarked (cs : List Char) : Prop :=
  ∀ c ∈ cs, ¬IsMark c

/-- A word without marks, as an identifier is. -/
def Plain (tag : String) : Prop :=
  tag.toList ≠ [] ∧ Unmarked tag.toList

theorem Plain.ne_empty {tag : String} (plain : Plain tag) : tag ≠ "" := by
  rintro rfl
  exact plain.1 rfl

def isUnmarked (cs : List Char) : Bool :=
  cs.all fun c => !(c == '.' || c == '(')

def isPlain (tag : String) : Bool :=
  !tag.toList.isEmpty && isUnmarked tag.toList

theorem unmarked_of_isUnmarked {cs : List Char} (unmarked : isUnmarked cs = true) : Unmarked cs := by
  intro c member mark
  have free := List.all_eq_true.mp unmarked c member
  rcases mark with rfl | rfl <;> cases free

theorem plain_of_isPlain {tag : String} (plain : isPlain tag = true) : Plain tag := by
  obtain ⟨filled, unmarked⟩ := Bool.and_eq_true_iff.mp plain
  refine ⟨fun empty => ?_, unmarked_of_isUnmarked unmarked⟩
  rw [empty] at filled
  cases filled

/-- A tag of the form `word(...`. -/
def Opens (word tag : String) : Prop :=
  ∃ text, tag.toList = word.toList ++ '(' :: text

/-- The tag of a node. -/
def IsTag (tag : String) : Prop :=
  Plain tag ∨ ∃ word, Plain word ∧ Opens word tag

/-- The tag of a node that holds others. -/
def IsHolder (tag : String) : Prop :=
  Plain tag ∨ Opens "call" tag

theorem plain_call : Plain "call" := plain_of_isPlain rfl

theorem IsHolder.isTag {tag : String} (holder : IsHolder tag) : IsTag tag :=
  holder.imp_right fun opens => ⟨"call", plain_call, opens⟩

theorem Opens.not_plain {word tag : String} (opens : Opens word tag) : ¬Plain tag := by
  rintro ⟨-, unmarked⟩
  obtain ⟨text, spelled⟩ := opens
  refine unmarked '(' ?_ (Or.inr rfl)
  rw [spelled]
  exact List.mem_append_right _ List.mem_cons_self

theorem IsTag.ne_nil {tag : String} (isTag : IsTag tag) : tag.toList ≠ [] := by
  rcases isTag with plain | ⟨word, -, text, spelled⟩
  · exact plain.1
  · rw [spelled]
    exact List.append_ne_nil_of_right_ne_nil _ (List.cons_ne_nil _ _)

/-! ### Spelling -/

/-- Tags with a dot before each. -/
def dotted (trail : List String) : List Char :=
  trail.flatMap fun tag => '.' :: tag.toList

/-- Tags with a dot between each two. -/
def spell : List String → List Char
  | [] => []
  | tag :: rest => tag.toList ++ dotted rest

/-- The label that a trail spells. -/
def ofTrail (trail : List String) : String :=
  String.ofList (spell trail)

/-- The id of the node at the end of a trail below the root of a module. -/
def holder (module : String) (trail : List String) : NodeId :=
  Dotted.qualify module (if trail = [] then module else ofTrail trail)

theorem dotted_cons (tag : String) (rest : List String) : dotted (tag :: rest) = '.' :: spell (tag :: rest) := rfl

theorem spell_append_cons (trail : List String) (tag : String) (rest : List String) :
    spell (trail ++ tag :: rest) = spell (trail ++ [tag]) ++ dotted rest := by
  cases trail with
  | nil => simp [spell, dotted]
  | cons first trail => simp [spell, dotted]

/-- The label of a node is that of its holder with one more tag. -/
theorem extend_ofTrail {trail : List String} (tags : ∀ tag ∈ trail, IsTag tag) (tag : String) :
    Dotted.extend (ofTrail trail) tag = ofTrail (trail ++ [tag]) := by
  cases trail with
  | nil =>
    refine String.toList_inj.mp ?_
    simp [Dotted.extend, ofTrail, spell, dotted]
  | cons first rest =>
    have filled : (ofTrail (first :: rest)).isEmpty = false := by
      rw [← Bool.not_eq_true, String.isEmpty_iff]
      intro empty
      have spelled : spell (first :: rest) = [] := by simpa [ofTrail] using congrArg String.toList empty
      exact (tags first List.mem_cons_self).ne_nil (List.append_eq_nil_iff.mp spelled).1
    unfold Dotted.extend
    rw [filled, if_neg Bool.false_ne_true]
    refine String.toList_inj.mp ?_
    simp [Dotted.qualify, ofTrail, spell, dotted]

/-! ### Parting -/

/-- Two texts that agree agree up to the first mark. -/
theorem eq_of_first_mark {x y : Char} (hx : IsMark x) (hy : IsMark y) :
    ∀ {u w r q : List Char}, Unmarked u → Unmarked w →
      u ++ x :: r = w ++ y :: q → u = w ∧ x = y ∧ r = q
  | [], [], _, _, _, _, same => ⟨rfl, List.cons.inj same⟩
  | [], c :: w, _, _, _, hw, same => absurd ((List.cons.inj same).1 ▸ hx) (hw c List.mem_cons_self)
  | c :: u, [], _, _, hu, _, same => absurd ((List.cons.inj same).1 ▸ hy) (hu c List.mem_cons_self)
  | c :: u, d :: w, _, _, hu, hw, same => by
    obtain ⟨head, tail⟩ := List.cons.inj same
    obtain ⟨front, mark, back⟩ := eq_of_first_mark hx hy (fun c hc => hu c (List.mem_cons_of_mem _ hc))
      (fun c hc => hw c (List.mem_cons_of_mem _ hc)) tail
    exact ⟨by rw [head, front], mark, back⟩

theorem Opens.word_unique {word word' tag : String} (plain : Plain word) (plain' : Plain word')
    (opens : Opens word tag) (opens' : Opens word' tag) : word = word' := by
  obtain ⟨text, spelled⟩ := opens
  obtain ⟨text', spelled'⟩ := opens'
  exact String.toList_inj.mp
    (eq_of_first_mark (Or.inr rfl) (Or.inr rfl) plain.2 plain'.2 (spelled.symm.trans spelled')).1

/-- What follows a tag is nothing or starts with a dot. -/
theorem dotted_cases (trail : List String) : dotted trail = [] ∧ trail = [] ∨ ∃ rest, dotted trail = '.' :: rest := by
  cases trail with
  | nil => exact Or.inl ⟨rfl, rfl⟩
  | cons tag rest => exact Or.inr ⟨_, dotted_cons tag rest⟩

/-- A plain tag ends at the first mark. -/
theorem Plain.eq_of_spelled {a b : String} {σ τ : List String} (ha : Plain a) (hb : IsTag b)
    (same : a.toList ++ dotted σ = b.toList ++ dotted τ) : a = b ∧ dotted σ = dotted τ := by
  have dot : IsMark '.' := Or.inl rfl
  have bracket : IsMark '(' := Or.inr rfl
  rcases hb with hb | ⟨word, plain, text, spelled⟩
  · rcases dotted_cases σ with ⟨noneσ, -⟩ | ⟨r, someσ⟩ <;> rcases dotted_cases τ with ⟨noneτ, -⟩ | ⟨q, someτ⟩
    · rw [noneσ, noneτ, List.append_nil, List.append_nil] at same
      exact ⟨String.toList_inj.mp same, noneσ.trans noneτ.symm⟩
    · rw [noneσ, someτ, List.append_nil] at same
      exact absurd dot (ha.2 '.' (same ▸ List.mem_append_right _ List.mem_cons_self))
    · rw [someσ, noneτ, List.append_nil] at same
      exact absurd dot (hb.2 '.' (same ▸ List.mem_append_right _ List.mem_cons_self))
    · rw [someσ, someτ] at same ⊢
      obtain ⟨front, -, back⟩ := eq_of_first_mark dot dot ha.2 hb.2 same
      exact ⟨String.toList_inj.mp front, by rw [back]⟩
  · -- A bracket cannot stand where the plain tag ends.
    rw [spelled, List.append_assoc, List.cons_append] at same
    rcases dotted_cases σ with ⟨noneσ, -⟩ | ⟨r, someσ⟩
    · rw [noneσ, List.append_nil] at same
      exact absurd bracket (ha.2 '(' (same ▸ List.mem_append_right _ List.mem_cons_self))
    · rw [someσ] at same
      exact absurd (eq_of_first_mark dot bracket ha.2 plain.2 same).2.1 (by decide)

theorem starts_with_dot {σ : List String} {more rest : List Char} (filled : more ≠ [])
    (same : dotted σ = more ++ rest) : ∃ tail, more = '.' :: tail := by
  cases more with
  | nil => exact absurd rfl filled
  | cons c tail =>
    rcases dotted_cases σ with ⟨none, -⟩ | ⟨r, some⟩
    · rw [none] at same
      cases same
    · rw [some] at same
      exact ⟨tail, by rw [(List.cons.inj same).1]⟩

/-- Of two different texts that dotted tags complete to one text, one is the other with a dot and more. -/
theorem overruns_of_spelled {a b : List Char} {σ τ : List String} (ne : a ≠ b)
    (same : a ++ dotted σ = b ++ dotted τ) : (∃ rest, a = b ++ '.' :: rest) ∨ ∃ rest, b = a ++ '.' :: rest := by
  rcases List.append_eq_append_iff.mp same with ⟨more, longer, tail⟩ | ⟨more, longer, tail⟩
  · have filled : more ≠ [] := by
      rintro rfl
      exact ne (longer.trans (List.append_nil a)).symm
    obtain ⟨rest, rfl⟩ := starts_with_dot filled tail
    exact Or.inr ⟨rest, longer⟩
  · have filled : more ≠ [] := by
      rintro rfl
      exact ne (longer.trans (List.append_nil b))
    obtain ⟨rest, rfl⟩ := starts_with_dot filled tail
    exact Or.inl ⟨rest, longer⟩

/-- All tags of a trail but the last hold others. -/
def IsTrail : List String → Prop
  | [] => True
  | tag :: rest => IsTag tag ∧ (rest ≠ [] → IsHolder tag) ∧ IsTrail rest

theorem isTrail_concat {tag : String} (last : IsTag tag) : ∀ {trail : List String},
    (∀ t ∈ trail, IsHolder t) → IsTrail (trail ++ [tag])
  | [], _ => ⟨last, fun filled => absurd rfl filled, trivial⟩
  | first :: _, holders =>
    have first_holds : IsHolder first := holders _ List.mem_cons_self
    ⟨first_holds.isTag, fun _ => first_holds, isTrail_concat last fun t member => holders t (List.mem_cons_of_mem _ member)⟩

/-- Two different tags at the front of one text are tags of calls. -/
theorem calls_of_spelled {a b : String} {σ τ : List String} (ha : IsTrail (a :: σ)) (hb : IsTrail (b :: τ)) (ne : a ≠ b)
    (same : spell (a :: σ) = spell (b :: τ)) : Opens "call" a ∧ Opens "call" b := by
  obtain ⟨tagA, holderA, -⟩ := ha
  obtain ⟨tagB, holderB, -⟩ := hb
  have markedA : ¬Plain a := fun plain => ne (plain.eq_of_spelled tagB same).1
  have markedB : ¬Plain b := fun plain => ne (plain.eq_of_spelled tagA same.symm).1.symm
  obtain ⟨word, plain, opensA⟩ := tagA.resolve_left markedA
  obtain ⟨word', plain', opensB⟩ := tagB.resolve_left markedB
  -- Neither word has a mark in it, so both end where the first mark of the text stands.
  have words : word = word' := by
    obtain ⟨text, spelledA⟩ := opensA
    obtain ⟨text', spelledB⟩ := opensB
    simp only [spell] at same
    rw [spelledA, spelledB, List.append_assoc, List.append_assoc] at same
    exact String.toList_inj.mp (eq_of_first_mark (Or.inr rfl) (Or.inr rfl) plain.2 plain'.2 same).1
  subst words
  -- A tag that another one follows is that of a call, and both tags have one word.
  by_cases endA : σ = []
  · by_cases endB : τ = []
    · subst endA endB
      exact absurd (String.toList_inj.mp (by simpa [spell, dotted] using same)) ne
    · have call := (holderB endB).resolve_left markedB
      rw [opensB.word_unique plain plain_call call] at opensA
      exact ⟨opensA, call⟩
  · have call := (holderA endA).resolve_left markedA
    rw [opensA.word_unique plain plain_call call] at opensB
    exact ⟨call, opensB⟩

/-- Trails that are spelled alike are equal, or part at two tags of calls. -/
theorem spell_parts : ∀ {l m : List String}, IsTrail l → IsTrail m → spell l = spell m →
    l = m ∨ ∃ common a σ b τ, l = common ++ a :: σ ∧ m = common ++ b :: τ ∧ a ≠ b ∧
      Opens "call" a ∧ Opens "call" b ∧ a.toList ++ dotted σ = b.toList ++ dotted τ
  | [], [], _, _, _ => Or.inl rfl
  | [], b :: m, _, hm, same => absurd (List.append_eq_nil_iff.mp same.symm).1 hm.1.ne_nil
  | a :: l, [], hl, _, same => absurd (List.append_eq_nil_iff.mp same).1 hl.1.ne_nil
  | a :: l, b :: m, hl, hm, same => by
    by_cases eq : a = b
    · subst eq
      -- The common tag is passed over; what is left of both begins with a dot, or is empty.
      have rest : dotted l = dotted m := List.append_cancel_left same
      rcases dotted_cases l with ⟨none, rfl⟩ | ⟨r, some⟩
      · rcases dotted_cases m with ⟨-, rfl⟩ | ⟨q, some⟩
        · exact Or.inl rfl
        · rw [none, some] at rest
          cases rest
      · cases l with
        | nil => cases some
        | cons a' l =>
          cases m with
          | nil => cases rest
          | cons b' m =>
            rcases spell_parts hl.2.2 hm.2.2 (List.cons.inj rest).2 with same | ⟨common, x, σ, y, τ, hx, hy, parts⟩
            · exact Or.inl (congrArg _ same)
            · exact Or.inr ⟨a :: common, x, σ, y, τ, congrArg _ hx, congrArg _ hy, parts⟩
    · obtain ⟨callA, callB⟩ := calls_of_spelled hl hm eq same
      exact Or.inr ⟨[], a, l, b, m, rfl, rfl, eq, callA, callB, same⟩

end ProgramGraph.Label
