import Mathlib.Logic.Relation
import Mathlib.Order.RelClasses
import Mathlib.Tactic.ByContra
import ProgramGraph.Proofs.Symbols

/-! The methods that classes inherit. A class offers its own method of a name, and where it has none, whatever
    its bases offer (`Hierarchy.Offers`). A slot tells of the methods that come in under a name: that there is none,
    which one it is, or that there are several. A table is right if its slots tell of what its class offers
    (`Hierarchy.Right.tells`). -/

namespace ProgramGraph
open Std Relation

/-- Along a relation that lowers a rank nothing comes back to itself. -/
theorem not_transGen_self {α : Type} {r : α → α → Prop} (rank : α → Nat) (lower : ∀ a b, r a b → rank b < rank a) (a : α) :
    ¬TransGen r a a := by
  intro way
  have falls : TransGen (· > ·) (rank a) (rank a) := way.lift rank lower
  rw [transGen_eq_self] at falls
  exact Nat.lt_irrefl _ falls

/-! ### Walking a table -/

section Walk
variable {β σ γ : Type} {f : σ → String × β → σ} (view : σ → γ) {key : String}

theorem view_foldl_others (others : ∀ s entry, entry.1 ≠ key → view (f s entry) = view s) :
    ∀ (l : List (String × β)) (s : σ), (∀ entry ∈ l, entry.1 ≠ key) → view (l.foldl f s) = view s
  | [], _, _ => rfl
  | entry :: l, s, different => by
    rw [List.foldl_cons, view_foldl_others others l _ fun e member => different e (List.mem_cons_of_mem _ member)]
    exact others s entry (different entry List.mem_cons_self)

/-- Without an entry of its key a view stays as it is. -/
theorem view_foldl_none (others : ∀ s entry, entry.1 ≠ key → view (f s entry) = view s) {m : TreeMap String β}
    (missing : m[key]? = none) (s : σ) : view (m.toList.foldl f s) = view s := by
  refine view_foldl_others view others _ s fun entry member same => ?_
  obtain ⟨name, b⟩ := entry
  rw [TreeMap.mem_toList_iff_getElem?_eq_some, show name = key from same, missing] at member
  cases member

/-- Of a walk over a table a view sees the entry of its key only. -/
theorem view_foldl_some (others : ∀ s entry, entry.1 ≠ key → view (f s entry) = view s) {m : TreeMap String β} {b : β}
    (found : m[key]? = some b) (s : σ) :
    ∃ s', view s' = view s ∧ view (m.toList.foldl f s) = view (f s' (key, b)) := by
  obtain ⟨before, after, split⟩ := List.append_of_mem (TreeMap.mem_toList_iff_getElem?_eq_some.mpr found)
  have distinct := TreeMap.distinct_keys_toList (t := m)
  rw [split, List.pairwise_append, List.pairwise_cons] at distinct
  obtain ⟨-, ⟨later, -⟩, earlier⟩ := distinct
  refine ⟨before.foldl f s, view_foldl_others view others before s fun entry member same => ?_, ?_⟩
  · exact earlier entry member _ List.mem_cons_self (Std.compare_eq_iff_eq.mpr same)
  · rw [split, List.foldl_append, List.foldl_cons]
    exact view_foldl_others view others after _ fun entry member same =>
      later entry member (Std.compare_eq_iff_eq.mpr same.symm)

end Walk

/-! ### Slots -/

namespace MethodSlot

/-- What a table says under a name about the methods in a set: that there is none, which one it is, or that
    there are several. -/
def Tells (P : NodeId → Prop) : Option MethodSlot → Prop
  | none => ∀ id, ¬P id
  | some (own id) | some (inherited id) => ∀ id', P id' ↔ id' = id
  | some ambiguous => ∃ a b, a ≠ b ∧ P a ∧ P b

def IsOwn (slot : Option MethodSlot) : Prop :=
  ∃ id, slot = some (own id)

theorem not_isOwn_none : ¬IsOwn none := nofun

theorem not_isOwn_inherited {id : NodeId} : ¬IsOwn (some (inherited id)) := nofun

theorem not_isOwn_ambiguous : ¬IsOwn (some ambiguous) := nofun

/-- The slot of a name after another slot has come in. -/
def join : Option MethodSlot → Option MethodSlot → Option MethodSlot
  | present, none => present
  | none, some incoming => some incoming
  | some (own id), some _ => some (own id)
  | some present, some incoming => if present = incoming then some present else some ambiguous

theorem not_isOwn_ite {p : Prop} [Decidable p] {slot : Option MethodSlot} (h : ¬IsOwn slot) :
    ¬IsOwn (if p then slot else some ambiguous) := by
  split
  · exact h
  · exact not_isOwn_ambiguous

theorem not_isOwn_join {a b : Option MethodSlot} (ha : ¬IsOwn a) (hb : ¬IsOwn b) : ¬IsOwn (join a b) := by
  cases b with
  | none => exact ha
  | some incoming =>
    cases a with
    | none => exact hb
    | some present =>
      cases present with
      | own id => exact absurd ⟨id, rfl⟩ ha
      | inherited id =>
        exact not_isOwn_ite ha
      | ambiguous =>
        exact not_isOwn_ite ha

@[simp] theorem join_own (id : NodeId) (incoming : Option MethodSlot) :
    join (some (own id)) incoming = some (own id) := by
  cases incoming <;> rfl

theorem not_isOwn_passedOn (slot : Option MethodSlot) : ¬IsOwn (slot.map passedOn) := by
  rintro ⟨id, same⟩
  obtain ⟨slot, -, passed⟩ := Option.map_eq_some_iff.mp same
  cases slot <;> cases passed

theorem tells_passedOn {P : NodeId → Prop} {slot : Option MethodSlot} (tells : Tells P slot) :
    Tells P (slot.map passedOn) := by
  cases slot with
  | none => exact tells
  | some slot => cases slot <;> exact tells

theorem Tells.congr {P Q : NodeId → Prop} {slot : Option MethodSlot} (tells : Tells P slot) (same : ∀ id, P id ↔ Q id) :
    Tells Q slot := by
  rw [← show P = Q from funext fun id => propext (same id)]
  exact tells

/-- Only one slot tells of a set. -/
theorem Tells.unique {P : NodeId → Prop} : ∀ {a b : Option MethodSlot}, ¬IsOwn a → ¬IsOwn b → Tells P a → Tells P b →
    a = b
  | some (own id), _, ha, _, _, _ => absurd ⟨id, rfl⟩ ha
  | _, some (own id), _, hb, _, _ => absurd ⟨id, rfl⟩ hb
  | none, none, _, _, _, _ => rfl
  | none, some (inherited y), _, _, tellsA, tellsB => absurd ((tellsB y).mpr rfl) (tellsA y)
  | none, some ambiguous, _, _, tellsA, ⟨y, _, _, hy, _⟩ => absurd hy (tellsA y)
  | some (inherited x), none, _, _, tellsA, tellsB => absurd ((tellsA x).mpr rfl) (tellsB x)
  | some (inherited x), some (inherited y), _, _, tellsA, tellsB => by
    rw [(tellsB x).mp ((tellsA x).mpr rfl)]
  | some (inherited x), some ambiguous, _, _, tellsA, ⟨y, z, ne, hy, hz⟩ =>
    absurd (((tellsA y).mp hy).trans ((tellsA z).mp hz).symm) ne
  | some ambiguous, none, _, _, ⟨y, _, _, hy, _⟩, tellsB => absurd hy (tellsB y)
  | some ambiguous, some (inherited x), _, _, ⟨y, z, ne, hy, hz⟩, tellsB =>
    absurd (((tellsB y).mp hy).trans ((tellsB z).mp hz).symm) ne
  | some ambiguous, some ambiguous, _, _, _, _ => rfl

/-- Joined slots tell of the union of their sets. -/
theorem tells_join {P Q : NodeId → Prop} {a b : Option MethodSlot} (ha : ¬IsOwn a) (hb : ¬IsOwn b)
    (tellsA : Tells P a) (tellsB : Tells Q b) : Tells (fun id => P id ∨ Q id) (join a b) := by
  cases b with
  | none => exact tellsA.congr fun id => (or_iff_left (tellsB id)).symm
  | some incoming =>
    cases a with
    | none => exact tellsB.congr fun id => (or_iff_right (tellsA id)).symm
    | some present =>
      cases present with
      | own id => exact absurd ⟨id, rfl⟩ ha
      | ambiguous =>
        obtain ⟨x, y, ne, hx, hy⟩ := tellsA
        have joined : join (some ambiguous) (some incoming) = some ambiguous := ite_self _
        rw [joined]
        exact ⟨x, y, ne, Or.inl hx, Or.inl hy⟩
      | inherited x =>
        have hx : P x := (tellsA x).mpr rfl
        cases incoming with
        | own id => exact absurd ⟨id, rfl⟩ hb
        | ambiguous =>
          obtain ⟨y, z, ne, hy, hz⟩ := tellsB
          exact ⟨y, z, ne, Or.inr hy, Or.inr hz⟩
        | inherited y =>
          have hy : Q y := (tellsB y).mpr rfl
          -- Slots that agree are one method; slots that differ are two members of the union.
          by_cases same : x = y
          · subst same
            have joined : join (some (inherited x)) (some (inherited x)) = some (inherited x) := if_pos rfl
            rw [joined]
            intro id
            exact (or_congr (tellsA id) (tellsB id)).trans (or_self _).to_iff
          · have joined : join (some (inherited x)) (some (inherited y)) = some ambiguous :=
              if_neg fun equal => same (inherited.inj equal)
            rw [joined]
            exact ⟨x, y, same, Or.inl hx, Or.inr hy⟩

end MethodSlot

namespace MethodTable
open MethodSlot

theorem getElem?_merge (table : MethodTable) (name : String) (incoming : MethodSlot) :
    (table.merge name incoming)[name]? = join table[name]? (some incoming) := by
  unfold merge
  cases found : table[name]? with
  | none => simp [join]
  | some present =>
    cases present with
    | own id => simp [join, found]
    | inherited id | ambiguous =>
      simp only [join]
      split <;> simp [found]

theorem getElem?_merge_other (table : MethodTable) {name other : String} (ne : other ≠ name) (incoming : MethodSlot) :
    (table.merge other incoming)[name]? = table[name]? := by
  have kept (slot : MethodSlot) : (table.insert other slot)[name]? = table[name]? := by
    rw [TreeMap.getElem?_insert, if_neg fun same => ne (Std.compare_eq_iff_eq.mp same)]
  unfold merge
  split
  · exact kept _
  · rfl
  · split
    · rfl
    · exact kept _

theorem getElem?_absorb (table base : MethodTable) (name : String) :
    (table.absorb base)[name]? = join table[name]? (base[name]?.map passedOn) := by
  have others : ∀ (t : MethodTable) (entry : String × MethodSlot), entry.1 ≠ name →
      (t.merge entry.1 entry.2.passedOn)[name]? = t[name]? := fun t _ ne => getElem?_merge_other t ne _
  unfold absorb
  cases found : base[name]? with
  | none => exact (view_foldl_none (fun t : MethodTable => t[name]?) others found table).trans rfl
  | some slot =>
    obtain ⟨t, same, walked⟩ := view_foldl_some (fun t : MethodTable => t[name]?) others found table
    exact walked.trans ((getElem?_merge t name _).trans (by rw [same]; rfl))

/-- A table that knows the methods of its class, and of its bases the methods `P`. -/
structure Knows (s : Symbols) (cls : String) (P : String → NodeId → Prop) (table : MethodTable) : Prop where
  own : ∀ {name : String} {id : NodeId}, s.function? cls name = some id → table[name]? = some (.own id)
  inherited : ∀ {name : String}, s.function? cls name = none → ¬IsOwn table[name]? ∧ Tells (P name) table[name]?

section
variable {s : Symbols} {cls : String} {P Q : String → NodeId → Prop} {table base : MethodTable}

theorem getElem?_own (s : Symbols) (cls name : String) :
    (MethodTable.own s cls)[name]? = (s.function? cls name).map MethodSlot.own := by
  unfold MethodTable.own
  exact TreeMap.getElem?_map

theorem knows_own (s : Symbols) (cls : String) : Knows s cls (fun _ _ => False) (MethodTable.own s cls) where
  own found := by rw [getElem?_own, found]; rfl
  inherited none := by
    rw [getElem?_own, none]
    exact ⟨nofun, fun _ => id⟩

theorem Knows.absorb (knows : Knows s cls P table) (tells : ∀ name, Tells (Q name) base[name]?) :
    Knows s cls (fun name id => P name id ∨ Q name id) (table.absorb base) where
  own found := by
    rw [getElem?_absorb, knows.own found]
    exact join_own _ _
  inherited none := by
    obtain ⟨notOwn, known⟩ := knows.inherited none
    rw [getElem?_absorb]
    exact ⟨not_isOwn_join notOwn (not_isOwn_passedOn _),
      tells_join notOwn (not_isOwn_passedOn _) known (tells_passedOn (tells _))⟩

theorem Knows.congr (knows : Knows s cls P table) (same : ∀ name id, P name id ↔ Q name id) : Knows s cls Q table where
  own := knows.own
  inherited none := ⟨(knows.inherited none).1, (knows.inherited none).2.congr (same _)⟩

end

end MethodTable

/-! ### Hierarchies -/

namespace Hierarchy
open MethodSlot MethodTable

/-- `base` is a project base of `cls`. -/
def HasBase (h : Hierarchy) (cls base : String) : Prop :=
  base ∈ h.bases cls

/-- The methods that a class has under a name: its own one, or else those of its bases. -/
inductive Offers (s : Symbols) (h : Hierarchy) (name : String) : String → NodeId → Prop
  | own {cls id} : s.function? cls name = some id → Offers s h name cls id
  | inherited {cls base id} : s.function? cls name = none → h.HasBase cls base → Offers s h name base id →
      Offers s h name cls id

theorem mem_of_hasBase {h : Hierarchy} {cls base : String} (has : h.HasBase cls base) : cls ∈ h := by
  by_contra missing
  unfold HasBase bases at has
  rw [TreeMap.getD_eq_fallback missing] at has
  cases has

/-- The classes of a hierarchy whose tables are not being made. -/
def pending (h : Hierarchy) (visiting : TreeSet String) : List String :=
  h.keys.filter fun cls => !visiting.contains cls

theorem pending_congr (h : Hierarchy) {visiting visiting' : TreeSet String}
    (same : ∀ cls, cls ∈ visiting' ↔ cls ∈ visiting) : h.pending visiting' = h.pending visiting := by
  refine List.filter_congr fun cls _ => ?_
  rw [Bool.eq_iff_iff.mpr (same cls : visiting'.contains cls = true ↔ visiting.contains cls = true)]

/-- No more classes wait than there are in the hierarchy. -/
theorem length_pending_le_size (h : Hierarchy) (visiting : TreeSet String) : (h.pending visiting).length ≤ h.size := by
  rw [← TreeMap.length_keys]
  exact List.length_filter_le ..

/-- With more classes visited, one of them new, fewer wait. -/
theorem length_pending_lt {h : Hierarchy} {cls : String} (member : cls ∈ h) {visiting visiting' : TreeSet String}
    (sub : ∀ c ∈ visiting, c ∈ visiting') (fresh : cls ∉ visiting) (new : cls ∈ visiting') :
    (h.pending visiting').length < (h.pending visiting).length := by
  have waits : cls ∈ h.pending visiting := by
    refine List.mem_filter.mpr ⟨TreeMap.mem_keys.mpr member, ?_⟩
    rw [Bool.not_eq_true', ← Bool.not_eq_true]
    exact fresh
  -- Whoever waits later waited before, so what waits later is a part of what waited, and `cls` is not in it.
  have fewer : h.pending visiting' = (h.pending visiting).filter fun c => !visiting'.contains c := by
    unfold pending
    rw [List.filter_filter]
    refine List.filter_congr fun c _ => ?_
    cases later : visiting'.contains c with
    | true => rfl
    | false =>
      have before : visiting.contains c = false := by
        rw [← Bool.not_eq_true]
        intro here
        have still : visiting'.contains c = true := sub c here
        rw [later] at still
        cases still
      rw [before]
      rfl
  rw [fewer, List.length_filter_lt_length_iff_exists]
  refine ⟨cls, waits, ?_⟩
  rw [Bool.not_eq_true', Bool.not_eq_false]
  exact new

theorem length_pending_insert {h : Hierarchy} {cls : String} (member : cls ∈ h) {visiting : TreeSet String}
    (fresh : cls ∉ visiting) : (h.pending (visiting.insert cls)).length < (h.pending visiting).length :=
  length_pending_lt member (fun _ here => TreeSet.mem_insert.mpr (Or.inr here)) fresh TreeSet.mem_insert_self

/-! ### Right tables -/

section
variable {s : Symbols} {h : Hierarchy}

/-- The table of a class is as its bases have it. -/
def Right (s : Symbols) (h : Hierarchy) (cls : String) (table : MethodTable) : Prop :=
  Knows s cls (fun name id => ∃ base ∈ h.bases cls, Offers s h name base id) table

theorem offers_own_iff {name cls : String} {id id' : NodeId} (own : s.function? cls name = some id) :
    Offers s h name cls id' ↔ id' = id := by
  constructor
  · intro offers
    cases offers with
    | own own' => exact Option.some.inj (own'.symm.trans own)
    | inherited none =>
      rw [own] at none
      cases none
  · rintro rfl
    exact .own own

theorem offers_inherited_iff {name cls : String} {id : NodeId} (none : s.function? cls name = none) :
    Offers s h name cls id ↔ ∃ base ∈ h.bases cls, Offers s h name base id := by
  constructor
  · intro offers
    cases offers with
    | own own =>
      rw [own] at none
      cases none
    | inherited _ has offers => exact ⟨_, has, offers⟩
  · rintro ⟨base, has, offers⟩
    exact .inherited none has offers

/-- A right table tells of the methods that its class offers. -/
theorem Right.tells {cls : String} {table : MethodTable} (right : Right s h cls table) (name : String) :
    Tells (Offers s h name cls) table[name]? := by
  cases found : s.function? cls name with
  | some id =>
    rw [right.own found]
    exact fun id' => offers_own_iff found
  | none => exact (right.inherited found).2.congr fun id => (offers_inherited_iff found).symm

end

end Hierarchy

end ProgramGraph
