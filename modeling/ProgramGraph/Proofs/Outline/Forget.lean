import Mathlib.Data.List.Induction
import Mathlib.Data.List.Sort
import Mathlib.Logic.Relation
import ProgramGraph.Outline

/-! Forgetting rejected nodes. A call site is forgotten when it, or a site around it, stands in a rejected node; the
    others move up and keep their order, and the numbers by which they name the sites around them move with them
    (`Outline.Renumbers`). Forgetting is one pass, in which a site looks back at the sites before it, so everything
    rests on numbers that point backwards (`Outline.Backward`). A renumbering is determined by the sites that stay,
    and two in a row are one, so forgetting bit by bit forgets the same as forgetting at once. -/

namespace ProgramGraph
open Std Relation

theorem getElem?_concat_iff {α : Type} {as : List α} {a b : α} {i : Nat} :
    (as ++ [a])[i]? = some b ↔ as[i]? = some b ∨ (i = as.length ∧ b = a) := by
  rcases Nat.lt_trichotomy i as.length with before | rfl | behind
  · rw [List.getElem?_append_left before, or_iff_left fun last => Nat.ne_of_lt before last.1]
  · simp [eq_comm]
  · rw [List.getElem?_eq_none (by simpa using Nat.succ_le_of_lt behind),
      List.getElem?_eq_none (Nat.le_of_lt behind),
      or_iff_right nofun, and_comm]
    exact iff_of_false nofun fun last => Nat.ne_of_gt behind last.2

/-- A call site stands in a rejected node: its declaration, or the parent of its call node. -/
def CallSite.Touches (rejected : TreeSet NodeId) (site : CallSite) : Prop :=
  site.scope ∈ rejected ∨ ∃ p, site.fallback.parent = some p ∧ p ∈ rejected

namespace Outline

/-! ### What is left -/

section
variable (o : Outline) (rejected : TreeSet NodeId)

@[simp] theorem module_forget : (o.forget rejected).module = o.module := by
  unfold forget
  split <;> rfl

@[simp] theorem moduleId_forget : (o.forget rejected).moduleId = o.moduleId := by
  unfold moduleId
  rw [module_forget]

variable {o rejected}

theorem forget_of_isEmpty (o : Outline) {rejected : TreeSet NodeId} (none : rejected.isEmpty = true) :
    o.forget rejected = o :=
  if_pos none

theorem not_mem_of_isEmpty (h : rejected.isEmpty = true) (id : NodeId) : id ∉ rejected :=
  TreeSet.isEmpty_iff_forall_not_mem.mp h id

theorem not_mem_of_not_contains {id : NodeId} (h : (!rejected.contains id) = true) : id ∉ rejected := by
  intro hmem
  rw [show rejected.contains id = true from hmem] at h
  cases h

theorem mem_filter_kept {α : Type} {id : α → NodeId} {as : List α} {a : α}
    (member : a ∈ as.filter fun a => !rejected.contains (id a)) : a ∈ as ∧ id a ∉ rejected := by
  obtain ⟨listed, kept⟩ := List.mem_filter.mp member
  exact ⟨listed, not_mem_of_not_contains kept⟩

theorem mem_classes_forget {c : ClassDecl} (member : c ∈ (o.forget rejected).classes) :
    c ∈ o.classes ∧ c.id ∉ rejected := by
  unfold forget at member
  split at member
  · rename_i none
    exact ⟨member, not_mem_of_isEmpty none c.id⟩
  · exact mem_filter_kept member

theorem mem_functions_forget {d : FunctionDecl} (member : d ∈ (o.forget rejected).functions) :
    d ∈ o.functions ∧ d.id ∉ rejected := by
  unfold forget at member
  split at member
  · rename_i none
    exact ⟨member, not_mem_of_isEmpty none d.id⟩
  · exact mem_filter_kept member

/-- A call site that stays is one of the file, numbered anew, and made by a declaration that stays. -/
theorem mem_callSites_forget {site : CallSite} (hs : site ∈ (o.forget rejected).callSites) :
    (∃ old ∈ o.callSites, ∃ enclosing, site = { old with enclosing }) ∧ site.scope ∉ rejected := by
  unfold forget at hs
  split at hs
  · rename_i h
    exact ⟨⟨site, hs, site.enclosing, rfl⟩, not_mem_of_isEmpty h site.scope⟩
  · have kept : ∀ site ∈ (o.callSites.foldl (Renumbering.step rejected) {}).kept,
        (∃ old ∈ o.callSites, ∃ enclosing, site = { old with enclosing }) ∧ site.scope ∉ rejected := by
      refine List.foldlRecOn o.callSites _ (motive := fun r : Renumbering => ∀ site ∈ r.kept,
        (∃ old ∈ o.callSites, ∃ enclosing, site = { old with enclosing }) ∧ site.scope ∉ rejected) (by simp) ?_
      intro r hr old hold site hsite
      unfold Renumbering.step at hsite
      split at hsite
      · exact hr site hsite
      · rename_i hgoes
        rcases Array.mem_push.mp hsite with hsite | rfl
        · exact hr site hsite
        · refine ⟨⟨old, hold, _, rfl⟩, fun hmem => hgoes ?_⟩
          have : rejected.contains old.scope = true := hmem
          simp [Renumbering.goes, this]
    exact kept site (Array.mem_toList_iff.mp hs)

end

/-! ### The sites that stay -/

/-- Every site names a site before it as the one around it, if any. -/
def Backward (sites : List CallSite) : Prop :=
  ∀ (i : Nat) (site : CallSite) (j : Nat), sites[i]? = some site → site.enclosing = some j → j < i

/-- The site at `i` stands in the arguments of the site at `j`. -/
def EnclosedBy (sites : List CallSite) (i j : Nat) : Prop :=
  ∃ site, sites[i]? = some site ∧ site.enclosing = some j

/-- Neither the site at `i` nor any site around it stands in a rejected node. -/
def Spared (rejected : TreeSet NodeId) (sites : List CallSite) (i : Nat) : Prop :=
  ∀ j, ReflTransGen (EnclosedBy sites) i j → ∀ site, sites[j]? = some site → ¬site.Touches rejected

theorem spared_iff {rejected : TreeSet NodeId} {sites : List CallSite} {i : Nat} {site : CallSite}
    (here : sites[i]? = some site) :
    Spared rejected sites i ↔ ¬site.Touches rejected ∧ ∀ j, site.enclosing = some j → Spared rejected sites j := by
  constructor
  · intro stays
    exact ⟨stays i .refl site here, fun j around k way => stays k (.head ⟨site, here, around⟩ way)⟩
  · rintro ⟨free, outer⟩ k way other there
    rcases way.cases_head with rfl | ⟨j, ⟨site', here', around⟩, way⟩
    · rw [here] at there
      cases there
      exact free
    · rw [here] at here'
      cases here'
      exact outer j around k way other there

theorem Backward.of_append {sites more : List CallSite} (backward : Backward (sites ++ more)) : Backward sites :=
  fun i site j here => backward i site j <| by
    rw [List.getElem?_append_left (List.getElem?_eq_some_iff.mp here).1, here]

/-- Whether a site stays is a matter of the sites up to it. -/
theorem spared_append {rejected : TreeSet NodeId} {sites more : List CallSite} (backward : Backward sites) {i : Nat}
    (inside : i < sites.length) : Spared rejected (sites ++ more) i ↔ Spared rejected sites i := by
  induction i using Nat.strongRecOn with
  | ind i ih =>
    obtain ⟨site, here⟩ : ∃ site, sites[i]? = some site := ⟨_, List.getElem?_eq_getElem inside⟩
    have here' : (sites ++ more)[i]? = some site := by rw [List.getElem?_append_left inside, here]
    rw [spared_iff here, spared_iff here']
    refine and_congr_right fun _ => forall_congr' fun j => forall_congr' fun around => ?_
    have before := backward i site j here around
    exact ih j before (Nat.lt_trans before inside)

/-! ### Renumberings -/

/-- The number that a site at the new place `a` has for the site around it, where it had `old`: that of the same
    site, which is before it. -/
def Follows (places : List Nat) (a : Nat) (old new : Option Nat) : Prop :=
  (old = none ∧ new = none) ∨ ∃ j b, old = some j ∧ new = some b ∧ b < a ∧ places[b]? = some j

theorem Follows.append {places : List Nat} {a : Nat} {old new : Option Nat} (follows : Follows places a old new)
    (more : List Nat) : Follows (places ++ more) a old new := by
  rcases follows with none | ⟨j, b, around, moved, before, place⟩
  · exact Or.inl none
  · refine Or.inr ⟨j, b, around, moved, before, ?_⟩
    rw [List.getElem?_append_left (List.getElem?_eq_some_iff.mp place).1, place]

/-- The sites of `new` are those of `old` at some places, in their order and unchanged but for the numbers of the
    sites around them. -/
structure Renumbers (old new : List CallSite) (places : List Nat) : Prop where
  ascending : places.Pairwise (· < ·)
  length : new.length = places.length
  site : ∀ {a i : Nat}, places[a]? = some i → ∃ site enclosing, old[i]? = some site ∧
    new[a]? = some { site with enclosing } ∧ Follows places a site.enclosing enclosing

namespace Renumbers
variable {old mid new : List CallSite} {places later : List Nat} {rejected : TreeSet NodeId}

theorem exists_place (renumbers : Renumbers old new places) {a : Nat} {moved : CallSite} (here : new[a]? = some moved) :
    ∃ i, places[a]? = some i := by
  have inside := (List.getElem?_eq_some_iff.mp here).1
  rw [renumbers.length] at inside
  exact ⟨_, List.getElem?_eq_getElem inside⟩

theorem place_injective (renumbers : Renumbers old new places) {a b i : Nat} (ha : places[a]? = some i)
    (hb : places[b]? = some i) : a = b := by
  have apart : places.Nodup := renumbers.ascending.imp Nat.ne_of_lt
  exact (List.getElem?_inj (List.getElem?_eq_some_iff.mp ha).1 apart).mp (ha.trans hb.symm)

/-- After a renumbering the numbers point backwards again. -/
theorem backward (renumbers : Renumbers old new places) : Backward new := by
  intro a moved b here around
  obtain ⟨i, place⟩ := renumbers.exists_place here
  obtain ⟨site, enclosing, -, there, follows⟩ := renumbers.site place
  rw [here] at there
  cases there
  rcases follows with ⟨-, none⟩ | ⟨j, c, -, same, before, -⟩
  · rw [none] at around
    cases around
  · rw [same] at around
    cases around
    exact before

/-- A site stays where it has been moved to exactly when it stays where it was. -/
theorem spared_iff (renumbers : Renumbers old new places) {a i : Nat} (place : places[a]? = some i) :
    Spared rejected new a ↔ Spared rejected old i := by
  induction a using Nat.strongRecOn generalizing i with
  | ind a ih =>
    obtain ⟨site, enclosing, here, there, follows⟩ := renumbers.site place
    rw [Outline.spared_iff here, Outline.spared_iff there]
    refine and_congr_right fun _ => ?_
    rcases follows with ⟨none, rfl⟩ | ⟨j, b, around, rfl, before, place'⟩
    · simp [none]
    · simpa [around] using ih b before place'

theorem eq_of_same (one : Renumbers old new places) {new' : List CallSite} (other : Renumbers old new' places) :
    new = new' := by
  refine List.ext_getElem? fun a => ?_
  cases place : places[a]? with
  | none =>
    have beyond := List.getElem?_eq_none_iff.mp place
    rw [List.getElem?_eq_none (one.length ▸ beyond), List.getElem?_eq_none (other.length ▸ beyond)]
  | some i =>
    obtain ⟨site, enclosing, here, there, follows⟩ := one.site place
    obtain ⟨site', enclosing', here', there', follows'⟩ := other.site place
    rw [here] at here'
    cases here'
    -- The sites are one but for the numbers of the calls around them, and those have one new place.
    suffices same : enclosing = enclosing' by rw [there, there', same]
    rcases follows with ⟨none, rfl⟩ | ⟨j, b, around, rfl, -, placed⟩
    · rcases follows' with ⟨-, rfl⟩ | ⟨j, b, around, -⟩
      · rfl
      · rw [none] at around
        cases around
    · rcases follows' with ⟨none, -⟩ | ⟨j', b', around', rfl, -, placed'⟩
      · rw [none] at around
        cases around
      · rw [around] at around'
        cases around'
        rw [one.place_injective placed placed']

/-- A renumbering is determined by the places of the sites that stay. -/
theorem unique (one : Renumbers old new places) {new' : List CallSite} {places' : List Nat}
    (other : Renumbers old new' places') (same : ∀ i, i ∈ places ↔ i ∈ places') : new = new' := by
  have placed : places = places' := one.ascending.eq_of_mem_iff other.ascending same
  subst placed
  exact one.eq_of_same other

theorem append (renumbers : Renumbers old new places) (more : List CallSite) : Renumbers (old ++ more) new places :=
  { renumbers with
    site := fun place => by
      obtain ⟨site, enclosing, here, rest⟩ := renumbers.site place
      refine ⟨site, enclosing, ?_, rest⟩
      rw [List.getElem?_append_left (List.getElem?_eq_some_iff.mp here).1, here] }

/-- One more site moves behind the others. -/
theorem concat (renumbers : Renumbers old new places) (inside : ∀ i ∈ places, i < old.length) {site : CallSite}
    {enclosing : Option Nat} (follows : Follows places places.length site.enclosing enclosing) :
    Renumbers (old ++ [site]) (new ++ [{ site with enclosing }]) (places ++ [old.length]) where
  ascending := List.pairwise_append.mpr ⟨renumbers.ascending, List.pairwise_singleton .., by simpa using inside⟩
  length := by simp [renumbers.length]
  site {a i} place := by
    rcases getElem?_concat_iff.mp place with place | ⟨rfl, rfl⟩
    · obtain ⟨site, enclosing, here, there, follows⟩ := (renumbers.append _).site place
      exact ⟨site, enclosing, here, getElem?_concat_iff.mpr (Or.inl there), follows.append _⟩
    · refine ⟨site, enclosing, List.getElem?_concat_length, ?_, follows.append _⟩
      exact getElem?_concat_iff.mpr (Or.inr ⟨renumbers.length.symm, rfl⟩)

theorem refl {sites : List CallSite} (backward : Backward sites) :
    Renumbers sites sites (List.range sites.length) where
  ascending := List.pairwise_lt_range
  length := List.length_range.symm
  site {a i} place := by
    obtain ⟨inside, rfl⟩ := List.getElem?_eq_some_iff.mp place
    rw [List.length_range] at inside
    rw [List.getElem_range]
    refine ⟨sites[a], sites[a].enclosing, List.getElem?_eq_getElem inside, List.getElem?_eq_getElem inside, ?_⟩
    cases around : sites[a].enclosing with
    | none => exact Or.inl ⟨rfl, rfl⟩
    | some j =>
      have before := backward a _ j (List.getElem?_eq_getElem inside) around
      exact Or.inr ⟨j, j, rfl, rfl, before, List.getElem?_range (Nat.lt_trans before inside)⟩

/-- Two renumberings in a row are one. -/
theorem trans (one : Renumbers old mid places) (two : Renumbers mid new later) :
    ∃ joint, Renumbers old new joint ∧ ∀ i, i ∈ joint ↔ ∃ b ∈ later, places[b]? = some i := by
  -- What stays the second time is a place in the list that stayed the first time.
  have known : ∀ b ∈ later, ∃ i, places[b]? = some i := by
    intro b member
    obtain ⟨a, place⟩ := List.mem_iff_getElem?.mp member
    obtain ⟨site, _, here, -⟩ := two.site place
    exact one.exists_place here
  have at_joint : ∀ {a b i : Nat}, later[a]? = some b → places[b]? = some i →
      (later.map fun b => places.getD b 0)[a]? = some i := by
    intro a b i place place'
    simp [place, List.getD_eq_getElem?_getD, place']
  refine ⟨later.map fun b => places.getD b 0, ⟨?_, ?_, ?_⟩, fun i => ?_⟩
  · rw [List.pairwise_map]
    refine two.ascending.imp_of_mem fun {b c} mb mc before => ?_
    obtain ⟨i, hi⟩ := known b mb
    obtain ⟨j, hj⟩ := known c mc
    obtain ⟨inb, rfl⟩ := List.getElem?_eq_some_iff.mp hi
    obtain ⟨inc, rfl⟩ := List.getElem?_eq_some_iff.mp hj
    simpa [List.getD_eq_getElem?_getD, hi, hj] using List.pairwise_iff_getElem.mp one.ascending b c inb inc before
  · rw [two.length, List.length_map]
  · intro a i place
    rw [List.getElem?_map, Option.map_eq_some_iff] at place
    obtain ⟨b, place, rfl⟩ := place
    obtain ⟨i, place'⟩ := known b (List.mem_of_getElem? place)
    rw [List.getD_eq_getElem?_getD, place', Option.getD_some]
    -- The call around a site is followed through both renumberings.
    obtain ⟨moved, enclosing, here, there, follows⟩ := two.site place
    obtain ⟨site, _, first, here', follows'⟩ := one.site place'
    rw [here] at here'
    cases here'
    refine ⟨site, enclosing, first, there, ?_⟩
    rcases follows with ⟨none, rfl⟩ | ⟨j, c, around, rfl, before, outer⟩
    · rcases follows' with ⟨none', -⟩ | ⟨_, _, -, some', -⟩
      · exact Or.inl ⟨none', rfl⟩
      · cases none.symm.trans some'
    · rcases follows' with ⟨-, none'⟩ | ⟨k, _, around', some', -, outer'⟩
      · cases around.symm.trans none'
      · cases around.symm.trans some'
        exact Or.inr ⟨k, c, around', rfl, before, at_joint outer outer'⟩
  · rw [List.mem_map]
    refine exists_congr fun b => and_congr_right fun member => ?_
    obtain ⟨j, place⟩ := known b member
    rw [List.getD_eq_getElem?_getD, place, Option.getD_some, Option.some_inj]

end Renumbers

/-! ### The pass -/

/-- The pass through some sites has found those that stay, and knows their new places. -/
structure Tracks (rejected : TreeSet NodeId) (sites : List CallSite) (r : Renumbering) (places : List Nat) : Prop where
  renumbers : Renumbers sites r.kept.toList places
  stays : ∀ i, i ∈ places ↔ i < sites.length ∧ Spared rejected sites i
  size : r.places.size = sites.length
  newPlace : ∀ i a, r.newPlace? i = some a ↔ places[a]? = some i

theorem touches_iff {rejected : TreeSet NodeId} {site : CallSite} :
    (rejected.contains site.scope || site.fallback.parent.any rejected.contains) = true ↔ site.Touches rejected := by
  rw [Bool.or_eq_true, Option.any_eq_true]
  rfl

section
variable {rejected : TreeSet NodeId} {sites : List CallSite} {site : CallSite} {r : Renumbering} {places : List Nat}

theorem newPlace?_push (x : Option Nat) (kept : Array CallSite) (i : Nat) :
    (Renumbering.mk (r.places.push x) kept).newPlace? i = if i = r.places.size then x else r.newPlace? i := by
  unfold Renumbering.newPlace?
  rw [Array.getElem?_push]
  split <;> rfl

namespace Tracks

theorem empty : Tracks rejected [] {} [] where
  renumbers := ⟨.nil, rfl, by simp⟩
  stays := by simp
  size := rfl
  newPlace := by simp [Renumbering.newPlace?]

/-- The pass keeps a site exactly when it stays: the site around it has had its turn. -/
theorem goes_iff (tracks : Tracks rejected sites r places) (backward : Backward (sites ++ [site])) :
    r.goes rejected site = true ↔ ¬Spared rejected (sites ++ [site]) sites.length := by
  have here : (sites ++ [site])[sites.length]? = some site := List.getElem?_concat_length
  -- The call around the site stands before it, so the pass has told already whether that one stays.
  have lost : ∀ j, site.enclosing = some j →
      ((r.newPlace? j).isNone = true ↔ ¬Spared rejected (sites ++ [site]) j) := by
    intro j around
    have before := backward _ site j here around
    have found : (∃ a, r.newPlace? j = some a) ↔ Spared rejected (sites ++ [site]) j := by
      simp only [spared_append backward.of_append before, tracks.newPlace, ← List.mem_iff_getElem?, tracks.stays,
        before, true_and]
    rw [← found, ← Option.isSome_iff_exists, Bool.not_eq_true, Option.isSome_eq_false_iff]
  unfold Renumbering.goes
  rw [Bool.or_eq_true, touches_iff, spared_iff here, Option.any_eq_true]
  constructor
  · rintro (touches | ⟨j, around, gone⟩) ⟨free, outer⟩
    · exact free touches
    · exact (lost j around).mp gone (outer j around)
  · intro stops
    by_contra none
    rw [not_or] at none
    refine stops ⟨none.1, fun j around => ?_⟩
    by_contra gone
    exact none.2 ⟨j, around, (lost j around).mpr gone⟩

theorem not_mem_length (tracks : Tracks rejected sites r places) : sites.length ∉ places := fun member =>
  Nat.lt_irrefl _ ((tracks.stays _).mp member).1

theorem mem_append (tracks : Tracks rejected sites r places) (backward : Backward (sites ++ [site])) (i : Nat) :
    i < (sites ++ [site]).length ∧ Spared rejected (sites ++ [site]) i ↔
      i ∈ places ∨ (i = sites.length ∧ Spared rejected (sites ++ [site]) sites.length) := by
  rw [tracks.stays, List.length_append, List.length_singleton, Nat.lt_succ_iff_lt_or_eq]
  constructor
  · rintro ⟨inside | rfl, stays⟩
    · exact Or.inl ⟨inside, (spared_append backward.of_append inside).mp stays⟩
    · exact Or.inr ⟨rfl, stays⟩
  · rintro (⟨inside, stays⟩ | ⟨rfl, stays⟩)
    · exact ⟨Or.inl inside, (spared_append backward.of_append inside).mpr stays⟩
    · exact ⟨Or.inr rfl, stays⟩

theorem goes (tracks : Tracks rejected sites r places) (backward : Backward (sites ++ [site]))
    (gone : r.goes rejected site = true) : Tracks rejected (sites ++ [site]) (r.step rejected site) places := by
  have next : r.step rejected site = { r with places := r.places.push none } := if_pos gone
  rw [next]
  exact
    { renumbers := tracks.renumbers.append [site]
      stays := fun i => by
        rw [tracks.mem_append backward, or_iff_left fun last => (tracks.goes_iff backward).mp gone last.2]
      size := by rw [Array.size_push, tracks.size, List.length_append, List.length_singleton]
      newPlace := fun i a => by
        rw [newPlace?_push, tracks.size]
        split
        · rename_i last
          subst last
          exact iff_of_false nofun fun place => tracks.not_mem_length (List.mem_of_getElem? place)
        · exact tracks.newPlace i a }

/-- A site that stays gets the next place; the site around it stays too and has its new place by then. -/
theorem keeps (tracks : Tracks rejected sites r places) (backward : Backward (sites ++ [site]))
    (kept : r.goes rejected site = false) :
    Tracks rejected (sites ++ [site]) (r.step rejected site) (places ++ [sites.length]) := by
  have here : (sites ++ [site])[sites.length]? = some site := List.getElem?_concat_length
  have stays : Spared rejected (sites ++ [site]) sites.length := by
    by_contra gone
    exact Bool.eq_false_iff.mp kept ((tracks.goes_iff backward).mpr gone)
  have size : r.kept.size = places.length := by rw [← tracks.renumbers.length, Array.length_toList]
  -- The call around the site stays too, and has its new place already.
  have outer : Follows places places.length site.enclosing (site.enclosing.bind r.newPlace?) := by
    cases around : site.enclosing with
    | none => exact Or.inl ⟨rfl, rfl⟩
    | some j =>
      have before := backward _ site j here around
      have stays' := (spared_append backward.of_append before).mp (((spared_iff here).mp stays).2 j around)
      obtain ⟨b, place⟩ := List.mem_iff_getElem?.mp ((tracks.stays j).mpr ⟨before, stays'⟩)
      exact Or.inr ⟨j, b, rfl, (tracks.newPlace j b).mpr place, (List.getElem?_eq_some_iff.mp place).1, place⟩
  have next : r.step rejected site =
      { places := r.places.push (some r.kept.size)
        kept := r.kept.push { site with enclosing := site.enclosing.bind r.newPlace? } } :=
    if_neg (ne_true_of_eq_false kept)
  rw [next]
  exact
    { renumbers := by
        rw [Array.toList_push]
        exact tracks.renumbers.concat (fun i member => ((tracks.stays i).mp member).1) outer
      stays := fun i => by
        rw [tracks.mem_append backward, List.mem_append, List.mem_singleton, and_iff_left stays]
      size := by rw [Array.size_push, tracks.size, List.length_append, List.length_singleton]
      newPlace := fun i a => by
        rw [newPlace?_push, tracks.size, size, getElem?_concat_iff]
        split
        · rename_i last
          subst last
          have absent := fun place => tracks.not_mem_length (List.mem_of_getElem? (i := a) place)
          rw [or_iff_right absent, and_iff_left rfl, Option.some_inj, eq_comm]
        · rename_i other
          rw [or_iff_left fun last => other last.2, tracks.newPlace] }

theorem step (tracks : Tracks rejected sites r places) (backward : Backward (sites ++ [site])) :
    ∃ places', Tracks rejected (sites ++ [site]) (r.step rejected site) places' := by
  cases verdict : r.goes rejected site with
  | true => exact ⟨places, tracks.goes backward verdict⟩
  | false => exact ⟨places ++ [sites.length], tracks.keeps backward verdict⟩

theorem run (rejected : TreeSet NodeId) : ∀ {sites : List CallSite}, Backward sites →
    ∃ places, Tracks rejected sites (sites.foldl (Renumbering.step rejected) {}) places := by
  intro sites backward
  induction sites using List.reverseRecOn with
  | nil => exact ⟨[], empty⟩
  | append_singleton sites site ih =>
    obtain ⟨places, tracks⟩ := ih backward.of_append
    rw [List.foldl_concat]
    exact tracks.step backward

end Tracks

end

/-! ### Forgetting -/

theorem touches_union {first second : TreeSet NodeId} {site : CallSite} :
    site.Touches (first ∪ second) ↔ site.Touches first ∨ site.Touches second := by
  unfold CallSite.Touches
  simp only [TreeSet.mem_union_iff, and_or_left, exists_or]
  exact or_or_or_comm ..

theorem spared_union {first second : TreeSet NodeId} {sites : List CallSite} {i : Nat} :
    Spared (first ∪ second) sites i ↔ Spared first sites i ∧ Spared second sites i := by
  unfold Spared
  simp only [touches_union, not_or, imp_and, forall_and]

theorem spared_of_isEmpty {rejected : TreeSet NodeId} (none : rejected.isEmpty = true) (sites : List CallSite) (i : Nat) :
    Spared rejected sites i := by
  rintro j - site - (scope | ⟨p, -, parent⟩)
  · exact not_mem_of_isEmpty none _ scope
  · exact not_mem_of_isEmpty none p parent

section
variable {o : Outline} (backward : Backward o.callSites)
include backward

/-- Forgetting nothing is no special case: the pass would change nothing. -/
theorem forget_eq (rejected : TreeSet NodeId) : o.forget rejected =
    { o with
      nodes := o.nodes.filter fun n => !rejected.contains n.id
      classes := o.classes.filter fun c => !rejected.contains c.id
      functions := o.functions.filter fun f => !rejected.contains f.id
      callSites := (o.callSites.foldl (Renumbering.step rejected) {}).kept.toList } := by
  unfold forget
  split
  · rename_i none
    obtain ⟨places, tracks⟩ := Tracks.run rejected backward
    have same : o.callSites = (o.callSites.foldl (Renumbering.step rejected) {}).kept.toList :=
      (Renumbers.refl backward).unique tracks.renumbers fun i => by
        rw [List.mem_range, tracks.stays, and_iff_left (spared_of_isEmpty none o.callSites i)]
    simp only [TreeSet.contains_of_isEmpty none, Bool.not_false, List.filter_true, ← same]
  · rfl

theorem renumbers_forget (rejected : TreeSet NodeId) :
    ∃ places, (∀ i, i ∈ places ↔ i < o.callSites.length ∧ Spared rejected o.callSites i) ∧
      Renumbers o.callSites (o.forget rejected).callSites places := by
  obtain ⟨places, tracks⟩ := Tracks.run rejected backward
  rw [forget_eq backward]
  exact ⟨places, tracks.stays, tracks.renumbers⟩

/-- What is forgotten after some ids are is what those and more together make forgotten. -/
theorem forget_forget (first second : TreeSet NodeId) :
    (o.forget first).forget second = o.forget (first ∪ second) := by
  obtain ⟨one, stays, moved⟩ := renumbers_forget backward first
  obtain ⟨two, stays', moved'⟩ := renumbers_forget moved.backward second
  obtain ⟨both, stays'', direct⟩ := renumbers_forget backward (first ∪ second)
  obtain ⟨joint, stepwise, places⟩ := moved.trans moved'
  have same : ((o.forget first).forget second).callSites = (o.forget (first ∪ second)).callSites := by
    refine stepwise.unique direct fun i => ?_
    rw [places, stays'', spared_union, ← and_assoc, ← stays, List.mem_iff_getElem?]
    constructor
    · rintro ⟨b, member, place⟩
      exact ⟨⟨b, place⟩, (moved.spared_iff place).mp ((stays' b).mp member).2⟩
    · rintro ⟨⟨b, place⟩, kept⟩
      refine ⟨b, (stays' b).mpr ⟨?_, (moved.spared_iff place).mpr kept⟩, place⟩
      rw [moved.length]
      exact (List.getElem?_eq_some_iff.mp place).1
  rw [forget_eq moved.backward, forget_eq backward (first ∪ second)] at same ⊢
  dsimp only at same
  rw [same, forget_eq backward first]
  simp only [List.filter_filter, TreeSet.contains_union, Bool.not_or, Bool.and_comm]

end

/-- Forgetting keeps exactly the call sites that stay, in their order and unchanged but for the numbers of the sites
    around them, which name the same sites as before and point backwards; the pass looks back only at sites that it
    has seen; and forgetting twice forgets the same as forgetting both at once. -/
theorem forget_keeps (o : Outline) (backward : Backward o.callSites) :
    (∀ rejected, ∃ places, (∀ i, i ∈ places ↔ i < o.callSites.length ∧ Spared rejected o.callSites i) ∧
        Renumbers o.callSites (o.forget rejected).callSites places ∧ Backward (o.forget rejected).callSites ∧
        ∀ before site after j, o.callSites = before ++ site :: after → site.enclosing = some j →
          j < (before.foldl (Renumbering.step rejected) {}).places.size) ∧
      ∀ first second, (o.forget first).forget second = o.forget (first ∪ second) := by
  refine ⟨fun rejected => ?_, forget_forget backward⟩
  obtain ⟨places, stays, renumbers⟩ := renumbers_forget backward rejected
  refine ⟨places, stays, renumbers, renumbers.backward, fun before site after j split around => ?_⟩
  rw [split] at backward
  obtain ⟨_, tracks⟩ := Tracks.run rejected backward.of_append
  rw [tracks.size]
  exact backward _ site j (by simp) around

/-- The theorem for calls in two functions, of which one is forgotten with the call in its call. -/
theorem forget_keeps_nested :
    let call (scope : NodeId) (enclosing : Option Nat) : CallSite :=
      { scope, classScope := none, owners := [], target := .computed, fragment := [], enclosing, line := 1
        fallback := { module := "m", label := "call", kind := .call, parent := some scope } }
    let o : Outline := { path := "m.py", module := "m", nodes := [], imports := [], classes := [], functions := []
                         callSites := [call "m.f" none, call "m.g" (some 0), call "m.g" none, call "m.g" (some 2)] }
    let f := (∅ : TreeSet NodeId).insert "m.f"
    let h := (∅ : TreeSet NodeId).insert "m.h"
    Backward o.callSites ∧
      (∃ places, (∀ i, i ∈ places ↔ i < 4 ∧ Spared f o.callSites i) ∧
        Renumbers o.callSites (o.forget f).callSites places) ∧
      (o.forget f).callSites = [call "m.g" none, call "m.g" (some 0)] ∧ (o.forget h).forget f = o.forget (h ∪ f) := by
  intro call o f h
  have backward : Backward o.callSites := by
    rintro (_ | _ | _ | _ | i) site j here around <;> cases here <;> cases around
    · exact Nat.zero_lt_one
    · exact Nat.lt_succ_self 2
  obtain ⟨kept, composed⟩ := forget_keeps o backward
  obtain ⟨places, stays, renumbers, -⟩ := kept f
  exact ⟨backward, ⟨places, stays, renumbers⟩, by decide +kernel, composed h f⟩

end Outline

end ProgramGraph
