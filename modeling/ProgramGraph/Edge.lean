import ProgramGraph.Node

/-! The edges of a program graph, ordered by source, then target, then kind. Containment is the least
    kind, so `⟨id, "", .containment⟩` is below every edge that leaves `id`. -/

namespace ProgramGraph
open Std

inductive EdgeKind
  | containment
  | importing
  | inherits
  | calls
  | orphan
  deriving DecidableEq, Repr

namespace EdgeKind

def text : EdgeKind → String
  | containment => "containment"
  | importing => "import"
  | inherits => "inherits"
  | calls => "calls"
  | orphan => "orphan"

def ofText? (s : String) : Option EdgeKind :=
  [containment, importing, inherits, calls, orphan].find? fun kind => kind.text == s

/-- The place of a kind in the order of kinds. -/
def rank : EdgeKind → Nat
  | containment => 0
  | importing => 1
  | inherits => 2
  | calls => 3
  | orphan => 4

theorem rank_injective {a b : EdgeKind} (h : a.rank = b.rank) : a = b := by
  cases a <;> cases b <;> simp [rank] at h ⊢

instance : Ord EdgeKind := ⟨compareOn rank⟩

instance : TransOrd EdgeKind := inferInstanceAs (TransCmp (compareOn rank))

instance : LawfulEqOrd EdgeKind where
  eq_of_compare h := rank_injective (Std.compare_eq_iff_eq.mp h)

end EdgeKind

structure Edge where
  source : NodeId
  target : NodeId
  kind : EdgeKind
  deriving DecidableEq, Repr

namespace Edge

instance : Ord Edge :=
  ⟨compareLex (compareOn source) (compareLex (compareOn target) (compareOn kind))⟩

instance : TransOrd Edge :=
  inferInstanceAs
    (TransCmp (compareLex (compareOn source) (compareLex (compareOn target) (compareOn kind))))

instance : LawfulEqOrd Edge where
  eq_of_compare {a b} h := by
    have h : (compare a.source b.source).then
        ((compare a.target b.target).then (compare a.kind b.kind)) = .eq := h
    rw [Ordering.then_eq_eq, Ordering.then_eq_eq] at h
    obtain ⟨hs, ht, hk⟩ := h
    obtain ⟨s, t, k⟩ := a
    obtain ⟨s', t', k'⟩ := b
    have hs : s = s' := LawfulEqOrd.eq_of_compare hs
    have ht : t = t' := LawfulEqOrd.eq_of_compare ht
    have hk : k = k' := LawfulEqOrd.eq_of_compare hk
    rw [hs, ht, hk]

end Edge

end ProgramGraph
