import ProgramGraph.Proofs.Text.Bytes

/-! What the bytes under a fingerprint tell of a graph. No record says what it is a record of or how long it is, fields
    may be empty, and the line of a node may even hold the bytes that end fields and records. The bytes can be read back
    all the same (`Fingerprint.ofGraph_tells`): the ends of the first fields tell nodes, edges and problems apart, and
    to take the first byte of a line for the end of an empty one leaves less than any origin or record has. -/

namespace ProgramGraph

/-! ### Kinds and their texts -/

theorem NodeKind.ofText?_text (kind : NodeKind) : ofText? kind.text = some kind := by
  cases kind <;> decide +kernel

theorem EdgeKind.ofText?_text (kind : EdgeKind) : ofText? kind.text = some kind := by
  cases kind <;> decide +kernel

theorem Origin.ofText?_text (origin : Origin) : ofText? origin.text = some origin := by
  cases origin <;> decide +kernel

theorem NodeKind.text_injective {kind kind' : NodeKind} (same : kind.text = kind'.text) : kind = kind' :=
  Option.some.inj (by rw [← ofText?_text, same, ofText?_text])

theorem EdgeKind.text_injective {kind kind' : EdgeKind} (same : kind.text = kind'.text) : kind = kind' :=
  Option.some.inj (by rw [← ofText?_text, same, ofText?_text])

theorem Origin.text_injective {origin origin' : Origin} (same : origin.text = origin'.text) : origin = origin' :=
  Option.some.inj (by rw [← ofText?_text, same, ofText?_text])

theorem ProblemKind.text_injective {kind kind' : ProblemKind} (same : kind.text = kind'.text) : kind = kind' := by
  cases kind <;> cases kind' <;> first | rfl | exact absurd same (by decide)

namespace Fingerprint

/-! ### Fields -/

/-- A byte that ends a field or a record. -/
def Mark (b : UInt8) : Prop :=
  b = 0 ∨ b = 1

/-- No byte of a field ends it. -/
def Unmarked (field : List UInt8) : Prop :=
  0 ∉ field ∧ 1 ∉ field

instance (field : List UInt8) : Decidable (Unmarked field) :=
  inferInstanceAs (Decidable (_ ∧ _))

theorem mark_zero : Mark 0 := .inl rfl

theorem mark_one : Mark 1 := .inr rfl

namespace Unmarked

variable {field field' front rest rest' behind : List UInt8} {a b : UInt8}

theorem nil : Unmarked [] :=
  ⟨List.not_mem_nil, List.not_mem_nil⟩

theorem notMem (unmarked : Unmarked field) (mark : Mark b) : b ∉ field := by
  rcases mark with rfl | rfl
  · exact unmarked.1
  · exact unmarked.2

/-- A mark in bytes that start with a field is the one that ends the field, or stands behind that. -/
theorem reaches (unmarked : Unmarked field) (mark : Mark b) (same : field ++ a :: rest = front ++ b :: behind) :
    (field = front ∧ a = b ∧ rest = behind) ∨ ∃ more, front = field ++ a :: more ∧ rest = more ++ b :: behind := by
  rcases List.append_eq_append_iff.mp same with ⟨more, split, tail⟩ | ⟨more, split, tail⟩
  · cases more with
    | nil =>
      obtain ⟨rfl, rfl⟩ := List.cons.inj tail
      exact .inl ⟨by rw [split, List.append_nil], rfl, rfl⟩
    | cons c more =>
      obtain ⟨rfl, rfl⟩ := List.cons.inj tail
      exact .inr ⟨more, split, rfl⟩
  · cases more with
    | nil =>
      obtain ⟨rfl, rfl⟩ := List.cons.inj tail
      exact .inl ⟨by rw [split, List.append_nil], rfl, rfl⟩
    | cons c more =>
      obtain ⟨rfl, -⟩ := List.cons.inj tail
      exact absurd (by simp [split]) (unmarked.notMem mark)

/-- Where the same bytes start with two fields, the fields are one and end in the same way. -/
theorem cut (unmarked : Unmarked field) (unmarked' : Unmarked field') (mark : Mark a) (mark' : Mark b)
    (same : field ++ a :: rest = field' ++ b :: rest') : field = field' ∧ a = b ∧ rest = rest' := by
  rcases unmarked.reaches mark' same with here | ⟨more, rfl, -⟩
  · exact here
  · exact absurd (by simp) (unmarked'.notMem mark)

theorem length_le (unmarked : Unmarked field) (mark : Mark b) (same : field ++ a :: rest = front ++ b :: behind) :
    field.length ≤ front.length := by
  rcases unmarked.reaches mark same with ⟨rfl, -⟩ | ⟨more, rfl, -⟩
  · exact Nat.le_refl _
  · rw [List.length_append]
    exact Nat.le_add_right ..

end Unmarked

theorem text_ne_nil {s : String} (filled : s ≠ "") : bytes s ≠ [] := fun none =>
  filled (bytes_injective (none.trans (by decide +kernel)))

theorem nodeKind_text (kind : NodeKind) : Unmarked (bytes kind.text) ∧ 3 ≤ (bytes kind.text).length := by
  cases kind <;> decide +kernel

theorem edgeKind_text (kind : EdgeKind) : Unmarked (bytes kind.text) ∧ 5 ≤ (bytes kind.text).length := by
  cases kind <;> decide +kernel

theorem problemKind_text (kind : ProblemKind) : Unmarked (bytes kind.text) ∧ 7 ≤ (bytes kind.text).length := by
  cases kind <;> decide +kernel

theorem origin_text (origin : Origin) : Unmarked (bytes origin.text) ∧ 7 ≤ (bytes origin.text).length := by
  cases origin <;> decide +kernel

/-- No edge is of a kind that reads as an origin. -/
theorem origin_text_ne (origin : Origin) (kind : EdgeKind) : origin.text ≠ kind.text := by
  cases origin <;> cases kind <;> decide

theorem length_wordBytes (n : Nat) : (wordBytes n).length = 8 := by
  simp [wordBytes]

/-- The bits of a word are those of its bytes. -/
theorem wordBytes_injective {n m : Nat} (inside : n < 2 ^ 64) (inside' : m < 2 ^ 64)
    (same : wordBytes n = wordBytes m) : n = m := by
  refine Nat.eq_of_testBit_eq fun bit => ?_
  by_cases low : bit < 64
  · have byte := List.map_inj_left.mp same (bit / 8) (List.mem_range.mpr (by omega))
    have byte := congrArg (fun b => b.toNat.testBit (bit % 8)) byte
    have place : 8 * (bit / 8) + bit % 8 = bit := Nat.div_add_mod ..
    have small : bit % 8 < 8 := Nat.mod_lt _ (by decide)
    simpa [Nat.testBit_mod_two_pow _ 8, small, place] using byte
  · have beyond {k : Nat} (inside : k < 2 ^ 64) : k.testBit bit = false :=
      Nat.testBit_lt_two_pow (Nat.lt_of_lt_of_le inside (Nat.pow_le_pow_right (by decide) (by omega)))
    rw [beyond inside, beyond inside']

/-! ### Records -/

def parentBytes (parent : Option NodeId) : List UInt8 :=
  parent.elim [] bytes

def lineBytes (line : Option Nat) : List UInt8 :=
  line.elim [] wordBytes

def originBytes (origin : Option Origin) : List UInt8 :=
  origin.elim [] fun origin => bytes origin.text

/-- What one record tells. -/
inductive Item
  | node (id : NodeId) (kind : NodeKind) (parent : Option NodeId) (line : Option Nat) (origin : Option Origin)
  | edge (e : Edge)
  | diagnostic (kind : ProblemKind) (message : String)

namespace Item

def written : Item → List UInt8
  | node id kind parent line origin =>
    record [bytes id, bytes kind.text, parentBytes parent, lineBytes line, originBytes origin]
  | edge e => Fingerprint.edge e
  | diagnostic kind message => record [bytes kind.text, bytes message]

/-- The texts of a record do not hold the bytes that end them, no id is as short as a dot and one letter, and a line is
    a machine word. -/
def Readable : Item → Prop
  | node id _ parent line _ =>
    (Unmarked (bytes id) ∧ 3 ≤ (bytes id).length) ∧ (∀ p ∈ parent, Unmarked (bytes p) ∧ p ≠ "") ∧ ∀ n ∈ line, n < 2 ^ 64
  | edge e => Unmarked (bytes e.source) ∧ Unmarked (bytes e.target)
  | diagnostic _ message => Unmarked (bytes message)

end Item

section

variable {id id' : NodeId} {kind kind' : NodeKind} {parent parent' : Option NodeId} {line line' : Option Nat}
  {origin origin' : Option Origin} {e e' : Edge} {problem problem' : ProblemKind} {message message' : String}
  {rest rest' : List UInt8} {items items' : List Item}

theorem written_node : (Item.node id kind parent line origin).written ++ rest = bytes id ++ 0 :: (bytes kind.text ++
    0 :: (parentBytes parent ++ 0 :: (lineBytes line ++ 0 :: (originBytes origin ++ 1 :: rest)))) := by
  simp [Item.written, record]

theorem written_edge : (Item.edge e).written ++ rest =
    bytes e.source ++ 0 :: (bytes e.target ++ 0 :: (bytes e.kind.text ++ 1 :: rest)) := by
  simp [Item.written, Fingerprint.edge, record]

theorem written_diagnostic : (Item.diagnostic problem message).written ++ rest =
    bytes problem.text ++ 0 :: (bytes message ++ 1 :: rest) := by
  simp [Item.written, record]

theorem written_ne_nil (i : Item) : i.written ++ rest ≠ [] := by
  cases i with
  | node => simp [written_node]
  | edge => simp [written_edge]
  | diagnostic => simp [written_diagnostic]

theorem parentBytes_unmarked (readable : ∀ p ∈ parent, Unmarked (bytes p) ∧ p ≠ "") :
    Unmarked (parentBytes parent) := by
  cases parent with
  | none => exact .nil
  | some p => exact (readable p rfl).1

/-- A field that may be missing is told by its bytes if none that is there is empty. -/
theorem elim_injective {α : Type} {f : α → List UInt8} {field field' : Option α} (filled : ∀ a ∈ field, f a ≠ [])
    (filled' : ∀ a ∈ field', f a ≠ []) (injective : ∀ a b, f a = f b → a = b)
    (same : field.elim [] f = field'.elim [] f) : field = field' := by
  cases field with
  | none =>
    cases field' with
    | none => rfl
    | some a' => exact absurd same.symm (filled' a' rfl)
  | some a =>
    cases field' with
    | none => exact absurd same (filled a rfl)
    | some a' => rw [injective a a' same]

theorem parentBytes_injective (readable : ∀ p ∈ parent, Unmarked (bytes p) ∧ p ≠ "")
    (readable' : ∀ p ∈ parent', Unmarked (bytes p) ∧ p ≠ "") (same : parentBytes parent = parentBytes parent') :
    parent = parent' :=
  elim_injective (fun p asks => text_ne_nil (readable p asks).2) (fun p asks => text_ne_nil (readable' p asks).2)
    (fun _ _ => bytes_injective) same

theorem originBytes_unmarked (origin : Option Origin) : Unmarked (originBytes origin) := by
  cases origin with
  | none => exact .nil
  | some origin => exact (origin_text origin).1

theorem originBytes_injective (same : originBytes origin = originBytes origin') : origin = origin' := by
  have filled (o : Origin) : bytes o.text ≠ [] := by
    have long := (origin_text o).2
    exact List.ne_nil_of_length_pos (by omega)
  exact elim_injective (fun o _ => filled o) (fun o _ => filled o)
    (fun _ _ texts => Origin.text_injective (bytes_injective texts)) same

theorem originBytes_ne (origin : Option Origin) (kind : EdgeKind) : originBytes origin ≠ bytes kind.text := by
  cases origin with
  | none =>
    intro same
    have long := (edgeKind_text kind).2
    rw [← same] at long
    exact absurd long (by decide)
  | some origin => exact fun same => origin_text_ne origin kind (bytes_injective same)

/-! ### Lines that are not there -/

/-- No records start with six bytes, a zero and an origin: the zero would have to end the id of a node, or the source
    or the target of an edge, and what comes then does not end like an origin or is the kind of the edge. -/
theorem origin_not_within (readable : ∀ i ∈ items, i.Readable) {front : List UInt8} (six : front.length = 6) :
    items.flatMap Item.written ≠ front ++ 0 :: (originBytes origin ++ 1 :: rest) := by
  intro same
  have unmarked := originBytes_unmarked origin
  cases items with
  | nil => simp at same
  | cons i items =>
    rw [List.flatMap_cons] at same
    have readable := readable i List.mem_cons_self
    cases i with
    | node id kind parent line =>
      obtain ⟨⟨plain, long⟩, -⟩ := readable
      obtain ⟨plainKind, longKind⟩ := nodeKind_text kind
      rw [written_node] at same
      rcases plain.reaches mark_zero same with ⟨-, -, tail⟩ | ⟨more, rfl, tail⟩
      · exact absurd (plainKind.cut unmarked mark_zero mark_one tail).2.1 (by decide)
      · -- Id and kind together are longer than the six bytes.
        have short := plainKind.length_le mark_zero tail
        simp only [List.length_append, List.length_cons] at six
        omega
    | edge e =>
      obtain ⟨plainSource, plainTarget⟩ := readable
      obtain ⟨plainKind, longKind⟩ := edgeKind_text e.kind
      rw [written_edge] at same
      -- The zero ends the source, or else the target; behind both, the kind alone leaves it no room.
      rcases plainSource.reaches mark_zero same with ⟨-, -, tail⟩ | ⟨more, rfl, tail⟩
      · exact absurd (plainTarget.cut unmarked mark_zero mark_one tail).2.1 (by decide)
      · rcases plainTarget.reaches mark_zero tail with ⟨-, -, tail⟩ | ⟨more', rfl, tail'⟩
        · exact originBytes_ne origin e.kind (plainKind.cut unmarked mark_one mark_one tail).1.symm
        · have short := plainKind.length_le mark_zero tail'
          simp only [List.length_append, List.length_cons] at six
          omega
    | diagnostic problem message =>
      obtain ⟨plainKind, longKind⟩ := problemKind_text problem
      rw [written_diagnostic] at same
      have short := plainKind.length_le mark_zero same
      omega

/-- The end of an empty line is not the first byte of a line: seven more bytes would have to belong to the origin,
    which is longer, or be the end of a node without origin and six bytes of the next records. -/
theorem line_not_within (readable : ∀ i ∈ items, i.Readable) (n : Nat) :
    0 :: (originBytes origin ++ 1 :: items.flatMap Item.written) ≠
      wordBytes n ++ 0 :: (originBytes origin' ++ 1 :: rest) := by
  intro same
  have eight := length_wordBytes n
  rcases Unmarked.nil.reaches mark_zero same with ⟨none, -⟩ | ⟨more, word, tail⟩
  · rw [← none] at eight
    cases eight
  · rcases (originBytes_unmarked origin).reaches mark_zero tail with ⟨-, clash, -⟩ | ⟨more', rfl, tail'⟩
    · cases clash
    · simp only [word, List.length_append, List.length_cons, List.length_nil] at eight
      cases origin with
      | none => exact origin_not_within readable (by simpa [originBytes] using eight) tail'
      | some o =>
        have long := (origin_text o).2
        simp only [originBytes, Option.elim_some] at eight
        omega

theorem line_origin_cut (readable : ∀ i ∈ items, i.Readable) (readable' : ∀ i ∈ items', i.Readable)
    (word : ∀ n ∈ line, n < 2 ^ 64) (word' : ∀ n ∈ line', n < 2 ^ 64)
    (same : lineBytes line ++ 0 :: (originBytes origin ++ 1 :: items.flatMap Item.written) =
      lineBytes line' ++ 0 :: (originBytes origin' ++ 1 :: items'.flatMap Item.written)) :
    line = line' ∧ origin = origin' ∧ items.flatMap Item.written = items'.flatMap Item.written := by
  have origins {rest rest'} (same : 0 :: (originBytes origin ++ 1 :: rest) = 0 :: (originBytes origin' ++ 1 :: rest')) :
      origin = origin' ∧ rest = rest' := by
    obtain ⟨texts, -, tail⟩ := (originBytes_unmarked origin).cut (originBytes_unmarked origin') mark_one mark_one
      (List.cons.inj same).2
    exact ⟨originBytes_injective texts, tail⟩
  cases line with
  | none =>
    cases line' with
    | none => exact ⟨rfl, origins same⟩
    | some n' => exact absurd same (line_not_within readable n')
  | some n =>
    cases line' with
    | none => exact absurd same.symm (line_not_within readable' n)
    | some n' =>
      obtain ⟨words, tail⟩ := List.append_inj same ((length_wordBytes n).trans (length_wordBytes n').symm)
      exact ⟨by rw [wordBytes_injective (word n rfl) (word' n' rfl) words], origins tail⟩

/-! ### Reading back -/

theorem node_ne_edge (readable : (Item.node id kind parent line origin).Readable) (readable' : (Item.edge e).Readable) :
    (Item.node id kind parent line origin).written ++ rest ≠ (Item.edge e).written ++ rest' := by
  intro same
  rw [written_node, written_edge] at same
  obtain ⟨-, -, same⟩ := readable.1.1.cut readable'.1 mark_zero mark_zero same
  obtain ⟨-, -, same⟩ := (nodeKind_text kind).1.cut readable'.2 mark_zero mark_zero same
  have unmarked := parentBytes_unmarked readable.2.1
  exact absurd (unmarked.cut (edgeKind_text e.kind).1 mark_zero mark_one same).2.1 (by decide)

theorem node_ne_diagnostic (readable : (Item.node id kind parent line origin).Readable)
    (readable' : (Item.diagnostic problem message).Readable) :
    (Item.node id kind parent line origin).written ++ rest ≠ (Item.diagnostic problem message).written ++ rest' := by
  intro same
  rw [written_node, written_diagnostic] at same
  obtain ⟨-, -, same⟩ := readable.1.1.cut (problemKind_text problem).1 mark_zero mark_zero same
  exact absurd ((nodeKind_text kind).1.cut readable' mark_zero mark_one same).2.1 (by decide)

theorem edge_ne_diagnostic (readable : (Item.edge e).Readable)
    (readable' : (Item.diagnostic problem message).Readable) :
    (Item.edge e).written ++ rest ≠ (Item.diagnostic problem message).written ++ rest' := by
  intro same
  rw [written_edge, written_diagnostic] at same
  obtain ⟨-, -, same⟩ := readable.1.cut (problemKind_text problem).1 mark_zero mark_zero same
  exact absurd (readable.2.cut readable' mark_zero mark_one same).2.1 (by decide)

theorem node_cut (readable : (Item.node id kind parent line origin).Readable)
    (readable' : (Item.node id' kind' parent' line' origin').Readable)
    (same : (Item.node id kind parent line origin).written ++ rest =
      (Item.node id' kind' parent' line' origin').written ++ rest') :
    id = id' ∧ kind = kind' ∧ parent = parent' ∧ lineBytes line ++ 0 :: (originBytes origin ++ 1 :: rest) =
      lineBytes line' ++ 0 :: (originBytes origin' ++ 1 :: rest') := by
  rw [written_node, written_node] at same
  obtain ⟨ids, -, same⟩ := readable.1.1.cut readable'.1.1 mark_zero mark_zero same
  obtain ⟨kinds, -, same⟩ := (nodeKind_text kind).1.cut (nodeKind_text kind').1 mark_zero mark_zero same
  obtain ⟨parents, -, same⟩ := (parentBytes_unmarked readable.2.1).cut (parentBytes_unmarked readable'.2.1)
    mark_zero mark_zero same
  exact ⟨bytes_injective ids, NodeKind.text_injective (bytes_injective kinds),
    parentBytes_injective readable.2.1 readable'.2.1 parents, same⟩

theorem edge_cut (readable : (Item.edge e).Readable) (readable' : (Item.edge e').Readable)
    (same : (Item.edge e).written ++ rest = (Item.edge e').written ++ rest') : e = e' ∧ rest = rest' := by
  rw [written_edge, written_edge] at same
  obtain ⟨sources, -, same⟩ := readable.1.cut readable'.1 mark_zero mark_zero same
  obtain ⟨targets, -, same⟩ := readable.2.cut readable'.2 mark_zero mark_zero same
  obtain ⟨kinds, -, same⟩ := (edgeKind_text e.kind).1.cut (edgeKind_text e'.kind).1 mark_one mark_one same
  refine ⟨?_, same⟩
  cases e
  cases e'
  rw [Edge.mk.injEq]
  exact ⟨bytes_injective sources, bytes_injective targets, EdgeKind.text_injective (bytes_injective kinds)⟩

theorem diagnostic_cut (readable : (Item.diagnostic problem message).Readable)
    (readable' : (Item.diagnostic problem' message').Readable)
    (same : (Item.diagnostic problem message).written ++ rest = (Item.diagnostic problem' message').written ++ rest') :
    problem = problem' ∧ message = message' ∧ rest = rest' := by
  rw [written_diagnostic, written_diagnostic] at same
  obtain ⟨kinds, -, same⟩ := (problemKind_text problem).1.cut (problemKind_text problem').1 mark_zero mark_zero same
  obtain ⟨messages, -, same⟩ := Unmarked.cut readable readable' mark_one mark_one same
  exact ⟨ProblemKind.text_injective (bytes_injective kinds), bytes_injective messages, same⟩

/-- The first record can be read off, if records follow it. -/
theorem item_cut {i i' : Item} (readable : ∀ j ∈ i :: items, j.Readable) (readable' : ∀ j ∈ i' :: items', j.Readable)
    (same : i.written ++ items.flatMap Item.written = i'.written ++ items'.flatMap Item.written) :
    i = i' ∧ items.flatMap Item.written = items'.flatMap Item.written := by
  obtain ⟨first, later⟩ := List.forall_mem_cons.mp readable
  obtain ⟨first', later'⟩ := List.forall_mem_cons.mp readable'
  -- Records of one kind are cut field by field; records of two kinds never begin alike.
  cases i with
  | node id kind parent line origin =>
    cases i' with
    | node id' kind' parent' line' origin' =>
      obtain ⟨rfl, rfl, rfl, lines⟩ := node_cut first first' same
      obtain ⟨rfl, rfl, tail⟩ := line_origin_cut later later' first.2.2 first'.2.2 lines
      exact ⟨rfl, tail⟩
    | edge => exact absurd same (node_ne_edge first first')
    | diagnostic => exact absurd same (node_ne_diagnostic first first')
  | edge e =>
    cases i' with
    | node => exact absurd same.symm (node_ne_edge first' first)
    | edge e' =>
      obtain ⟨rfl, tail⟩ := edge_cut first first' same
      exact ⟨rfl, tail⟩
    | diagnostic => exact absurd same (edge_ne_diagnostic first first')
  | diagnostic problem message =>
    cases i' with
    | node => exact absurd same.symm (node_ne_diagnostic first' first)
    | edge => exact absurd same.symm (edge_ne_diagnostic first' first)
    | diagnostic problem' message' =>
      obtain ⟨rfl, rfl, tail⟩ := diagnostic_cut first first' same
      exact ⟨rfl, tail⟩

/-- Records can be read back from their bytes. -/
theorem items_unique (readable : ∀ i ∈ items, i.Readable) (readable' : ∀ i ∈ items', i.Readable)
    (same : items.flatMap Item.written = items'.flatMap Item.written) : items = items' := by
  induction items generalizing items' with
  | nil =>
    cases items' with
    | nil => rfl
    | cons i' items' => exact absurd same.symm (written_ne_nil i')
  | cons i items ih =>
    cases items' with
    | nil => exact absurd same (written_ne_nil i)
    | cons i' items' =>
      obtain ⟨rfl, tail⟩ := item_cut readable readable' same
      rw [ih (List.forall_mem_cons.mp readable).2 (List.forall_mem_cons.mp readable').2 tail]

end

/-! ### Graphs -/

/-- What the fingerprint of a graph depends on. -/
structure Contents where
  nodes : List (NodeId × NodeKind × Option NodeId × Option Nat × Option Origin)
  edges : List Edge
  diagnostics : List (ProblemKind × String)

def contents (g : Graph) : Contents where
  nodes := g.nodeList.map fun n => (n.id, n.kind, n.parent, n.line, n.origin)
  edges := g.edgeList
  diagnostics := g.diagnostics.toList.map fun d => (d.kind, d.message)

/-- No id and no message holds a byte that ends a field, every node has a module and a label, no id of a parent is the
    empty text (every id has a dot), and lines are machine words. -/
structure Readable (g : Graph) : Prop where
  named : ∀ n ∈ g.nodeList, n.module ≠ "" ∧ n.label ≠ ""
  id : ∀ n ∈ g.nodeList, Unmarked (bytes n.id)
  parent : ∀ n ∈ g.nodeList, ∀ p ∈ n.parent, Unmarked (bytes p) ∧ p ≠ ""
  line : ∀ n ∈ g.nodeList, ∀ line ∈ n.line, line < 2 ^ 64
  ends : ∀ e ∈ g.edgeList, Unmarked (bytes e.source) ∧ Unmarked (bytes e.target)
  message : ∀ d ∈ g.diagnostics, Unmarked (bytes d.message)

namespace Contents

/-- The records of a graph, in order. -/
def items (c : Contents) : List Item :=
  c.nodes.map (fun (id, kind, parent, line, origin) => .node id kind parent line origin) ++ c.edges.map .edge ++
    c.diagnostics.map fun (kind, message) => .diagnostic kind message

def ofItems (items : List Item) : Contents where
  nodes := items.filterMap fun
    | .node id kind parent line origin => some (id, kind, parent, line, origin)
    | _ => none
  edges := items.filterMap fun
    | .edge e => some e
    | _ => none
  diagnostics := items.filterMap fun
    | .diagnostic kind message => some (kind, message)
    | _ => none

theorem ofItems_items (c : Contents) : ofItems c.items = c := by
  simp [ofItems, items, List.filterMap_append, List.filterMap_map]

end Contents

theorem encode_eq (g : Graph) : encode g = (contents g).items.flatMap Item.written := by
  simp only [encode, contents, Contents.items, List.flatMap_append, List.flatMap_map]
  rfl

/-- An id is a module, a dot and a label. -/
theorem length_bytes_id {n : Node} (module : n.module ≠ "") (label : n.label ≠ "") : 3 ≤ (bytes n.id).length := by
  have filled {s : String} (some : s ≠ "") : 0 < s.utf8ByteSize :=
    Nat.pos_of_ne_zero fun none => some (String.utf8ByteSize_eq_zero_iff.mp none)
  have module := filled module
  have label := filled label
  rw [length_bytes, Node.id, Dotted.qualify, String.utf8ByteSize_append, String.utf8ByteSize_append,
    show ".".utf8ByteSize = 1 from rfl]
  omega

theorem Readable.items {g : Graph} (readable : Readable g) : ∀ i ∈ (contents g).items, i.Readable := by
  intro i member
  simp only [contents, Contents.items, List.mem_append, List.mem_map, List.map_map, Function.comp_apply] at member
  rcases member with (⟨n, member, rfl⟩ | ⟨e, member, rfl⟩) | ⟨d, member, rfl⟩
  · obtain ⟨module, label⟩ := readable.named n member
    exact ⟨⟨readable.id n member, length_bytes_id module label⟩, readable.parent n member, readable.line n member⟩
  · exact readable.ends e member
  · exact readable.message d (Array.mem_toList_iff.mp member)

/-- Two graphs have the same bytes under their fingerprints only if they have the same contents; so graphs of other
    contents and of one fingerprint are a collision of the hash as it is shown. -/
theorem ofGraph_tells {g g' : Graph} (readable : Readable g) (readable' : Readable g') :
    (encode g = encode g' ↔ contents g = contents g') ∧
      (ofGraph g = ofGraph g' → contents g ≠ contents g' →
        encode g ≠ encode g' ∧ Blake3.shortHex (encode g) = Blake3.shortHex (encode g')) := by
  have decoded : encode g = encode g' ↔ contents g = contents g' := by
    constructor
    · intro same
      rw [encode_eq, encode_eq] at same
      rw [← Contents.ofItems_items (contents g), items_unique readable.items readable'.items same,
        Contents.ofItems_items]
    · intro same
      rw [encode_eq, encode_eq, same]
  refine ⟨decoded, fun shown other => ⟨fun same => other (decoded.mp same), ?_⟩⟩
  exact (String.append_right_inj _).mp shown

/-- The theorem for a node without a line before an edge, and the node with the line whose bytes are what follows the
    one's own: the first twenty-six bytes agree. -/
theorem ofGraph_tells_line :
    let n : Node := { module := "m", label := "f", kind := .function, parent := some "m.m" }
    let g := (Graph.empty.addNode n).addEdge ⟨"m.abcd", "m.f", .calls⟩
    let g' := Graph.empty.addNode { n with line := some 0x646362612e6d0100 }
    (Readable g ∧ Readable g') ∧ (encode g).take 26 = (encode g').take 26 ∧ encode g ≠ encode g' := by
  intro n g g'
  have readable : Readable g := by
    constructor <;> decide +kernel
  have readable' : Readable g' := by
    constructor <;> decide +kernel
  have edges : (contents g).edges ≠ (contents g').edges := by decide +kernel
  refine ⟨⟨readable, readable'⟩, by decide +kernel, fun same => edges ?_⟩
  rw [(ofGraph_tells readable readable').1.mp same]

end Fingerprint

end ProgramGraph
