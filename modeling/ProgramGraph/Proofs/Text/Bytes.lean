import Mathlib.Data.List.Lex
import Mathlib.Data.String.Basic
import Mathlib.Tactic.SplitIfs
import ProgramGraph.Fingerprint

/-! The bytes of a text. They are those of its characters one after the other, so a text is known by its bytes; and
    as no encoded character is a beginning of another one, and greater characters have greater bytes at the first
    place where they differ, texts are ordered as their bytes are. -/

namespace ProgramGraph.Fingerprint

theorem toList_loop (b : ByteArray) (i : Nat) (done : List UInt8) :
    ByteArray.toList.loop b i done = done.reverse ++ b.data.toList.drop i := by
  fun_induction ByteArray.toList.loop b i done with
  | case1 i done inside ih =>
    have inside' : i < b.data.toList.length := by simpa using inside
    rw [ih, List.drop_eq_getElem_cons inside']
    simp [ByteArray.get!, inside]
  | case2 i done beyond =>
    rw [List.drop_eq_nil_of_le (by simpa using Nat.le_of_not_lt beyond), List.append_nil]

/-- The bytes of a text are those of its characters. -/
theorem bytes_eq_flatMap (s : String) : bytes s = s.toList.flatMap String.utf8EncodeChar := by
  have encoded : s.toUTF8 = s.toList.utf8Encode := String.utf8Encode_toList.symm
  rw [bytes, ByteArray.toList, toList_loop, encoded, List.utf8Encode, List.toList_data_toByteArray]
  simp

theorem length_bytes (s : String) : (bytes s).length = s.utf8ByteSize := by
  rw [bytes, ByteArray.toList, toList_loop]
  simp

theorem bytes_injective {s t : String} (same : bytes s = bytes t) : s = t := by
  rw [bytes, bytes, ByteArray.toList, ByteArray.toList, toList_loop, toList_loop] at same
  have data : s.toUTF8.data = t.toUTF8.data := Array.toList_inj.mp (by simpa using same)
  exact String.toByteArray_inj.mp (ByteArray.ext data)

/-! ### Order -/

/-- The encodings of two characters differ at some place, and there that of the greater one is greater. -/
theorem utf8EncodeChar_lt {c d : Char} (less : c < d) (xs ys : List UInt8) :
    String.utf8EncodeChar c ++ xs < String.utf8EncodeChar d ++ ys := by
  have less : c.val.toNat < d.val.toNat := less
  have bound : d.val.toNat < 0x110000 := by
    rcases d.valid with low | ⟨-, high⟩ <;> omega
  unfold String.utf8EncodeChar
  generalize c.val.toNat = v at *
  generalize d.val.toNat = w at *
  -- The bits go out six at a time, and only the highest ones need the bound.
  have cut (n : Nat) : n / 4096 = n / 64 / 64 ∧ n / 262144 = n / 64 / 64 / 64 := by omega
  have tail (n : Nat) : (n % 64 + 128) % 2 ^ 8 = n % 64 + 128 := by omega
  have head (n : Nat) (inside : n ≤ w) : (n / 64 / 64 / 64 % 8 + 240) % 2 ^ 8 = n / 64 / 64 / 64 + 240 := by omega
  dsimp only
  split_ifs <;>
    simp only [List.cons_append, List.nil_append, List.cons_lt_cons_iff, UInt8.lt_iff_toNat_lt, ← UInt8.toNat_inj,
      UInt8.toNat_ofNat', cut, tail, head v (Nat.le_of_lt less), head w (Nat.le_refl w)] <;>
    omega

theorem flatMap_utf8EncodeChar_lt {cs ds : List Char} (less : cs < ds) :
    cs.flatMap String.utf8EncodeChar < ds.flatMap String.utf8EncodeChar := by
  induction less with
  | @nil d ds =>
    obtain ⟨b, bs, encoded⟩ := List.exists_cons_of_ne_nil (String.utf8EncodeChar_ne_nil (c := d))
    rw [List.flatMap_nil, List.flatMap_cons, encoded, List.cons_append]
    exact List.nil_lt_cons ..
  | rel less => exact utf8EncodeChar_lt less ..
  | cons _ ih =>
    rw [List.flatMap_cons, List.flatMap_cons]
    exact List.append_left_lt ih

/-- Texts are ordered as their bytes are. -/
theorem bytes_lt_bytes {s t : String} : bytes s < bytes t ↔ s < t := by
  have forward {s t : String} (less : s < t) : bytes s < bytes t := by
    rw [bytes_eq_flatMap, bytes_eq_flatMap]
    exact flatMap_utf8EncodeChar_lt less
  refine ⟨fun less => ?_, forward⟩
  rcases lt_trichotomy s t with before | rfl | after
  · exact before
  · exact absurd less (List.lt_irrefl _)
  · exact absurd less (List.lt_asymm (forward after))

end ProgramGraph.Fingerprint
