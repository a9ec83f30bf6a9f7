import Mathlib.Data.List.Basic
import Stencil.Proofs.Text.Utf8

/-!
# White space at the end of a text

A text that starts with an ASCII byte other than white space, such as a path that starts at the
root, can only be trimmed at its end. How that end is read does not depend on what stands in
front of such a byte: the byte is a character of its own (`endsBlank_append_ascii`), and trimming
does not get past it (`trim_append_ascii_cons`). So trimming such a text changes it exactly if
it ends in white space (`trim_eq_self_iff_endsBlank`).
-/

namespace Stencil.Bytes

open Utf8

/-- **Whether a text ends in white space.** -/
def endsBlank (s : Bytes) : Bool := (runes s).getLast?.any fun r => Utf8.isSpace r.code

section BlankEnd

variable {a : UInt8} (ha : a < 0x80) (ha' : Utf8.isSpace a.toNat = false)

include ha in
/-- What a text ends in is decided behind any ASCII byte in it. -/
theorem endsBlank_append_ascii (s t : Bytes) : endsBlank (s ++ a :: t) = endsBlank (a :: t) := by
  have hne : runes (a :: t) ≠ [] := by
    rw [runes_ascii_cons ha]
    exact List.cons_ne_nil _ _
  rw [endsBlank, runes_append_ascii s ha, List.getLast?_append_of_ne_nil _ hne, endsBlank]

include ha in
/-- A text that ends in an ASCII byte. -/
theorem endsBlank_concat_ascii (s : Bytes) : endsBlank (s ++ [a]) = Utf8.isSpace a.toNat := by
  rw [endsBlank_append_ascii ha, endsBlank, runes_ascii_cons ha, runes_nil]
  rfl

include ha ha'

/-- A text that starts with an ASCII byte other than white space is trimmed at its end only. -/
theorem trim_ascii_cons (s : Bytes) : trim (a :: s)
    = bytes ((runes (a :: s)).reverse.dropWhile fun r => Utf8.isSpace r.code).reverse := by
  have hkept : (runes (a :: s)).dropWhile (fun r => Utf8.isSpace r.code) = runes (a :: s) := by
    rw [runes_ascii_cons ha, List.dropWhile_cons_of_neg (by simpa using ha')]
  unfold trim
  dsimp only
  rw [hkept]

/-- Such a text stays as it is exactly if it does not end in white space. -/
theorem trim_eq_self_iff_endsBlank (s : Bytes) :
    trim (a :: s) = a :: s ↔ endsBlank (a :: s) = false := by
  have hrune : ∀ r ∈ runes (a :: s), IsRune r := fun r => isRune_of_mem
  have hback := bytes_runes (a :: s)
  rw [trim_ascii_cons ha ha']
  conv_lhs => rhs; rw [← hback]
  unfold endsBlank
  obtain hnil | ⟨rs, r, hrs⟩ := (runes (a :: s)).eq_nil_or_concat'
  · rw [hnil]
    exact iff_of_true rfl rfl
  · rw [hrs] at hrune ⊢
    rw [List.getLast?_concat, List.reverse_append, List.reverse_singleton, List.singleton_append,
      Option.any_some]
    cases hr : Utf8.isSpace r.code with
    | false =>
      rw [List.dropWhile_cons_of_neg (by simp [hr]), List.reverse_cons, List.reverse_reverse]
      exact iff_of_true rfl rfl
    | true =>
      refine iff_of_false (fun heq => ?_) Bool.true_eq_false.mp
      rw [List.dropWhile_cons_of_pos (by simpa using hr)] at heq
      obtain ⟨cut, hcut⟩ := List.dropWhile_suffix (fun r => Utf8.isSpace r.code) (l := rs.reverse)
      generalize rs.reverse.dropWhile (fun r => Utf8.isSpace r.code) = kept at heq hcut
      -- trimming takes at least the last character, which is not empty
      rw [← List.reverse_reverse rs, ← hcut, List.reverse_append, List.append_assoc, bytes, bytes,
        List.flatMap_append, List.self_eq_append_right, List.flatMap_append, List.flatMap_singleton,
        List.append_eq_nil_iff] at heq
      exact (hrune r (List.mem_append_right _ (List.mem_singleton_self r))).raw_ne_nil heq.2

/-- Nothing in front of an ASCII byte other than white space is touched when the end is trimmed. -/
theorem trim_append_ascii_cons {b : UInt8} (hb : b < 0x80) (hb' : Utf8.isSpace b.toNat = false)
    (m s : Bytes) : trim (a :: (m ++ b :: s)) = a :: m ++ trim (b :: s) := by
  have hne : (runes (b :: s)).reverse.dropWhile (fun r => Utf8.isSpace r.code) ≠ [] := by
    rw [runes_ascii_cons hb, List.reverse_cons, List.dropWhile_append]
    split
    · rw [List.dropWhile_cons_of_neg (by simpa using hb')]
      exact List.cons_ne_nil _ _
    · exact List.append_ne_nil_of_right_ne_nil _ (List.cons_ne_nil _ _)
  rw [trim_ascii_cons ha ha', ← List.cons_append, runes_append_ascii _ hb, List.reverse_append,
    List.dropWhile_append, if_neg (by simpa using hne), List.reverse_append, List.reverse_reverse,
    bytes, List.flatMap_append]
  exact congrArg₂ (· ++ ·) (bytes_runes _) (trim_ascii_cons hb hb' s).symm

end BlankEnd

end Stencil.Bytes
