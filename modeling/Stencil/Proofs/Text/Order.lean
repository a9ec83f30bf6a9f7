import Mathlib.Data.List.Nodup
import Stencil.Text.Bytes

/-!
# Texts in order

Texts are compared byte by byte, which is the lexicographic order of lists, so whatever is
known about that order holds of texts that were sorted. A list without its repetitions has the
same elements, each once.
-/

namespace Stencil

namespace Bytes

/-! ## Order -/

/-- **The order of texts is the lexicographic one.** -/
theorem le_iff {s t : Bytes} : le s t = true ↔ s ≤ t := by
  induction s generalizing t with
  | nil => exact iff_of_true rfl (List.nil_le t)
  | cons a s ih =>
    cases t with
    | nil => exact iff_of_false Bool.false_ne_true (List.not_le.2 (List.nil_lt_cons a s))
    | cons b t =>
      rw [List.cons_le_cons_iff, le]
      by_cases hab : a < b
      · rw [if_pos hab]
        exact iff_of_true rfl (.inl hab)
      rw [if_neg hab]
      by_cases hba : b < a
      · rw [if_pos hba]
        refine iff_of_false Bool.false_ne_true ?_
        rintro (h | ⟨rfl, -⟩)
        · exact hab h
        · exact UInt8.lt_irrefl a hba
      rw [if_neg hba, ih]
      obtain rfl := UInt8.le_antisymm (UInt8.not_lt.1 hba) (UInt8.not_lt.1 hab)
      simp

theorem le_trans' {s t u : Bytes} (hst : le s t = true) (htu : le t u = true) : le s u = true :=
  le_iff.2 (List.le_trans (le_iff.1 hst) (le_iff.1 htu))

theorem le_or_le (s t : Bytes) : (le s t || le t s) = true := by
  rw [Bool.or_eq_true, le_iff, le_iff]
  exact List.le_total s t

/-- **Things that were sorted by a text are in the order of their texts.** -/
theorem pairwise_mergeSort {α : Type} (f : α → Bytes) (l : List α) :
    ((l.mergeSort fun a b => le (f a) (f b)).map f).Pairwise (· ≤ ·) := by
  have htrans : ∀ a b c : α,
      le (f a) (f b) = true → le (f b) (f c) = true → le (f a) (f c) = true :=
    fun _ _ _ => le_trans'
  have htotal : ∀ a b : α, (le (f a) (f b) || le (f b) (f a)) = true := fun _ _ => le_or_le _ _
  exact List.pairwise_map.2 ((List.pairwise_mergeSort htrans htotal l).imp le_iff.1)

/-- In order and without repetitions is in strict order. -/
theorem pairwise_lt {l : List Bytes} (hle : l.Pairwise (· ≤ ·)) (hl : l.Nodup) :
    l.Pairwise (· < ·) :=
  (hle.and hl).imp fun ⟨h, hne⟩ => Std.lt_of_le_of_ne h hne

theorem sort_perm (l : List Bytes) : (sort l).Perm l := List.mergeSort_perm l le

end Bytes

/-! ## Repetitions -/

/-- **Keeping what was not seen yet keeps first occurrences**, in order. -/
theorem reverse_foldl_eq_eraseDups {α : Type} [BEq α] (l : List α) :
    (l.foldl (fun acc x => if acc.contains x then acc else x :: acc) []).reverse = l.eraseDups := by
  -- both keep what was seen in front of them, last first
  suffices h : ∀ seen : List α,
      (l.foldl (fun acc x => if acc.contains x then acc else x :: acc) seen).reverse
        = List.eraseDupsBy.loop (· == ·) l seen from h []
  induction l with
  | nil => exact fun seen => rfl
  | cons x l ih =>
    intro seen
    rw [List.foldl_cons, ih, List.eraseDupsBy.loop, ← List.contains_eq_any_beq]
    cases seen.contains x <;> rfl

theorem nodup_eraseDups {α : Type} [BEq α] [LawfulBEq α] (l : List α) : l.eraseDups.Nodup := by
  induction hn : l.length using Nat.strongRecOn generalizing l with
  | ind n ih =>
    cases l with
    | nil => exact .nil
    | cons x l =>
      rw [List.eraseDups_cons]
      have hlength := List.length_filter_le (fun y => !y == x) l
      rw [List.length_cons] at hn
      refine List.nodup_cons.2 ⟨fun hx => ?_, ih _ (by omega) _ rfl⟩
      simpa using List.mem_eraseDups.1 hx

/-- One more element counts if it is new. -/
theorem eraseDups_concat {α : Type} [BEq α] [LawfulBEq α] (l : List α) (x : α) :
    (l ++ [x]).eraseDups = if l.contains x then l.eraseDups else l.eraseDups ++ [x] := by
  rw [List.eraseDups_append, List.removeAll, List.filter_singleton]
  show l.eraseDups ++ (bif !l.contains x then [x] else []).eraseDups = _
  cases l.contains x with
  | true => exact List.append_nil _
  | false => rfl

namespace Bytes

theorem nodup_dedup (l : List Bytes) : (dedup l).Nodup := by
  rw [dedup, reverse_foldl_eq_eraseDups]
  exact nodup_eraseDups l

theorem mem_dedup {l : List Bytes} {x : Bytes} : x ∈ dedup l ↔ x ∈ l := by
  rw [dedup, reverse_foldl_eq_eraseDups, List.mem_eraseDups]

end Bytes

end Stencil
