import Mathlib.Data.List.Infix
import Stencil.Text.Bytes

/-!
# Searching a text that goes on

A pattern that was found in a text is found at the same place in any longer text that
starts with it, and a run of bytes that has ended is not made longer. Where it was found it
stands for the first time (`first_of_indexOf?`). A text that is cut at its last separator is put
together again by it (`eq_of_cutLast?`).
-/

namespace Stencil.Bytes

@[simp] theorem dropPrefix?_append (p s : Bytes) : dropPrefix? p (p ++ s) = some s := by
  induction p with
  | nil => rfl
  | cons a p ih => rw [List.cons_append, dropPrefix?, if_pos rfl, ih]

/-- **What a text starts with.** -/
theorem startsWith_iff {s p : Bytes} : startsWith s p = true ↔ p <+: s := by
  constructor
  · intro h
    induction p generalizing s with
    | nil => exact List.nil_prefix
    | cons a p ih =>
      cases s with
      | nil => cases h
      | cons b s =>
        unfold startsWith at h
        rw [dropPrefix?] at h
        split at h
        · next hab =>
          rw [hab, List.prefix_cons_inj]
          exact ih h
        · cases h
  · rintro ⟨t, rfl⟩
    rw [startsWith, dropPrefix?_append]
    rfl

theorem startsWith_append {s p : Bytes} (h : startsWith s p = true) (t : Bytes) :
    startsWith (s ++ t) p = true :=
  startsWith_iff.2 ((startsWith_iff.1 h).trans (List.prefix_append s t))

/-- A run of bytes ends at the first that does not belong to it. -/
theorem takeWhile_append_cons {p : UInt8 → Bool} {s : Bytes} {b : UInt8} (hs : ∀ c ∈ s, p c = true)
    (hb : p b = false) (t : Bytes) : (s ++ b :: t).takeWhile p = s := by
  rw [List.takeWhile_append_of_pos hs, List.takeWhile_cons_of_neg (by simp [hb]), List.append_nil]

/-- **The first occurrence is the first one whatever follows it.** -/
theorem indexOf?_append {p s : Bytes} {n : Nat} (hp : p ≠ []) (h : indexOf? p s = some n)
    (t : Bytes) : indexOf? p (s ++ t) = some n ∧ n + p.length ≤ s.length := by
  induction s generalizing n with
  | nil =>
    cases p with
    | nil => exact absurd rfl hp
    | cons => cases h
  | cons c s ih =>
    rw [indexOf?] at h
    rw [List.cons_append, indexOf?]
    by_cases hc : startsWith (c :: s) p = true
    · rw [if_pos hc] at h
      cases h
      rw [← List.cons_append, if_pos (startsWith_append hc t)]
      refine ⟨rfl, ?_⟩
      rw [Nat.zero_add]
      exact (startsWith_iff.1 hc).length_le
    · rw [if_neg hc] at h
      obtain ⟨m, hm, rfl⟩ := Option.map_eq_some_iff.1 h
      obtain ⟨ha, hle⟩ := ih hm
      -- the pattern fits into `s`, so it would have been found at the head without `t`
      have hnot : ¬ startsWith (c :: (s ++ t)) p = true := by
        intro hs
        refine hc (startsWith_iff.2 ?_)
        refine List.prefix_of_prefix_length_le (startsWith_iff.1 hs)
          (List.prefix_append (c :: s) t) ?_
        rw [List.length_cons]
        omega
      rw [if_neg hnot, ha]
      refine ⟨rfl, ?_⟩
      rw [List.length_cons]
      omega

/-- What is found stands where it is found, and would be found there without what follows it. -/
theorem exists_of_indexOf? {p s : Bytes} {n : Nat} (hp : p ≠ []) (h : indexOf? p s = some n) :
    ∃ a t, s = a ++ p ++ t ∧ n = a.length ∧ indexOf? p (a ++ p) = some a.length := by
  induction s generalizing n with
  | nil =>
    cases p with
    | nil => exact absurd rfl hp
    | cons => cases h
  | cons c s ih =>
    rw [indexOf?] at h
    by_cases hc : startsWith (c :: s) p = true
    · rw [if_pos hc] at h
      cases h
      obtain ⟨t, ht⟩ := startsWith_iff.1 hc
      refine ⟨[], t, ht.symm, rfl, ?_⟩
      obtain ⟨b, p, rfl⟩ := List.exists_cons_of_ne_nil hp
      exact if_pos (startsWith_iff.2 List.prefix_rfl)
    · rw [if_neg hc] at h
      obtain ⟨m, hm, rfl⟩ := Option.map_eq_some_iff.1 h
      obtain ⟨a, t, rfl, rfl, ha⟩ := ih hm
      refine ⟨c :: a, t, rfl, rfl, ?_⟩
      have hnot : ¬ startsWith (c :: (a ++ p)) p = true := fun hs => hc (startsWith_append hs t)
      rw [List.cons_append, indexOf?, if_neg hnot, ha]
      rfl

/-- What occurs in a text is found there. -/
theorem indexOf?_of_isInfix {p s : Bytes} (h : p <:+: s) : ∃ n, indexOf? p s = some n := by
  induction s with
  | nil =>
    obtain rfl := List.eq_nil_of_infix_nil h
    exact ⟨0, rfl⟩
  | cons c s ih =>
    rw [indexOf?]
    by_cases hc : startsWith (c :: s) p = true
    · exact ⟨0, if_pos hc⟩
    · obtain ⟨n, hn⟩ := ih ((List.infix_cons_iff.1 h).resolve_left (mt startsWith_iff.2 hc))
      exact ⟨n + 1, by rw [if_neg hc, hn]; rfl⟩

/-- **What is found stands there, and nowhere before.** -/
theorem first_of_indexOf? {p s : Bytes} {n : Nat} (h : indexOf? p s = some n) :
    p <+: s.drop n ∧ ∀ m < n, ¬ p <+: s.drop m := by
  induction s generalizing n with
  | nil =>
    rw [indexOf?] at h
    split at h
    · next hp =>
      cases h
      rw [List.isEmpty_iff.1 hp]
      exact ⟨List.nil_prefix, fun m hm => absurd hm (Nat.not_lt_zero m)⟩
    · cases h
  | cons c s ih =>
    rw [indexOf?] at h
    split at h
    · next hc =>
      cases h
      exact ⟨startsWith_iff.1 hc, fun m hm => absurd hm (Nat.not_lt_zero m)⟩
    · next hc =>
      obtain ⟨k, hk, rfl⟩ := Option.map_eq_some_iff.1 h
      obtain ⟨hfound, hfirst⟩ := ih hk
      refine ⟨hfound, fun m hm => ?_⟩
      cases m with
      | zero => exact fun hp => hc (startsWith_iff.2 hp)
      | succ m => exact hfirst m (Nat.lt_of_succ_lt_succ hm)

/-- What is not found stands nowhere. -/
theorem not_prefix_of_indexOf?_none {p s : Bytes} (h : indexOf? p s = none) (m : Nat) :
    ¬ p <+: s.drop m := by
  intro hp
  obtain ⟨n, hn⟩ := indexOf?_of_isInfix (hp.isInfix.trans (List.drop_suffix m s).isInfix)
  rw [h] at hn
  cases hn

/-- A separator that occurs has a last occurrence. -/
theorem exists_last {sep : UInt8} {s : Bytes} (h : sep ∈ s) :
    ∃ a b, s = a ++ sep :: b ∧ sep ∉ b := by
  obtain ⟨front, back, hs, hfront⟩ := List.eq_append_cons_of_mem (List.mem_reverse.2 h)
  refine ⟨back.reverse, front.reverse, ?_, fun h => hfront (List.mem_reverse.1 h)⟩
  rw [← List.reverse_reverse s, hs, List.reverse_append, List.reverse_cons, List.append_assoc,
    List.singleton_append]

/-- A text is cut at its last separator. -/
theorem cutLast?_append {sep : UInt8} (a : Bytes) {b : Bytes} (h : sep ∉ b) :
    cutLast? sep (a ++ sep :: b) = some (a, b) := by
  have hkept : ∀ c ∈ b.reverse, decide (c ≠ sep) = true := fun c hc =>
    decide_eq_true fun heq => h (heq ▸ List.mem_reverse.1 hc)
  have htail : ((a ++ sep :: b).reverse.takeWhile (· ≠ sep)).reverse = b := by
    rw [List.reverse_append, List.reverse_cons, List.append_assoc, List.singleton_append,
      takeWhile_append_cons hkept (by simp), List.reverse_reverse]
  have hlength : b.length < (a ++ sep :: b).length := by
    rw [List.length_append, List.length_cons]
    omega
  have htake : (a ++ sep :: b).take ((a ++ sep :: b).length - b.length - 1) = a := by
    rw [List.length_append, List.length_cons]
    have : a.length + (b.length + 1) - b.length - 1 = a.length := by omega
    rw [this, List.take_left]
  unfold cutLast?
  dsimp only
  rw [htail, if_pos hlength, htake]

/-- What a text was cut into. -/
theorem eq_of_cutLast? {sep : UInt8} {s a b : Bytes} (h : cutLast? sep s = some (a, b)) :
    s = a ++ sep :: b ∧ sep ∉ b := by
  by_cases hsep : sep ∈ s
  · obtain ⟨front, back, rfl, hback⟩ := exists_last hsep
    rw [cutLast?_append _ hback] at h
    cases h
    exact ⟨rfl, hback⟩
  · have hkept : ∀ c ∈ s.reverse, decide (c ≠ sep) = true := fun c hc =>
      decide_eq_true fun heq => hsep (heq ▸ List.mem_reverse.1 hc)
    have htail : (s.reverse.takeWhile (· ≠ sep)).reverse = s := by
      have happend : (s.reverse ++ []).takeWhile (· ≠ sep) = s.reverse ++ [].takeWhile _ :=
        List.takeWhile_append_of_pos hkept
      rw [List.append_nil, List.takeWhile_nil, List.append_nil] at happend
      rw [happend, List.reverse_reverse]
    unfold cutLast? at h
    dsimp only at h
    rw [htail, if_neg (Nat.lt_irrefl _)] at h
    cases h

/-- Only a text without separator is not cut. -/
theorem notMem_of_cutLast? {sep : UInt8} {s : Bytes} (h : cutLast? sep s = none) : sep ∉ s := by
  intro hsep
  obtain ⟨front, back, rfl, hback⟩ := exists_last hsep
  rw [cutLast?_append _ hback] at h
  cases h

/-- Nothing is replaced where there is nothing to replace. -/
theorem replaceByte_of_not_mem {b : UInt8} {new s : Bytes} (h : b ∉ s) :
    replaceByte b new s = s := by
  induction s with
  | nil => rfl
  | cons c s ih =>
    have hc : c ≠ b := fun heq => h (heq ▸ List.mem_cons_self)
    rw [replaceByte, List.flatMap_cons, if_neg hc]
    exact congrArg (c :: ·) (ih fun hmem => h (List.mem_cons_of_mem _ hmem))

end Stencil.Bytes
