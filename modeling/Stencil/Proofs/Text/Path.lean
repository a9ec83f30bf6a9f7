import Mathlib.Algebra.GroupWithZero.Nat
import Mathlib.Data.List.Induction
import Mathlib.Data.List.Infix
import Stencil.Proofs.Text.Blank
import Stencil.Source.Unit

/-!
# Paths and their segments

A path in shortest form that starts at the root is the same thing as its segments, none of
which is empty, a dot, two dots, or holds a slash: `ofSegments` writes such segments down and
`segments` reads them back (`segments_ofSegments`). In those terms the operations on paths
are plain: `clean` writes down the segments of a path, and `dir` drops the last one.

Two measures bound what a path can become. A path is `Narrow` if no segment is longer than some
bound, and nothing that is done to paths makes a segment longer than the segments it is made
of. And a shortest form is not longer than the path, but for a slash.

Normal forms need more care, because the normal form of a path need not be in normal form:
trimming comes before cleaning, and cleaning can leave a blank at the end that was not there
before. Normalizing once more then shortens the last segment, and if that leaves two dots, it
takes the segment in front of it away as well. That is all it can do, so the directory of a
normal form is not much longer than the next normal form (`length_dir_normalizePath_le`).
-/

namespace Stencil

open Bytes

namespace Path

/-! ## Pieces between slashes -/

/-- **Splitting at a slash that is there.** The pieces in front of it and those behind it are found
independently, so what is written down segment by segment can be read segment by segment. -/
theorem splitOn_append (a b : Bytes) :
    splitOn slash (a ++ slash :: b) = splitOn slash a ++ splitOn slash b := by
  induction a with
  | nil => rfl
  | cons c a ih =>
    rw [List.cons_append, splitOn, splitOn]
    by_cases hc : c = slash
    · rw [if_pos hc, if_pos hc, ih]
      rfl
    · rw [if_neg hc, if_neg hc, ih]
      cases hsplit : splitOn slash a with
      | nil =>
        exfalso
        cases a with
        | nil => cases hsplit
        | cons d a =>
          rw [splitOn] at hsplit
          split at hsplit
          · cases hsplit
          · split at hsplit <;> cases hsplit
      | cons piece rest => rfl

/-- A text without a slash is a single piece. -/
theorem splitOn_of_notMem {s : Bytes} (h : slash ∉ s) : splitOn slash s = [s] := by
  induction s with
  | nil => rfl
  | cons c s ih =>
    obtain ⟨hc, hs⟩ := not_or.1 (mt List.mem_cons.2 h)
    rw [splitOn, if_neg (Ne.symm hc), ih hs]

/-- A text is cut at its first slash, if it has one. -/
theorem eq_append_slash {x : Bytes} (h : slash ∈ x) :
    ∃ a b, slash ∉ a ∧ x = a ++ slash :: b := by
  induction x with
  | nil => cases h
  | cons c x ih =>
    by_cases hc : c = slash
    · exact ⟨[], x, List.not_mem_nil, by rw [hc]; rfl⟩
    · obtain ⟨a, b, ha, rfl⟩ := ih ((List.mem_cons.1 h).resolve_left (Ne.symm hc))
      exact ⟨c :: a, b, List.not_mem_cons_of_ne_of_not_mem (Ne.symm hc) ha, rfl⟩

/-- Pieces hold no slash and are part of the text. -/
theorem mem_splitOn {x s : Bytes} (h : s ∈ splitOn slash x) : slash ∉ s ∧ s <:+: x := by
  induction hn : x.length using Nat.strongRecOn generalizing x s with
  | ind n ih =>
    by_cases hx : slash ∈ x
    · obtain ⟨a, b, ha, rfl⟩ := eq_append_slash hx
      rw [splitOn_append, splitOn_of_notMem ha, List.singleton_append, List.mem_cons] at h
      rcases h with rfl | h
      · exact ⟨ha, (List.prefix_append _ _).isInfix⟩
      · obtain ⟨hs, hinfix⟩ := ih b.length (by rw [← hn]; simp; omega) h rfl
        exact ⟨hs, hinfix.trans ⟨a ++ [slash], [], by simp⟩⟩
    · rw [splitOn_of_notMem hx, List.mem_singleton] at h
      exact ⟨h ▸ hx, h ▸ List.infix_rfl⟩

/-! ## Segments written down -/

/-- A segment of a path in shortest form. -/
structure Proper (s : Bytes) : Prop where
  ne_nil : s ≠ []
  ne_dot : s ≠ Bytes.ofString "."
  ne_dots : s ≠ Bytes.ofString ".."
  slash_not_mem : slash ∉ s

/-- Segments, each behind a slash. -/
def rooted (ss : List Bytes) : Bytes := ss.flatMap fun s => slash :: s

/-- **The path with the given segments**, starting at the root. -/
def ofSegments (ss : List Bytes) : Bytes := slash :: join [slash] ss

/-- Writing a slash in front of each segment comes to the same as writing slashes between them and
one more in front, unless there are no segments: then the path is a slash, and not empty. -/
theorem ofSegments_eq_rooted {ss : List Bytes} (h : ss ≠ []) : ofSegments ss = rooted ss := by
  induction ss with
  | nil => exact absurd rfl h
  | cons s ss ih =>
    cases ss with
    | nil => simp [ofSegments, rooted, join]
    | cons s' ss =>
      have := ih (List.cons_ne_nil _ _)
      rw [ofSegments] at this
      rw [ofSegments, join, rooted, List.flatMap_cons, ← rooted, ← this]
      · simp
      · exact List.cons_ne_nil _ _

/-- The last segment stands behind the others and a slash. -/
theorem ofSegments_concat (ss : List Bytes) (s : Bytes) :
    ofSegments (ss ++ [s]) = rooted ss ++ slash :: s := by
  rw [ofSegments_eq_rooted (List.append_ne_nil_of_right_ne_nil _ (List.cons_ne_nil s [])), rooted,
    List.flatMap_append, ← rooted, List.flatMap_singleton]

/-- Every segment is found in the path as a section. -/
theorem isInfix_rooted {ss : List Bytes} {s : Bytes} (h : s ∈ ss) : s <:+: rooted ss := by
  obtain ⟨a, b, rfl⟩ := List.append_of_mem h
  exact ⟨rooted a ++ [slash], rooted b, by simp [rooted]⟩

/-- A byte of a path is a slash or in one of its segments. -/
theorem mem_ofSegments {ss : List Bytes} {b : UInt8} (h : b ∈ ofSegments ss) :
    b = slash ∨ ∃ s ∈ ss, b ∈ s := by
  by_cases hss : ss = []
  · subst hss
    exact .inl (List.mem_singleton.1 h)
  · rw [ofSegments_eq_rooted hss] at h
    obtain ⟨s, hs, hb⟩ := List.mem_flatMap.1 h
    exact (List.mem_cons.1 hb).imp_right fun hb => ⟨s, hs, hb⟩

/-- **What was written down is read back**, behind an empty piece in front of the first slash. -/
theorem splitOn_rooted {ss : List Bytes} (h : ∀ s ∈ ss, slash ∉ s) :
    splitOn slash (rooted ss) = [] :: ss := by
  induction ss using List.reverseRecOn with
  | nil => rfl
  | append_singleton ss s ih =>
    obtain ⟨hss, hs⟩ := List.forall_mem_append.1 h
    rw [rooted, List.flatMap_append, ← rooted, List.flatMap_singleton, splitOn_append, ih hss,
      splitOn_of_notMem (hs s (List.mem_singleton_self s))]
    rfl

/-- So different segments are written down differently. -/
theorem rooted_inj {ss ss' : List Bytes} (h : ∀ s ∈ ss, slash ∉ s) (h' : ∀ s ∈ ss', slash ∉ s)
    (heq : rooted ss = rooted ss') : ss = ss' := by
  have hsplit := congrArg (splitOn slash) heq
  rw [splitOn_rooted h, splitOn_rooted h'] at hsplit
  exact (List.cons.inj hsplit).2

/-! ## Segments read back -/

@[simp] theorem step_nil (rooted : Bool) (kept : List Bytes) : step rooted kept [] = kept := rfl

/-- A segment that is neither empty nor made of dots is kept by cleaning. -/
theorem step_proper {s : Bytes} (h : Proper s) (rooted : Bool) (kept : List Bytes) :
    step rooted kept s = s :: kept := by
  have hskip : (s = [] || s = Bytes.ofString ".") = false := by
    simp [h.ne_nil, h.ne_dot]
  unfold step
  rw [if_neg (by rw [hskip]; exact Bool.false_ne_true), if_neg h.ne_dots]

/-- **What a segment does**: nothing, or it is kept, or it takes the last one away. -/
theorem step_cases (rooted : Bool) (kept : List Bytes) (s : Bytes) :
    step rooted kept s = kept ∨ step rooted kept s = s :: kept
      ∨ ∃ last, kept = last :: step rooted kept s := by
  unfold step
  split
  · exact .inl rfl
  · split
    · cases kept with
      | nil => cases rooted <;> simp
      | cons last rest =>
        dsimp only
        split
        · exact .inr (.inl rfl)
        · exact .inr (.inr ⟨last, rfl⟩)
    · exact .inr (.inl rfl)

/-- And so are all of them, which is why a path that is written down from proper segments is clean.
-/
theorem foldl_step_proper {ss : List Bytes} (h : ∀ s ∈ ss, Proper s) (rooted : Bool)
    (kept : List Bytes) : ss.foldl (step rooted) kept = ss.reverse ++ kept := by
  induction ss generalizing kept with
  | nil => rfl
  | cons s ss ih =>
    obtain ⟨hs, hss⟩ := List.forall_mem_cons.1 h
    rw [List.foldl_cons, step_proper hs, ih hss, List.reverse_cons, List.append_assoc,
      List.singleton_append]

/-- The segments of a path from the root are its pieces after cleaning. -/
theorem segments_of_isAbs {p : Bytes} (h : isAbs p) :
    segments p = ((splitOn slash p).foldl (step true) []).reverse := by
  rw [segments, h]

theorem isAbs_cons (p : Bytes) : isAbs (slash :: p) := rfl

/-- **Segments that were written down are read back.** -/
theorem segments_ofSegments {ss : List Bytes} (h : ∀ s ∈ ss, Proper s) :
    segments (ofSegments ss) = ss := by
  rw [segments_of_isAbs (p := ofSegments ss) rfl]
  by_cases hss : ss = []
  · subst hss
    rfl
  · rw [ofSegments_eq_rooted hss, splitOn_rooted fun s hs => (h s hs).slash_not_mem,
      List.foldl_cons, step_nil, foldl_step_proper h, List.append_nil, List.reverse_reverse]

/-- **Cleaning a path from the root** writes down its segments. -/
theorem clean_of_isAbs {p : Bytes} (h : isAbs p) : clean p = ofSegments (segments p) := if_pos h

/-- Cleaning keeps pieces, and makes none. -/
theorem mem_of_mem_foldl_step {rooted : Bool} {pieces kept : List Bytes} {s : Bytes}
    (h : s ∈ pieces.foldl (step rooted) kept) : s ∈ kept ∨ s ∈ pieces := by
  induction pieces generalizing kept with
  | nil => exact .inl h
  | cons piece pieces ih =>
    rcases ih h with h | h
    · rcases step_cases rooted kept piece with heq | heq | ⟨last, heq⟩
      · exact .inl (heq ▸ h)
      · rw [heq, List.mem_cons] at h
        rcases h with rfl | h
        · exact .inr (List.mem_cons_self ..)
        · exact .inl h
      · exact .inl (heq ▸ List.mem_cons_of_mem _ h)
    · exact .inr (List.mem_cons_of_mem _ h)

/-- Cleaning makes no segments of its own: each of them is a piece of the path. -/
theorem mem_splitOn_of_mem_segments {p s : Bytes} (h : s ∈ segments p) : s ∈ splitOn slash p :=
  (mem_of_mem_foldl_step (List.mem_reverse.1 h)).resolve_left List.not_mem_nil

/-- Below the root a step keeps segments proper: two dots take one away or do nothing. -/
theorem proper_foldl_step {pieces kept : List Bytes} (hpieces : ∀ s ∈ pieces, slash ∉ s)
    (hkept : ∀ s ∈ kept, Proper s) : ∀ s ∈ pieces.foldl (step true) kept, Proper s := by
  induction pieces generalizing kept with
  | nil => exact hkept
  | cons piece pieces ih =>
    obtain ⟨hpiece, hpieces⟩ := List.forall_mem_cons.1 hpieces
    refine ih hpieces ?_
    unfold step
    split
    · exact hkept
    · next hskip =>
      split
      · next hdots =>
        cases kept with
        | nil => exact fun s hs => absurd hs List.not_mem_nil
        | cons last rest =>
          obtain ⟨hlast, hrest⟩ := List.forall_mem_cons.1 hkept
          dsimp only
          rw [if_neg fun heq => hlast.ne_dots (heq.trans hdots)]
          exact hrest
      · next hdots =>
        rw [Bool.or_eq_true, decide_eq_true_eq, decide_eq_true_eq, not_or] at hskip
        exact List.forall_mem_cons.2 ⟨⟨hskip.1, hskip.2, hdots, hpiece⟩, hkept⟩

/-- The segments of a path from the root are proper, whatever the path is like. -/
theorem proper_of_mem_segments {p : Bytes} (hp : isAbs p) : ∀ s ∈ segments p, Proper s := by
  rw [segments_of_isAbs hp]
  intro s hs
  exact proper_foldl_step (fun s hs => (mem_splitOn hs).1) (fun s hs => absurd hs List.not_mem_nil)
    s (List.mem_reverse.1 hs)

/-- **The directory of a path in shortest form** has its segments but the last. -/
theorem dir_ofSegments_concat {ss : List Bytes} {s : Bytes} (hss : ∀ s ∈ ss, Proper s)
    (hs : slash ∉ s) : dir (ofSegments (ss ++ [s])) = ofSegments ss := by
  have hcut : ((ofSegments (ss ++ [s])).reverse.dropWhile (· ≠ slash)).reverse
      = rooted ss ++ [slash] := by
    have hne : ∀ b ∈ s.reverse, decide (b ≠ slash) = true := fun b hb =>
      decide_eq_true fun heq => hs (heq ▸ List.mem_reverse.1 hb)
    rw [ofSegments_concat, List.reverse_append, List.reverse_cons, List.append_assoc,
      List.dropWhile_append_of_pos hne, List.singleton_append,
      List.dropWhile_cons_of_neg (by simp), List.reverse_cons, List.reverse_reverse]
  have habs : isAbs (rooted ss ++ [slash]) := by
    cases ss <;> rfl
  rw [dir, hcut, clean_of_isAbs habs, segments_of_isAbs habs, splitOn_append,
    splitOn_rooted fun s hs => (hss s hs).slash_not_mem, List.foldl_append, List.foldl_cons,
    step_nil, foldl_step_proper hss, List.append_nil]
  exact congrArg ofSegments (List.reverse_reverse ss)

/-! ## Narrow paths -/

/-- **No segment is longer than `m`.** -/
def Narrow (m : Nat) (x : Bytes) : Prop := ∀ s, s <:+: x → slash ∉ s → s.length ≤ m

variable {m : Nat} {x y : Bytes}

/-- A section of a narrow path is narrow. -/
theorem Narrow.of_isInfix (h : Narrow m x) (hy : y <:+: x) : Narrow m y :=
  fun s hs => h s (hs.trans hy)

/-- A short path is narrow whether or not it has slashes. -/
theorem narrow_of_length_le (h : x.length ≤ m) : Narrow m x :=
  fun _ hs _ => hs.length_le.trans h

/-- A text without a slash lies on one side of a slash. -/
theorem isInfix_append_slash {s a b : Bytes} (hs : slash ∉ s) (h : s <:+: a ++ slash :: b) :
    s <:+: a ∨ s <:+: b := by
  obtain ⟨front, back, h⟩ := h
  rcases List.append_eq_append_iff.1 h with ⟨c, rfl, -⟩ | ⟨c, hfront, hback⟩
  · exact .inl ⟨front, c, rfl⟩
  · cases c with
    | nil =>
      rw [List.append_nil] at hfront
      exact .inl ⟨front, [], by rw [hfront, List.append_nil]⟩
    | cons d c =>
      obtain ⟨rfl, rfl⟩ := List.cons.inj hback
      rcases List.append_eq_append_iff.1 hfront with ⟨e, rfl, hsplit⟩ | ⟨e, rfl, hsplit⟩
      · exact absurd (hsplit ▸ List.mem_append_right _ (List.mem_cons_self ..)) hs
      · cases e with
        | nil =>
          exact absurd (List.nil_append s ▸ hsplit ▸ List.mem_cons_self ..) hs
        | cons f e =>
          obtain ⟨-, rfl⟩ := List.cons.inj hsplit
          exact .inr ⟨e, back, rfl⟩

/-- **Paths joined by a slash are narrow** if both of them are, since no segment reaches over the
slash. -/
theorem Narrow.append_slash (hx : Narrow m x) (hy : Narrow m y) : Narrow m (x ++ slash :: y) :=
  fun s hs hslash => (isInfix_append_slash hslash hs).elim (hx s · hslash) (hy s · hslash)

theorem Narrow.slash_cons (hx : Narrow m x) : Narrow m (slash :: x) :=
  Narrow.append_slash (x := []) (narrow_of_length_le (Nat.zero_le m)) hx

/-- A path is as narrow as its widest segment. -/
theorem narrow_join {ss : List Bytes} (h : ∀ s ∈ ss, s.length ≤ m) :
    Narrow m (join [slash] ss) := by
  fun_induction join [slash] ss with
  | case1 => exact narrow_of_length_le (Nat.zero_le m)
  | case2 s => exact narrow_of_length_le (h s (List.mem_singleton_self s))
  | case3 s ss _ ih =>
    obtain ⟨hs, hss⟩ := List.forall_mem_cons.1 h
    rw [List.append_assoc, List.singleton_append]
    exact (narrow_of_length_le hs).append_slash (ih hss)

/-- Cleaning a narrow path leaves a narrow one: a segment of the clean path is one of the path, or a
dot where nothing is left. -/
theorem Narrow.clean (hm : 1 ≤ m) (h : Narrow m x) : Narrow m (clean x) := by
  have hjoin : Narrow m (join [slash] (segments x)) := narrow_join fun s hs =>
    let ⟨hslash, hinfix⟩ := mem_splitOn (mem_splitOn_of_mem_segments hs)
    h s hinfix hslash
  unfold Path.clean
  split
  · exact hjoin.slash_cons
  · split
    · exact narrow_of_length_le hm
    · exact hjoin

/-- So does taking its directory, -/
theorem Narrow.dir (hm : 1 ≤ m) (h : Narrow m x) : Narrow m (dir x) := by
  refine Narrow.clean hm (h.of_isInfix ?_)
  obtain ⟨t, ht⟩ := List.dropWhile_suffix (fun b => decide (b ≠ slash)) (l := x.reverse)
  exact ⟨[], t.reverse, by rw [List.nil_append, ← List.reverse_append, ht, List.reverse_reverse]⟩

/-- and so does joining it with another one. -/
theorem Narrow.joinTwo (hm : 1 ≤ m) (hx : Narrow m x) (hy : Narrow m y) :
    Narrow m (joinTwo x y) := by
  unfold Path.joinTwo
  split
  · exact narrow_of_length_le (Nat.zero_le m)
  · split
    · exact hy.clean hm
    · split
      · exact hx.clean hm
      · rw [List.append_assoc, List.singleton_append]
        exact (hx.append_slash hy).clean hm

/-! ## Lengths -/

/-- How long segments are, each with a slash. -/
def spread (ss : List Bytes) : Nat := (ss.map fun s => s.length + 1).sum

theorem spread_cons (s : Bytes) (ss : List Bytes) : spread (s :: ss) = s.length + 1 + spread ss :=
  rfl

theorem spread_reverse (ss : List Bytes) : spread ss.reverse = spread ss := by
  rw [spread, List.map_reverse, List.sum_reverse_nat]
  rfl

/-- The pieces of a path, each with the slash behind it, are as long as the path and one more slash.
-/
theorem spread_splitOn (x : Bytes) : spread (splitOn slash x) = x.length + 1 := by
  induction x with
  | nil => rfl
  | cons c x ih =>
    rw [splitOn]
    split
    · rw [spread_cons, ih, List.length_cons, List.length_nil]
      omega
    · cases hsplit : splitOn slash x with
      | nil =>
        rw [hsplit] at ih
        exact absurd ih (Nat.succ_ne_zero _).symm
      | cons piece rest =>
        rw [hsplit, spread_cons] at ih
        show spread ((c :: piece) :: rest) = _
        rw [spread_cons, List.length_cons, List.length_cons]
        omega

/-- **A piece adds no more than itself** to what is kept: it may be dropped, and two dots even take
away the piece before them. -/
theorem spread_step_le (rooted : Bool) (kept : List Bytes) (s : Bytes) :
    spread (step rooted kept s) ≤ spread kept + (s.length + 1) := by
  rcases step_cases rooted kept s with heq | heq | ⟨last, heq⟩
  · rw [heq]
    exact Nat.le_add_right ..
  · rw [heq, spread_cons]
    omega
  · have := congrArg spread heq
    rw [spread_cons] at this
    omega

/-- So all pieces together add no more than themselves, by induction on the pieces. -/
theorem spread_foldl_step_le (rooted : Bool) (pieces kept : List Bytes) :
    spread (pieces.foldl (step rooted) kept) ≤ spread kept + spread pieces := by
  induction pieces generalizing kept with
  | nil => exact Nat.le_refl _
  | cons s pieces ih =>
    have := ih (step rooted kept s)
    have := spread_step_le rooted kept s
    rw [List.foldl_cons, spread_cons]
    omega

/-- Joined segments are shorter than their spread by the slash that the last of them does not need.
-/
theorem length_join_le (ss : List Bytes) : (join [slash] ss).length ≤ spread ss - 1 := by
  fun_induction join [slash] ss with
  | case1 => exact Nat.le_refl _
  | case2 s => exact Nat.le_refl _
  | case3 s ss hss ih =>
    have hpos : 0 < spread ss := by
      cases ss with
      | nil => exact absurd rfl hss
      | cons s' ss =>
        rw [spread_cons]
        omega
    rw [List.length_append, List.length_append, List.length_singleton, spread_cons]
    omega

/-- **The shortest form of a path is no longer than the path**, but for a slash. -/
theorem length_clean_le (x : Bytes) : (Path.clean x).length ≤ x.length + 1 := by
  have hspread : spread (segments x) ≤ x.length + 1 := by
    rw [segments, spread_reverse]
    have := spread_foldl_step_le (isAbs x) (splitOn slash x) []
    rw [spread_splitOn] at this
    exact this.trans_eq (Nat.zero_add _)
  have hjoin := length_join_le (segments x)
  unfold Path.clean
  split
  · rw [List.length_cons]
    omega
  · split
    · exact Nat.succ_le_succ (Nat.zero_le _)
    · omega

/-- A directory is not longer than the path, but for the dot of an empty one. -/
theorem length_dir_le (x : Bytes) : (Path.dir x).length ≤ x.length + 1 := by
  have hcut : ((x.reverse.dropWhile (· ≠ slash)).reverse).length ≤ x.length := by
    rw [List.length_reverse]
    exact (List.dropWhile_sublist _).length_le.trans_eq List.length_reverse
  exact (length_clean_le _).trans (Nat.succ_le_succ hcut)

/-- Joining two paths adds a slash between them, and cleaning them perhaps one more in front. -/
theorem length_joinTwo_le (x y : Bytes) : (Path.joinTwo x y).length ≤ x.length + y.length + 2 := by
  unfold Path.joinTwo
  split
  · exact Nat.zero_le _
  · split
    · exact (length_clean_le y).trans (by omega)
    · split
      · exact (length_clean_le x).trans (by omega)
      · refine (length_clean_le _).trans_eq ?_
        rw [List.length_append, List.length_append, List.length_singleton]
        omega

theorem length_ofSegments (ss : List Bytes) : (ofSegments ss).length = max 1 (spread ss) := by
  by_cases hss : ss = []
  · subst hss
    rfl
  · rw [ofSegments_eq_rooted hss]
    have hlength : (rooted ss).length = spread ss := by
      rw [rooted, List.length_flatMap]
      rfl
    have hpos : 1 ≤ spread ss := by
      obtain ⟨s, ss, rfl⟩ := List.exists_cons_of_ne_nil hss
      rw [spread_cons]
      omega
    omega

/-- Every path has a last segment. -/
theorem base_ne_nil (p : Bytes) : base p ≠ [] := by
  unfold base
  split
  · decide
  · dsimp only
    split
    · exact List.cons_ne_nil _ _
    · -- what is left does not end in a slash, or it would have been dropped as well
      next hp =>
      unfold dropTrailing at hp ⊢
      rw [List.reverse_reverse]
      have hslash := List.head?_dropWhile_not (fun b => decide (b = slash)) p.reverse
      cases hdrop : p.reverse.dropWhile (fun b => decide (b = slash)) with
      | nil =>
        rw [hdrop] at hp
        exact absurd rfl hp
      | cons b q =>
        rw [hdrop] at hslash
        have hb : b ≠ slash := of_decide_eq_false hslash
        simp [hb]

end Path

/-! ## Normal forms -/

namespace SourceUnit

open Stencil.Path

variable {m : Nat} {p : Bytes}

/-- A normal form is written down from the segments it was cleaned to. -/
theorem normalizePath_eq_ofSegments (p : Bytes) :
    ∃ ss, (∀ s ∈ ss, Proper s) ∧ normalizePath p = ofSegments ss :=
  ⟨_, proper_of_mem_segments (isAbs_cons _), clean_of_isAbs (isAbs_cons _)⟩

/-- A path that starts with a slash and ends in an ASCII byte other than white space has
nothing to trim, so its normal form is a matter of separators alone. -/
theorem normalizePath_cons {b : UInt8} (hb : b < 0x80) (hb' : Utf8.isSpace b.toNat = false)
    (m : Bytes) :
    normalizePath (slash :: (m ++ [b]))
      = clean (slash :: (slash :: (m ++ [b])).map fun c => if c = backslash then slash else c) := by
  rw [normalizePath, trim_eq_self (by decide) hb (by decide) hb']

/-- A normal form is longer than the path by two bytes at most: the slash in front, and the one that
cleaning may add. -/
theorem length_normalizePath_le (p : Bytes) : (normalizePath p).length ≤ p.length + 2 := by
  refine (length_clean_le _).trans ?_
  obtain ⟨front, back, hp, -, -⟩ := exists_trim p
  have htrim : (trim p).length ≤ p.length := by
    conv_rhs => rw [hp, List.length_append, List.length_append]
    omega
  rw [List.length_cons, List.length_map]
  omega

/-- Writing slashes for backslashes cuts segments and joins none. -/
theorem narrow_map (h : Narrow m p) :
    Narrow m (p.map fun c => if c = backslash then slash else c) := by
  rintro s ⟨front, back, hs⟩ hslash
  obtain ⟨a, c, rfl, hfront, -⟩ := List.map_eq_append_iff.1 hs.symm
  obtain ⟨b, s', rfl, -, rfl⟩ := List.map_eq_append_iff.1 hfront
  rw [List.length_map]
  refine h s' ⟨b, c, rfl⟩ fun hmem => hslash ?_
  exact List.mem_map.2 ⟨slash, hmem, if_neg (by decide)⟩

/-- **Normal forms are narrow** if the path is: turning backslashes into slashes only makes more
segments, and trimming shortens one. -/
theorem narrow_normalizePath (hm : 1 ≤ m) (h : Narrow m p) : Narrow m (normalizePath p) := by
  obtain ⟨front, back, hp, -, -⟩ := exists_trim p
  exact ((narrow_map (h.of_isInfix ⟨front, back, hp.symm⟩)).slash_cons).clean hm

/-- A normal form has slashes only. -/
theorem backslash_not_mem_normalizePath (p : Bytes) : backslash ∉ normalizePath p := by
  intro hmem
  rw [normalizePath, clean_of_isAbs (isAbs_cons _)] at hmem
  obtain ⟨s, hs, hmem⟩ := (mem_ofSegments hmem).resolve_left (by decide)
  have hp := (mem_splitOn (mem_splitOn_of_mem_segments hs)).2.subset hmem
  obtain ⟨c, -, hc⟩ := List.mem_map.1 ((List.mem_cons.1 hp).resolve_left (by decide))
  split at hc
  · exact absurd hc (by decide)
  · next hne => exact hne hc

/-- What is left of a segment at the end of a path when the path is trimmed. -/
def trimSegment (s : Bytes) : Bytes := (trim (slash :: s)).tail

/-- No blank is a slash. -/
theorem ne_slash_of_blankByte {b : UInt8} (h : BlankByte b) : b ≠ slash := by
  rintro rfl
  exact absurd h (by decide)

/-- Trimming what stands behind a slash leaves the slash and the front of the rest. -/
theorem exists_trim_slash_cons (s : Bytes) : ∃ t, trim (slash :: s) = slash :: t ∧ t <+: s := by
  obtain ⟨front, back, hsplit, hfront, hback⟩ := exists_trim (slash :: s)
  generalize trim (slash :: s) = t at hsplit
  -- the path starts with a slash, so nothing is cut off in front
  obtain rfl : front = [] := by
    cases front with
    | nil => rfl
    | cons b front =>
      exact absurd (List.cons.inj hsplit).1.symm (ne_slash_of_blankByte (hfront b (by simp)))
  rw [List.nil_append] at hsplit
  cases t with
  | nil =>
    rw [List.nil_append] at hsplit
    exact absurd rfl (ne_slash_of_blankByte (hback slash (by rw [← hsplit]; simp)))
  | cons c t =>
    obtain ⟨rfl, rfl⟩ := List.cons.inj hsplit
    exact ⟨t, rfl, List.prefix_append t back⟩

theorem trim_slash_cons (s : Bytes) : trim (slash :: s) = slash :: trimSegment s := by
  obtain ⟨t, ht, -⟩ := exists_trim_slash_cons s
  rw [trimSegment, ht]
  rfl

/-- A segment that is trimmed loses something at its end and nothing else. -/
theorem isPrefix_trimSegment (s : Bytes) : trimSegment s <+: s := by
  obtain ⟨t, ht, hprefix⟩ := exists_trim_slash_cons s
  rwa [trimSegment, ht]

/-- Trimming a path that starts at the root only shortens its last segment. -/
theorem trim_concat (ss : List Bytes) (s : Bytes) :
    trim (rooted ss ++ slash :: s) = rooted ss ++ slash :: trimSegment s := by
  rw [← trim_slash_cons]
  cases ss with
  | nil => rfl
  | cons t ss =>
    exact trim_append_ascii_cons (by decide) (by decide) (by decide) (by decide)
      (t ++ rooted ss) s

/-- **What normalizing does to a path in shortest form**: its last segment is trimmed, and then
added to the others once more. -/
theorem normalizePath_ofSegments_concat {ss : List Bytes} {s : Bytes} (hss : ∀ t ∈ ss, Proper t)
    (hs : slash ∉ s) (hback : backslash ∉ ofSegments (ss ++ [s])) :
    normalizePath (ofSegments (ss ++ [s]))
      = ofSegments (step true ss.reverse (trimSegment s)).reverse := by
  rw [ofSegments_concat] at hback ⊢
  have hmap : (rooted ss ++ slash :: trimSegment s).map
      (fun c => if c = backslash then slash else c) = rooted ss ++ slash :: trimSegment s := by
    refine (List.map_congr_left fun c hc => if_neg ?_).trans (List.map_id _)
    rintro rfl
    exact hback (mem_of_mem_trim (trim_concat ss s ▸ hc))
  have hread : segments (slash :: (rooted ss ++ slash :: trimSegment s))
      = (step true ss.reverse (trimSegment s)).reverse := by
    rw [segments_of_isAbs (isAbs_cons _), ← List.nil_append (slash :: _), splitOn_append,
      splitOn_append, splitOn_rooted fun t ht => (hss t ht).slash_not_mem,
      splitOn_of_notMem fun hmem => hs ((isPrefix_trimSegment s).subset hmem), List.foldl_append,
      List.foldl_append]
    have hkept : ss.foldl (step true) [] = ss.reverse :=
      (foldl_step_proper hss true []).trans (List.append_nil _)
    exact congrArg (fun kept => (step true kept (trimSegment s)).reverse) hkept
  rw [normalizePath, trim_concat, hmap, clean_of_isAbs (isAbs_cons _), hread]

/-- **A path in shortest form is its own normal form** exactly if it does not end in white
space. -/
theorem normalizePath_ofSegments_eq_self_iff {ss : List Bytes} (hss : ∀ s ∈ ss, Proper s)
    (hback : backslash ∉ ofSegments ss) :
    normalizePath (ofSegments ss) = ofSegments ss ↔ endsBlank (ofSegments ss) = false := by
  have hblank : ∀ s, trimSegment s = s ↔ endsBlank (slash :: s) = false := fun s => by
    rw [← trim_eq_self_iff_endsBlank (by decide) (by decide), trim_slash_cons, List.cons_inj_right]
  rcases ss.eq_nil_or_concat' with rfl | ⟨ss, s, rfl⟩
  · have hroot : trimSegment [] = [] := List.prefix_nil.1 (isPrefix_trimSegment [])
    refine iff_of_true ?_ ((hblank []).1 hroot)
    rw [normalizePath, ofSegments, join, trim_slash_cons, hroot]
    rfl
  · obtain ⟨hinit, hlast⟩ := List.forall_mem_append.1 hss
    have hs := hlast s (List.mem_singleton_self s)
    rw [normalizePath_ofSegments_concat hinit hs.slash_not_mem hback]
    conv_rhs => rw [ofSegments_concat, endsBlank_append_ascii (by decide), ← hblank]
    constructor
    · intro heq
      have hproper : ∀ t ∈ (step true ss.reverse (trimSegment s)).reverse, Proper t := fun t ht =>
        @proper_foldl_step [trimSegment s] _ (List.forall_mem_singleton.2 fun hmem =>
          hs.slash_not_mem ((isPrefix_trimSegment s).subset hmem))
          (fun t ht => hinit t (List.mem_reverse.1 ht)) t (List.mem_reverse.1 ht)
      have hread := congrArg segments heq
      rw [segments_ofSegments hproper, segments_ofSegments hss, List.reverse_eq_iff,
        List.reverse_append, List.reverse_singleton, List.singleton_append] at hread
      rcases step_cases true ss.reverse (trimSegment s) with hstep | hstep | ⟨last, hstep⟩
      · exact absurd (congrArg List.length (hstep.symm.trans hread)) (by simp)
      · exact (List.cons.inj (hstep.symm.trans hread)).1
      · exact absurd (congrArg List.length (hread ▸ hstep)) (by simp; omega)
    · intro heq
      rw [heq, step_proper hs, List.reverse_cons, List.reverse_reverse]

/-- **The directory of a normal form is not much longer than its normal form.** Normalizing
once more shortens the last segment. If two dots are left of it, the segment in front of it
goes as well, but no more than that. -/
theorem length_dir_normalizePath_le (h : Narrow m (normalizePath p)) :
    (Path.dir (normalizePath p)).length
      ≤ (normalizePath (normalizePath p)).length + m + 1 := by
  have hback := backslash_not_mem_normalizePath p
  obtain ⟨ss, hss, hp⟩ := normalizePath_eq_ofSegments p
  rw [hp] at h hback ⊢
  rcases ss.eq_nil_or_concat' with rfl | ⟨ss, s, rfl⟩
  · exact Nat.succ_le_succ (Nat.zero_le _)
  · obtain ⟨hss, hs⟩ := List.forall_mem_append.1 hss
    have hs := (hs s (List.mem_singleton_self s)).slash_not_mem
    rw [dir_ofSegments_concat hss hs, normalizePath_ofSegments_concat hss hs hback,
      length_ofSegments, length_ofSegments, spread_reverse]
    rcases step_cases true ss.reverse (trimSegment s) with heq | heq | ⟨last, heq⟩
    · rw [heq, spread_reverse]
      omega
    · rw [heq, spread_cons, spread_reverse]
      omega
    · have hlast : last ∈ ss := List.mem_reverse.1 (heq ▸ List.mem_cons_self ..)
      have hlength : last.length ≤ m := by
        rw [ofSegments_concat] at h
        exact h last ((isInfix_rooted hlast).trans (List.prefix_append _ _).isInfix)
          (hss last hlast).slash_not_mem
      have hspread := congrArg spread heq
      rw [spread_reverse, spread_cons] at hspread
      omega

end SourceUnit

end Stencil
