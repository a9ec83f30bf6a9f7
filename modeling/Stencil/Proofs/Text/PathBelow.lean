import Stencil.Proofs.Text.Path

/-!
# Paths below a directory

A shortest form is written down from two things: whether it starts at the root, and its segments
(`clean_eq_ofParts`). Segments that were written down are read back if cleaning has nothing left
to do with them (`Settled`). They may start with some `..` if the path does not start at the root,
so this says more than `ofSegments`, which is about the root alone.

A path that leads below a directory has the segments of the directory and then others
(`joinTwo_join`). So different names lead to different paths (`ofParts_append_inj`), and what
depends on the last segment alone does not depend on the directory (`base_ofParts_concat`,
`ext_ofParts_concat`).
-/

namespace Stencil.Path

open Bytes

/-! ## Pieces that count -/

/-- Whether a piece between slashes counts as a segment. -/
def isSolid (s : Bytes) : Bool := s ≠ [] && s ≠ "."

/-- The pieces of a path that count. -/
def pieces (p : Bytes) : List Bytes := (splitOn slash p).filter isSolid

/-- A slash ends a piece, so the pieces of the two sides are cut out by themselves. -/
theorem pieces_append (a b : Bytes) : pieces (a ++ slash :: b) = pieces a ++ pieces b := by
  rw [pieces, splitOn_append, List.filter_append, pieces, pieces]

theorem pieces_of_notMem {s : Bytes} (h : slash ∉ s) (hs : isSolid s = true) : pieces s = [s] := by
  rw [pieces, splitOn_of_notMem h, List.filter_singleton, hs, cond_true]

/-- Pieces that count and have no slash in them are found again when slashes are put between them.
-/
theorem pieces_join {ss : List Bytes} (h : ∀ s ∈ ss, isSolid s = true ∧ slash ∉ s) :
    pieces (join [slash] ss) = ss := by
  fun_induction join [slash] ss with
  | case1 => rfl
  | case2 s =>
    obtain ⟨hs, hslash⟩ := h s (List.mem_singleton_self s)
    exact pieces_of_notMem hslash hs
  | case3 s ss _ ih =>
    obtain ⟨⟨hs, hslash⟩, hss⟩ := List.forall_mem_cons.1 h
    rw [List.append_assoc, List.singleton_append, pieces_append, pieces_of_notMem hslash hs, ih hss]
    rfl

/-- Cleaning looks at nothing but the pieces that count. -/
theorem segments_eq (p : Bytes) : segments p = ((pieces p).foldl (step (isAbs p)) []).reverse := by
  have hskip : ∀ (ss kept : List Bytes), ss.foldl (step (isAbs p)) kept
      = (ss.filter isSolid).foldl (step (isAbs p)) kept := by
    intro ss
    induction ss with
    | nil => exact fun _ => rfl
    | cons s ss ih =>
      intro kept
      cases hs : isSolid s with
      | true => rw [List.filter_cons_of_pos hs, List.foldl_cons, List.foldl_cons, ih]
      | false =>
        have hkept : step (isAbs p) kept s = kept := if_pos (by
          simpa [isSolid, imp_iff_not_or] using hs)
        rw [List.filter_cons_of_neg (by simp [hs]), List.foldl_cons, hkept, ih]
  rw [segments, hskip, pieces]

/-! ## Segments that stay -/

/-- **Segments with which cleaning has nothing left to do.** -/
structure Settled (rooted : Bool) (ss : List Bytes) : Prop where
  solid : ∀ s ∈ ss, isSolid s = true ∧ slash ∉ s
  foldl_step : ss.foldl (step rooted) [] = ss.reverse

theorem Proper.isSolid {s : Bytes} (h : Proper s) : isSolid s = true := by
  simp [Path.isSolid, h.ne_nil, h.ne_dot]

/-- Names may be put behind settled segments, since there is no `..` among them that could take one
away. -/
theorem Settled.append {rooted : Bool} {ss names : List Bytes} (h : Settled rooted ss)
    (hnames : ∀ s ∈ names, Proper s) : Settled rooted (ss ++ names) where
  solid := List.forall_mem_append.2
    ⟨h.solid, fun s hs => ⟨(hnames s hs).isSolid, (hnames s hs).slash_not_mem⟩⟩
  foldl_step := by
    rw [List.foldl_append, h.foldl_step, foldl_step_proper hnames, List.reverse_append]

/-- A piece adds at most one segment. -/
theorem length_step_le (rooted : Bool) (kept : List Bytes) (s : Bytes) :
    (step rooted kept s).length ≤ kept.length + 1 := by
  rcases step_cases rooted kept s with heq | heq | ⟨last, heq⟩
  · rw [heq]
    exact Nat.le_succ _
  · rw [heq, List.length_cons]
  · have := congrArg List.length heq
    rw [List.length_cons] at this
    omega

theorem length_foldl_step_le (rooted : Bool) (ss kept : List Bytes) :
    (ss.foldl (step rooted) kept).length ≤ kept.length + ss.length := by
  induction ss generalizing kept with
  | nil => exact Nat.le_refl _
  | cons s ss ih =>
    have := ih (step rooted kept s)
    have := length_step_le rooted kept s
    rw [List.foldl_cons, List.length_cons]
    omega

/-- Cleaning what was cleaned changes nothing: what is in front of a segment that was kept was
kept without it as well. -/
theorem foldl_step_foldl_step (rooted : Bool) (ss : List Bytes) :
    (ss.foldl (step rooted) []).reverse.foldl (step rooted) [] = ss.foldl (step rooted) [] := by
  induction ss using List.reverseRecOn with
  | nil => rfl
  | append_singleton ss s ih =>
    rw [List.foldl_append, List.foldl_cons, List.foldl_nil]
    generalize ss.foldl (step rooted) [] = kept at ih ⊢
    rcases step_cases rooted kept s with heq | heq | ⟨last, heq⟩
    · rw [heq, ih]
    · rw [heq, List.reverse_cons, List.foldl_append, ih, List.foldl_cons, List.foldl_nil, heq]
    · generalize step rooted kept s = rest at heq ⊢
      subst heq
      rw [List.reverse_cons, List.foldl_append, List.foldl_cons, List.foldl_nil] at ih
      have hlength := length_foldl_step_le rooted rest.reverse []
      rw [List.length_reverse] at hlength
      -- `last` was kept in front of what is left without it, or that would be too long
      rcases step_cases rooted (rest.reverse.foldl (step rooted) []) last with heq | heq | ⟨_, heq⟩
      · rw [← heq, ih, List.length_cons] at hlength
        simp only [List.length_nil] at hlength
        omega
      · exact (List.cons.inj (heq.symm.trans ih)).2
      · rw [heq, ih, List.length_cons, List.length_cons] at hlength
        simp only [List.length_nil] at hlength
        omega

/-- Cleaning is done once: the segments that it leaves are settled. -/
theorem settled_segments (p : Bytes) : Settled (isAbs p) (segments p) where
  solid := by
    intro s hs
    rw [segments_eq, List.mem_reverse] at hs
    obtain ⟨hmem, hsolid⟩ :=
      List.mem_filter.1 ((mem_of_mem_foldl_step hs).resolve_left List.not_mem_nil)
    exact ⟨hsolid, (mem_splitOn hmem).1⟩
  foldl_step := by
    rw [segments, List.reverse_reverse, foldl_step_foldl_step]

/-! ## Shortest forms -/

/-- **The path with the given segments**, which starts at the root or not. -/
def ofParts (rooted : Bool) (ss : List Bytes) : Bytes :=
  if rooted then ofSegments ss else if ss.isEmpty then "." else join [slash] ss

theorem clean_eq_ofParts (p : Bytes) : clean p = ofParts (isAbs p) (segments p) := rfl

theorem ofParts_ne_nil {rooted : Bool} {ss : List Bytes} (h : ∀ s ∈ ss, isSolid s = true) :
    ofParts rooted ss ≠ [] := by
  unfold ofParts
  split
  · exact List.cons_ne_nil _ _
  · cases ss with
    | nil => decide
    | cons s ss =>
      have hs : s ≠ [] := by
        have := h s (List.mem_cons_self ..)
        exact fun hnil => by simp [isSolid, hnil] at this
      cases ss <;> simp [join, hs]

theorem isAbs_cons_eq (c : UInt8) (p : Bytes) : isAbs (c :: p) = (c == slash) := by
  by_cases hc : slash = c
  · simp [isAbs, startsWith, dropPrefix?, hc]
  · simp [isAbs, startsWith, dropPrefix?, hc, Ne.symm hc]

theorem isAbs_append {p : Bytes} (hp : p ≠ []) (q : Bytes) : isAbs (p ++ q) = isAbs p := by
  obtain ⟨c, p, rfl⟩ := List.exists_cons_of_ne_nil hp
  rw [List.cons_append, isAbs_cons_eq, isAbs_cons_eq]

theorem isAbs_of_notMem {s : Bytes} (h : slash ∉ s) : isAbs s = false := by
  cases s with
  | nil => rfl
  | cons c s =>
    rw [isAbs_cons_eq]
    exact beq_false_of_ne fun hc => h (hc ▸ List.mem_cons_self ..)

namespace Settled

variable {rooted : Bool} {ss : List Bytes}

/-- What was written down from the root is read as a path from the root. -/
theorem isAbs_ofParts (h : Settled rooted ss) : isAbs (ofParts rooted ss) = rooted := by
  cases rooted with
  | true => rfl
  | false =>
    cases ss with
    | nil => decide
    | cons s ss =>
      obtain ⟨hsolid, hslash⟩ := h.solid s (List.mem_cons_self ..)
      have hs : s ≠ [] := fun hnil => by simp [isSolid, hnil] at hsolid
      have hjoin : ∃ q, ofParts false (s :: ss) = s ++ q := by
        cases ss with
        | nil => exact ⟨[], (List.append_nil s).symm⟩
        | cons s' ss => exact ⟨slash :: join [slash] (s' :: ss), by simp [ofParts, join]⟩
      obtain ⟨q, hq⟩ := hjoin
      rw [hq, isAbs_append hs, isAbs_of_notMem hslash]

/-- **The pieces of a shortest form that count are its segments.** -/
theorem pieces_ofParts (h : Settled rooted ss) : pieces (ofParts rooted ss) = ss := by
  unfold ofParts
  split
  · rw [ofSegments, ← List.nil_append (slash :: _), pieces_append, pieces_join h.solid]
    rfl
  · split
    · next hempty =>
      rw [List.isEmpty_iff.1 hempty]
      decide
    · exact pieces_join h.solid

/-- **Settled segments are read back** from the path that is written with them. -/
theorem segments_ofParts (h : Settled rooted ss) : segments (ofParts rooted ss) = ss := by
  rw [segments_eq, h.pieces_ofParts, h.isAbs_ofParts, h.foldl_step, List.reverse_reverse]

/-- **What is in shortest form is left alone.** -/
theorem clean_ofParts (h : Settled rooted ss) : clean (ofParts rooted ss) = ofParts rooted ss := by
  rw [clean_eq_ofParts, h.isAbs_ofParts, h.segments_ofParts]

/-- **A path below a directory** has the segments of the directory and then its own. -/
theorem joinTwo_join (h : Settled rooted ss) {names : List Bytes} (hnames : ∀ s ∈ names, Proper s) :
    joinTwo (ofParts rooted ss) (join [slash] names) = ofParts rooted (ss ++ names) := by
  have hne : ofParts rooted ss ≠ [] := ofParts_ne_nil fun s hs => (h.solid s hs).1
  cases names with
  | nil => simp [joinTwo, join, hne, h.clean_ofParts]
  | cons n names =>
    have hrel : join [slash] (n :: names) ≠ [] := by
      have hn := (hnames n (List.mem_cons_self ..)).ne_nil
      cases names <;> simp [join, hn]
    have hpieces : pieces (ofParts rooted ss ++ slash :: join [slash] (n :: names))
        = ss ++ n :: names := by
      rw [pieces_append, h.pieces_ofParts,
        pieces_join fun s hs => ⟨(hnames s hs).isSolid, (hnames s hs).slash_not_mem⟩]
    have hall := h.append hnames
    simp only [joinTwo, List.isEmpty_eq_false_iff.2 hne, List.isEmpty_eq_false_iff.2 hrel,
      Bool.false_and, Bool.false_eq_true, if_false, List.append_assoc, List.singleton_append]
    rw [clean_eq_ofParts, segments_eq, hpieces, isAbs_append hne, h.isAbs_ofParts, hall.foldl_step,
      List.reverse_reverse]

/-- One name after the other. -/
theorem foldl_joinTwo (h : Settled rooted ss) {names : List Bytes}
    (hnames : ∀ s ∈ names, Proper s) :
    names.foldl joinTwo (ofParts rooted ss) = ofParts rooted (ss ++ names) := by
  induction names generalizing ss with
  | nil => rw [List.append_nil, List.foldl_nil]
  | cons n names ih =>
    obtain ⟨hn, hnames⟩ := List.forall_mem_cons.1 hnames
    have hstep : joinTwo (ofParts rooted ss) n = ofParts rooted (ss ++ [n]) :=
      h.joinTwo_join (List.forall_mem_singleton.2 hn)
    rw [List.foldl_cons, hstep, ih (h.append (List.forall_mem_singleton.2 hn)) hnames,
      List.append_assoc, List.singleton_append]

/-- Different names lead to different paths. -/
theorem ofParts_append_inj (h : Settled rooted ss) {names names' : List Bytes}
    (hnames : ∀ s ∈ names, Proper s) (hnames' : ∀ s ∈ names', Proper s)
    (heq : ofParts rooted (ss ++ names) = ofParts rooted (ss ++ names')) : names = names' := by
  have := congrArg segments heq
  rw [(h.append hnames).segments_ofParts, (h.append hnames').segments_ofParts] at this
  exact List.append_cancel_left this

end Settled

/-! ## Last segments -/

theorem join_concat {ss : List Bytes} (h : ss ≠ []) (s : Bytes) :
    join [slash] (ss ++ [s]) = join [slash] ss ++ slash :: s := by
  have hrooted := ofSegments_concat ss s
  rw [← ofSegments_eq_rooted h] at hrooted
  exact (List.cons.inj hrooted).2

/-- The last segment stands after a slash, or it is all there is. -/
theorem ofParts_concat (rooted : Bool) (ss : List Bytes) (s : Bytes) :
    ofParts rooted (ss ++ [s]) = s ∨ ∃ p, ofParts rooted (ss ++ [s]) = p ++ slash :: s := by
  cases rooted with
  | true => exact .inr ⟨_, ofSegments_concat ss s⟩
  | false =>
    have hne : (ss ++ [s]).isEmpty = false := by simp
    have hparts : ofParts false (ss ++ [s]) = join [slash] (ss ++ [s]) := by
      simp [ofParts]
    by_cases hss : ss = []
    · exact .inl (by rw [hparts, hss]; rfl)
    · exact .inr ⟨_, hparts.trans (join_concat hss s)⟩

/-- What follows the last slash. -/
theorem takeWhile_reverse_ofParts (rooted : Bool) (ss : List Bytes) {s : Bytes} (hs : slash ∉ s) :
    ((ofParts rooted (ss ++ [s])).reverse.takeWhile (· ≠ slash)).reverse = s := by
  have hne : ∀ b ∈ s.reverse, decide (b ≠ slash) = true := fun b hb =>
    decide_eq_true fun heq => hs (heq ▸ List.mem_reverse.1 hb)
  rcases ofParts_concat rooted ss s with heq | ⟨p, heq⟩
  · rw [heq, ← List.append_nil s.reverse, List.takeWhile_append_of_pos hne, List.takeWhile_nil,
      List.append_nil, List.reverse_reverse]
  · rw [heq, List.reverse_append, List.reverse_cons, List.append_assoc,
      List.takeWhile_append_of_pos hne, List.singleton_append,
      List.takeWhile_cons_of_neg (by simp), List.append_nil, List.reverse_reverse]

/-- The extension is that of the last segment, whatever the directory. -/
theorem ext_ofParts_concat (rooted : Bool) (ss : List Bytes) {s : Bytes} (hs : slash ∉ s) :
    ext (ofParts rooted (ss ++ [s])) = ext s := by
  have hself : (s.reverse.takeWhile (· ≠ slash)).reverse = s :=
    takeWhile_reverse_ofParts false [] hs
  unfold ext
  rw [takeWhile_reverse_ofParts rooted ss hs, hself]

/-- So is the name of the file. -/
theorem base_ofParts_concat (rooted : Bool) (ss : List Bytes) {s : Bytes} (hs : Proper s) :
    base (ofParts rooted (ss ++ [s])) = s := by
  have hlast : ∃ q c, c ≠ slash ∧ ofParts rooted (ss ++ [s]) = q ++ [c] := by
    obtain ⟨t, c, rfl⟩ := s.eq_nil_or_concat'.resolve_left hs.ne_nil
    have hc : c ≠ slash := fun heq =>
      hs.slash_not_mem (heq ▸ List.mem_append_right t List.mem_cons_self)
    rcases ofParts_concat rooted ss (t ++ [c]) with heq | ⟨p, heq⟩
    · exact ⟨t, c, hc, heq⟩
    · exact ⟨p ++ slash :: t, c, hc, by rw [heq, List.append_assoc, List.cons_append]⟩
  obtain ⟨q, c, hc, hq⟩ := hlast
  have hdrop : dropTrailing (ofParts rooted (ss ++ [s])) = ofParts rooted (ss ++ [s]) := by
    rw [hq, dropTrailing, List.reverse_append, List.reverse_singleton, List.singleton_append,
      List.dropWhile_cons_of_neg (by simpa using hc), List.reverse_cons, List.reverse_reverse]
  have hne : (ofParts rooted (ss ++ [s])).isEmpty = false := by
    rw [hq]
    simp
  unfold base
  simp only [hne, hdrop, Bool.false_eq_true, if_false]
  exact takeWhile_reverse_ofParts rooted ss hs.slash_not_mem

end Stencil.Path
