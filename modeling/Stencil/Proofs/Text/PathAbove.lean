import Stencil.Proofs.Text.PathBelow

/-!
# Paths that lead upwards

A path that does not start at the root goes some steps up and then down again by names
(`segments_eq_up_down`). Seen from a directory, the steps up take away its last segments, as far
as there are any, and the names are added (`joinTwo_of_isAbs`). At the root itself the steps up
do nothing, also not to a normal form (`normalizePath_ofSegments_up`).

The other way round, the path from one directory to another goes up to where they part and then
down (`relative?_eq`), so it is local exactly if the one lies below the other
(`isLocal_relative?_iff`).
-/

namespace Stencil.Path

open Bytes

variable {p s : Bytes} {kept names : List Bytes}

/-- How many steps a path goes up before it goes down. -/
def ups (p : Bytes) : Nat := ((segments p).takeWhile (· = Bytes.ofString "..")).length

/-- The names by which a path goes down after that. -/
def downs (p : Bytes) : List Bytes := (segments p).dropWhile (· = Bytes.ofString "..")

/-- Some steps up. -/
def climb (k : Nat) : List Bytes := List.replicate k (Bytes.ofString "..")

/-! ## Up and down -/

theorem step_skip (h : isSolid s = false) (rooted : Bool) : step rooted kept s = kept :=
  if_pos (by simpa [isSolid, imp_iff_not_or] using h)

/-- Two dots take a name away. -/
theorem step_dots_cons (rooted : Bool) (hs : s ≠ Bytes.ofString "..") :
    step rooted (s :: kept) (Bytes.ofString "..") = kept := by
  unfold step
  rw [if_neg (by decide), if_pos rfl]
  exact if_neg hs

/-- Two dots stay behind other two dots. -/
theorem step_dots_climb (k : Nat) :
    step false (climb k) (Bytes.ofString "..") = climb (k + 1) := by
  cases k with
  | zero => rfl
  | succ k =>
    rw [climb, List.replicate_succ]
    unfold step
    rw [if_neg (by decide), if_pos rfl]
    exact if_pos rfl

/-- At or below the root two dots take away a segment, if there is one. -/
theorem step_dots_of_proper (h : ∀ t ∈ kept, Proper t) :
    step true kept (Bytes.ofString "..") = kept.drop 1 := by
  cases kept with
  | nil => rfl
  | cons last rest => exact step_dots_cons true (h last (List.mem_cons_self ..)).ne_dots

/-- **What pieces amount to**: steps up and then names. Other than at the root this is what is
kept of them, and from a directory the steps up take its last segments away. -/
theorem exists_up_down {ss : List Bytes} (hss : ∀ s ∈ ss, slash ∉ s) :
    ∃ k names, (∀ s ∈ names, Proper s) ∧ ss.foldl (step false) [] = names ++ climb k
      ∧ ∀ kept, (∀ s ∈ kept, Proper s) → ss.foldl (step true) kept = names ++ kept.drop k := by
  induction ss using List.reverseRecOn with
  | nil => exact ⟨0, [], by simp, rfl, fun _ _ => rfl⟩
  | append_singleton ss s ih =>
    obtain ⟨hinit, hlast⟩ := List.forall_mem_append.1 hss
    obtain ⟨k, names, hnames, hfree, hbound⟩ := ih hinit
    have hs := hlast s (List.mem_singleton_self s)
    simp only [List.foldl_append, List.foldl_cons, List.foldl_nil]
    cases hsolid : isSolid s with
    | false =>
      refine ⟨k, names, hnames, by rw [step_skip hsolid, hfree], fun kept hkept => ?_⟩
      rw [step_skip hsolid, hbound kept hkept]
    | true =>
      by_cases hdots : s = Bytes.ofString ".."
      · subst hdots
        cases names with
        | nil =>
          refine ⟨k + 1, [], hnames, by rw [hfree]; exact step_dots_climb k, fun kept hkept => ?_⟩
          rw [hbound kept hkept, List.nil_append,
            step_dots_of_proper fun s hs => hkept s (List.mem_of_mem_drop hs), List.drop_drop]
          rfl
        | cons last names =>
          obtain ⟨hlast, hnames⟩ := List.forall_mem_cons.1 hnames
          refine ⟨k, names, hnames, ?_, fun kept hkept => ?_⟩
          · rw [hfree]
            exact step_dots_cons false hlast.ne_dots
          · rw [hbound kept hkept]
            exact step_dots_cons true hlast.ne_dots
      · have hproper : Proper s := by
          rw [isSolid, Bool.and_eq_true] at hsolid
          exact ⟨of_decide_eq_true hsolid.1, of_decide_eq_true hsolid.2, hdots, hs⟩
        refine ⟨k, s :: names, List.forall_mem_cons.2 ⟨hproper, hnames⟩, ?_, fun kept hkept => ?_⟩
        · rw [hfree, step_proper hproper]
          rfl
        · rw [hbound kept hkept, step_proper hproper]
          rfl

theorem takeWhile_climb_append (k : Nat) (hnames : ∀ s ∈ names, Proper s) :
    (climb k ++ names).takeWhile (· = Bytes.ofString "..") = climb k
      ∧ (climb k ++ names).dropWhile (· = Bytes.ofString "..") = names := by
  have hclimb : ∀ s ∈ climb k, decide (s = Bytes.ofString "..") = true := fun s hs =>
    decide_eq_true (List.eq_of_mem_replicate hs)
  rw [List.takeWhile_append_of_pos hclimb, List.dropWhile_append_of_pos hclimb]
  cases names with
  | nil => exact ⟨List.append_nil _, rfl⟩
  | cons s names =>
    have hs := (hnames s (List.mem_cons_self ..)).ne_dots
    rw [List.takeWhile_cons_of_neg (by simpa using hs),
      List.dropWhile_cons_of_neg (by simpa using hs)]
    exact ⟨List.append_nil _, rfl⟩

/-- **A path that does not start at the root goes up and then down.** -/
theorem segments_eq_up_down (hp : isAbs p = false) :
    segments p = climb (ups p) ++ downs p ∧ (∀ s ∈ downs p, Proper s)
      ∧ ∀ kept, (∀ s ∈ kept, Proper s) →
        (splitOn slash p).foldl (step true) kept = (downs p).reverse ++ kept.drop (ups p) := by
  obtain ⟨k, names, hnames, hfree, hbound⟩ :=
    @exists_up_down (splitOn slash p) fun s hs => (mem_splitOn hs).1
  have hproper : ∀ s ∈ names.reverse, Proper s := fun s hs => hnames s (List.mem_reverse.1 hs)
  have hsegments : segments p = climb k ++ names.reverse := by
    rw [segments, hp, hfree, List.reverse_append, climb, List.reverse_replicate]
  have hups : ups p = k := by
    rw [ups, hsegments, (takeWhile_climb_append k hproper).1, climb, List.length_replicate]
  have hdowns : downs p = names.reverse := by
    rw [downs, hsegments, (takeWhile_climb_append k hproper).2]
  rw [hups, hdowns, List.reverse_reverse]
  exact ⟨hsegments, hproper, hbound⟩

/-- **A path seen from a directory**: its steps up take away the last segments of the directory. -/
theorem joinTwo_of_isAbs {d : Bytes} (hd : isAbs d = true) (hp : isAbs p = false) :
    joinTwo d p = ofSegments ((segments d).take ((segments d).length - ups p) ++ downs p) := by
  have hne : d ≠ [] := fun hnil => by simp [hnil, isAbs, startsWith, dropPrefix?] at hd
  obtain ⟨-, -, hbound⟩ := segments_eq_up_down hp
  have hsegments : ((splitOn slash p).foldl (step true) (segments d).reverse).reverse
      = (segments d).take ((segments d).length - ups p) ++ downs p := by
    rw [hbound _ fun s hs => proper_of_mem_segments hd s (List.mem_reverse.1 hs),
      List.reverse_append, List.reverse_reverse, List.drop_reverse, List.reverse_reverse]
  rw [← hsegments]
  unfold joinTwo
  rw [List.isEmpty_eq_false_iff.2 hne, Bool.false_and, if_neg Bool.false_ne_true,
    if_neg Bool.false_ne_true]
  split
  · next hnil =>
    rw [List.isEmpty_iff.1 hnil, clean_of_isAbs hd]
    exact congrArg ofSegments (List.reverse_reverse _).symm
  · have habs : isAbs (d ++ [slash] ++ p) := by
      rw [List.append_assoc, isAbs_append hne, hd]
    rw [clean_of_isAbs habs, segments_of_isAbs habs, List.append_assoc, List.singleton_append,
      splitOn_append, List.foldl_append, segments_of_isAbs hd, List.reverse_reverse]

/-! ## From one directory to another -/

theorem dropCommon_append (here down : List Bytes) :
    dropCommon here (here ++ down) = ([], down) := by
  induction here with
  | nil => cases down <;> rfl
  | cons a here ih => rw [List.cons_append, dropCommon, if_pos rfl, ih]

/-- Two lists are what they have in common and what comes after it. -/
theorem exists_common (as bs : List Bytes) :
    ∃ common, as = common ++ (dropCommon as bs).1 ∧ bs = common ++ (dropCommon as bs).2 := by
  fun_induction dropCommon as bs with
  | case1 as b bs ih =>
    obtain ⟨common, has, hbs⟩ := ih
    exact ⟨b :: common, congrArg (b :: ·) has, congrArg (b :: ·) hbs⟩
  | case2 a as b bs _ => exact ⟨[], rfl, rfl⟩
  | case3 as bs _ => exact ⟨[], rfl, rfl⟩

theorem settled_climb_append (k : Nat) (hnames : ∀ s ∈ names, Proper s) :
    Settled false (climb k ++ names) := by
  refine Settled.append ⟨fun s hs => ?_, ?_⟩ hnames
  · rw [List.eq_of_mem_replicate hs]
    decide
  · have hreverse : (climb k).reverse = climb k := List.reverse_replicate
    rw [hreverse]
    induction k with
    | zero => rfl
    | succ k ih =>
      conv_lhs => rw [climb, List.replicate_succ', List.foldl_append, ← climb]
      rw [ih List.reverse_replicate]
      exact step_dots_climb k

/-- **The path from a directory at or below the root** goes up to where the two part. -/
theorem relative?_eq {d : Bytes} (hd : isAbs d = true) (hp : isAbs p = true) :
    relative? d p = some (ofParts false (climb (dropCommon (segments d) (segments p)).1.length
      ++ (dropCommon (segments d) (segments p)).2)) := by
  obtain ⟨common, hcommon, -⟩ := exists_common (segments d) (segments p)
  unfold relative?
  rw [if_neg (by rw [hd, hp]; exact not_not_intro rfl)]
  generalize dropCommon (segments d) (segments p) = parts at hcommon ⊢
  obtain ⟨up, down⟩ := parts
  dsimp only at hcommon ⊢
  rw [if_neg, List.map_const', climb]
  · rfl
  · intro hdots
    have hmem : Bytes.ofString ".." ∈ segments d :=
      hcommon ▸ List.mem_append_right _ (List.mem_of_head? hdots)
    exact (proper_of_mem_segments hd _ hmem).ne_dots rfl

/-- Such a path is local exactly if it does not go up. -/
theorem isLocal_ofParts_climb (k : Nat) (hnames : ∀ s ∈ names, Proper s) :
    isLocal (ofParts false (climb k ++ names)) = true ↔ k = 0 := by
  have hsettled := settled_climb_append k hnames
  have hne : (ofParts false (climb k ++ names)).isEmpty = false :=
    List.isEmpty_eq_false_iff.2 (ofParts_ne_nil fun s hs => (hsettled.solid s hs).1)
  unfold isLocal
  rw [hsettled.isAbs_ofParts, hne, hsettled.segments_ofParts]
  cases k with
  | zero =>
    refine iff_of_true ?_ rfl
    cases names with
    | nil => rfl
    | cons s names => simpa [climb] using (hnames s (List.mem_cons_self ..)).ne_dots
  | succ k => simp [climb, List.replicate_succ]

end Stencil.Path

namespace Stencil.SourceUnit

open Bytes Stencil.Path

/-! ## Normal forms -/

/-- A step up at the root does nothing to a normal form. -/
theorem normalizePath_dots_slash (q : Bytes) :
    normalizePath (slash :: (Bytes.ofString ".." ++ slash :: q)) = normalizePath (slash :: q) := by
  have htrim : trim (slash :: (Bytes.ofString ".." ++ slash :: q))
      = slash :: Bytes.ofString ".." ++ slash :: trimSegment q := by
    rw [trim_append_ascii_cons (by decide) (by decide) (by decide) (by decide), trim_slash_cons]
  have hup : (slash :: Bytes.ofString "..").map (fun c => if c = backslash then slash else c)
      = slash :: Bytes.ofString ".." := by
    decide
  rw [normalizePath, normalizePath, htrim, trim_slash_cons, List.map_append, hup, List.map_cons,
    if_neg (by decide)]
  generalize (trimSegment q).map (fun c => if c = backslash then slash else c) = x
  rw [clean_of_isAbs (isAbs_cons _), clean_of_isAbs (isAbs_cons _),
    segments_of_isAbs (isAbs_cons _), segments_of_isAbs (isAbs_cons _)]
  have hleft := splitOn_append (slash :: slash :: Bytes.ofString "..") x
  have hright := splitOn_append [slash] x
  rw [List.cons_append] at hleft
  rw [hleft]
  show _ = ofSegments ((splitOn slash ([slash] ++ slash :: x)).foldl (step true) []).reverse
  rw [hright, List.foldl_append, List.foldl_append]
  have hstart : (splitOn slash (slash :: slash :: Bytes.ofString "..")).foldl (step true) []
      = (splitOn slash [slash]).foldl (step true) [] := by
    decide
  rw [hstart]

/-- **Steps up at the root do nothing to a normal form.** -/
theorem normalizePath_ofSegments_up (k : Nat) (names : List Bytes) :
    normalizePath (ofSegments (climb k ++ names)) = normalizePath (ofSegments names) := by
  induction k with
  | zero => rfl
  | succ k ih =>
    rw [← ih, climb, List.replicate_succ, List.cons_append, ← climb]
    by_cases hne : climb k ++ names = []
    · rw [hne]
      cbv
    · have hcons : ofSegments (Bytes.ofString ".." :: (climb k ++ names))
          = slash :: (Bytes.ofString ".." ++ ofSegments (climb k ++ names)) := by
        rw [ofSegments_eq_rooted (List.cons_ne_nil _ _), ofSegments_eq_rooted hne]
        rfl
      rw [hcons]
      exact normalizePath_dots_slash _

end Stencil.SourceUnit
