import Mathlib
import Stencil.Proofs.Source.Lookup
import Stencil.Proofs.Text.PathBelow

/-!
# Imports units in the directories above

The imports units that apply to a unit are found by their paths, one in each directory from the
root down to that of the unit. Which directories these are can be said in two ways: they are
passed on the way up, where each step goes to the directory that a directory is in (`Path.Climb`),
and their segments are those that the segments of the directory begin with. The way up ends
because every normal form starts at the root, and since it goes from segment to segment, `/a` is
not passed on the way up from `/ab`.

So the imports units that apply are those that can be found at all and lie in one of these
directories, each once, from the outermost to the innermost (`importsChain_eq_ancestors`).
-/

namespace Stencil

open Bytes

namespace Path

variable {ss names : List Bytes} {s : Bytes}

/-! ## The way up -/

/-- **The way up to the root**: the directories that are passed, the innermost first. -/
inductive Climb : Bytes → List Bytes → Prop where
  /-- The root is where it ends. -/
  | root : Climb "/" ["/"]
  /-- From any other directory it goes on from the one that it is in. -/
  | up {d : Bytes} {above : List Bytes} (hd : d ≠ "/") (h : Climb (dir d) above) :
    Climb d (d :: above)

theorem ofSegments_inj (hss : ∀ s ∈ ss, Proper s) (hnames : ∀ s ∈ names, Proper s)
    (h : ofSegments ss = ofSegments names) : ss = names := by
  rw [← segments_ofSegments hss, h, segments_ofSegments hnames]

/-- **The way up passes the beginnings of the segments.** -/
theorem climb_ofSegments (hss : ∀ s ∈ ss, Proper s) :
    Climb (ofSegments ss) (ss.inits.map ofSegments).reverse := by
  induction ss using List.reverseRecOn with
  | nil => exact .root
  | append_singleton ss s ih =>
    obtain ⟨hinit, hlast⟩ := List.forall_mem_append.1 hss
    have hs := hlast s (List.mem_singleton_self s)
    have hnone : ∀ t ∈ ([] : List Bytes), Proper t := List.forall_mem_nil _
    have hroot : ofSegments (ss ++ [s]) ≠ ofSegments [] := fun heq =>
      List.append_ne_nil_of_right_ne_nil ss (List.cons_ne_nil s []) (ofSegments_inj hss hnone heq)
    have hpassed : ((ss ++ [s]).inits.map ofSegments).reverse
        = ofSegments (ss ++ [s]) :: (ss.inits.map ofSegments).reverse := by
      simp [List.inits_append]
    rw [hpassed]
    refine .up hroot ?_
    rw [dir_ofSegments_concat hinit hs.slash_not_mem]
    exact ih hinit

/-- The beginnings of a list, in order, begin each other. -/
theorem pairwise_inits (l : List Bytes) :
    l.inits.Pairwise fun a b => a <+: b ∧ a ≠ b := by
  induction l with
  | nil => exact List.pairwise_singleton _ _
  | cons x l ih =>
    rw [List.inits_cons, List.pairwise_cons, List.pairwise_map]
    refine ⟨fun b hb => ?_, ih.imp fun ⟨hbegins, hne⟩ => ?_⟩
    · obtain ⟨a, -, rfl⟩ := List.mem_map.1 hb
      exact ⟨List.nil_prefix, (List.cons_ne_nil x a).symm⟩
    · exact ⟨(List.prefix_cons_inj x).2 hbegins, fun heq => hne (List.cons.inj heq).2⟩

end Path

open Stencil.Path SourceUnit

namespace UnitIndex

variable {ss names : List Bytes} {s : Bytes}

/-! ## The way down -/

/-- Only the root is written with a slash at its end. -/
theorem trimSuffix_ofSegments (hss : ∀ t ∈ ss, Proper t) :
    trimSuffix (ofSegments ss) "/" = rooted ss := by
  rcases ss.eq_nil_or_concat' with rfl | ⟨ss, t, rfl⟩
  · decide
  · have ht := hss t (List.mem_append_right _ (List.mem_singleton_self t))
    obtain ⟨t, c, rfl⟩ := t.eq_nil_or_concat'.resolve_left ht.ne_nil
    have hc : slash ≠ c := fun heq =>
      ht.slash_not_mem (List.mem_append_right _ (List.mem_singleton.2 heq))
    have hslash : ofString "/" = [slash] := by decide
    rw [ofSegments_eq_rooted (List.append_ne_nil_of_right_ne_nil _ (List.cons_ne_nil _ _)),
      trimSuffix, hslash, rooted, List.flatMap_append, List.flatMap_singleton, ← List.cons_append,
      ← List.append_assoc, List.reverse_append, List.reverse_singleton, List.reverse_singleton,
      List.singleton_append, dropPrefix?, if_neg hc]

/-- What is inside a directory has one segment more. -/
theorem inside_ofSegments (hss : ∀ t ∈ ss, Proper t) (s : Bytes) :
    inside (ofSegments ss) s = ofSegments (ss ++ [s]) := by
  have hslash : ofString "/" = [slash] := by decide
  rw [ofSegments_concat, inside, trimSuffix_ofSegments hss, hslash, List.append_assoc,
    List.singleton_append]

/-- **The way down passes the beginnings of the segments**, as the way up does. -/
theorem pathsDown_ofSegments (hss : ∀ t ∈ ss, Proper t) (hnames : ∀ t ∈ names, Proper t) :
    pathsDown (ofSegments ss) names = names.inits.map fun ns => ofSegments (ss ++ ns) := by
  induction names generalizing ss with
  | nil => simp [pathsDown]
  | cons n names ih =>
    obtain ⟨hn, hnames⟩ := List.forall_mem_cons.1 hnames
    rw [pathsDown, inside_ofSegments hss,
      ih (List.forall_mem_append.2 ⟨hss, List.forall_mem_singleton.2 hn⟩) hnames]
    simp

theorem pathsDown_root (hss : ∀ t ∈ ss, Proper t) : pathsDown "/" ss = ss.inits.map ofSegments := by
  have hroot : ofString "/" = ofSegments [] := by decide
  rw [hroot, pathsDown_ofSegments (List.forall_mem_nil _) hss]
  rfl

/-! ## Where imports units are -/

theorem proper_importsFileName : Proper importsFileName := by
  constructor <;> decide

/-- The path of an imports unit in a directory is in normal form. -/
theorem normalizePath_importsPath (hss : ∀ t ∈ ss, Proper t) (hback : ∀ t ∈ ss, backslash ∉ t) :
    normalizePath (ofSegments (ss ++ [importsFileName]))
      = ofSegments (ss ++ [importsFileName]) := by
  have hproper : ∀ t ∈ ss ++ [importsFileName], Proper t :=
    List.forall_mem_append.2 ⟨hss, List.forall_mem_singleton.2 proper_importsFileName⟩
  have hslashes : backslash ∉ ofSegments (ss ++ [importsFileName]) := by
    intro hmem
    obtain ⟨t, ht, hmem⟩ := (mem_ofSegments hmem).resolve_left (by decide)
    rcases List.mem_append.1 ht with ht | ht
    · exact hback t ht hmem
    · rw [List.mem_singleton.1 ht] at hmem
      exact absurd hmem (by decide)
  have hblank : endsBlank (slash :: importsFileName) = false :=
    endsBlank_concat_ascii (a := ch 'l') (by decide) "/_Imports.tmp"
  rw [normalizePath_ofSegments_eq_self_iff hproper hslashes, ofSegments_concat,
    endsBlank_append_ascii (by decide), hblank]

/-- The directory of a normal form, by its segments. -/
theorem exists_dir_normalizePath (p : Bytes) : ∃ ss, (∀ t ∈ ss, Proper t)
    ∧ (∀ t ∈ ss, backslash ∉ t) ∧ Path.dir (normalizePath p) = ofSegments ss := by
  have hback := backslash_not_mem_normalizePath p
  obtain ⟨ss, hss, hp⟩ := normalizePath_eq_ofSegments p
  rw [hp] at hback ⊢
  rcases ss.eq_nil_or_concat' with rfl | ⟨ss, s, rfl⟩
  · exact ⟨[], hss, List.forall_mem_nil _, rfl⟩
  · obtain ⟨hinit, hlast⟩ := List.forall_mem_append.1 hss
    refine ⟨ss, hinit, fun t ht hmem => hback ?_,
      dir_ofSegments_concat hinit (hlast s (List.mem_singleton_self s)).slash_not_mem⟩
    rw [ofSegments_concat]
    exact List.mem_append_left _ ((isInfix_rooted ht).subset hmem)

/-- A normal form with the name of imports units, by the segments of its directory. -/
theorem exists_of_base_eq {p : Bytes} (h : Path.base (normalizePath p) = importsFileName) :
    ∃ ss, (∀ t ∈ ss, Proper t) ∧ normalizePath p = ofSegments (ss ++ [importsFileName]) := by
  obtain ⟨ss, hss, hp⟩ := normalizePath_eq_ofSegments p
  rw [hp] at h ⊢
  rcases ss.eq_nil_or_concat' with rfl | ⟨ss, s, rfl⟩
  · exact absurd h (by decide)
  · obtain ⟨hinit, hlast⟩ := List.forall_mem_append.1 hss
    have hs : Path.base (ofSegments (ss ++ [s])) = s :=
      base_ofParts_concat true ss (hlast s (List.mem_singleton_self s))
    rw [hs] at h
    exact ⟨ss, hinit, by rw [h]⟩

variable {ix : UnitIndex} {u : SourceUnit}

/-- **The imports units that apply**, directory by directory. -/
theorem importsChain_eq (ix : UnitIndex) {p : Bytes} (hss : ∀ t ∈ ss, Proper t)
    (hback : ∀ t ∈ ss, backslash ∉ t) (hp : Path.dir (normalizePath p) = ofSegments ss) :
    ix.importsChain p
      = ss.inits.filterMap fun ns => ix.find? (ofSegments (ns ++ [importsFileName])) := by
  unfold importsChain
  dsimp only
  rw [hp, segments_ofSegments hss, pathsDown_root hss, List.filterMap_map]
  refine List.filterMap_congr fun ns hns => ?_
  have hbegins := ((List.mem_inits _ _).1 hns).subset
  have hproper : ∀ t ∈ ns, Proper t := fun t ht => hss t (hbegins ht)
  rw [Function.comp_apply, inside_ofSegments hproper, resolve,
    normalizePath_importsPath hproper fun t ht => hback t (hbegins ht)]

/-- The unit that is found for a directory has the name of imports units and lies there. -/
theorem of_find?_importsPath (hss : ∀ t ∈ ss, Proper t)
    (h : ix.find? (ofSegments (ss ++ [importsFileName])) = some u) :
    ix.find? u.path = some u ∧ Path.base u.path = importsFileName ∧ u.dir = ofSegments ss := by
  have hpath := path_of_find? h
  refine ⟨by rw [hpath, h], ?_, ?_⟩
  · rw [hpath]
    exact base_ofParts_concat true ss proper_importsFileName
  · rw [SourceUnit.dir, hpath,
      dir_ofSegments_concat hss proper_importsFileName.slash_not_mem]

/-- **Which imports units apply**: those that can be found and lie on the way up. -/
theorem mem_importsChain_iff (hunits : ∀ v ∈ ix.units, ∃ q, v.path = normalizePath q) (p : Bytes) :
    u ∈ ix.importsChain p ↔ ix.find? u.path = some u ∧ Path.base u.path = importsFileName
      ∧ segments u.dir <+: segments (Path.dir (normalizePath p)) := by
  obtain ⟨ss, hss, hback, hhome⟩ := exists_dir_normalizePath p
  rw [importsChain_eq ix hss hback hhome, List.mem_filterMap, hhome, segments_ofSegments hss]
  constructor
  · rintro ⟨ns, hns, hfind⟩
    have hbegins := (List.mem_inits _ _).1 hns
    have hproper : ∀ t ∈ ns, Proper t := fun t ht => hss t (hbegins.subset ht)
    obtain ⟨hself, hbase, hdir⟩ := of_find?_importsPath hproper hfind
    rw [hdir, segments_ofSegments hproper]
    exact ⟨hself, hbase, hbegins⟩
  · rintro ⟨hself, hbase, hbegins⟩
    obtain ⟨q, hq⟩ := hunits u (mem_of_find? hself)
    rw [hq] at hbase
    obtain ⟨ns, hns, hpath⟩ := exists_of_base_eq hbase
    have hfind : ix.find? (ofSegments (ns ++ [importsFileName])) = some u := by
      rw [← hpath, ← hq, hself]
    rw [(of_find?_importsPath hns hfind).2.2, segments_ofSegments hns] at hbegins
    exact ⟨ns, (List.mem_inits _ _).2 hbegins, hfind⟩

/-- **The outer directories come first.** -/
theorem pairwise_importsChain (ix : UnitIndex) (p : Bytes) :
    (ix.importsChain p).Pairwise fun u v => segments u.dir <+: segments v.dir ∧ u.dir ≠ v.dir := by
  obtain ⟨ss, hss, hback, hhome⟩ := exists_dir_normalizePath p
  have hproper : ∀ ns ∈ ss.inits, ∀ t ∈ ns, Proper t := fun ns hns t ht =>
    hss t (((List.mem_inits _ _).1 hns).subset ht)
  rw [importsChain_eq ix hss hback hhome, List.pairwise_filterMap]
  refine (pairwise_inits ss).imp_of_mem fun {ns ns'} hns hns' h u hu v hv => ?_
  rw [(of_find?_importsPath (hproper ns hns) hu).2.2,
    (of_find?_importsPath (hproper ns' hns') hv).2.2, segments_ofSegments (hproper ns hns),
    segments_ofSegments (hproper ns' hns')]
  exact ⟨h.1, fun heq => h.2 (ofSegments_inj (hproper ns hns) (hproper ns' hns') heq)⟩

/-- **The directories are those on the way up**, which ends at the root. -/
theorem exists_climb (ix : UnitIndex) (p : Bytes) :
    ∃ dirs, Climb (Path.dir (normalizePath p)) dirs
      ∧ ix.importsChain p
        = dirs.reverse.filterMap fun d => ix.resolve (inside d importsFileName) := by
  obtain ⟨ss, hss, -, hhome⟩ := exists_dir_normalizePath p
  refine ⟨(ss.inits.map ofSegments).reverse, hhome ▸ climb_ofSegments hss, ?_⟩
  unfold importsChain
  dsimp only
  rw [hhome, segments_ofSegments hss, pathsDown_root hss, List.reverse_reverse]

end UnitIndex

/-- **The imports units that apply to a unit are those in the directories above it.**

They are looked up in the directories on the way up from the directory of the unit, which ends at
the root. They are the units that can be found at all, have the name of imports units and lie in a
directory whose segments begin those of the directory of the unit; each of them is there once,
those of outer directories come first, and all of them contribute imports. -/
theorem importsChain_eq_ancestors (files : List (Bytes × Bytes)) (p : Bytes) :
    let units := files.map fun f => ofFile f.1 f.2
    let home := Path.dir (normalizePath p)
    let chain := UnitIndex.importsChain ⟨units⟩ p
    (∃ dirs, Climb home dirs ∧ chain = dirs.reverse.filterMap fun d =>
        UnitIndex.resolve ⟨units⟩ (UnitIndex.inside d importsFileName))
      ∧ (∀ u, u ∈ chain ↔ (units.filter fun v => v.path = u.path).getLast? = some u
          ∧ Path.base u.path = importsFileName ∧ segments u.dir <+: segments home)
      ∧ chain.Pairwise (fun u v => segments u.dir <+: segments v.dir ∧ u.dir ≠ v.dir)
      ∧ ∀ u ∈ chain, u.kind = .imports := by
  intro units home chain
  have hfile : ∀ u ∈ units, ∃ f : Bytes × Bytes, ofFile f.1 f.2 = u := fun u hu =>
    let ⟨f, _, hf⟩ := List.mem_map.1 hu
    ⟨f, hf⟩
  have hpaths : ∀ v ∈ (UnitIndex.mk units).units, ∃ q, v.path = normalizePath q := by
    intro v hv
    obtain ⟨f, rfl⟩ := hfile v hv
    exact ⟨f.1, rfl⟩
  have hmem : ∀ u, u ∈ chain ↔ UnitIndex.find? ⟨units⟩ u.path = some u
      ∧ Path.base u.path = importsFileName ∧ segments u.dir <+: segments home := fun u =>
    UnitIndex.mem_importsChain_iff hpaths p
  refine ⟨UnitIndex.exists_climb ⟨units⟩ p, fun u => ?_, UnitIndex.pairwise_importsChain ⟨units⟩ p,
    fun u hu => ?_⟩
  · rw [hmem, UnitIndex.find?_eq]
  · obtain ⟨hself, hbase, -⟩ := (hmem u).1 hu
    obtain ⟨f, rfl⟩ := hfile u (UnitIndex.mem_of_find? hself)
    unfold ofFile at hbase ⊢
    dsimp only at hbase ⊢
    rw [if_pos hbase]

/-- A directory is not above another one because its name begins the other name. -/
example : (UnitIndex.importsChain ⟨[ofFile "/ab/_Imports.tmpl" [], ofFile "/a/_Imports.tmpl" [],
      ofFile "/_Imports.tmpl" []]⟩ "/ab/c/Page.tmpl").map SourceUnit.path
    = ["/_Imports.tmpl", "/ab/_Imports.tmpl"] := by
  cbv

end Stencil
