import Mathlib
import Stencil.Proofs.Text.Path
import Stencil.Source.Index

/-!
# Finding units under their own paths

A unit is indexed by the normal form of its path, and what is looked up is the normal form of the
path that is asked for. So asking for the path of a unit finds it exactly if normalizing a normal
form changes nothing.

It need not be so: white space is trimmed before the path is cleaned, and cleaning takes away a
slash at the end. What stood in front of that slash may be white space, which is now at the end
and is trimmed the next time. This is all that can go wrong (`own_path_found_iff`). The path
`a /` shows that it does (`own_path_not_found`).
-/

namespace Stencil

open Bytes

/-- A normal form is its own normal form exactly if it does not end in white space. -/
theorem SourceUnit.normalizePath_normalizePath_iff (p : Bytes) :
    normalizePath (normalizePath p) = normalizePath p ↔ endsBlank (normalizePath p) = false := by
  have hback := backslash_not_mem_normalizePath p
  obtain ⟨ss, hss, hp⟩ := normalizePath_eq_ofSegments p
  rw [hp] at hback ⊢
  exact normalizePath_ofSegments_eq_self_iff hss hback

namespace UnitIndex

variable {ix : UnitIndex} {p : Bytes}

/-- What is found is the last unit that is there. -/
theorem find?_eq (ix : UnitIndex) (p : Bytes) :
    ix.find? p = (ix.units.filter fun u => u.path = p).getLast? := by
  rw [find?, ← List.head?_filter, List.filter_reverse, List.head?_reverse]

theorem path_of_find? {u : SourceUnit} (h : ix.find? p = some u) : u.path = p := by
  simpa using List.find?_some h

theorem mem_of_find? {u : SourceUnit} (h : ix.find? p = some u) : u ∈ ix.units :=
  List.mem_reverse.1 (List.mem_of_find?_eq_some h)

/-- Some unit is found where a unit is. -/
theorem exists_find? {u : SourceUnit} (hu : u ∈ ix.units) : ∃ v, ix.find? u.path = some v := by
  rw [← Option.isSome_iff_exists, find?, List.find?_isSome]
  exact ⟨u, List.mem_reverse.2 hu, decide_eq_true rfl⟩

/-- A unit is looked up under its own path exactly if that path is in normal form. -/
theorem resolve_path_iff {u : SourceUnit} (hu : u ∈ ix.units) :
    ix.resolve u.path = ix.find? u.path ↔ SourceUnit.normalizePath u.path = u.path := by
  constructor
  · intro h
    obtain ⟨v, hv⟩ := exists_find? hu
    rw [resolve, hv] at h
    rw [← path_of_find? h, path_of_find? hv]
  · intro h
    rw [resolve, h]

end UnitIndex

open SourceUnit

/-- **A unit is found under its own path**, the last one if there are several, exactly if that
path does not end in white space. Normalizing a path twice is normalizing it once for the same
paths. -/
theorem own_path_found_iff (p : Bytes) (files : List (Bytes × Bytes)) :
    (normalizePath (normalizePath p) = normalizePath p ↔ endsBlank (normalizePath p) = false)
    ∧ let units := files.map fun f => ofFile f.1 f.2
      ∀ u ∈ units, UnitIndex.resolve ⟨units⟩ u.path
          = (units.filter fun v => v.path = u.path).getLast? ↔ endsBlank u.path = false := by
  refine ⟨normalizePath_normalizePath_iff p, ?_⟩
  intro units u hu
  obtain ⟨f, -, rfl⟩ := List.mem_map.1 hu
  rw [← UnitIndex.find?_eq ⟨units⟩, UnitIndex.resolve_path_iff hu]
  exact normalizePath_normalizePath_iff f.1

/-- Of two files of one path the last is found under it. -/
theorem own_path_found_twice :
    let units := [ofFile " a\\b " "1", ofFile "/a/./b" "2"]
    ofFile " a\\b " "1" ∈ units ∧ (ofFile " a\\b " "1").path = "/a/b"
      ∧ UnitIndex.resolve ⟨units⟩ "/a/b" = some (ofFile "/a/./b" "2") := by
  have hfirst : (ofFile " a\\b " "1").path = "/a/b" := by cbv
  have hsecond : (ofFile "/a/./b" "2").path = "/a/b" := by cbv
  have hmem : ofFile " a\\b " "1" ∈ [ofFile " a\\b " "1", ofFile "/a/./b" "2"] :=
    List.mem_cons_self ..
  have hblank : endsBlank "/a/b" = false := endsBlank_concat_ascii (by decide) "/a/"
  refine ⟨hmem, hfirst, ?_⟩
  have hfound := ((own_path_found_iff [] [(" a\\b ", "1"), ("/a/./b", "2")]).2 _ hmem).2
    (hfirst ▸ hblank)
  rw [hfirst] at hfound
  exact hfound.trans (by simp [hfirst, hsecond])

/-- **Not every unit is found under its own path**: the path `a /` of a file has the normal form
`/a ` and that has the normal form `/a`, where nothing is. -/
theorem own_path_not_found :
    (¬ ∀ p, normalizePath (normalizePath p) = normalizePath p)
    ∧ ¬ ∀ files : List (Bytes × Bytes),
      let units := files.map fun f => ofFile f.1 f.2
      ∀ u ∈ units, UnitIndex.resolve ⟨units⟩ u.path
          = (units.filter fun v => v.path = u.path).getLast? := by
  have hfirst : normalizePath "a /" = "/a " := by cbv
  have hsecond : normalizePath "/a " = "/a" := by cbv
  have hchanged : normalizePath (normalizePath "a /") ≠ normalizePath "a /" := by
    rw [hfirst, hsecond]
    decide
  refine ⟨fun h => hchanged (h _), fun h => ?_⟩
  have hmem : ofFile "a /" "x" ∈ [ofFile "a /" "x"] := List.mem_singleton_self _
  have hfound := (h [("a /", "x")] _ hmem).trans (UnitIndex.find?_eq _ _).symm
  exact hchanged ((UnitIndex.resolve_path_iff hmem).1 hfound)

end Stencil
