import Mathlib.Data.List.Induction
import Stencil.Compile.Batch
import Stencil.Proofs.Text.Order

/-!
# What a batch is made of

Files are taken in one after the other, and a file whose path is there already takes the place of
the file that had it. What comes of that can be said without the order of taking in: there is one
unit for each path, in the order in which the paths first occur, and it is the unit of the last
file of its path (`units_collect`). Every file but the first of its path is warned about.

The root and the collisions of type names are a matter of the paths of the components alone:
`rootPath?` says which of them is the root, and `collision?` what is reported for each of them.
`prepared_batch` puts it together, for all files and settings.
-/

namespace Stencil.Compile

open Bytes SourceUnit

variable {files : List SourceFile} {units : List SourceUnit} {u : SourceUnit} {p : Bytes}

/-! ## Files that replace each other -/

/-- The unit of the last file of a path. -/
def latest? (files : List SourceFile) (p : Bytes) : Option SourceUnit :=
  (files.filter fun f => normalizePath f.path = p).getLast?.map fun f => ofFile f.path f.text

theorem path_ofFile (path text : Bytes) : (ofFile path text).path = normalizePath path := rfl

theorem latest?_concat (files : List SourceFile) (f : SourceFile) (p : Bytes) :
    latest? (files ++ [f]) p
      = if normalizePath f.path = p then some (ofFile f.path f.text) else latest? files p := by
  unfold latest?
  rw [List.filter_append, List.getLast?_append, List.filter_singleton]
  by_cases h : normalizePath f.path = p <;> simp [h]

/-- The unit of the last file of a path has that path. -/
theorem path_of_latest? (h : latest? files p = some u) : u.path = p := by
  obtain ⟨f, hf, rfl⟩ := Option.map_eq_some_iff.1 h
  exact of_decide_eq_true (List.mem_filter.1 (List.mem_of_getLast? hf)).2

/-- Every path of a file is the path of a last file. -/
theorem exists_latest? (h : p ∈ files.map fun f => normalizePath f.path) :
    ∃ u, latest? files p = some u := by
  obtain ⟨f, hf, rfl⟩ := List.mem_map.1 h
  have hne : (files.filter fun g => normalizePath g.path = normalizePath f.path) ≠ [] :=
    List.ne_nil_of_mem (List.mem_filter.2 ⟨hf, decide_eq_true rfl⟩)
  exact ⟨_, by rw [latest?, List.getLast?_eq_getLast_of_ne_nil hne]; rfl⟩

theorem addUnit_of_mem (h : u.path ∈ units.map SourceUnit.path) :
    addUnit units u = units.map fun v => if v.path = u.path then u else v := by
  obtain ⟨v, hv, hpath⟩ := List.mem_map.1 h
  exact if_pos (List.any_eq_true.2 ⟨v, hv, decide_eq_true hpath⟩)

theorem addUnit_of_notMem (h : u.path ∉ units.map SourceUnit.path) :
    addUnit units u = units ++ [u] := by
  refine if_neg fun hany => h ?_
  obtain ⟨v, hv, hpath⟩ := List.any_eq_true.1 hany
  exact List.mem_map.2 ⟨v, hv, of_decide_eq_true hpath⟩

/-- A unit that is added brings its path if that is new, and else changes no path. -/
theorem map_path_addUnit (units : List SourceUnit) (u : SourceUnit) :
    (addUnit units u).map SourceUnit.path
      = if u.path ∈ units.map SourceUnit.path then units.map SourceUnit.path
        else units.map SourceUnit.path ++ [u.path] := by
  split
  · next h =>
    rw [addUnit_of_mem h, List.map_map]
    refine List.map_congr_left fun v _ => ?_
    show (if v.path = u.path then u else v).path = v.path
    split
    · next hv => exact hv.symm
    · rfl
  · next h => rw [addUnit_of_notMem h, List.map_append, List.map_singleton]

theorem collect_concat (units : List SourceUnit) (files : List SourceFile) (f : SourceFile) :
    (collect units (files ++ [f])).1 = addUnit (collect units files).1 (ofFile f.path f.text) := by
  induction files generalizing units with
  | nil => rfl
  | cons g files ih => exact ih (addUnit units (ofFile g.path g.text))

/-- **The paths of a batch** are those of its files, in the order in which they first occur. -/
theorem map_path_collect (files : List SourceFile) : (collect [] files).1.map SourceUnit.path
    = (files.map fun f => normalizePath f.path).eraseDups := by
  induction files using List.reverseRecOn with
  | nil => rfl
  | append_singleton files f ih =>
    rw [collect_concat, map_path_addUnit, ih, List.map_append, List.map_singleton,
      eraseDups_concat]
    simp only [List.mem_eraseDups, List.contains_iff_mem]
    rfl

/-- **The units of a batch**: for each path the unit of the last file that has it. -/
theorem units_collect (files : List SourceFile) : (collect [] files).1
    = (files.map fun f => normalizePath f.path).eraseDups.filterMap (latest? files) := by
  induction files using List.reverseRecOn with
  | nil => rfl
  | append_singleton files f ih =>
    have hpaths := map_path_collect files
    rw [collect_concat, List.map_append, List.map_singleton, eraseDups_concat]
    by_cases hmem : normalizePath f.path ∈ files.map fun f => normalizePath f.path
    · rw [if_pos (List.contains_iff_mem.2 hmem),
        addUnit_of_mem (by rw [hpaths]; exact List.mem_eraseDups.2 hmem), ih, List.map_filterMap]
      refine List.filterMap_congr fun p hp => ?_
      obtain ⟨v, hv⟩ := exists_latest? (List.mem_eraseDups.1 hp)
      rw [latest?_concat, hv, Option.map_some, path_of_latest? hv, path_ofFile]
      by_cases heq : p = normalizePath f.path
      · rw [if_pos heq.symm, if_pos heq]
      · rw [if_neg (Ne.symm heq), if_neg heq]
    · rw [if_neg (mt List.contains_iff_mem.1 hmem),
        addUnit_of_notMem (by rw [hpaths]; exact mt List.mem_eraseDups.1 hmem), ih,
        List.filterMap_append]
      congr 1
      · refine List.filterMap_congr fun p hp => ?_
        rw [latest?_concat, if_neg]
        rintro rfl
        exact hmem (List.mem_eraseDups.1 hp)
      · have hnew : latest? (files ++ [f]) (normalizePath f.path)
            = some (ofFile f.path f.text) := by
          rw [latest?_concat, if_pos rfl]
        exact (List.filterMap_cons_some (l := []) hnew).symm

/-- Every file makes a unit or a warning. -/
theorem length_collect (units : List SourceUnit) (files : List SourceFile) :
    (collect units files).2.length + (collect units files).1.length
      = files.length + units.length := by
  induction files generalizing units with
  | nil => rfl
  | cons f files ih =>
    have hrest := ih (addUnit units (ofFile f.path f.text))
    have hadd : (addUnit units (ofFile f.path f.text)).length = units.length
        + if units.any (fun v => v.path = (ofFile f.path f.text).path) then 0 else 1 := by
      unfold addUnit
      split
      · exact List.length_map ..
      · exact List.length_append
    rw [hadd] at hrest
    rw [collect, List.length_append, List.length_cons]
    split
    · next h =>
      rw [if_pos h] at hrest
      dsimp only at hrest ⊢
      rw [List.length_singleton]
      omega
    · next h =>
      rw [if_neg h] at hrest
      dsimp only at hrest ⊢
      rw [List.length_nil]
      omega

/-- The warnings of a batch name paths that are there already. -/
theorem mem_collect {d : Diagnostic} (h : d ∈ (collect units files).2) :
    ∃ p, d = Finding.diagnostic p ⟨0, .duplicateUnit p⟩ := by
  induction files generalizing units with
  | nil => cases h
  | cons f files ih =>
    rcases List.mem_append.1 h with h | h
    · split at h
      · exact ⟨_, List.mem_singleton.1 h⟩
      · cases h
    · exact ih h

/-! ## Components of one type -/

/-- The paths of the components of a batch. -/
def componentPaths (units : List SourceUnit) : List Bytes :=
  (units.filter SourceUnit.isComponent).map SourceUnit.path

/-- **What is reported for a component** among those at `paths`: nothing for the first of its
type, and else that the first has that type. -/
def collision? (paths : List Bytes) (p : Bytes) : Option Diagnostic :=
  (paths.find? fun q => Naming.typeName q = Naming.typeName p).bind fun first =>
    if first = p then none
    else some (Finding.diagnostic p ⟨0, .typeCollision first p (Naming.typeName p)⟩)

/-- The types that were seen are those of the components in front, each with the first path. -/
theorem typeCollisions_eq {seen : List (Bytes × Bytes)} {before : List Bytes}
    (hseen : ∀ type, seen.find? (fun e => e.1 = type)
      = (before.find? fun q => Naming.typeName q = type).map fun q => (type, q))
    (hnodup : (before ++ componentPaths units).Nodup) :
    typeCollisions seen units
      = (componentPaths units).filterMap (collision? (before ++ componentPaths units)) := by
  induction units generalizing seen before with
  | nil => rfl
  | cons u units ih =>
    unfold typeCollisions
    split
    · next hu =>
      have hpaths : componentPaths (u :: units) = u.path :: componentPaths units := by
        rw [componentPaths, List.filter_cons_of_pos hu]
        rfl
      rw [hpaths, List.append_cons] at hnodup ⊢
      have hfirst : ((before ++ [u.path]) ++ componentPaths units).find?
          (fun q => Naming.typeName q = Naming.typeName u.path)
          = (before.find? fun q => Naming.typeName q = Naming.typeName u.path).or
            (some u.path) := by
        simp [List.find?_append]
      dsimp only
      rw [hseen]
      cases hfound : before.find? fun q => Naming.typeName q = Naming.typeName u.path with
      | none =>
        have hnone : collision? ((before ++ [u.path]) ++ componentPaths units) u.path = none := by
          rw [collision?, hfirst, hfound]
          exact if_pos rfl
        rw [List.filterMap_cons_none hnone]
        refine ih (fun type => ?_) hnodup
        rw [List.find?_append, List.find?_cons]
        by_cases htype : Naming.typeName u.path = type
        · subst htype
          simp [hfound]
        · simp [hseen, htype]
      | some first =>
        have hne : first ≠ u.path := by
          rintro rfl
          have := List.mem_of_find?_eq_some hfound
          simp [List.nodup_append] at hnodup
          grind
        have hsome : collision? ((before ++ [u.path]) ++ componentPaths units) u.path
            = some (Finding.diagnostic u.path
              ⟨0, .typeCollision first u.path (Naming.typeName u.path)⟩) := by
          rw [collision?, hfirst, hfound]
          exact if_neg hne
        rw [List.filterMap_cons_some hsome]
        refine congrArg _ (ih (fun type => ?_) hnodup)
        rw [List.find?_append, hseen]
        by_cases htype : Naming.typeName u.path = type
        · subst htype
          simp [hfound]
        · simp [htype]
    · next hu =>
      have hpaths : componentPaths (u :: units) = componentPaths units := by
        rw [componentPaths, List.filter_cons_of_neg hu]
        rfl
      rw [hpaths] at hnodup ⊢
      exact ih hseen hnodup

/-- Something is reported for a component exactly if another one in front of it has its type. -/
theorem exists_collision_iff (paths : List Bytes) :
    (∃ d, d ∈ paths.filterMap (collision? paths))
      ↔ ∃ p ∈ paths, ∃ q ∈ paths, p ≠ q ∧ Naming.typeName p = Naming.typeName q := by
  constructor
  · rintro ⟨d, hd⟩
    obtain ⟨p, hp, hd⟩ := List.mem_filterMap.1 hd
    obtain ⟨first, hfirst, hd⟩ := Option.bind_eq_some_iff.1 hd
    split at hd
    · cases hd
    · next hne =>
      exact ⟨first, List.mem_of_find?_eq_some hfirst, p, hp, hne,
        by simpa using List.find?_some hfirst⟩
  · rintro ⟨p, hp, q, hq, hne, htype⟩
    -- the first component of the type is not both of them
    have hfound : (paths.find? fun r => Naming.typeName r = Naming.typeName p).isSome :=
      List.find?_isSome.2 ⟨p, hp, by simp⟩
    obtain ⟨first, hfirst⟩ := Option.isSome_iff_exists.1 hfound
    have hreport : ∀ r ∈ paths, Naming.typeName p = Naming.typeName r → first ≠ r →
        ∃ d, d ∈ paths.filterMap (collision? paths) := by
      intro r hr hsame hother
      rw [hsame] at hfirst
      exact ⟨_, List.mem_filterMap.2 ⟨r, hr, by rw [collision?, hfirst]; exact if_neg hother⟩⟩
    by_cases heq : first = p
    · exact hreport q hq htype (heq ▸ hne)
    · exact hreport p hp rfl heq

/-! ## The root -/

/-- **The path of the root** among the components at `paths`: the path that is asked for, if a
component has it, and else the first one. -/
def rootPath? (paths : List Bytes) (root : Bytes) : Option Bytes :=
  (if root = [] then none else paths.find? (· = normalizePath root)).or paths.head?

theorem mem_of_rootPath? {paths : List Bytes} {root : Bytes} (h : rootPath? paths root = some p) :
    p ∈ paths := by
  rcases Option.or_eq_some_iff.1 h with h | ⟨-, h⟩
  · split at h
    · cases h
    · exact List.mem_of_find?_eq_some h
  · exact List.mem_of_head? h

/-- A unit whatever its role is. -/
def unmarked (u : SourceUnit) : SourceUnit := { u with role := .component }

/-- Marking the root changes nothing else. -/
theorem map_unmarked_markRoot (units : List SourceUnit) (root : Bytes) :
    (markRoot units root).map unmarked = units.map unmarked := by
  unfold markRoot
  refine List.ext_getElem (by simp) fun i hi hi' => ?_
  simp [unmarked]

theorem componentPaths_map_unmarked (units : List SourceUnit) :
    componentPaths (units.map unmarked) = componentPaths units := by
  rw [componentPaths, List.filter_map, List.map_map]
  rfl

theorem componentPaths_markRoot (units : List SourceUnit) (root : Bytes) :
    componentPaths (markRoot units root) = componentPaths units := by
  rw [← componentPaths_map_unmarked, map_unmarked_markRoot, componentPaths_map_unmarked]

/-- One unit at most is marked, the one at the given place. -/
theorem filter_root_mapIdx (units : List SourceUnit) (index : Option Nat) :
    (units.mapIdx fun i u => { u with role := if index = some i then .root else .component }).filter
        (fun u => u.role = .root)
      = ((index.bind fun i => units[i]?).map fun u => { u with role := .root }).toList := by
  induction units generalizing index with
  | nil => cases index <;> rfl
  | cons u units ih =>
    rw [List.mapIdx_cons]
    match index with
    | none => simpa using ih none
    | some 0 => simpa using ih none
    | some (j + 1) => simpa using ih (some j)

/-- A component with a given path, if there is one. -/
theorem map_path_find?_component (units : List SourceUnit) (p : Bytes) :
    (units.find? fun u => u.isComponent && u.path = p).map SourceUnit.path
      = (componentPaths units).find? (· = p) := by
  rw [componentPaths, List.find?_map, List.find?_filter]
  simp only [Function.comp_apply, Bool.decide_and, Bool.decide_eq_true]

/-- The unit at the place of the root. -/
theorem getElem?_rootIndex? (units : List SourceUnit) (root : Bytes) :
    ((rootIndex? units root).bind fun i => units[i]?)
      = (if root.isEmpty then none
          else units.find? fun u => u.isComponent && u.path = normalizePath root).or
        (units.find? isComponent) := by
  unfold rootIndex?
  dsimp only
  split
  · rw [List.find?_eq_bind_findIdx?_getElem?]
    rfl
  · rw [List.find?_eq_bind_findIdx?_getElem?, List.find?_eq_bind_findIdx?_getElem?]
    cases hindex : units.findIdx? fun u => u.isComponent && u.path = normalizePath root with
    | none => rfl
    | some i =>
      have hi : i < units.length := (List.findIdx?_eq_some_iff_getElem.1 hindex).1
      show units[i]? = (units[i]?).or _
      rw [List.getElem?_eq_getElem hi, Option.some_or]

/-- The unit at the place of the root is the one that `rootPath?` says. -/
theorem map_path_rootIndex? (units : List SourceUnit) (root : Bytes) :
    ((rootIndex? units root).bind fun i => units[i]?).map SourceUnit.path
      = rootPath? (componentPaths units) root := by
  have hfirst : (units.find? isComponent).map SourceUnit.path = (componentPaths units).head? := by
    rw [componentPaths, List.head?_map, List.head?_filter]
  rw [getElem?_rootIndex?, Option.map_or, hfirst, rootPath?]
  by_cases hroot : root = []
  · rw [if_pos (List.isEmpty_iff.2 hroot), if_pos hroot, Option.map_none]
  · rw [if_neg (mt List.isEmpty_iff.1 hroot), if_neg hroot, map_path_find?_component]

theorem map_path_markRoot (units : List SourceUnit) (root : Bytes) :
    (markRoot units root).map SourceUnit.path = units.map SourceUnit.path := by
  have h := congrArg (List.map SourceUnit.path) (map_unmarked_markRoot units root)
  rw [List.map_map, List.map_map] at h
  exact h

/-- The paths of the marked units: that of the root, if there is one. -/
theorem map_path_filter_root (units : List SourceUnit) (root : Bytes) :
    ((markRoot units root).filter fun u => u.role = .root).map SourceUnit.path
      = (rootPath? (componentPaths units) root).toList := by
  rw [← map_path_rootIndex?]
  unfold markRoot
  rw [filter_root_mapIdx]
  cases (rootIndex? units root).bind fun i => units[i]? <;> rfl

/-- The root is a component, if no two units have one path. -/
theorem isComponent_of_root {root : Bytes} (hnodup : (units.map SourceUnit.path).Nodup)
    (hu : u ∈ markRoot units root) (hrole : u.role = .root) : u.isComponent := by
  rw [← map_path_markRoot units root] at hnodup
  have hpath : u.path ∈ (rootPath? (componentPaths units) root).toList := by
    rw [← map_path_filter_root]
    exact List.mem_map_of_mem (List.mem_filter.2 ⟨hu, decide_eq_true hrole⟩)
  have hmem : u.path ∈ componentPaths (markRoot units root) := by
    rw [componentPaths_markRoot]
    exact mem_of_rootPath? (Option.mem_toList.1 hpath)
  obtain ⟨v, hv, hsame⟩ := List.mem_map.1 hmem
  obtain ⟨hv, hcomponent⟩ := List.mem_filter.1 hv
  exact List.inj_on_of_nodup_map hnodup hv hu hsame ▸ hcomponent

/-- There is a root exactly if there is a component. -/
theorem rootPath?_eq_none_iff {paths : List Bytes} {root : Bytes} :
    rootPath? paths root = none ↔ paths = [] := by
  constructor
  · exact fun h => List.head?_eq_none_iff.1 (Option.or_eq_none_iff.1 h).2
  · rintro rfl
    unfold rootPath?
    split <;> rfl

theorem exists_root_iff (units : List SourceUnit) (root : Bytes) :
    (∃ u ∈ markRoot units root, u.role = .root)
      ↔ ∃ u ∈ markRoot units root, u.isComponent := by
  have hmarked : (∃ u ∈ markRoot units root, u.role = .root)
      ↔ ((markRoot units root).filter fun u => u.role = .root).map SourceUnit.path ≠ [] := by
    simp [List.filter_eq_nil_iff]
  have hcomponent : (∃ u ∈ markRoot units root, u.isComponent)
      ↔ componentPaths (markRoot units root) ≠ [] := by
    simp [componentPaths, List.filter_eq_nil_iff]
  rw [hmarked, hcomponent, componentPaths_markRoot, map_path_filter_root]
  exact (Option.toList_eq_nil_iff.trans rootPath?_eq_none_iff).not

/-! ## Batches -/

section Batches

variable (files : List SourceFile) (o : Options)

theorem map_path_prepare : (prepare files o).1.map SourceUnit.path
    = (files.map fun f => normalizePath f.path).eraseDups :=
  (map_path_markRoot _ _).trans (map_path_collect files)

theorem nodup_map_path_prepare : ((prepare files o).1.map SourceUnit.path).Nodup := by
  rw [map_path_prepare]
  exact nodup_eraseDups _

/-- But for their roles, the units of a batch are those of the last files. -/
theorem map_unmarked_prepare : (prepare files o).1.map unmarked
    = ((prepare files o).1.map SourceUnit.path).filterMap (latest? files) := by
  have hunits : (prepare files o).1.map unmarked = (collect [] files).1.map unmarked :=
    map_unmarked_markRoot _ _
  rw [hunits, map_path_prepare, units_collect, List.map_filterMap]
  refine List.filterMap_congr fun p _ => ?_
  cases hlatest : latest? files p with
  | none => rfl
  | some u =>
    obtain ⟨f, -, rfl⟩ := Option.map_eq_some_iff.1 hlatest
    rfl

/-- What is wrong with a batch as such: a warning for every file that is replaced, and what there
is for every component. -/
theorem prepare_snd : (prepare files o).2 = (collect [] files).2
    ++ (componentPaths (prepare files o).1).filterMap
      (collision? (componentPaths (prepare files o).1)) := by
  have hnodup : (componentPaths (collect [] files).1).Nodup := by
    refine List.Nodup.sublist (List.filter_sublist.map _) ?_
    rw [map_path_collect]
    exact nodup_eraseDups _
  have hpaths : componentPaths (prepare files o).1 = componentPaths (collect [] files).1 :=
    componentPaths_markRoot _ _
  rw [hpaths]
  exact congrArg _ (@typeCollisions_eq _ [] [] (fun _ => rfl) hnodup)

/-- Everything that is reported for a component is a collision. -/
theorem code_of_collision {paths : List Bytes} {d : Diagnostic}
    (h : d ∈ paths.filterMap (collision? paths)) :
    d.code = ofString "TPL0110" ∧ d.severity = .error := by
  obtain ⟨p, -, h⟩ := List.mem_filterMap.1 h
  obtain ⟨first, -, h⟩ := Option.bind_eq_some_iff.1 h
  split at h
  · cases h
  · cases h
    exact ⟨rfl, rfl⟩

/-- Everything else is a warning about a file that is replaced. -/
theorem code_of_mem_collect {d : Diagnostic} (h : d ∈ (collect units files).2) :
    d.code = ofString "TPL0109" ∧ d.severity = .warning := by
  obtain ⟨p, rfl⟩ := mem_collect h
  exact ⟨rfl, rfl⟩

theorem code_duplicate_ne_collision : ofString "TPL0109" ≠ ofString "TPL0110" := by decide

/-- Every file is in the batch or is warned about. -/
theorem countP_duplicate_prepare :
    ((prepare files o).2.countP fun d => d.code = ofString "TPL0109" ∧ d.severity = .warning)
      + (prepare files o).1.length = files.length := by
  have hunits : (prepare files o).1.length = (collect [] files).1.length := List.length_mapIdx
  rw [prepare_snd, List.countP_append, List.countP_eq_length.2, List.countP_eq_zero.2, hunits]
  · exact length_collect [] files
  · intro d hd
    simp [(code_of_collision hd).1, code_duplicate_ne_collision.symm]
  · exact fun d hd => decide_eq_true (code_of_mem_collect _ hd)

/-- The collisions in a batch. -/
theorem filter_collision_prepare :
    ((prepare files o).2.filter fun d => d.code = ofString "TPL0110")
      = (componentPaths (prepare files o).1).filterMap
        (collision? (componentPaths (prepare files o).1)) := by
  have hnone : ((collect [] files).2.filter fun d => d.code = ofString "TPL0110") = [] := by
    refine List.filter_eq_nil_iff.2 fun d hd => ?_
    simpa [(code_of_mem_collect _ hd).1] using code_duplicate_ne_collision
  rw [prepare_snd, List.filter_append, hnone, List.nil_append]
  exact List.filter_eq_self.2 fun d hd => decide_eq_true (code_of_collision hd).1

/-- Two components of a batch have one type exactly if that is an error. -/
theorem exists_collision_prepare_iff :
    (∃ d ∈ (prepare files o).2, d.code = ofString "TPL0110" ∧ d.severity = .error)
      ↔ ∃ p ∈ componentPaths (prepare files o).1, ∃ q ∈ componentPaths (prepare files o).1,
        p ≠ q ∧ Naming.typeName p = Naming.typeName q := by
  rw [← exists_collision_iff, ← filter_collision_prepare]
  constructor
  · rintro ⟨d, hd, hcode, -⟩
    exact ⟨d, List.mem_filter.2 ⟨hd, decide_eq_true hcode⟩⟩
  · rintro ⟨d, hd⟩
    have hcollision := hd
    rw [filter_collision_prepare] at hcollision
    exact ⟨d, (List.mem_filter.1 hd).1, code_of_collision hcollision⟩

end Batches

/-- **A batch is made of the last file of each path.** Its units have the paths of its files, each
once and in the order in which they first occur, and every further file of a path is warned about.
Its root is the component that is asked for, or else the first one, and every component with the
type of one in front of it is an error. -/
theorem prepared_batch (files : List SourceFile) (o : Options) :
    let units := (prepare files o).1
    let found := (prepare files o).2
    let paths := componentPaths units
    ((units.map SourceUnit.path).Nodup
      ∧ units.map SourceUnit.path = (files.map fun f => normalizePath f.path).eraseDups
      ∧ units.map unmarked = (units.map SourceUnit.path).filterMap (latest? files))
    ∧ (found.countP fun d => d.code = ofString "TPL0109" ∧ d.severity = .warning) + units.length
        = files.length
    ∧ ((units.filter fun u => u.role = .root).map SourceUnit.path
        = (rootPath? paths o.rootPath).toList
      ∧ (∀ u ∈ units, u.role = .root → u.isComponent)
      ∧ ((∃ u ∈ units, u.role = .root) ↔ ∃ u ∈ units, u.isComponent))
    ∧ ((∃ d ∈ found, d.code = ofString "TPL0110" ∧ d.severity = .error)
        ↔ ∃ p ∈ paths, ∃ q ∈ paths, p ≠ q ∧ Naming.typeName p = Naming.typeName q)
    ∧ (found.filter fun d => d.code = ofString "TPL0110")
        = paths.filterMap (collision? paths) := by
  intro units found paths
  have hnodup : ((collect [] files).1.map SourceUnit.path).Nodup := by
    rw [map_path_collect]
    exact nodup_eraseDups _
  have hroot : (units.filter fun u => u.role = .root).map SourceUnit.path
      = (rootPath? paths o.rootPath).toList := by
    rw [show paths = componentPaths (collect [] files).1 from componentPaths_markRoot _ _]
    exact map_path_filter_root _ _
  exact ⟨⟨nodup_map_path_prepare files o, map_path_prepare files o, map_unmarked_prepare files o⟩,
    countP_duplicate_prepare files o,
    ⟨hroot, fun u hu => isComponent_of_root hnodup hu, exists_root_iff _ _⟩,
    exists_collision_prepare_iff files o, filter_collision_prepare files o⟩

end Stencil.Compile
