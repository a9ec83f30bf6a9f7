import Stencil.Proofs.Text.PathBelow
import Stencil.Watch.Sources

/-!
# Which sources a watch sees

Two things have to happen before a change of a source is noticed. Its directory must be watched,
and the path that is reported must pass the filters. Three rules say what is hidden: collecting
sources and watching directories look at the name of each directory *below* the one they start
from, collecting looks at the name of the file, and a filter looks at every segment of the path
that is reported, those of the starting directory included.

Both walks go the same way (`reachedAll`), so sources are collected only from directories that are
watched, and below the start the rules agree. What is left is the start itself: **a source is
watched and reported exactly if it is collected and the starting directory has no hidden segment**
(`watched_and_reported_iff`). Below a hidden directory, sources are collected that no report is
ever accepted of.
-/

namespace Stencil

open Bytes

/-! ## Names in a tree -/

instance (s : Bytes) : Decidable (Path.Proper s) :=
  decidable_of_iff (s ≠ [] ∧ s ≠ "." ∧ s ≠ ".." ∧ slash ∉ s)
    ⟨fun ⟨hnil, hdot, hdots, hslash⟩ => ⟨hnil, hdot, hdots, hslash⟩,
      fun h => ⟨h.ne_nil, h.ne_dot, h.ne_dots, h.slash_not_mem⟩⟩

namespace FileNode

mutual

/-- Whether the names at and below a node are names that files have. -/
def isProper : FileNode → Bool
  | .file name _ => decide (Path.Proper name)
  | .dir name children => decide (Path.Proper name) && areProper children

/-- Whether the names at and below some nodes are names that files have. -/
def areProper : List FileNode → Bool
  | [] => true
  | n :: ns => isProper n && areProper ns

end

theorem isProper_of_mem {ns : List FileNode} (h : areProper ns = true) {n : FileNode}
    (hn : n ∈ ns) : n.isProper = true := by
  induction ns with
  | nil => cases hn
  | cons m ns ih =>
    rw [areProper, Bool.and_eq_true] at h
    rcases List.mem_cons.1 hn with rfl | hn
    · exact h.1
    · exact ih h.2 hn

theorem proper_name {n : FileNode} (h : n.isProper = true) : Path.Proper n.name := by
  cases n with
  | file name text => exact of_decide_eq_true h
  | dir name children =>
    rw [isProper, Bool.and_eq_true] at h
    exact of_decide_eq_true h.1

variable {x d : Bytes} {ns : List FileNode} {names : List Bytes} {m : FileNode}

/-- The first name leads to a node, and the others lead on from there. -/
theorem at?_cons (h : (FileNode.dir x ns).at? (d :: names) = some m) :
    ∃ c ∈ ns, c.name = d ∧ c.at? names = some m := by
  rw [at?] at h
  cases hfind : ns.find? fun c => c.name = d with
  | none => simp [hfind] at h
  | some c =>
    rw [hfind] at h
    exact ⟨c, List.mem_of_find?_eq_some hfind, by simpa using List.find?_some hfind, h⟩

/-- A node with something below it is a directory. -/
theorem eq_dir_of_at? {c : FileNode} (h : c.at? (d :: names) = some m) :
    ∃ children, c = .dir c.name children := by
  cases c with
  | file name text => cases h
  | dir name children => exact ⟨children, rfl⟩

theorem proper_of_at? (hns : areProper ns = true)
    (h : (FileNode.dir x ns).at? names = some m) : ∀ s ∈ names, Path.Proper s := by
  induction names generalizing x ns with
  | nil => exact List.forall_mem_nil _
  | cons d names ih =>
    obtain ⟨c, hc, rfl, hat⟩ := at?_cons h
    have hproper := isProper_of_mem hns hc
    refine List.forall_mem_cons.2 ⟨proper_name hproper, ?_⟩
    cases names with
    | nil => exact List.forall_mem_nil _
    | cons d' names =>
      obtain ⟨children, heq⟩ := eq_dir_of_at? hat
      rw [heq] at hat hproper
      rw [isProper, Bool.and_eq_true] at hproper
      exact ih hproper.2 hat

end FileNode

namespace Watch

/-! ## The walk -/

mutual

/-- What a walk that leaves out hidden directories reaches at and below a node, with the names
that lead there. -/
def reached : FileNode → List (List Bytes × FileNode)
  | .file name text => [([name], .file name text)]
  | .dir name children =>
    if isHiddenDir name then []
    else ([name], .dir name children) :: (reachedAll children).map fun p => (name :: p.1, p.2)

/-- What such a walk reaches at and below some nodes. -/
def reachedAll : List FileNode → List (List Bytes × FileNode)
  | [] => []
  | n :: ns => reached n ++ reachedAll ns

end

/-- The source at a place that a walk from a directory reaches. -/
def sourceAt? (path rel : Bytes) : List Bytes × FileNode → Option SourceFile
  | (names, .file name text) =>
    if isSource (names.foldl Path.joinTwo path) && isVisible name then
      some ⟨rel ++ Path.rooted names, text⟩
    else none
  | (_, .dir _ _) => none

/-- The directory at a place that a walk from a directory reaches. -/
def dirAt? (path : Bytes) : List Bytes × FileNode → Option Bytes
  | (_, .file _ _) => none
  | (names, .dir _ _) => some (names.foldl Path.joinTwo path)

theorem sourceAt?_cons (path rel name : Bytes) (p : List Bytes × FileNode) :
    sourceAt? path rel (name :: p.1, p.2)
      = sourceAt? (Path.joinTwo path name) (rel ++ [slash] ++ name) p := by
  obtain ⟨names, n⟩ := p
  cases n with
  | file name text => simp [sourceAt?, Path.rooted]
  | dir name children => rfl

theorem dirAt?_cons (path name : Bytes) (p : List Bytes × FileNode) :
    dirAt? path (name :: p.1, p.2) = dirAt? (Path.joinTwo path name) p := by
  obtain ⟨names, n⟩ := p
  cases n <;> rfl

mutual

theorem sourcesAt_eq (path rel : Bytes) :
    ∀ n, sourcesAt path rel n = (reached n).filterMap (sourceAt? path rel)
  | .file name text => by
    have hrel : rel ++ [slash] ++ name = rel ++ Path.rooted [name] := by simp [Path.rooted]
    rw [sourcesAt, reached, hrel]
    cases hwanted : isSource (Path.joinTwo path name) && isVisible name <;>
      simp only [sourceAt?, List.filterMap_cons, List.filterMap_nil, List.foldl_cons,
        List.foldl_nil, hwanted, Bool.false_eq_true, if_true, if_false]
  | .dir name children => by
    rw [sourcesAt, reached]
    split
    · rfl
    · rw [List.filterMap_cons_none rfl, List.filterMap_map, sourcesAtAll_eq]
      exact List.filterMap_congr fun p _ => (sourceAt?_cons path rel name p).symm

/-- **Sources are collected in the course of the walk.** -/
theorem sourcesAtAll_eq (path rel : Bytes) :
    ∀ ns, sourcesAtAll path rel ns = (reachedAll ns).filterMap (sourceAt? path rel)
  | [] => rfl
  | n :: ns => by
    rw [sourcesAtAll, reachedAll, List.filterMap_append, sourcesAt_eq, sourcesAtAll_eq]

end

mutual

theorem dirsAt_eq (path : Bytes) : ∀ n, dirsAt path n = (reached n).filterMap (dirAt? path)
  | .file name text => rfl
  | .dir name children => by
    rw [dirsAt, reached]
    split
    · rfl
    · have hdir : dirAt? path ([name], .dir name children) = some (Path.joinTwo path name) := rfl
      rw [List.filterMap_cons_some hdir, List.filterMap_map, dirsAtAll_eq]
      exact congrArg _ (List.filterMap_congr fun p _ => (dirAt?_cons path name p).symm)

/-- **Directories are watched in the course of the same walk.** -/
theorem dirsAtAll_eq (path : Bytes) :
    ∀ ns, dirsAtAll path ns = (reachedAll ns).filterMap (dirAt? path)
  | [] => rfl
  | n :: ns => by
    rw [dirsAtAll, reachedAll, List.filterMap_append, dirsAt_eq, dirsAtAll_eq]

end

/-! ## Where the walk gets -/

variable {x : Bytes} {ns : List FileNode} {names dirs : List Bytes} {m : FileNode}

theorem mem_reachedAll {p : List Bytes × FileNode} :
    p ∈ reachedAll ns ↔ ∃ n ∈ ns, p ∈ reached n := by
  induction ns with
  | nil => simp [reachedAll]
  | cons n ns ih => simp [reachedAll, ih]

theorem mem_reached_dir {name : Bytes} {children : List FileNode} :
    (names, m) ∈ reached (.dir name children) ↔ isHiddenDir name = false
      ∧ (names = [name] ∧ m = .dir name children
        ∨ ∃ rest, names = name :: rest ∧ (rest, m) ∈ reachedAll children) := by
  rw [reached]
  cases isHiddenDir name with
  | true => simp
  | false =>
    simp only [Bool.false_eq_true, if_false, List.mem_cons, Prod.mk.injEq, List.mem_map,
      true_and, Prod.exists]
    grind

/-- The walk goes through no hidden directory, and gets to none. -/
theorem visible_of_mem_reachedAll (h : (names, m) ∈ reachedAll ns) :
    ∃ dirs, names = dirs ++ [m.name] ∧ (∀ d ∈ dirs, isHiddenDir d = false)
      ∧ (m.isDir = true → isHiddenDir m.name = false) := by
  induction names generalizing ns with
  | nil =>
    obtain ⟨n, -, hn⟩ := mem_reachedAll.1 h
    cases n with
    | file name text => simp [reached] at hn
    | dir name children => simp [mem_reached_dir] at hn
  | cons d names ih =>
    obtain ⟨n, -, hn⟩ := mem_reachedAll.1 h
    cases n with
    | file name text =>
      obtain ⟨⟨rfl, rfl⟩, rfl⟩ : (d = name ∧ names = []) ∧ m = .file name text := by
        simpa [reached] using hn
      exact ⟨[], rfl, List.forall_mem_nil _, fun hd => nomatch hd⟩
    | dir name children =>
      obtain ⟨hvisible, ⟨heq, rfl⟩ | ⟨rest, heq, hrest⟩⟩ := mem_reached_dir.1 hn
      · exact ⟨[], heq, List.forall_mem_nil _, fun _ => hvisible⟩
      · obtain ⟨rfl, rfl⟩ := List.cons.inj heq
        obtain ⟨dirs, rfl, hdirs, hm⟩ := ih hrest
        exact ⟨d :: dirs, rfl, List.forall_mem_cons.2 ⟨hvisible, hdirs⟩, hm⟩

theorem proper_of_mem_reachedAll (hns : FileNode.areProper ns = true)
    (h : (names, m) ∈ reachedAll ns) : ∀ s ∈ names, Path.Proper s := by
  induction names generalizing ns with
  | nil => exact List.forall_mem_nil _
  | cons d names ih =>
    obtain ⟨n, hmem, hn⟩ := mem_reachedAll.1 h
    have hproper := FileNode.isProper_of_mem hns hmem
    have hname := FileNode.proper_name hproper
    cases n with
    | file name text =>
      obtain ⟨⟨rfl, rfl⟩, -⟩ : (d = name ∧ names = []) ∧ m = .file name text := by
        simpa [reached] using hn
      exact List.forall_mem_singleton.2 hname
    | dir name children =>
      rw [FileNode.isProper, Bool.and_eq_true] at hproper
      obtain ⟨-, ⟨heq, -⟩ | ⟨rest, heq, hrest⟩⟩ := mem_reached_dir.1 hn
      · rw [heq]
        exact List.forall_mem_singleton.2 hname
      · obtain ⟨rfl, rfl⟩ := List.cons.inj heq
        exact List.forall_mem_cons.2 ⟨hname, ih hproper.2 hrest⟩

/-- **The walk gets everywhere** where no hidden directory is on the way, and to the directory
before. -/
theorem mem_reachedAll_of_at? {name text : Bytes} (hdirs : ∀ d ∈ dirs, isHiddenDir d = false)
    (h : (FileNode.dir x ns).at? (dirs ++ [name]) = some (.file name text)) :
    (dirs ++ [name], .file name text) ∈ reachedAll ns
      ∧ (dirs ≠ [] → ∃ d children, (dirs, .dir d children) ∈ reachedAll ns) := by
  induction dirs generalizing x ns with
  | nil =>
    obtain ⟨c, hc, -, hat⟩ := FileNode.at?_cons h
    obtain rfl : c = .file name text := Option.some.inj hat
    exact ⟨mem_reachedAll.2 ⟨_, hc, List.mem_singleton_self _⟩, fun hne => absurd rfl hne⟩
  | cons d dirs ih =>
    obtain ⟨hd, hrest⟩ := List.forall_mem_cons.1 hdirs
    obtain ⟨c, hc, rfl, hat⟩ := FileNode.at?_cons h
    obtain ⟨children, heq⟩ : ∃ children, c = .dir c.name children := by
      cases dirs <;> exact FileNode.eq_dir_of_at? hat
    generalize c.name = d at heq hd ⊢
    subst heq
    obtain ⟨hfile, hdir⟩ := ih hrest hat
    refine ⟨mem_reachedAll.2 ⟨_, hc, mem_reached_dir.2 ⟨hd, .inr ⟨_, rfl, hfile⟩⟩⟩, fun _ => ?_⟩
    by_cases hne : dirs = []
    · subst hne
      exact ⟨d, children, mem_reachedAll.2 ⟨_, hc, mem_reached_dir.2 ⟨hd, .inl ⟨rfl, rfl⟩⟩⟩⟩
    · obtain ⟨d', children', hmem⟩ := hdir hne
      exact ⟨d', children',
        mem_reachedAll.2 ⟨_, hc, mem_reached_dir.2 ⟨hd, .inr ⟨_, rfl, hmem⟩⟩⟩⟩

/-! ## Hidden names -/

/-- Below the start, a directory is hidden if its name hides what is below it. -/
theorem isHiddenPart_eq {s : Bytes} (h : Path.Proper s) : isHiddenPart s = isHiddenDir s := by
  unfold isHiddenPart isHiddenDir
  rcases s with _ | ⟨c, _ | ⟨c', s⟩⟩
  · rfl
  · have hc : c ≠ ch '.' := fun heq => h.ne_dot (by rw [heq]; rfl)
    simpa using hc
  · simp [h.ne_dots]

theorem isHiddenPart_of_not_isSolid {s : Bytes} (h : Path.isSolid s = false) :
    isHiddenPart s = false := by
  have hskip : s = [] ∨ s = Bytes.ofString "." := by
    simpa [Path.isSolid, imp_iff_or_not, or_comm] using h
  rcases hskip with rfl | rfl <;> decide

/-- Only the pieces that count can hide something. -/
theorem any_isHiddenPart_splitOn (p : Bytes) :
    (splitOn slash p).any isHiddenPart = (Path.pieces p).any isHiddenPart := by
  rw [Path.pieces, List.any_filter]
  congr 1
  funext s
  cases hs : Path.isSolid s with
  | true => rw [Bool.true_and]
  | false => rw [isHiddenPart_of_not_isSolid hs, Bool.false_and]

/-- Whether the name of a file is not one that an editor gives to its own files. -/
def isKept (name : Bytes) : Bool := name.getLast? ≠ some (ch '~') && name.head? ≠ some (ch '#')

variable {rooted : Bool} {ss : List Bytes} {name : Bytes}

/-- The filters look at all segments of a path, and at the last one in particular. -/
theorem isVisible_ofParts (hss : Path.Settled rooted (ss ++ [name])) (hname : Path.Proper name) :
    isVisible (Path.ofParts rooted (ss ++ [name]))
      = (!ss.any isHiddenPart && !isHiddenPart name && isKept name) := by
  rw [isVisible, any_isHiddenPart_splitOn, hss.pieces_ofParts,
    Path.base_ofParts_concat rooted ss hname, List.any_append]
  simp [isKept, Bool.and_assoc]

theorem isSource_ofParts (hname : slash ∉ name) :
    isSource (Path.ofParts rooted (ss ++ [name])) = isSource name := by
  rw [isSource, Path.ext_ofParts_concat rooted ss hname, isSource]

/-! ## What is collected, watched and reported -/

variable {text : Bytes} {children : List FileNode}

/-- **A report is accepted** if nothing on the path is hidden, the start included. -/
theorem ofReport?_isSome_iff (hroot : Path.Settled rooted ss)
    (hnames : ∀ s ∈ dirs ++ [name], Path.Proper s) (modifiedAt : Option Int) (size : Int64)
    (bits : Nat) :
    (Change.ofReport? filters
        ⟨Path.ofParts rooted (ss ++ (dirs ++ [name])), modifiedAt, size⟩ bits).isSome = true
      ↔ isSource name = true ∧ ss.any isHiddenPart = false ∧ (∀ d ∈ dirs, isHiddenDir d = false)
        ∧ isVisible name = true := by
  obtain ⟨hdirs, hname⟩ := List.forall_mem_append.1 hnames
  have hproper := hname name (List.mem_singleton_self name)
  have hvisible : isVisible name = (!isHiddenPart name && isKept name) := by
    have hself : Path.Settled false ([] ++ [name]) :=
      ⟨List.forall_mem_singleton.2 ⟨hproper.isSolid, hproper.slash_not_mem⟩,
        Path.foldl_step_proper hname false []⟩
    exact isVisible_ofParts hself hproper
  have hbelow : dirs.any isHiddenPart = false ↔ ∀ d ∈ dirs, isHiddenDir d = false := by
    rw [List.any_eq_false]
    exact forall₂_congr fun d hd => by rw [isHiddenPart_eq (hdirs d hd), Bool.not_eq_true]
  have hpath : Path.Settled rooted ((ss ++ dirs) ++ [name]) := (hroot.append hdirs).append hname
  unfold Change.ofReport?
  rw [← List.append_assoc]
  simp only [filters, List.all_cons, List.all_nil, Bool.and_true,
    isSource_ofParts hproper.slash_not_mem, isVisible_ofParts hpath hproper, List.any_append]
  rw [← hbelow, hvisible, Option.isSome_ite]
  simp [and_assoc]

/-- Where a file is does not matter for whether it is a source. -/
theorem isSource_foldl_joinTwo (hroot : Path.Settled rooted ss)
    (hnames : ∀ s ∈ dirs ++ [name], Path.Proper s) :
    isSource ((dirs ++ [name]).foldl Path.joinTwo (Path.ofParts rooted ss)) = isSource name := by
  rw [hroot.foldl_joinTwo hnames, ← List.append_assoc]
  exact isSource_ofParts (hnames name (by simp)).slash_not_mem

section

variable (hroot : Path.Settled rooted ss) (hchildren : FileNode.areProper children = true)
  (hfile : (FileNode.dir x children).at? (dirs ++ [name]) = some (.file name text))

include hroot hchildren hfile

/-- **A source is collected** if no directory on the way to it is hidden, and its own name is that
of a source and says nothing to the contrary. -/
theorem mem_sourcesAtAll_iff :
    (⟨Path.rooted (dirs ++ [name]), text⟩ : SourceFile)
        ∈ sourcesAtAll (Path.ofParts rooted ss) [] children
      ↔ (∀ d ∈ dirs, isHiddenDir d = false) ∧ isSource name = true ∧ isVisible name = true := by
  have hproper := FileNode.proper_of_at? hchildren hfile
  rw [sourcesAtAll_eq, List.mem_filterMap]
  constructor
  · rintro ⟨⟨names, n⟩, hreached, hat⟩
    cases n with
    | dir name' children' => cases hat
    | file name' text' =>
      have hproper' := proper_of_mem_reachedAll hchildren hreached
      obtain ⟨dirs', rfl, hdirs', -⟩ := visible_of_mem_reachedAll hreached
      simp only [FileNode.name] at hproper' hat
      rw [sourceAt?, isSource_foldl_joinTwo hroot hproper', List.nil_append] at hat
      split at hat
      · next hwanted =>
        -- the names are those of the file, since they are written down the same way
        have hnames := Path.rooted_inj (fun s hs => (hproper' s hs).slash_not_mem)
          (fun s hs => (hproper s hs).slash_not_mem)
          (congrArg SourceFile.path (Option.some.inj hat))
        obtain ⟨rfl, heq⟩ := List.append_inj' hnames rfl
        obtain rfl := List.singleton_inj.1 heq
        exact ⟨hdirs', by simpa using hwanted⟩
      · cases hat
  · rintro ⟨hdirs, hwanted⟩
    refine ⟨_, (mem_reachedAll_of_at? hdirs hfile).1, ?_⟩
    rw [sourceAt?, isSource_foldl_joinTwo hroot hproper, if_pos (by simpa using hwanted),
      List.nil_append]

/-- **The directory of a file is watched** if no directory on the way to it is hidden. -/
theorem mem_dirsAtAll_iff :
    Path.ofParts rooted (ss ++ dirs)
        ∈ Path.ofParts rooted ss :: dirsAtAll (Path.ofParts rooted ss) children
      ↔ ∀ d ∈ dirs, isHiddenDir d = false := by
  have hproper : ∀ s ∈ dirs, Path.Proper s := fun s hs =>
    FileNode.proper_of_at? hchildren hfile s (List.mem_append_left _ hs)
  rw [dirsAtAll_eq, List.mem_cons, List.mem_filterMap]
  constructor
  · rintro (hstart | ⟨⟨names, n⟩, hreached, hat⟩)
    · have hnil : dirs = [] := by
        refine hroot.ofParts_append_inj hproper (List.forall_mem_nil _) ?_
        rw [List.append_nil]
        exact hstart
      rw [hnil]
      exact List.forall_mem_nil _
    · cases n with
      | file name' text' => cases hat
      | dir name' children' =>
        have hproper' := proper_of_mem_reachedAll hchildren hreached
        obtain ⟨dirs', hnames, hdirs', hlast⟩ := visible_of_mem_reachedAll hreached
        have hpath := Option.some.inj hat
        rw [hroot.foldl_joinTwo hproper'] at hpath
        obtain rfl := hroot.ofParts_append_inj hproper' hproper hpath
        rw [hnames]
        exact List.forall_mem_append.2 ⟨hdirs', List.forall_mem_singleton.2 (hlast rfl)⟩
  · intro hdirs
    by_cases hnil : dirs = []
    · exact .inl (by rw [hnil, List.append_nil])
    · obtain ⟨d, children', hmem⟩ := (mem_reachedAll_of_at? hdirs hfile).2 hnil
      exact .inr ⟨_, hmem, congrArg some (hroot.foldl_joinTwo hproper)⟩

end

theorem eq_clean_of_openDir {f : Files} {root path : Bytes}
    (h : openDir f root = .ok (path, children)) : path = Path.clean root := by
  unfold openDir at h
  split at h
  · cases h
  · dsimp only at h
    split at h <;> cases h
    rfl

/-- **A source is watched and reported exactly if it is collected and the start has no hidden
segment.**

For a directory that can be opened, and a file that some names lead to below it: its directory is
watched and what is reported of it passes the filters, if and only if the file is among the
sources that are collected and no segment of the path of the directory is hidden. When the file was
written to and how large it is does not matter. -/
theorem watched_and_reported_iff (f : Files) {root path : Bytes}
    (hroot : openDir f root = .ok (path, children))
    (hchildren : FileNode.areProper children = true)
    (hfile : (FileNode.dir [] children).at? (dirs ++ [name]) = some (.file name text))
    (modifiedAt : Option Int) (size : Int64) (bits : Nat) :
    ∃ sources watched, collectSources f root = .ok sources ∧ watchedDirs f root = .ok watched
      ∧ ((Path.joinTwo path (join [slash] dirs) ∈ watched
          ∧ (Change.ofReport? filters
              ⟨Path.joinTwo path (join [slash] (dirs ++ [name])), modifiedAt, size⟩ bits).isSome
                = true)
        ↔ ((⟨slash :: join [slash] (dirs ++ [name]), text⟩ : SourceFile) ∈ sources
          ∧ (Path.segments root).any isHiddenPart = false)) := by
  refine ⟨sourcesAtAll path [] children, path :: dirsAtAll path children, ?_, ?_, ?_⟩
  · rw [collectSources, hroot]
  · rw [watchedDirs, hroot]
  · have hsettled := Path.settled_segments root
    have hproper := FileNode.proper_of_at? hchildren hfile
    have hrooted : slash :: join [slash] (dirs ++ [name]) = Path.rooted (dirs ++ [name]) :=
      Path.ofSegments_eq_rooted (List.append_ne_nil_of_right_ne_nil _ (List.cons_ne_nil _ _))
    obtain rfl := eq_clean_of_openDir hroot
    rw [Path.clean_eq_ofParts, hsettled.joinTwo_join (List.forall_mem_append.1 hproper).1,
      hsettled.joinTwo_join hproper, hrooted, mem_dirsAtAll_iff hsettled hchildren hfile,
      ofReport?_isSome_iff hsettled hproper, mem_sourcesAtAll_iff hsettled hchildren hfile]
    constructor
    · rintro ⟨hdirs, hsource, hstart, -, hvisible⟩
      exact ⟨⟨hdirs, hsource, hvisible⟩, hstart⟩
    · rintro ⟨⟨hdirs, hsource, hvisible⟩, hstart⟩
      exact ⟨hdirs, hsource, hstart, hdirs, hvisible⟩

/-- A directory with a page in a directory of its own. -/
def sampleFiles : Files := { entries := [.dir "ui" [.dir "pages" [.file "A.tmpl" "<p>"]]] }

theorem watched_and_reported_page :
    openDir sampleFiles "./ui/" = .ok ("ui", [.dir "pages" [.file "A.tmpl" "<p>"]])
      ∧ ∃ sources watched, collectSources sampleFiles "./ui/" = .ok sources
        ∧ watchedDirs sampleFiles "./ui/" = .ok watched
        ∧ (Path.joinTwo "ui" "pages" ∈ watched
            ∧ (Change.ofReport? filters ⟨Path.joinTwo "ui" "pages/A.tmpl", some 5, 3⟩ 2).isSome
              = true
          ↔ (⟨"/pages/A.tmpl", "<p>"⟩ : SourceFile) ∈ sources
            ∧ (Path.segments "./ui/").any isHiddenPart = false) := by
  have hopen : openDir sampleFiles "./ui/"
      = .ok ("ui", [.dir "pages" [.file "A.tmpl" "<p>"]]) := rfl
  have hfile : (FileNode.dir [] [.dir "pages" [.file "A.tmpl" "<p>"]]).at? (["pages"] ++ ["A.tmpl"])
      = some (.file "A.tmpl" "<p>") := rfl
  exact ⟨hopen, watched_and_reported_iff sampleFiles hopen (by decide) hfile (some 5) 3 2⟩

/-- A page in a hidden directory. -/
def hiddenFiles : Files := { entries := [.dir ".work" [.file "A.tmpl" "<p>"]] }

/-- Below a hidden directory, a source is collected and its directory watched, but no report of it
is accepted. -/
theorem hidden_page_not_reported :
    collectSources hiddenFiles ".work" = .ok [⟨"/A.tmpl", "<p>"⟩]
      ∧ watchedDirs hiddenFiles ".work" = .ok [".work"]
      ∧ Path.joinTwo ".work" "A.tmpl" = ".work/A.tmpl"
      ∧ Change.ofReport? filters ".work/A.tmpl" 2 = none :=
  ⟨rfl, rfl, by decide, by decide⟩

end Watch

end Stencil
