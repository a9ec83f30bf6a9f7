import Mathlib.Data.List.Nodup
import Stencil.Proofs.Compile.Prepared
import Stencil.Proofs.Generated.Alignment
import Stencil.Proofs.Generated.Origins
import Stencil.Proofs.Template.Injection
import Stencil.Proofs.Text.Path

/-!
# Where errors of the host language are shown

The host tools know generated files and their lines. A file is traced back by its name, and
names of files are made from paths of units, so this only works because a batch has no two
units of one path (`Compile.Batch`). A line is traced back through the source map, which
counts lines of the text that was read, and loses the line that was put in front of a root.

`host_error_located` is what comes out: whatever line of whatever generated file an error
is reported at, its diagnostic names the unit and no line, or a line that the unit has.
-/

namespace Stencil

open Bytes

/-! ## The units of a batch -/

namespace Path

theorem isAbs_iff {p : Bytes} : isAbs p ↔ ∃ rest, p = slash :: rest := by
  cases p with
  | nil => simp [isAbs, startsWith, dropPrefix?]
  | cons c rest =>
    by_cases h : slash = c
    · subst h
      simp [isAbs, startsWith, dropPrefix?]
    · simp [isAbs, startsWith, dropPrefix?, h, Ne.symm h]

/-- The shortest form of a path that starts at the root starts there too. -/
theorem isAbs_clean {p : Bytes} (h : isAbs p) : isAbs (clean p) := by
  unfold clean
  rw [if_pos h]
  exact isAbs_iff.2 ⟨_, rfl⟩

end Path

theorem SourceUnit.isAbs_normalizePath (p : Bytes) : Path.isAbs (normalizePath p) :=
  Path.isAbs_clean (Path.isAbs_iff.2 ⟨_, rfl⟩)

/-- Files of different units have different names. -/
theorem Naming.fileName_inj {p q : Bytes} (hp : Path.isAbs p) (hq : Path.isAbs q)
    (h : fileName p = fileName q) : p = q := by
  obtain ⟨p, rfl⟩ := Path.isAbs_iff.1 hp
  obtain ⟨q, rfl⟩ := Path.isAbs_iff.1 hq
  exact congrArg _ (List.append_cancel_right h)

namespace Compile

/-- **The units of a batch have paths of their own**, which start at the root. -/
structure Batch (units : List SourceUnit) : Prop where
  distinct : (units.map SourceUnit.path).Nodup
  rooted : ∀ u ∈ units, Path.isAbs u.path

/-- **Preparing files gives a batch**, whatever their paths are. -/
theorem batch_prepare (files : List SourceFile) (o : Options) : Batch (prepare files o).1 where
  distinct := nodup_map_path_prepare files o
  rooted := by
    intro u hu
    have hpath : u.path ∈ (prepare files o).1.map SourceUnit.path := List.mem_map_of_mem hu
    rw [map_path_prepare, List.mem_eraseDups] at hpath
    obtain ⟨f, -, hf⟩ := List.mem_map.1 hpath
    exact hf ▸ SourceUnit.isAbs_normalizePath f.path

/-- The files that the host tools see for generated units. -/
def hostFiles (generated : List GeneratedUnit) : List GeneratedFile :=
  generated.map fun g => (EmitUnit.ofGenerated g).generatedFile

end Compile

/-- A file is found by its name if no other file has it. -/
theorem GeneratedFile.find?_name {files : List GeneratedFile} {f : GeneratedFile} (hf : f ∈ files)
    (hname : ∀ f' ∈ files, f'.name = f.name → f' = f) : find? files f.name = some f := by
  unfold find?
  cases hfound : files.reverse.find? fun f' => f'.name = f.name with
  | none =>
    have hnone := List.find?_eq_none.1 hfound f (List.mem_reverse.2 hf)
    exact absurd (decide_eq_true rfl) hnone
  | some f' =>
    have hmem := List.mem_reverse.1 (List.mem_of_find?_eq_some hfound)
    have hsame : f'.name = f.name := by simpa using List.find?_some hfound
    exact congrArg some (hname f' hmem hsame)

/-- The generated file of a unit is found by its name. -/
theorem Compile.Batch.find?_hostFiles {units : List SourceUnit} (h : Batch units) (mode : Mode)
    (resolver : Resolver) (o : Options) {u : SourceUnit}
    (hu : u ∈ units.filter SourceUnit.isComponent) :
    GeneratedFile.find? (hostFiles ((units.filter SourceUnit.isComponent).map
        (generate units mode resolver o))) (Naming.fileName u.path)
      = some (EmitUnit.ofGenerated (generate units mode resolver o u)).generatedFile := by
  refine GeneratedFile.find?_name (List.mem_map_of_mem (List.mem_map_of_mem hu)) ?_
  intro f' hf' hname
  obtain ⟨g, hg, rfl⟩ := List.mem_map.1 hf'
  obtain ⟨v, hv, rfl⟩ := List.mem_map.1 hg
  have hv := (List.mem_filter.1 hv).1
  have hu := (List.mem_filter.1 hu).1
  have hpath : v.path = u.path := Naming.fileName_inj (h.rooted v hv) (h.rooted u hu) hname
  rw [List.inj_on_of_nodup_map h.distinct hv hu hpath]

/-! ## Lines -/

/-- What is read for a unit is its text behind the lines that are put in front of it. -/
theorem SourceUnit.newlines_input (u : SourceUnit) (route : Bytes) :
    newlines (u.input route) = injectedLines u.role + newlines u.text := by
  unfold input
  cases u.role with
  | component => exact (Nat.zero_add _).symm
  | root =>
    rw [injectedLines_root]
    dsimp only
    unfold newlines
    rw [List.count_append]
    exact congrArg (· + _) (newlines_routeDirective route)

/-- A line of what was read for a unit is shown as one that its text has. -/
theorem shiftLine_bounds {o n : Nat} {role : Role}
    (h : o < SourceUnit.injectedLines role + n + 1) :
    1 ≤ shiftLine o role (SourceUnit.injectedLines role)
      ∧ shiftLine o role (SourceUnit.injectedLines role) ≤ n + 1 := by
  unfold shiftLine
  cases role with
  | component =>
    have hnone : SourceUnit.injectedLines .component = 0 := rfl
    rw [hnone] at h
    dsimp only
    omega
  | root =>
    dsimp only
    omega

/-- **The line shown for a generated line is one that the unit has**, or none. -/
theorem Compile.sourceLine_bounds (units : List SourceUnit) (mode : Mode) (resolver : Resolver)
    (o : Options) (u : SourceUnit) (line : Nat) :
    let f := (EmitUnit.ofGenerated (generate units mode resolver o u)).generatedFile
    f.sourceLine line = 0 ∨ 1 ≤ f.sourceLine line ∧ f.sourceLine line ≤ newlines u.text + 1 := by
  intro f
  have hlines := Generate.within_unit u (u.input o.rootRoute) mode ⟨units⟩ resolver o.packageName
  have hf : f.lines = some (SourceMap.ofLines (generate units mode resolver o u).lines) := rfl
  unfold GeneratedFile.sourceLine
  rw [hf]
  cases line with
  | zero =>
    dsimp only
    split <;> exact .inl rfl
  | succ i =>
    dsimp only
    rw [SourceMap.lookup_ofLines]
    cases hl : (generate units mode resolver o u).lines[i]? with
    | none => exact .inl rfl
    | some l =>
      rw [Option.bind_some]
      cases horigin : l.origin with
      | none => exact .inl rfl
      | some origin =>
        have hbound := hlines l (List.mem_of_getElem? hl) origin horigin
        rw [SourceUnit.newlines_input] at hbound
        exact .inr (shiftLine_bounds hbound)

/-- The diagnostic of an error in a known file is about the unit of the file. -/
theorem Diagnostic.ofHost_known {files : List GeneratedFile} {f : GeneratedFile} {name : Bytes}
    (h : GeneratedFile.find? files name = some f) (grammar : Bool) (line : Nat) (msg : Bytes) :
    (ofHost files grammar ⟨name, line⟩ msg).file = f.source
      ∧ (ofHost files grammar ⟨name, line⟩ msg).line = f.sourceLine line := by
  unfold ofHost
  dsimp only
  rw [h]
  exact ⟨rfl, rfl⟩

/-- **Every located error of the host language names a real line of a real unit.** Take the
files that are generated in either mode for the units of any batch. An error at any line of
one of them, reported by the type checker or by the parser, becomes one diagnostic. Its file
is the unit that the generated file is for; its line is zero, or one of the lines of that
unit's own text. -/
theorem host_error_located (files : List SourceFile) (o : Compile.Options) (mode : Mode)
    (resolver : Resolver) :
    let units := (Compile.prepare files o).1
    let generated := (units.filter SourceUnit.isComponent).map
      (Compile.generate units mode resolver o)
    let table := Compile.hostFiles generated
    ∀ g ∈ generated, g.unit ∈ units ∧ ∀ (line : Nat) (msg : Bytes),
      ∀ e ∈ [HostError.typing ⟨g.fileName, line⟩ msg, .grammar ⟨g.fileName, line⟩ msg],
        ∃ d, e.diagnostics table = [d] ∧ d.file = g.unit.path
          ∧ (d.line = 0 ∨ 1 ≤ d.line ∧ d.line ≤ newlines g.unit.text + 1) := by
  intro units generated table g hg
  obtain ⟨u, hu, rfl⟩ := List.mem_map.1 hg
  refine ⟨(List.mem_filter.1 hu).1, fun line msg e he => ?_⟩
  have hline := Compile.sourceLine_bounds units mode resolver o u line
  have hdiag := fun grammar => Diagnostic.ofHost_known
    ((Compile.batch_prepare files o).find?_hostFiles mode resolver o hu) grammar line msg
  have hlocated : ∀ grammar,
      (Diagnostic.ofHost table grammar ⟨Naming.fileName u.path, line⟩ msg).file = u.path
      ∧ ((Diagnostic.ofHost table grammar ⟨Naming.fileName u.path, line⟩ msg).line = 0
        ∨ 1 ≤ (Diagnostic.ofHost table grammar ⟨Naming.fileName u.path, line⟩ msg).line
          ∧ (Diagnostic.ofHost table grammar ⟨Naming.fileName u.path, line⟩ msg).line
            ≤ newlines u.text + 1) := by
    intro grammar
    refine ⟨(hdiag grammar).1, ?_⟩
    rw [(hdiag grammar).2]
    exact hline
  obtain rfl | he := List.mem_cons.1 he
  · exact ⟨_, rfl, hlocated false⟩
  · obtain rfl := List.mem_singleton.1 he
    exact ⟨_, rfl, hlocated true⟩

/-- A single page is a batch, which it is the root of. -/
theorem Compile.prepare_page {path : Bytes} (hpath : SourceUnit.normalizePath path = path)
    (hpage : Path.base path ≠ SourceUnit.importsFileName) (text : Bytes) :
    (prepare [⟨path, text⟩] {}).1
      = [⟨path, SourceUnit.normalizeText text, .component, .root⟩] := by
  have hunit : SourceUnit.ofFile path text
      = ⟨path, SourceUnit.normalizeText text, .component, .component⟩ := by
    unfold SourceUnit.ofFile
    rw [hpath]
    dsimp only
    rw [if_neg hpage]
  show SourceUnit.markRoot [SourceUnit.ofFile path text] [] = _
  rw [hunit]
  rfl

/-- Whatever generated line of a page of two lines an error is reported at, it is shown on
one of the two or on none. -/
theorem host_error_located_two_lines :
    let units := (Compile.prepare [⟨"/p.tmpl", "@x\ny"⟩] {}).1
    let generated := (units.filter SourceUnit.isComponent).map
      (Compile.generate units .full (fun _ _ => none) {})
    ∃ g ∈ generated, ∀ line, ∃ d,
      (HostError.typing ⟨g.fileName, line⟩ "undefined: x").diagnostics
          (Compile.hostFiles generated) = [d]
        ∧ d.file = "/p.tmpl" ∧ (d.line = 0 ∨ d.line = 1 ∨ d.line = 2) := by
  intro units generated
  have hpath : SourceUnit.normalizePath "/p.tmpl" = "/p.tmpl" :=
    (SourceUnit.normalizePath_cons (by decide) (by decide) "p.tmp").trans (by decide)
  have hunits : units = [⟨"/p.tmpl", "@x\ny", .component, .root⟩] :=
    Compile.prepare_page hpath (by decide) "@x\ny"
  have hmem : ⟨"/p.tmpl", "@x\ny", .component, .root⟩ ∈ units.filter SourceUnit.isComponent := by
    rw [hunits]
    decide
  refine ⟨_, List.mem_map_of_mem hmem, fun line => ?_⟩
  obtain ⟨d, hd, hfile, hline⟩ := (host_error_located [⟨"/p.tmpl", "@x\ny"⟩] {} .full
    (fun _ _ => none) _ (List.mem_map_of_mem hmem)).2 line "undefined: x" _ List.mem_cons_self
  refine ⟨d, hd, hfile, ?_⟩
  have hcount : newlines "@x\ny" = 1 := by decide
  have hline : d.line = 0 ∨ 1 ≤ d.line ∧ d.line ≤ newlines "@x\ny" + 1 := hline
  omega

end Stencil
