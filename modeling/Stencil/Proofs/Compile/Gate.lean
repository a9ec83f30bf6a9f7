import Stencil.Proofs.Compile.Outcome
import Stencil.Proofs.Generated.Includes
import Stencil.Proofs.Generated.Modes
import Stencil.Proofs.Text.Path

/-!
# The declaration pass as a gate

A batch whose declarations have no errors is compiled in full. That is only sensible if the
full pass cannot fail for a reason that the declaration pass should have seen. It reads the
same sources and the same imports units, so their faults are the same; but it splices, and
goes from include to include with the directory of the unit it is in, while the declaration
pass only looks at the includes of each unit by themselves.

The bridge is `Compile.IncludesFound`: in every component of the batch, every include finds
a component. The declarations establish it, one unit at a time, and the full pass, which
only ever splices components of the batch, never leaves it. So no include is missing, and
what remains are cycles, and arguments of components, which declarations know nothing
about.
-/

namespace Stencil

open Bytes

/-- The component that an index finds is a unit of it, at the normal form of the path. -/
theorem UnitIndex.component?_eq_some {ix : UnitIndex} {p : Bytes} {u : SourceUnit}
    (h : ix.component? p = some u) :
    u ∈ ix.units ∧ u.isComponent = true ∧ u.path = SourceUnit.normalizePath p := by
  obtain ⟨hfind, hkind⟩ := Option.filter_eq_some_iff.1 h
  have hpath := List.find?_some hfind
  exact ⟨List.mem_reverse.1 (List.mem_of_find?_eq_some hfind), hkind, by simpa using hpath⟩

namespace Compile

/-- **Every include target of a batch is in normal form.** -/
def TargetsNormal (units : List SourceUnit) : Prop :=
  ∀ u ∈ units, u.isComponent = true →
    ∀ path ∈ Node.includesAll (Document.read u.text).1.body,
      SourceUnit.normalizePath (includeTarget u.dir path) = includeTarget u.dir path

/-- **Every include in a component of a batch finds a component.** -/
def IncludesFound (ix : UnitIndex) : Prop :=
  ∀ u ∈ ix.units, u.isComponent = true →
    ∀ path ∈ Node.includesAll (Document.read u.text).1.body,
      (ix.component? (includeTarget u.dir path)).isSome

/-- **Splicing a batch whose includes are found fails at cycles only.** The chain of
includes leads to the unit `u`, which includes the path. -/
theorem includeCycle_of_includesFound {ix : UnitIndex} (hnormal : TargetsNormal ix.units)
    (hfound : IncludesFound ix) (self : Bytes) (depth : Nat) :
    ∀ (chain : List Bytes), ∀ u ∈ ix.units, u.isComponent = true →
      Splice.currentDir (Path.dir self) chain = u.dir →
      ∀ path ∈ Node.includesAll (Document.read u.text).1.body, ∀ line,
        ∀ fault ∈ (Splice.includePiece ix self depth chain path line).faults,
          fault.code = "TPL0302" := by
  induction depth with
  | zero =>
    intro chain u hu hkind hdir path hpath line fault hfault
    rw [List.mem_singleton.1 hfault]
    rfl
  | succ depth ih =>
    intro chain u hu hkind hdir path hpath line fault hfault
    unfold Splice.includePiece at hfault
    dsimp only at hfault
    rw [hdir] at hfault
    have hsome := hfound u hu hkind path hpath
    have htarget := hnormal u hu hkind path hpath
    generalize includeTarget u.dir path = target at hfault hsome htarget
    split at hfault
    · next v hobstacle hv =>
      -- the included unit is in the batch, and its own directory is the one to go on from
      obtain ⟨hmem, hvkind, hvpath⟩ := UnitIndex.component?_eq_some hv
      have hvdir : Splice.currentDir (Path.dir self) (chain ++ [target]) = v.dir := by
        unfold Splice.currentDir SourceUnit.dir
        rw [List.getLast?_concat, hvpath, htarget]
      exact Node.forall_faults_piecesAll _
        (fun path' hpath' line' => ih (chain ++ [target]) v hmem hvkind hvdir path' hpath' line')
        fault hfault
    · next found _ hobstacle =>
      rw [List.mem_singleton.1 hfault]
      unfold Splice.obstacle? at hobstacle
      split_ifs at hobstacle with h
      · rw [Option.isNone_iff_eq_none] at h
        rw [h] at hsome
        exact absurd hsome (by decide)
      · cases hobstacle
        rfl
      · cases hobstacle
        rfl
    · next hnone =>
      rw [hnone] at hsome
      exact absurd hsome (by decide)

/-! ## The two passes over a unit -/

/-- A pass that is not cancelled gives the code of each component. -/
theorem pass_eq_ok {stop : Interrupts} {units : List SourceUnit} {mode : Mode}
    {resolver : Resolver} {o : Options} {gs : List GeneratedUnit}
    (h : pass stop units mode resolver o = .ok gs) :
    gs = (units.filter SourceUnit.isComponent).map (generate units mode resolver o) := by
  unfold pass at h
  cases hpass : stop.check (.beforePass mode) (passName mode) with
  | error e =>
    rw [hpass] at h
    cases h
  | ok _ =>
    rw [hpass] at h
    dsimp only at h
    cases hunits : (List.range (units.filter SourceUnit.isComponent).length).forM fun i =>
        stop.check (.beforeUnit mode i) (passName mode) with
    | error e =>
      rw [hunits] at h
      cases h
    | ok _ =>
      rw [hunits] at h
      cases h
      rfl

/-- A pass that nobody cancels gives the code of each component. -/
theorem pass_never (units : List SourceUnit) (mode : Mode) (resolver : Resolver) (o : Options) :
    pass .never units mode resolver o
      = .ok ((units.filter SourceUnit.isComponent).map (generate units mode resolver o)) := by
  have hunits : ∀ is : List Nat, (is.forM fun i =>
      Interrupts.never.check (.beforeUnit mode i) (passName mode)) = .ok () := by
    intro is
    induction is with
    | nil => rfl
    | cons i is ih => exact ih
  show ((List.range (units.filter SourceUnit.isComponent).length).forM fun i =>
    Interrupts.never.check (.beforeUnit mode i) (passName mode)).bind (fun _ => .ok _) = _
  rw [hunits]
  rfl

/-- What is wrong with a unit: its text, the imports units that apply to it, and its body. -/
theorem diagnostics_generate (units : List SourceUnit) (mode : Mode) (resolver : Resolver)
    (o : Options) (u : SourceUnit) :
    (generate units mode resolver o u).diagnostics
      = (Document.read (u.input o.rootRoute)).2.map (Finding.diagnostic u.path)
        ++ ((Document.read (u.input o.rootRoute)).1.inheritImports ⟨units⟩ u.path
          (u.input o.rootRoute)).2
        ++ (Generate.body mode resolver ⟨units⟩ u.path (u.input o.rootRoute)
          (u.document (u.input o.rootRoute) ⟨units⟩)).findings.map (Finding.diagnostic u.path) := by
  unfold generate Generate.unit SourceUnit.document
  dsimp only

/-- The declaration of a unit has no errors. -/
def Clean (units : List SourceUnit) (o : Options) (u : SourceUnit) : Prop :=
  ∀ d ∈ (generate units .declaration (fun _ _ => none) o u).diagnostics, d.severity ≠ .error

section Clean

variable {units : List SourceUnit} {o : Options} {u : SourceUnit}

/-- A root whose declaration has no errors is served under a route. -/
theorem Clean.route_ne_nil (h : Clean units o u) (hroot : u.role = .root) : o.rootRoute ≠ [] := by
  intro hroute
  refine h (Finding.diagnostic u.path ⟨1, .noRoute⟩) ?_ rfl
  rw [diagnostics_generate]
  refine List.mem_append_left _ (List.mem_append_left _ (List.mem_map_of_mem ?_))
  unfold SourceUnit.input
  rw [hroot, hroute]
  exact Document.noRoute_mem_read u.text

/-- **Units whose declarations have no errors have no missing includes.** -/
theorem includesFound_of_clean
    (h : ∀ u ∈ units, u.isComponent = true → Clean units o u) : IncludesFound ⟨units⟩ := by
  intro u hu hkind path hpath
  have hclean := h u hu hkind
  have hinput := u.includes_input hclean.route_ne_nil
  have hfindings : ∀ f ∈ Node.includeFindingsAll ⟨units⟩ u.path
      (Document.read (u.input o.rootRoute)).1.body, f.fault.severity ≠ .error := by
    intro f hf
    refine hclean (f.diagnostic u.path) ?_
    rw [diagnostics_generate]
    exact List.mem_append_right _ (List.mem_map_of_mem hf)
  have hnone := Node.obstacle_eq_none_all _ hfindings path (hinput ▸ hpath)
  cases hfound : UnitIndex.component? ⟨units⟩ (includeTarget u.dir path) with
  | some v => rfl
  | none =>
    have hobstacle : Splice.obstacle? ⟨units⟩ u.path [] (includeTarget u.dir path)
        = some (.includeNotFound (includeTarget u.dir path)) := by
      unfold Splice.obstacle?
      rw [hfound]
      rfl
    exact absurd (hobstacle.symm.trans hnone) (Option.some_ne_none _)

/-- **The full pass over a unit that declares without errors** has errors at cycles of
includes and at arguments of components only. -/
theorem Clean.code_of_error (h : Clean units o u) (hu : u ∈ units) (hkind : u.isComponent = true)
    (hnormal : TargetsNormal units) (hfound : IncludesFound ⟨units⟩) (resolver : Resolver) :
    ∀ d ∈ (generate units .full resolver o u).diagnostics, d.severity = .error →
      d.code = "TPL0203" ∨ d.code = "TPL0302" := by
  intro d hd herror
  rw [diagnostics_generate] at hd
  obtain hd | hd := List.mem_append.1 hd
  · -- what is wrong with the sources is wrong in both passes
    refine absurd herror (h d ?_)
    rw [diagnostics_generate]
    exact List.mem_append_left _ hd
  · obtain ⟨f, hf, rfl⟩ := List.mem_map.1 hd
    obtain hf | hf := List.mem_append.1 hf
    · obtain hcode | hfault := Piece.blames_renderAll _ _ _ f hf herror
      · exact .inl hcode
      · have hcycle : ∀ path ∈ Node.includesAll (Document.read (u.input o.rootRoute)).1.body,
            ∀ line, ∀ fault ∈ (Splice.includePiece ⟨units⟩ u.path
              (Splice.depthBound ⟨units⟩ u.path (u.input o.rootRoute)) [] path line).faults,
              fault.code = "TPL0302" := fun path hpath =>
          includeCycle_of_includesFound hnormal hfound u.path _ [] u hu hkind rfl path
            (u.includes_input h.route_ne_nil ▸ hpath)
        exact .inr (Node.forall_faults_piecesAll _ hcycle f.fault hfault)
    · exact absurd hf List.not_mem_nil

end Clean

end Compile

/-- **A clean declaration pass is a sound gate.** Let every include target of a batch be in
normal form. If the declarations have no errors, then the full pass has none but unknown
arguments of components and cycles of includes, whatever references there are and whether
or not the declarations became a temporary module. -/
theorem declarations_gate (files : List SourceFile) (o : Compile.Options)
    (stop stop' : Interrupts) (refs : List Reference) (temp : Option Reference)
    (declared resolved : List GeneratedUnit)
    (hnormal : Compile.TargetsNormal (Compile.prepare files o).1)
    (hdeclared : Compile.declare stop (Compile.prepare files o).1 o = .ok declared)
    (hclean : Diagnostic.hasErrors (Compile.diagnosticsOf declared) = false)
    (hresolved : Compile.resolve stop' (Compile.prepare files o).1 refs temp o = .ok resolved) :
    ∀ d ∈ Compile.diagnosticsOf resolved, d.severity = .error →
      d.code = "TPL0203" ∨ d.code = "TPL0302" := by
  generalize (Compile.prepare files o).1 = units at hnormal hdeclared hresolved
  have hunits : ∀ u ∈ units, u.isComponent = true → Compile.Clean units o u := by
    intro u hu hkind d hd herror
    have hmem : d ∈ Compile.diagnosticsOf declared := by
      rw [Compile.pass_eq_ok hdeclared]
      exact List.mem_flatMap.2
        ⟨_, List.mem_map_of_mem (List.mem_filter.2 ⟨hu, hkind⟩), hd⟩
    have herrors := (Diagnostic.hasErrors_iff _).2 ⟨d, hmem, herror⟩
    rw [hclean] at herrors
    exact Bool.false_ne_true herrors
  intro d hd herror
  rw [Compile.pass_eq_ok hresolved] at hd
  obtain ⟨g, hg, hd⟩ := List.mem_flatMap.1 hd
  obtain ⟨u, hu, rfl⟩ := List.mem_map.1 hg
  obtain ⟨hu, hkind⟩ := List.mem_filter.1 hu
  exact (hunits u hu hkind).code_of_error hu hkind hnormal
    (Compile.includesFound_of_clean hunits) _ d hd herror

/-- The declaration of a unit that is read as an include which can be spliced, and to which
no imports units apply, has nothing wrong. -/
theorem Compile.diagnostics_include {units : List SourceUnit} {o : Options} (u : SourceUnit)
    {path : Bytes} {line : Nat} (hchain : UnitIndex.importsChain ⟨units⟩ u.path = [])
    (hfound : (Document.read (u.input o.rootRoute)).2 = [])
    (hbody : (Document.read (u.input o.rootRoute)).1.body = [.splice path line])
    (hnone : Splice.obstacle? ⟨units⟩ u.path [] (includeTarget (Path.dir u.path) path) = none) :
    (generate units .declaration (fun _ _ => none) o u).diagnostics = [] := by
  have himports : ∀ d : Document,
      (d.inheritImports ⟨units⟩ u.path (u.input o.rootRoute)).2 = [] := by
    intro d
    unfold Document.inheritImports
    rw [hchain]
    rfl
  have hincludes : Node.includeFindingsAll ⟨units⟩ u.path
      (Document.read (u.input o.rootRoute)).1.body = [] := by
    rw [hbody, Node.includeFindingsAll, Node.includeFindings, hnone]
    rfl
  have hrender : (Generate.body .declaration (fun _ _ => none) ⟨units⟩ u.path (u.input o.rootRoute)
      (u.document (u.input o.rootRoute) ⟨units⟩)).findings = [] := hincludes
  rw [diagnostics_generate, himports, hrender, hfound]
  rfl

/-! ## Two units that include each other -/

namespace Circle

/-- The root, which includes the other unit. -/
def a : SourceUnit := ⟨"/a", "@include \"/b\"", .component, .root⟩

/-- The unit that includes the root. -/
def b : SourceUnit := ⟨"/b", "@include \"/a\"", .component, .component⟩

/-- Their files. -/
def files : List SourceFile := [⟨"/a", "@include \"/b\""⟩, ⟨"/b", "@include \"/a\""⟩]

/-- The paths of the units, and that of the imports unit they do not have, are in normal form. -/
theorem normalizePath_eq : ∀ p ∈ [("/a" : Bytes), "/b", "/_Imports.tmpl"],
    SourceUnit.normalizePath p = p := by
  refine List.forall_mem_cons.2 ⟨?_, List.forall_mem_cons.2 ⟨?_, List.forall_mem_singleton.2 ?_⟩⟩
  · exact (SourceUnit.normalizePath_cons (by decide) (by decide) []).trans (by decide)
  · exact (SourceUnit.normalizePath_cons (by decide) (by decide) []).trans (by decide)
  · exact (SourceUnit.normalizePath_cons (by decide) (by decide) "_Imports.tmp").trans (by decide)

/-- The batch as such has nothing wrong: the units have types of their own. -/
theorem prepare_eq : Compile.prepare files {} = ([a, b], []) := by
  have ha : SourceUnit.ofFile "/a" "@include \"/b\"" = { a with role := .component } := by
    unfold SourceUnit.ofFile
    rw [normalizePath_eq "/a" (by decide)]
    decide
  have hb : SourceUnit.ofFile "/b" "@include \"/a\"" = b := by
    unfold SourceUnit.ofFile
    rw [normalizePath_eq "/b" (by decide)]
    decide
  have hcollect : Compile.collect [] files = ([{ a with role := .component }, b], []) := by
    unfold files Compile.collect Compile.collect Compile.collect
    rw [ha, hb]
    decide
  have htypes : Compile.typeCollisions [] [a, b] = [] := by
    have hne : Naming.typeName "/a" ≠ Naming.typeName "/b" := by
      cbv
      decide
    simp [Compile.typeCollisions, SourceUnit.isComponent, a, b, hne]
  unfold Compile.prepare
  rw [hcollect]
  exact Prod.ext (by decide) htypes

theorem read_a : Document.read a.text = ({ body := [.splice "/b" 1] }, []) :=
  Document.read_include (q := "/b\"") (by decide)

theorem read_b : Document.read b.text = ({ body := [.splice "/a" 1] }, []) :=
  Document.read_include (q := "/a\"") (by decide)

/-- The root is read below its route. -/
theorem read_input_a : Document.read (a.input "/")
    = ({ page := some ⟨"/", 1⟩, body := [.splice "/b" 2] }, []) := by
  refine (Document.read_routeDirective (by decide) a.text).trans ?_
  rw [read_a]
  rfl

theorem includeTarget_a (dir : Bytes) : includeTarget dir "/a" = "/a" :=
  normalizePath_eq "/a" (by decide)

theorem includeTarget_b (dir : Bytes) : includeTarget dir "/b" = "/b" :=
  normalizePath_eq "/b" (by decide)

theorem targetsNormal : Compile.TargetsNormal [a, b] := by
  refine List.forall_mem_cons.2
    ⟨fun _ path hp => ?_, List.forall_mem_singleton.2 fun _ path hp => ?_⟩
  · rw [read_a] at hp
    obtain rfl := List.mem_singleton.1 hp
    rw [includeTarget_b]
    exact normalizePath_eq "/b" (by decide)
  · rw [read_b] at hp
    obtain rfl := List.mem_singleton.1 hp
    rw [includeTarget_a]
    exact normalizePath_eq "/a" (by decide)

theorem importsChain_eq {p : Bytes} (hp : p ∈ [("/a" : Bytes), "/b"]) :
    UnitIndex.importsChain ⟨[a, b]⟩ p = [] := by
  have hdown : UnitIndex.pathsDown "/" (Path.segments (Path.dir p)) = [("/" : Bytes)] := by
    revert p
    decide
  have hinside : UnitIndex.inside "/" SourceUnit.importsFileName = "/_Imports.tmpl" := by decide
  unfold UnitIndex.importsChain
  rw [normalizePath_eq p (by revert p; decide)]
  dsimp only
  rw [hdown]
  unfold UnitIndex.resolve
  simp only [List.filterMap_cons, List.filterMap_nil]
  rw [hinside, normalizePath_eq "/_Imports.tmpl" (by decide)]
  decide

theorem obstacle?_eq : Splice.obstacle? ⟨[a, b]⟩ "/a" [] "/b" = none
    ∧ Splice.obstacle? ⟨[a, b]⟩ "/b" [] "/a" = none := by
  unfold Splice.obstacle? UnitIndex.component? UnitIndex.resolve
  rw [normalizePath_eq "/a" (by decide), normalizePath_eq "/b" (by decide)]
  decide

/-- A declaration does not look further than its own include. -/
theorem diagnostics_eq : ∀ u ∈ [a, b],
    (Compile.generate [a, b] .declaration (fun _ _ => none) {} u).diagnostics = [] := by
  refine List.forall_mem_cons.2 ⟨?_, List.forall_mem_singleton.2 ?_⟩
  · refine Compile.diagnostics_include a (importsChain_eq (by decide))
      (congrArg Prod.snd read_input_a) (congrArg (fun r => r.1.body) read_input_a) ?_
    rw [includeTarget_b]
    exact obstacle?_eq.1
  · refine Compile.diagnostics_include b (importsChain_eq (by decide))
      (congrArg Prod.snd read_b) (congrArg (fun r => r.1.body) read_b) ?_
    rw [includeTarget_a]
    exact obstacle?_eq.2

/-- So the declarations of the batch have nothing wrong either. -/
theorem hasErrors_declared :
    Diagnostic.hasErrors (Compile.diagnosticsOf (([a, b].filter SourceUnit.isComponent).map
      (Compile.generate [a, b] .declaration (fun _ _ => none) {}))) = false := by
  have hnone : Compile.diagnosticsOf (([a, b].filter SourceUnit.isComponent).map
      (Compile.generate [a, b] .declaration (fun _ _ => none) {})) = [] :=
    List.flatMap_eq_nil_iff.2 (List.forall_mem_map.2 fun u hu =>
      diagnostics_eq u (List.mem_filter.1 hu).1)
  rw [hnone]
  rfl

end Circle

/-- Two units that include each other have declarations without errors, so the gate is open,
and it is left to the full pass to find the cycle. -/
theorem declarations_gate_cycle :
    let units := (Compile.prepare
      [⟨"/a", "@include \"/b\""⟩, ⟨"/b", "@include \"/a\""⟩] {}).1
    ∀ d ∈ Compile.diagnosticsOf ((units.filter SourceUnit.isComponent).map
        (Compile.generate units .full (Compile.shapesOf [] none).component? {})),
      d.severity = .error → d.code = "TPL0203" ∨ d.code = "TPL0302" := by
  intro units
  have hunits : units = [Circle.a, Circle.b] := congrArg Prod.fst Circle.prepare_eq
  have hnormal : Compile.TargetsNormal units := by
    rw [hunits]
    exact Circle.targetsNormal
  have herrors : Diagnostic.hasErrors (Compile.diagnosticsOf
      ((units.filter SourceUnit.isComponent).map
        (Compile.generate units .declaration (fun _ _ => none) {}))) = false := by
    rw [hunits]
    exact Circle.hasErrors_declared
  exact declarations_gate _ {} .never .never [] none _ _ hnormal (Compile.pass_never _ _ _ _)
    herrors (Compile.pass_never _ _ _ _)

end Stencil
