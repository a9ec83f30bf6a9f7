import Mathlib.Logic.Relation
import Stencil.Proofs.Generated.Expansion
import Stencil.Proofs.Generated.Remarks

/-!
# Cycles of includes are found

Splicing looks for cycles along one chain at a time: an include is refused if its target is
the unit itself or is being spliced. What one would like to know is a matter of the whole
graph of includes, `Splice.Includes`, in which a unit leads to the components that it
includes anywhere in its markup. This module shows that the two agree, in both directions
and without a bound on anything.

A refused include does lie on a cycle, for every unit on the chain leads to the innermost
one (`Splice.Expands.reachesCycle`). For the converse there is no need to look for the cycle.
A unit from which a cycle can be reached includes another such unit; if splicing refused
nothing, it would follow these includes for ever, and a walk that comes to an end does not
(`Splice.Expands.exists_cycle`).

The complaints of a unit also come from its source, from the imports units and from component
tags. Of these only component tags hide anything: what stands in a component without child
content is not looked at. So the result is about units without them.
-/

namespace Stencil

open Bytes Relation

namespace Splice

/-! ## The graph of includes -/

/-- The markup of the unit at a path: what was read for the unit that code is generated for,
and the text of any other component. -/
def bodyAt (ix : UnitIndex) (self input p : Bytes) : List Node :=
  if p = self then (Document.read input).1.body
  else
    match ix.component? p with
    | some u => (Document.read u.text).1.body
    | none => []

/-- **One unit includes another**: anywhere in the markup of the unit at `p` there is an include
that leads, from the directory of `p`, to the component `q`. -/
def Includes (ix : UnitIndex) (self input p q : Bytes) : Prop :=
  (ix.component? q).isSome
    ∧ ∃ path ∈ Node.includesAll (bodyAt ix self input p), includeTarget (Path.dir p) path = q

/-- **A cycle of includes can be reached** from the unit at `p`. -/
def ReachesCycle (ix : UnitIndex) (self input p : Bytes) : Prop :=
  ∃ q, ReflTransGen (Includes ix self input) p q ∧ TransGen (Includes ix self input) q q

section Graph

variable {ix : UnitIndex} {self input p target path : Bytes} {chain : List Bytes} {line : Nat}
  {x : Piece} {u : SourceUnit}

theorem bodyAt_self (ix : UnitIndex) (self input : Bytes) :
    bodyAt ix self input self = (Document.read input).1.body := if_pos rfl

/-- The markup of a component that can be spliced. -/
theorem bodyAt_of_component (hself : target ≠ self) (hu : ix.component? target = some u) :
    bodyAt ix self input target = (Document.read u.text).1.body := by
  rw [bodyAt, if_neg hself, hu]

/-- From a unit from which a cycle can be reached, an include leads to another one. -/
theorem ReachesCycle.exists_includes (h : ReachesCycle ix self input p) :
    ∃ q, Includes ix self input p q ∧ ReachesCycle ix self input q := by
  obtain ⟨q, hreach, hcycle⟩ := h
  obtain rfl | ⟨r, hstep, hrest⟩ := hreach.cases_head
  · obtain ⟨r, hstep, hrest⟩ := TransGen.head'_iff.1 hcycle
    exact ⟨r, hstep, p, hrest, hcycle⟩
  · exact ⟨r, hstep, q, hrest, hcycle⟩

end Graph

end Splice

/-! ## The faults of one include -/

section Faults

variable {f : Bytes → Nat → Piece} {path : Bytes}

mutual

/-- The faults of what an include becomes are faults of the tree it stands in. -/
theorem Node.exists_faults_subset : ∀ n : Node, path ∈ n.includes →
    ∃ line, (f path line).faults ⊆ (n.pieces f).faults
  | .text .., hp | .expr .., hp => absurd hp List.not_mem_nil
  | .splice _ line, hp => ⟨line, by rw [List.mem_singleton.1 hp]; exact List.Subset.refl _⟩
  | .loop _ body _ _, hp => Node.exists_faultsAll_subset body hp
  | .choice branches otherwise _ _, hp => by
    obtain hp | hp := List.mem_append.1 hp
    · obtain ⟨line, hline⟩ := Branch.exists_faultsAll_subset branches hp
      exact ⟨line, List.Subset.trans hline (List.subset_append_left _ _)⟩
    · obtain ⟨line, hline⟩ := Node.exists_faultsAll_subset otherwise hp
      exact ⟨line, List.Subset.trans hline (List.subset_append_right _ _)⟩
  | .element _ _ children _ _ _, hp => Node.exists_faultsAll_subset children hp

theorem Node.exists_faultsAll_subset : ∀ ns : List Node, path ∈ Node.includesAll ns →
    ∃ line, (f path line).faults ⊆ Piece.faultsAll (Node.piecesAll f ns)
  | [], hp => absurd hp List.not_mem_nil
  | n :: ns, hp => by
    obtain hp | hp := List.mem_append.1 hp
    · obtain ⟨line, hline⟩ := Node.exists_faults_subset n hp
      exact ⟨line, List.Subset.trans hline (List.subset_append_left _ _)⟩
    · obtain ⟨line, hline⟩ := Node.exists_faultsAll_subset ns hp
      exact ⟨line, List.Subset.trans hline (List.subset_append_right _ _)⟩

theorem Branch.exists_faultsAll_subset : ∀ bs : List Branch, path ∈ Branch.includesAll bs →
    ∃ line, (f path line).faults ⊆ PieceBranch.faultsAll (Branch.piecesAll f bs)
  | [], hp => absurd hp List.not_mem_nil
  | .mk _ body _ :: bs, hp => by
    obtain hp | hp := List.mem_append.1 hp
    · obtain ⟨line, hline⟩ := Node.exists_faultsAll_subset body hp
      exact ⟨line, List.Subset.trans hline (List.subset_append_left _ _)⟩
    · obtain ⟨line, hline⟩ := Branch.exists_faultsAll_subset bs hp
      exact ⟨line, List.Subset.trans hline (List.subset_append_right _ _)⟩

end

end Faults

/-! ## Refused includes and cycles -/

namespace Splice

variable {ix : UnitIndex} {self input path : Bytes} {chain : List Bytes} {line : Nat} {x : Piece}

/-- **A cycle that can be reached is found**: the walk refuses some include, or it would not
have come to an end. -/
theorem Expands.exists_cycle (h : Expands ix self chain path line x)
    (hsome : (ix.component? (includeTarget (Path.dir (current self chain)) path)).isSome)
    (hcycle : ReachesCycle ix self input (includeTarget (Path.dir (current self chain)) path)) :
    ∃ fault ∈ x.faults, fault.code = "TPL0302" := by
  induction h with
  | broken _ hfault =>
    obtain ⟨hnone, -⟩ | ⟨-, -, hcode⟩ := obstacle?_eq_some hfault
    · rw [Option.isNone_iff_eq_none.1 hnone] at hsome
      cases hsome
    · exact ⟨_, List.mem_singleton_self _, hcode⟩
  | @spliced chain path target line u f _ htarget hnone hu _ ih =>
    -- one of the includes in the unit leads on towards the cycle, and all of them are spliced
    rw [htarget] at hcycle
    obtain ⟨q, ⟨hq, path', hpath', hleads⟩, hrest⟩ := hcycle.exists_includes
    rw [bodyAt_of_component (obstacle?_eq_none_iff.1 hnone).2.1 hu] at hpath'
    obtain ⟨line', hsub⟩ := Node.exists_faultsAll_subset (f := f) _ hpath'
    rw [← hleads] at hq hrest
    rw [← current_concat self chain target] at hq hrest
    obtain ⟨fault, hfault, hcode⟩ := ih path' hpath' line' hq hrest
    exact ⟨fault, hsub hfault, hcode⟩

/-- **A refused include lies on a cycle**: where every unit on the chain leads to the innermost
one, an include that leads back to the chain closes a cycle. -/
theorem Expands.reachesCycle (h : Expands ix self chain path line x)
    (hpath : path ∈ Node.includesAll (bodyAt ix self input (current self chain)))
    (hwalk : ∀ t ∈ self :: chain, ReflTransGen (Includes ix self input) self t
      ∧ ReflTransGen (Includes ix self input) t (current self chain)) :
    ∀ fault ∈ x.faults, fault.code = "TPL0302" → ReachesCycle ix self input self := by
  induction h with
  | broken _ hfault =>
    intro fault hmem hcode
    rw [List.mem_singleton.1 hmem] at hcode
    obtain ⟨-, hother⟩ | ⟨hsome, hback, -⟩ := obstacle?_eq_some hfault
    · exact absurd hcode hother
    · -- the target leads to where it is included from
      obtain ⟨hreach, hleads⟩ := hwalk _ (List.mem_cons.2 hback)
      exact ⟨_, hreach, .tail' hleads ⟨hsome, _, hpath, rfl⟩⟩
  | @spliced chain path target line u f _ htarget hnone hu _ ih =>
    obtain ⟨hsome, hself, -⟩ := obstacle?_eq_none_iff.1 hnone
    have hstep : Includes ix self input (current self chain) target :=
      ⟨hsome, path, hpath, htarget⟩
    -- what led to the unit that includes leads to the included one in one more step
    have hwalk' : ∀ t ∈ self :: (chain ++ [target]), ReflTransGen (Includes ix self input) self t
        ∧ ReflTransGen (Includes ix self input) t target := by
      rw [← List.cons_append]
      refine List.forall_mem_append.2 ⟨fun t ht => ?_, List.forall_mem_singleton.2 ⟨?_, .refl⟩⟩
      · exact ⟨(hwalk t ht).1, (hwalk t ht).2.tail hstep⟩
      · exact (hwalk self List.mem_cons_self).2.tail hstep
    refine Node.forall_faults_piecesAll _ fun path' hpath' line' => ih path' hpath' line' ?_ ?_
    · rw [current_concat, bodyAt_of_component hself hu]
      exact hpath'
    · rw [current_concat]
      exact hwalk'

/-- **Splicing finds a cycle if and only if there is one** that can be reached. -/
theorem Terminates.exists_cycle_iff (h : Terminates ix self input) :
    (∃ fault ∈ Piece.faultsAll (expand ix self input (Document.read input).1.body),
      fault.code = "TPL0302") ↔ ReachesCycle ix self input self := by
  constructor
  · rintro ⟨fault, hfault, hcode⟩
    have hfaults : ∀ fault ∈ Piece.faultsAll (expand ix self input (Document.read input).1.body),
        fault.code = "TPL0302" → ReachesCycle ix self input self := by
      refine Node.forall_faults_piecesAll _ fun path hpath line => ?_
      refine (h.expands path hpath line).reachesCycle ?_ ?_
      · rwa [current_nil, bodyAt_self]
      · exact List.forall_mem_singleton.2 ⟨.refl, .refl⟩
    exact hfaults fault hfault hcode
  · intro hcycle
    obtain ⟨q, ⟨hq, path, hpath, hleads⟩, hrest⟩ := hcycle.exists_includes
    rw [bodyAt_self] at hpath
    obtain ⟨line, hsub⟩ := Node.exists_faultsAll_subset
      (f := includePiece ix self (depthBound ix self input) []) _ hpath
    rw [← hleads] at hq hrest
    obtain ⟨fault, hfault, hcode⟩ := (h.expands path hpath line).exists_cycle hq hrest
    exact ⟨fault, hsub hfault, hcode⟩

end Splice

/-! ## Cycles among the diagnostics -/

/-- A source alone has no cycle. -/
theorem Fault.code_ne_of_ofSource {fault : Fault} (h : fault.ofSource = true) :
    fault.code ≠ "TPL0302" := by
  cases fault <;> first | exact absurd h Bool.false_ne_true | (dsimp only [Fault.code]; decide)

/-- Units without component tags become plain pieces. -/
theorem Splice.plain_includePiece {ix : UnitIndex}
    (hplain : ∀ v ∈ ix.units, v.isComponent = true → Node.AllPlain (Document.read v.text).1.body)
    (self : Bytes) (depth : Nat) (chain : List Bytes) (path : Bytes) (line : Nat) :
    (includePiece ix self depth chain path line).Plain := by
  induction depth generalizing chain path line with
  | zero => trivial
  | succ depth ih =>
    unfold includePiece
    dsimp only
    split
    · next u _ hu =>
      obtain ⟨hmem, hkind, -⟩ := UnitIndex.component?_eq_some hu
      exact Node.plain_piecesAll (ih _) _
        (Node.allWellFormed_iff.2 (Document.wellFormed_read _).body) (hplain u hmem hkind)
    · trivial
    · trivial

/-- **Following includes comes to an end and finds the cycles.** Let every include lead to a
path in normal form. Then the walks over the includes of a unit come to an end, with a chain
that never holds a unit twice, nor the unit itself, nor anything but components. If there are
no component tags, then generating the unit in full reports a cycle if and only if one can be
reached from it. The input is that of the unit, be it a component or not, and whatever the
batch has under its path. -/
theorem include_cycles_found (u : SourceUnit) (input : Bytes) (ix : UnitIndex)
    (resolver : Resolver) (package : Bytes)
    (hinput : Splice.NormalIn u.path (Document.read input).1.body)
    (hnormal : Compile.TargetsNormal ix.units) :
    Splice.Terminates ix u.path input
    ∧ (Node.AllPlain (Document.read input).1.body →
      (∀ v ∈ ix.units, v.isComponent = true → Node.AllPlain (Document.read v.text).1.body) →
      ((∃ d ∈ (Generate.unit u input .full ix resolver package).diagnostics, d.code = "TPL0302")
        ↔ Splice.ReachesCycle ix u.path input u.path)) := by
  have hends := Splice.terminates hinput hnormal
  refine ⟨hends, fun hbody hunits => ?_⟩
  have hplain : Piece.AllPlain (Splice.expand ix u.path input (Document.read input).1.body) :=
    Node.plain_piecesAll (Splice.plain_includePiece hunits u.path _ []) _
      (Node.allWellFormed_iff.2 (Document.wellFormed_read input).body) hbody
  rw [← hends.exists_cycle_iff, Generate.diagnostics_unit, Generate.findings_body_full,
    Document.body_inheritImports]
  generalize ((Document.read input).1.inheritImports ix u.path input).1.imports = imports
  rw [← Piece.map_fault_remarksAll { imports, resolver } _ none hplain]
  generalize Piece.remarksAll _ _ _ = remarks
  constructor
  · rintro ⟨d, hd, hcode⟩
    obtain hd | hd := List.mem_append.1 hd
    · -- neither the source nor an imports unit has a cycle by itself
      obtain hd | hd := List.mem_append.1 hd
      · obtain ⟨f, hf, rfl⟩ := List.mem_map.1 hd
        exact absurd hcode (Fault.code_ne_of_ofSource (Document.ofSource_of_mem_read _ f hf))
      · obtain ⟨v, -, f, hf, rfl⟩ := Document.mem_inheritImports.1 hd
        exact absurd hcode (Fault.code_ne_of_ofSource (Document.ofSource_of_mem_read _ f hf))
    · rw [List.map_map] at hd
      obtain ⟨r, hr, rfl⟩ := List.mem_map.1 hd
      exact ⟨r.fault, List.mem_map_of_mem hr, hcode⟩
  · rintro ⟨fault, hfault, hcode⟩
    obtain ⟨r, hr, rfl⟩ := List.mem_map.1 hfault
    exact ⟨r.finding.diagnostic u.path, List.mem_append_right _
      (List.mem_map_of_mem (List.mem_map_of_mem hr)), hcode⟩

/-- A unit that includes another one, which includes itself: the cycle does not go through the
unit, and is reported for it all the same. -/
theorem include_cycles_found_behind :
    let p : SourceUnit := ⟨"/p", "@include \"/a\"", .component, .component⟩
    let a : SourceUnit := ⟨"/a", "@include \"/a\"", .component, .component⟩
    Splice.NormalIn p.path (Document.read p.text).1.body ∧ Compile.TargetsNormal [p, a] ∧
      ∃ d ∈ (Generate.unit p p.text .full ⟨[p, a]⟩ (fun _ _ => none) []).diagnostics,
        d.code = "TPL0302" := by
  intro p a
  have hpath : SourceUnit.normalizePath "/a" = "/a" :=
    (SourceUnit.normalizePath_cons (by decide) (by decide) []).trans (by decide)
  have htarget : ∀ dir, includeTarget dir "/a" = "/a" := fun _ => hpath
  have hread : (Document.read "@include \"/a\"").1.body = [.splice "/a" 1] :=
    congrArg (fun r => r.1.body) (Document.read_include (q := "/a\"") (by decide))
  have hincludes : ∀ path ∈ Node.includesAll (Document.read "@include \"/a\"").1.body,
      path = "/a" := by
    rw [hread]
    exact fun path hp => List.mem_singleton.1 hp
  have hnormal : ∀ v : Bytes, Splice.NormalIn v (Document.read "@include \"/a\"").1.body := by
    intro v path hp
    rw [hincludes path hp, htarget]
    exact hpath
  have hunits : Compile.TargetsNormal [p, a] :=
    List.forall_mem_cons.2
      ⟨fun _ => hnormal "/p", List.forall_mem_singleton.2 fun _ => hnormal "/a"⟩
  have hplain : Node.AllPlain (Document.read "@include \"/a\"").1.body := by
    rw [hread]
    exact ⟨trivial, trivial⟩
  have hcomponent : UnitIndex.component? ⟨[p, a]⟩ "/a" = some a := by
    unfold UnitIndex.component? UnitIndex.resolve
    rw [hpath]
    decide
  have hmem : ("/a" : Bytes) ∈ Node.includesAll (Document.read "@include \"/a\"").1.body := by
    rw [hread]
    exact List.mem_singleton_self _
  have hfirst : Splice.Includes ⟨[p, a]⟩ p.path p.text p.path "/a" :=
    ⟨by rw [hcomponent]; rfl, "/a", by rw [Splice.bodyAt_self]; exact hmem, htarget _⟩
  have hagain : Splice.Includes ⟨[p, a]⟩ p.path p.text "/a" "/a" :=
    ⟨by rw [hcomponent]; rfl, "/a",
      by rw [Splice.bodyAt_of_component (by decide) hcomponent]; exact hmem, htarget _⟩
  refine ⟨hnormal "/p", hunits, ?_⟩
  obtain ⟨-, hfound⟩ := include_cycles_found p p.text ⟨[p, a]⟩ (fun _ _ => none) []
    (hnormal "/p") hunits
  exact (hfound hplain (List.forall_mem_cons.2 ⟨fun _ => hplain,
    List.forall_mem_singleton.2 fun _ => hplain⟩)).2 ⟨"/a", .single hfirst, .single hagain⟩

end Stencil
