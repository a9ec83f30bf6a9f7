import Stencil.Proofs.Generated.Cycles
import Stencil.Proofs.Generated.Named

/-!
# Imports that are kept and not used

An import that is not used does not compile, so a unit inherits one only if a fragment of its
code refers to it. Fragments are collected from the included units as well, and there more is
collected than is spliced: of an included unit the markup is spliced, but the types of its
parameters and its code blocks are collected too. So an import can be kept for a parameter of
an included unit, and then nothing in the generated code is named after it
(`inherited_import_not_named`).

That is one of two ways, the other being a literal that quoting changes. There is no third way
(`kept_imports_named_or`): if there are no errors, every include that collecting follows is
spliced (`Splice.includeNamed`), so whatever else was collected stands in the code.
-/

namespace Stencil

open Bytes Relation

/-! ## Includes -/

/-- **A fragment that is collected but need not be shown**, in generating code for the unit at
`self`: one of the declarations of an included unit, or a literal of a component tag that is
not held as it is. -/
inductive Splice.Unshown (ix : UnitIndex) (self input : Bytes) : Bytes → Prop
  /-- A declaration of an included unit is not spliced. -/
  | declared {q s : Bytes} {v : SourceUnit} (hq : TransGen (Splice.Includes ix self input) self q)
      (hv : ix.component? q = some v) (hs : s ∈ (Document.read v.text).1.declared) :
      Unshown ix self input s
  /-- A literal that is quoted is changed. -/
  | literal {q s : Bytes} (hq : ReflTransGen (Splice.Includes ix self input) self q)
      (hs : s ∈ Node.literalsAll (Splice.bodyAt ix self input q)) (hchanged : ¬ Verbatim s) :
      Unshown ix self input s

/-- **What the fragments of a document refer to** is named by the lines of its body, or one of
its declarations refers to it. -/
theorem Document.names_of_refers {ctx : RenderContext} {due : Bytes → Prop} {name : Bytes}
    {f : Bytes → Nat → Piece} {g : Bytes → SpanWalk → SpanWalk}
    (hcontent : ∀ p line, (f p line).isContent = true) {src : Bytes} {pin : Option Nat}
    {w : SpanWalk} (hlit : ∀ s ∈ Node.literalsAll (read src).1.body, due s → Verbatim s)
    (hg : ∀ p ∈ Node.includesAll (read src).1.body, IncludeNamed ctx due name f g p)
    (hfine : Remark.AllFine (Piece.remarksAll ctx pin (Node.piecesAll f (read src).1.body)))
    (h : ((read src).1.walkSpans g w).Refers due name) :
    Names name (Piece.tokensAll ctx (Node.piecesAll f (read src).1.body))
      ∨ (∃ s ∈ (read src).1.declared, due s ∧ refersTo s name = true) ∨ w.Refers due name := by
  have hwalk : (read src).1.walkSpans g w = Node.walkSpansAll g (read src).1.body
      ((read src).1.declared.foldl (fun w s => w.add s) w) := by
    rw [walkSpans, declared, List.foldl_append, List.foldl_map, List.foldl_flatMap]
  rw [hwalk] at h
  rw [← SpanWalk.refers_addAll]
  exact Node.names_of_refersAll hcontent _ pin _
    (Node.allWellFormed_iff.2 (wellFormed_read src).body) hlit hg hfine h

namespace Splice

variable {ix : UnitIndex} {self input name : Bytes} {ctx : RenderContext} {due : Bytes → Prop}

/-- **What an include contributes is named by what is spliced for it**, however deep the two
walks go. -/
theorem includeNamed (hdue : ∀ s, due s → ¬ Unshown ix self input s) {depth : Nat}
    {chain : List Bytes} {path : Bytes}
    (hreach : ReflTransGen (Includes ix self input) self (current self chain))
    (hpath : path ∈ Node.includesAll (bodyAt ix self input (current self chain))) :
    IncludeNamed ctx due name (includePiece ix self depth chain)
      (Document.includeSpans ix depth (Path.dir (current self chain))) path := by
  induction depth generalizing chain path with
  | zero => exact fun _ _ _ _ h => .inr h
  | succ depth ih =>
    intro line pin w hfine h
    unfold Document.includeSpans at h
    unfold includePiece at hfine ⊢
    dsimp only at h hfine ⊢
    rw [currentDir_eq] at hfine ⊢
    generalize htarget : includeTarget (Path.dir (current self chain)) path = target at h hfine ⊢
    split at h
    · exact .inr h
    · split at h
      · exact .inr h
      · next u hu =>
        cases hobstacle : obstacle? ix self chain target with
        | some fault =>
          rw [hobstacle] at hfine
          exact absurd (severity_obstacle hobstacle) (hfine _ (List.mem_singleton_self _))
        | none =>
          obtain ⟨hsome, hself, -⟩ := obstacle?_eq_none_iff.1 hobstacle
          rw [hobstacle, hu] at hfine
          rw [hu]
          dsimp only at hfine ⊢
          have hstep : Includes ix self input (current self chain) target :=
            ⟨hsome, path, hpath, htarget⟩
          have hbody : bodyAt ix self input target = _ := bodyAt_of_component hself hu
          have hnamed := Document.names_of_refers
            (isContent_includePiece ix self depth (chain ++ [target])) (fun s hs hs' => ?_)
            (fun p hp => ?_) hfine h
          · refine hnamed.imp_right fun h => h.resolve_left ?_
            rintro ⟨s, hs, hs', -⟩
            exact hdue s hs' (.declared (.tail' hreach hstep) hu hs)
          · by_contra hchanged
            exact hdue s hs' (.literal (hreach.tail hstep) (by rw [hbody]; exact hs) hchanged)
          · have hnext : IncludeNamed ctx due name (includePiece ix self depth (chain ++ [target]))
                (Document.includeSpans ix depth (Path.dir (current self (chain ++ [target])))) p :=
              ih (by rw [current_concat]; exact hreach.tail hstep)
                (by rw [current_concat, hbody]; exact hp)
            rwa [current_concat] at hnext

end Splice

/-! ## Files -/

namespace SourceUnit

theorem body_document (u : SourceUnit) (input : Bytes) (ix : UnitIndex) :
    (u.document input ix).body = (Document.read input).1.body :=
  Document.body_inheritImports ..

theorem declared_document (u : SourceUnit) (input : Bytes) (ix : UnitIndex) :
    (u.document input ix).declared = (Document.read input).1.declared := by
  unfold document Document.inheritImports Document.declared
  dsimp only

end SourceUnit

namespace Generate

variable {name s : Bytes}

/-- What the declarations of a unit refer to is named behind the imports. -/
theorem names_restTokens (typeName : Bytes) {d : Document} (hs : s ∈ d.declared)
    (hrefers : refersTo s name = true) (body : List (List Token)) :
    Names name (restTokens typeName d body) := by
  rcases List.mem_append.1 hs with hs | hs
  · obtain ⟨p, hp, rfl⟩ := List.mem_map.1 hs
    refine ⟨[.name p.name] ++ .fixed " " :: .copied p.type :: [], ?_,
      refersTo_lineOf _ (fun _ => rfl) _ hrefers⟩
    simp only [restTokens, List.cons_append, List.append_assoc]
    exact List.mem_cons_of_mem _ (List.mem_append_left _ (List.mem_map.2 ⟨p, hp, rfl⟩))
  · obtain ⟨block, hblock, hs⟩ := List.mem_flatMap.1 hs
    refine ⟨[.copied s], List.mem_append_right _ (List.mem_flatMap.2 ⟨block, hblock, ?_⟩), ?_⟩
    · exact List.mem_cons_of_mem _ (List.mem_map.2 ⟨s, hs, rfl⟩)
    · rw [Token.lineOf_cons, Token.lineOf_nil, List.append_nil]
      exact hrefers

/-- The lines of the body stand behind the imports. -/
theorem subset_restTokens (typeName : Bytes) (d : Document) (body : List (List Token)) :
    body ⊆ restTokens typeName d body := fun _ hts =>
  List.mem_append_left _ (List.mem_append_left _ (List.mem_append_right _ hts))

/-- **What a collected fragment refers to is named behind the imports**, if there are no errors
in the unit and it is not one that need not be shown. -/
theorem names_unitTokens {u : SourceUnit} {input : Bytes} {ix : UnitIndex} {resolver : Resolver}
    {package : Bytes}
    (hfine : ∀ d ∈ (unit u input .full ix resolver package).diagnostics, d.severity ≠ .error)
    (hs : s ∈ (Document.read input).1.codeSpans ix u.path input)
    (hshown : ¬ Splice.Unshown ix u.path input s) (hrefers : refersTo s name = true) :
    Names name (unitTokens u input ix resolver) := by
  have hremarks : Remark.AllFine (Piece.remarksAll
      { imports := (u.document input ix).imports, resolver } none
      (Splice.expand ix u.path input (Document.read input).1.body)) := by
    intro r hr
    refine hfine (r.finding.diagnostic u.path) ?_
    rw [diagnostics_unit, findings_body_full, Document.body_inheritImports]
    exact List.mem_append_right _ (List.mem_map_of_mem (List.mem_map_of_mem hr))
  have hspans : ((Document.read input).1.walkSpans (Document.includeSpans ix
      (Splice.depthBound ix u.path input) (Path.dir u.path)) { seen := [u.path] }).Refers
        (fun s => ¬ Splice.Unshown ix u.path input s) name :=
    ⟨s, List.mem_reverse.1 hs, hshown, hrefers⟩
  have hnamed := Document.names_of_refers (Splice.isContent_includePiece ix u.path _ [])
    (fun s hs hs' => ?_) (fun p hp => ?_) hremarks hspans
  · unfold unitTokens
    dsimp only
    rw [SourceUnit.body_document]
    obtain h | ⟨s, hs, -, hrefers⟩ | ⟨_, hs, -⟩ := hnamed
    · exact h.mono (subset_restTokens _ _ _)
    · exact names_restTokens _ (by rw [SourceUnit.declared_document]; exact hs) hrefers _
    · cases hs
  · by_contra hchanged
    exact hs' (.literal .refl (by rw [Splice.bodyAt_self]; exact hs) hchanged)
  · exact Splice.includeNamed (fun _ h => h) .refl (by
      rw [Splice.current_nil, Splice.bodyAt_self]; exact hp)

end Generate

/-- **What a line refers to, its file does too**: in front of a line of code stands nothing, a
line feed or a tab. -/
theorem Line.refersTo_textOf {name : Bytes} {ls : List Line} {l : Line} (hl : l ∈ ls)
    (hrefers : refersTo l.code name = true) : refersTo (Line.textOf ls) name = true := by
  obtain ⟨a, b, rfl⟩ := List.append_of_mem hl
  have hcode : ¬ l.code.isEmpty = true := by
    intro hnil
    obtain ⟨front, back, hcode, -⟩ := refersTo_iff.1 hrefers
    rw [List.isEmpty_iff.1 hnil] at hcode
    have hdot : (name ++ "." : Bytes) = [] :=
      (List.append_eq_nil_iff.1 (List.append_eq_nil_iff.1 hcode.symm).1).2
    exact absurd (List.append_eq_nil_iff.1 hdot).2 (by decide)
  have htext : Line.textOf (a ++ l :: b)
      = (Line.textOf a ++ List.replicate l.indent 0x09) ++ l.code
        ++ ([newline] ++ Line.textOf b) := by
    rw [Line.textOf_append, Line.textOf, Line.textOf, List.flatMap_cons, Line.text, if_neg hcode]
    simp only [List.append_assoc]
    rfl
  rw [htext]
  refine refersTo_between ?_ hrefers
  rw [getLastD_append]
  cases l.indent with
  | zero =>
    cases a with
    | nil => rfl
    | cons l' a =>
      obtain ⟨above, habove⟩ := Line.textOf_ends (l' :: a) (List.cons_ne_nil _ _)
      rw [habove, getLastD_append]
      rfl
  | succ n =>
    rw [List.replicate_succ', getLastD_append]
    rfl

/-- An import is kept because it is blank, or because a fragment refers to it. -/
theorem exists_refersTo_of_mem_keepImports {spans taken : List Bytes}
    {offered : List ImportDirective} {i : ImportDirective}
    (h : i ∈ keepImports spans taken offered) :
    i.name = "_" ∨ ∃ s ∈ spans, refersTo s i.name = true := by
  induction offered generalizing taken with
  | nil => cases h
  | cons o offered ih =>
    rcases keepImports_cons spans taken o offered with ⟨-, heq⟩ | ⟨hsome, heq⟩
    · exact ih (heq ▸ h)
    · rcases List.mem_cons.1 (heq ▸ h) with rfl | h
      · exact (offerImport_eq_some hsome).2.2
      · exact ih h

/-- **No import is kept in vain, but for fragments that are not shown.** Let there be no errors
in the full code of a unit. It is the lines up to the end of the imports and a rest. Each
of the inherited imports, other than under the blank name, is named in the rest; or else all of
the fragments for which it was kept are declarations of included units, which are not spliced,
or literals of component tags that are not held as they are. -/
theorem kept_imports_named_or (u : SourceUnit) (input : Bytes) (ix : UnitIndex)
    (resolver : Resolver) (package : Bytes)
    (hfine : ∀ d ∈ (Generate.unit u input .full ix resolver package).diagnostics,
      d.severity ≠ .error) :
    let own := (Document.read input).1
    let imports := (u.document input ix).imports
    ∃ head rest : List Line,
      (Generate.unit u input .full ix resolver package).lines = head ++ rest
      ∧ head.map Line.code
        = (Generate.headTokens u.path (packageOr package) imports).map Token.lineOf
      ∧ imports = u.inherited input ix ++ own.imports
      ∧ ∀ i ∈ u.inherited input ix, i.name ≠ "_" →
        refersTo (Line.textOf rest) i.name = true
          ∨ ((∃ s ∈ own.codeSpans ix u.path input, refersTo s i.name = true)
            ∧ ∀ s ∈ own.codeSpans ix u.path input, refersTo s i.name = true →
              Splice.Unshown ix u.path input s) := by
  intro own imports
  obtain ⟨head, rest, hlines, hhead, hrest⟩ := List.map_eq_append_iff.1
    ((Generate.map_code_unit u input ix resolver package).trans List.map_append)
  refine ⟨head, rest, hlines, hhead, u.imports_document input ix, fun i hi hblank => ?_⟩
  rw [or_iff_not_imp_left]
  intro hnot
  refine ⟨(exists_refersTo_of_mem_keepImports hi).resolve_left hblank, fun s hs hrefers => ?_⟩
  by_contra hshown
  obtain ⟨ts, hts, hnamed⟩ := Generate.names_unitTokens hfine hs hshown hrefers
  obtain ⟨l, hl, hcode⟩ := List.mem_map.1 (hrest.symm ▸ List.mem_map_of_mem hts)
  exact hnot (Line.refersTo_textOf hl (hcode ▸ hnamed))

/-! ## A batch with a parameter of an imported type -/

/-- An imports unit, a unit that includes another one and is otherwise empty, and the included
unit, which has a parameter of a type that only the imports unit imports. -/
def readerBatch : UnitIndex :=
  ⟨[⟨"/_Imports.tmpl", "@import \"strings\"", .imports, .component⟩,
    ⟨"/A.tmpl", "@include \"B.tmpl\"", .component, .component⟩,
    ⟨"/B.tmpl", "@param r strings.Reader", .component, .component⟩]⟩

namespace readerBatch

theorem read_imports : Document.read "@import \"strings\""
    = ({ imports := [⟨[], "strings", 1, false⟩] }, []) := by
  have htrim : trim " \"strings\"" = "\"strings\"" :=
    (trim_space_cons _).trans (trim_eq_self (a := dquote) (b := dquote) (by decide) (by decide)
      (by decide) (by decide) "strings")
  have hfields : fields "\"strings\"" = ["\"strings\""] := by
    have hrunes : Utf8.runes "\"strings\""
        = ("\"strings\"" : Bytes).map fun b => ⟨b.toNat, [b], true⟩ := by
      have hbytes : ("\"strings\"" : Bytes)
          = [0x22, 0x73, 0x74, 0x72, 0x69, 0x6e, 0x67, 0x73, 0x22] := by decide
      rw [hbytes]
      iterate 9 rw [Utf8.runes_ascii_cons (by decide)]
      rw [Utf8.runes_nil]
      rfl
    rw [fields, hrunes]
    decide
  have hadd : ({} : Document).addImport 1 (trim " \"strings\"")
      = .ok { imports := [⟨[], "strings", 1, false⟩] } := by
    rw [htrim, Document.addImport, hfields]
    rfl
  exact Document.read_directive .import_ " \"strings\"" (by decide) rfl (by decide) (by decide)
    hadd

theorem read_a : Document.read "@include \"B.tmpl\"" = ({ body := [.splice "B.tmpl" 1] }, []) := by
  have hsrc : ("@include \"B.tmpl\"" : Bytes) = "@include " ++ dquote :: "B.tmpl\"" := by decide
  rw [hsrc]
  exact Document.read_include (by decide +kernel)

theorem read_b : Document.read "@param r strings.Reader"
    = ({ params := [⟨"r", "strings.Reader", 1⟩] }, []) := by
  have htrim : trim " r strings.Reader" = "r strings.Reader" :=
    (trim_space_cons _).trans (trim_eq_self (a := ch 'r') (b := ch 'r') (by decide) (by decide)
      (by decide) (by decide) " strings.Reade")
  have htype : trim "strings.Reader" = "strings.Reader" :=
    trim_eq_self (a := ch 's') (b := ch 'r') (by decide) (by decide) (by decide) (by decide)
      "trings.Reade"
  have hcut : cut (ch ' ') "r strings.Reader" = (("r" : Bytes), ("strings.Reader" : Bytes)) := by
    decide
  have hname : Host.isIdentifier "r" = true := by
    rw [Host.isIdentifier, show ("r" : Bytes) = [ch 'r'] from rfl,
      Utf8.runes_ascii_cons (by decide), Utf8.runes_nil]
    decide
  have hadd : ({} : Document).addParam 1 (trim " r strings.Reader")
      = .ok { params := [⟨"r", "strings.Reader", 1⟩] } := by
    rw [htrim, Document.addParam, hcut]
    dsimp only
    rw [htype, hname]
    rfl
  exact Document.read_directive .param " r strings.Reader" (by decide) rfl (by decide) (by decide)
    hadd

/-- The paths of the batch are in normal form. -/
theorem normalizePath_eq : ∀ p ∈ [("/_Imports.tmpl" : Bytes), "/A.tmpl", "/B.tmpl"],
    SourceUnit.normalizePath p = p := by
  have hnormal : ∀ m : Bytes, SourceUnit.normalizePath (slash :: (m ++ [ch 'l'])) = _ :=
    SourceUnit.normalizePath_cons (by decide) (by decide)
  refine List.forall_mem_cons.2 ⟨(hnormal "_Imports.tmp").trans (by decide), ?_⟩
  exact List.forall_mem_cons.2 ⟨(hnormal "A.tmp").trans (by decide),
    List.forall_mem_singleton.2 ((hnormal "B.tmp").trans (by decide))⟩

theorem component?_b : readerBatch.component? "/B.tmpl"
    = some ⟨"/B.tmpl", "@param r strings.Reader", .component, .component⟩ := by
  unfold UnitIndex.component? UnitIndex.resolve
  rw [normalizePath_eq "/B.tmpl" (by decide)]
  decide

/-- What is included is the unit next to the one that includes it. -/
theorem includeTarget_b : includeTarget "/" "B.tmpl" = "/B.tmpl" :=
  normalizePath_eq "/B.tmpl" (by decide)

section Directory

variable {u : SourceUnit} (hdir : Path.dir (SourceUnit.normalizePath u.path) = "/")
include hdir

/-- The imports unit applies to every unit in its directory. -/
theorem importsChain_eq : readerBatch.importsChain u.path
    = [⟨"/_Imports.tmpl", "@import \"strings\"", .imports, .component⟩] := by
  have hinside : UnitIndex.inside "/" SourceUnit.importsFileName = "/_Imports.tmpl" := by decide
  have hdown : UnitIndex.pathsDown "/" (Path.segments "/") = [("/" : Bytes)] := by decide
  unfold UnitIndex.importsChain UnitIndex.resolve
  dsimp only
  rw [hdir, hdown, List.filterMap_cons, hinside, normalizePath_eq "/_Imports.tmpl" (by decide)]
  decide

/-- Nothing is wrong with the imports unit. -/
theorem inheritImports_snd (input : Bytes) (own : Document) :
    (own.inheritImports readerBatch u.path input).2 = [] := by
  unfold Document.inheritImports
  dsimp only
  rw [importsChain_eq hdir, List.map_singleton, List.flatMap_singleton, read_imports]
  rfl

/-- A unit that has the parameter type among its fragments inherits the import. -/
theorem inherited_eq {input : Bytes}
    (hspans : (Document.read input).1.codeSpans readerBatch u.path input
      = [("strings.Reader" : Bytes)])
    (himports : (Document.read input).1.imports = []) :
    u.inherited input readerBatch = [⟨[], "strings", 1, true⟩] := by
  rw [SourceUnit.inherited, SourceUnit.offered, importsChain_eq hdir, List.flatMap_singleton,
    read_imports, hspans, himports]
  decide

end Directory

/-- The parameter type is a fragment of the included unit, and of the unit that includes it. -/
theorem codeSpans_a : (Document.read "@include \"B.tmpl\"").1.codeSpans readerBatch "/A.tmpl"
    "@include \"B.tmpl\"" = [("strings.Reader" : Bytes)] := by
  obtain ⟨n, hn⟩ := readerBatch.exists_depthBound_eq "/A.tmpl" "@include \"B.tmpl\""
  have hdir : Path.dir "/A.tmpl" = "/" := by decide
  have hseen : List.contains [("/A.tmpl" : Bytes)] "/B.tmpl" = false := by decide
  have hinclude : ∀ w : SpanWalk, w.seen = [("/A.tmpl" : Bytes)] →
      (Document.includeSpans readerBatch (n + 1) "/" "B.tmpl" w).spans
        = ("strings.Reader" : Bytes) :: w.spans := by
    intro w hw
    rw [Document.includeSpans, includeTarget_b]
    dsimp only
    rw [hw, hseen, component?_b]
    dsimp only
    rw [read_b]
    rfl
  unfold Document.codeSpans
  dsimp only
  rw [hn, read_a, hdir]
  exact congrArg List.reverse (hinclude { seen := [("/A.tmpl" : Bytes)] } rfl)

theorem codeSpans_b : (Document.read "@param r strings.Reader").1.codeSpans readerBatch "/B.tmpl"
    "@param r strings.Reader" = [("strings.Reader" : Bytes)] := by
  unfold Document.codeSpans
  dsimp only
  rw [read_b]
  rfl

/-- Nothing is left of the included unit, which has no markup. -/
theorem expand_a : Splice.expand readerBatch "/A.tmpl" "@include \"B.tmpl\"" [.splice "B.tmpl" 1]
    = [.spliced 1 []] := by
  obtain ⟨n, hn⟩ := readerBatch.exists_depthBound_eq "/A.tmpl" "@include \"B.tmpl\""
  have htarget : includeTarget (Splice.currentDir (Path.dir "/A.tmpl") []) "B.tmpl" = "/B.tmpl" :=
    includeTarget_b
  have hnone : Splice.obstacle? readerBatch "/A.tmpl" [] "/B.tmpl" = none :=
    Splice.obstacle?_eq_none_iff.2 ⟨by rw [component?_b]; rfl, by decide, List.not_mem_nil⟩
  rw [Splice.expand, hn, Node.piecesAll, Node.pieces, Splice.includePiece, htarget, hnone,
    component?_b]
  dsimp only
  rw [read_b]
  rfl

end readerBatch

/-- The import is named in the file of the unit that has the parameter. -/
theorem kept_imports_named_or_parameter :
    let b : SourceUnit := ⟨"/B.tmpl", "@param r strings.Reader", .component, .component⟩
    let g := Generate.unit b b.text .full readerBatch (fun _ _ => none) []
    (∀ d ∈ g.diagnostics, d.severity ≠ .error)
      ∧ ∃ head rest : List Line, g.lines = head ++ rest
        ∧ head.map Line.code = (Generate.headTokens b.path (packageOr [])
          [⟨[], "strings", 1, true⟩]).map Token.lineOf
        ∧ refersTo (Line.textOf rest) "strings" = true := by
  intro b
  obtain ⟨hpath, htext⟩ : b.path = "/B.tmpl" ∧ b.text = "@param r strings.Reader" := ⟨rfl, rfl⟩
  clear_value b
  intro g
  have hdir : Path.dir (SourceUnit.normalizePath b.path) = "/" := by
    rw [hpath, readerBatch.normalizePath_eq "/B.tmpl" (by decide)]
    decide
  have hspans : (Document.read b.text).1.codeSpans readerBatch b.path b.text
      = [("strings.Reader" : Bytes)] := by
    rw [htext, hpath]
    exact readerBatch.codeSpans_b
  have himports : (Document.read b.text).1.imports = [] := by rw [htext, readerBatch.read_b]
  have hinherited := readerBatch.inherited_eq hdir hspans himports
  have hfine : ∀ d ∈ g.diagnostics, d.severity ≠ .error := by
    show ∀ d ∈ (Generate.unit b b.text .full readerBatch (fun _ _ => none) []).diagnostics, _
    rw [Generate.diagnostics_unit, Generate.findings_body_full, Document.body_inheritImports,
      readerBatch.inheritImports_snd hdir, htext, hpath, readerBatch.read_b]
    exact fun d hd => absurd hd List.not_mem_nil
  obtain ⟨head, rest, hlines, hhead, hall, hnamed⟩ :=
    kept_imports_named_or b b.text readerBatch (fun _ _ => none) [] hfine
  rw [himports, hinherited] at hall
  rw [hall] at hhead
  refine ⟨hfine, head, rest, hlines, hhead, ?_⟩
  refine (hnamed ⟨[], "strings", 1, true⟩ ?_ (by decide)).resolve_right ?_
  · rw [hinherited]
    exact List.mem_singleton_self _
  · rintro ⟨-, hunshown⟩
    -- the unit has neither includes nor literals
    have hbody : Splice.bodyAt readerBatch b.path b.text b.path = [] := by
      rw [Splice.bodyAt_self, htext, readerBatch.read_b]
    have hnone : ∀ q, ¬ Splice.Includes readerBatch b.path b.text b.path q := by
      rintro q ⟨-, path, hp, -⟩
      rw [hbody] at hp
      cases hp
    cases hunshown "strings.Reader" (by rw [hspans]; exact List.mem_singleton_self _)
        (by decide) with
    | declared hq =>
      obtain ⟨r, hr, -⟩ := TransGen.head'_iff.1 hq
      exact hnone r hr
    | literal hq hs =>
      obtain rfl | ⟨r, hr, -⟩ := hq.cases_head
      · rw [hbody] at hs
        cases hs
      · exact hnone r hr

/-- **An import that is kept need not be named**: the unit that includes the one with the
parameter inherits the import, for the type of the parameter, and its file is without a field
for it. -/
theorem inherited_import_not_named :
    ¬ ∀ (u : SourceUnit) (input : Bytes) (ix : UnitIndex) (resolver : Resolver) (package : Bytes),
      (∀ d ∈ (Generate.unit u input .full ix resolver package).diagnostics,
        d.severity ≠ .error) →
      ∀ head rest : List Line,
        (Generate.unit u input .full ix resolver package).lines = head ++ rest →
        head.map Line.code = (Generate.headTokens u.path (packageOr package)
          (u.document input ix).imports).map Token.lineOf →
        ∀ i ∈ u.inherited input ix, i ∈ Generate.importBlock (u.document input ix).imports →
          i.name ≠ "_" → refersTo (Line.textOf rest) i.name = true := by
  intro h
  obtain ⟨a, hpath, htext⟩ :
      ∃ a : SourceUnit, a.path = "/A.tmpl" ∧ a.text = "@include \"B.tmpl\"" :=
    ⟨⟨"/A.tmpl", "@include \"B.tmpl\"", .component, .component⟩, rfl, rfl⟩
  have hdir : Path.dir (SourceUnit.normalizePath a.path) = "/" := by
    rw [hpath, readerBatch.normalizePath_eq "/A.tmpl" (by decide)]
    decide
  have hinherited : a.inherited a.text readerBatch = [⟨[], "strings", 1, true⟩] := by
    refine readerBatch.inherited_eq hdir ?_ ?_
    · rw [htext, hpath]
      exact readerBatch.codeSpans_a
    · rw [htext, readerBatch.read_a]
  have hdoc : a.document a.text readerBatch
      = { imports := [⟨[], "strings", 1, true⟩], body := [.splice "B.tmpl" 1] } := by
    rw [SourceUnit.document_eq, hinherited, htext, readerBatch.read_a]
    rfl
  have hfine : ∀ d ∈ (Generate.unit a a.text .full readerBatch (fun _ _ => none) []).diagnostics,
      d.severity ≠ .error := by
    rw [Generate.diagnostics_unit, Generate.findings_body_full, Document.body_inheritImports,
      readerBatch.inheritImports_snd hdir, htext, hpath, readerBatch.read_a, readerBatch.expand_a]
    exact fun d hd => absurd hd List.not_mem_nil
  have htype : Naming.typeName "/A.tmpl" = "A" := by
    have hstem : (cut (ch '.') (Path.base "/A.tmpl")).1 = [ch 'A'] := by decide
    unfold Naming.typeName
    dsimp only
    rw [hstem, Utf8.runes_ascii_cons (by decide), Utf8.runes_nil]
    decide
  have hlines : (Generate.unit a a.text .full readerBatch (fun _ _ => none) []).lines
      = ([Generate.line 0 0 "// Code generated by templc from /A.tmpl. DO NOT EDIT.",
          Generate.blank, Generate.line 0 0 "package app", Generate.blank]
        ++ Generate.importLines [⟨[], "strings", 1, true⟩])
        ++ [Generate.line 0 0 "type A struct \x7b", Generate.line 0 0 "\x7d", Generate.blank,
          Generate.line 0 0 "func (c *A) Render(w *runtime.Buffer) error \x7b",
          Generate.line 1 0 "return w.Err()", Generate.line 0 0 "\x7d"] := by
    rw [Generate.lines_unit, hdoc, hpath, htext, htype]
    unfold Writer.bodyOutput
    dsimp only
    rw [readerBatch.expand_a]
    rfl
  have hnamed := h a a.text readerBatch (fun _ _ => none) [] hfine _ _ hlines
    (by rw [hdoc, hpath]; decide +kernel)
    ⟨[], "strings", 1, true⟩ (by rw [hinherited]; exact List.mem_singleton_self _)
    (by rw [hdoc]; decide) (by decide)
  exact absurd hnamed (by decide)

end Stencil
