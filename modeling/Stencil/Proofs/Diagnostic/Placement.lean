import Stencil.Proofs.Generated.Expansion
import Stencil.Proofs.Generated.Remarks

/-!
# Where diagnostics of a unit point

A diagnostic that names a unit should give a line of it. Lines come from all over: from the
reader, from the includes that the declaration pass looks at, and from whatever rendering
complains about, which may be deep inside a unit that was spliced in. Such a unit has lines of
its own, while the diagnostic names the unit that includes it, so the line of the outermost
include, the pin, has to stand in for them.

For complaints about includes it does. Complaints about component tags give the line of the
tag, pin or not, so those raised inside spliced units, `Generate.strays`, may point behind the
end of the file that they name (`own_diagnostics_not_located`). Everything else points into
it, and `own_diagnostics_located_iff` says just that. An imports unit of the same path is the
other way for the line of one text to be taken for a line of another.
-/

namespace Stencil

open Bytes

/-! ## The places of complaints -/

section Places

variable {ctx : RenderContext} {pin : Option Nat}

/-- An element complains about its tag and attributes, or its content does. -/
theorem Piece.mem_remarks_element {tag : Bytes} {attrs : List Attr} {children : List Piece}
    {selfClosing : Bool} {line endLine : Nat} {r : Remark}
    (h : r ∈ (Piece.element tag attrs children selfClosing line endLine).remarks ctx pin) :
    (∃ l ∈ line :: attrs.map Attr.line, ∃ fault, r = ⟨pin, l, fault, true⟩)
    ∨ r ∈ Piece.remarksAll ctx pin children := by
  have hcontent : r ∈ (if (ElementName.isVoid tag || selfClosing) = true then []
      else Piece.remarksAll ctx pin children) → r ∈ Piece.remarksAll ctx pin children := by
    intro hr
    split at hr
    · exact absurd hr List.not_mem_nil
    · exact hr
  have hattrs : ∀ c : Component, r ∈ attrRemarks pin tag c attrs →
      ∃ l ∈ attrs.map Attr.line, ∃ fault, r = ⟨pin, l, fault, true⟩ := by
    intro c hr
    obtain ⟨a, ha, hr⟩ := List.mem_flatMap.1 hr
    split at hr
    · exact ⟨a.line, List.mem_map_of_mem ha, _, List.mem_singleton.1 hr⟩
    · exact absurd hr List.not_mem_nil
  rw [Piece.remarks] at h
  split at h
  · cases hc : ctx.component tag with
    | error fault =>
      rw [hc] at h
      obtain rfl | hr := List.mem_cons.1 h
      · exact .inl ⟨line, List.mem_cons_self, fault, rfl⟩
      · exact .inr (hcontent hr)
    | ok found =>
      rw [hc] at h
      obtain hr | hr := List.mem_append.1 h
      · obtain ⟨l, hl, hfault⟩ := hattrs _ hr
        exact .inl ⟨l, List.mem_cons_of_mem _ hl, hfault⟩
      · split_ifs at hr
        · exact absurd hr List.not_mem_nil
        · exact .inl ⟨line, List.mem_cons_self, _, List.mem_singleton.1 hr⟩
        · exact .inr hr
  · exact .inr (hcontent h)

mutual

/-- **While a unit is spliced in**, every complaint has its include for a pin. -/
theorem Piece.pin_remarks {l : Nat} : ∀ (x : Piece), ∀ r ∈ x.remarks ctx (some l), r.pin = some l
  | .text .., _, hr | .expr .., _, hr => absurd hr List.not_mem_nil
  | .spliced _ body, r, hr => Piece.pin_remarksAll body r hr
  | .broken .., r, hr => by rw [List.mem_singleton.1 hr]
  | .loop _ body _ _, r, hr => Piece.pin_remarksAll body r hr
  | .choice branches otherwise _ _, r, hr => by
    obtain hr | hr := List.mem_append.1 hr
    · exact PieceBranch.pin_remarksAll branches r hr
    · exact Piece.pin_remarksAll otherwise r hr
  | .element _ _ children _ _ _, r, hr => by
    obtain ⟨_, _, _, rfl⟩ | hr := Piece.mem_remarks_element hr
    · rfl
    · exact Piece.pin_remarksAll children r hr

theorem Piece.pin_remarksAll {l : Nat} : ∀ (xs : List Piece),
    ∀ r ∈ Piece.remarksAll ctx (some l) xs, r.pin = some l
  | [], _, hr => absurd hr List.not_mem_nil
  | x :: xs, r, hr => by
    obtain hr | hr := List.mem_append.1 hr
    · exact Piece.pin_remarks x r hr
    · exact Piece.pin_remarksAll xs r hr

theorem PieceBranch.pin_remarksAll {l : Nat} : ∀ (bs : List PieceBranch),
    ∀ r ∈ PieceBranch.remarksAll ctx (some l) bs, r.pin = some l
  | [], _, hr => absurd hr List.not_mem_nil
  | .mk _ body _ :: bs, r, hr => by
    obtain hr | hr := List.mem_append.1 hr
    · exact Piece.pin_remarksAll body r hr
    · exact PieceBranch.pin_remarksAll bs r hr

end

/-! ## The lines of complaints -/

variable {f : Bytes → Nat → Piece} {L : Nat → Prop} {Q : Remark → Prop}

mutual

/-- **A tree complains at its lines, or at its includes.** Let all lines of the tree be of one
kind. What holds of complaints about tags at such lines, and of the complaints of what an
include at such a line becomes, holds of all complaints. -/
theorem Node.forall_remarks_pieces (htag : ∀ l fault, L l → Q ⟨pin, l, fault, true⟩)
    (hsplice : ∀ path l, L l → ∀ r ∈ (f path l).remarks ctx pin, Q r) :
    ∀ n : Node, (∀ l ∈ n.lines, L l) → ∀ r ∈ (n.pieces f).remarks ctx pin, Q r
  | .text .., _, _, hr | .expr .., _, _, hr => absurd hr List.not_mem_nil
  | .splice path line, h, r, hr => hsplice path line (h line (List.mem_singleton_self _)) r hr
  | .loop _ body _ _, h, r, hr =>
    Node.forall_remarks_piecesAll htag hsplice body
      (fun l hl => h l (List.mem_cons_of_mem _ (List.mem_append_left _ hl))) r hr
  | .choice branches otherwise _ _, h, r, hr => by
    obtain ⟨hbranches, hrest⟩ := List.forall_mem_append.1 h
    obtain hr | hr := List.mem_append.1 hr
    · exact Branch.forall_remarks_piecesAll htag hsplice branches hbranches r hr
    · exact Node.forall_remarks_piecesAll htag hsplice otherwise
        (fun l hl => hrest l (List.mem_append_left _ (List.mem_append_right _ hl))) r hr
  | .element _ attrs children _ line _, h, r, hr => by
    obtain ⟨hline, hrest⟩ := List.forall_mem_cons.1 h
    obtain ⟨hinside, -⟩ := List.forall_mem_append.1 hrest
    obtain ⟨hattrs, hchildren⟩ := List.forall_mem_append.1 hinside
    obtain ⟨l, hl, fault, rfl⟩ | hr := Piece.mem_remarks_element hr
    · exact htag l fault (List.forall_mem_cons.2 ⟨hline, hattrs⟩ l hl)
    · exact Node.forall_remarks_piecesAll htag hsplice children hchildren r hr

theorem Node.forall_remarks_piecesAll (htag : ∀ l fault, L l → Q ⟨pin, l, fault, true⟩)
    (hsplice : ∀ path l, L l → ∀ r ∈ (f path l).remarks ctx pin, Q r) :
    ∀ ns : List Node, (∀ l ∈ Node.linesAll ns, L l) →
      ∀ r ∈ Piece.remarksAll ctx pin (Node.piecesAll f ns), Q r
  | [], _, _, hr => absurd hr List.not_mem_nil
  | n :: ns, h, r, hr => by
    obtain ⟨hn, hns⟩ := List.forall_mem_append.1 h
    obtain hr | hr := List.mem_append.1 hr
    · exact Node.forall_remarks_pieces htag hsplice n hn r hr
    · exact Node.forall_remarks_piecesAll htag hsplice ns hns r hr

theorem Branch.forall_remarks_piecesAll (htag : ∀ l fault, L l → Q ⟨pin, l, fault, true⟩)
    (hsplice : ∀ path l, L l → ∀ r ∈ (f path l).remarks ctx pin, Q r) :
    ∀ bs : List Branch, (∀ l ∈ Branch.linesAll bs, L l) →
      ∀ r ∈ PieceBranch.remarksAll ctx pin (Branch.piecesAll f bs), Q r
  | [], _, _, hr => absurd hr List.not_mem_nil
  | .mk _ body _ :: bs, h, r, hr => by
    obtain ⟨hb, hbs⟩ := List.forall_mem_append.1 h
    obtain hr | hr := List.mem_append.1 hr
    · exact Node.forall_remarks_piecesAll htag hsplice body
        (fun l hl => hb l (List.mem_cons_of_mem _ hl)) r hr
    · exact Branch.forall_remarks_piecesAll htag hsplice bs hbs r hr

end

end Places

namespace Splice

variable (ctx : RenderContext) (ix : UnitIndex) (self : Bytes)

/-- What an include complains about outside of any other has the include for its place. -/
theorem pinned_includePiece (depth : Nat) (chain : List Bytes) (path : Bytes) (line : Nat) :
    ∀ r ∈ (includePiece ix self depth chain path line).remarks ctx none,
      r.pin.getD r.line = line := by
  intro r hr
  cases depth with
  | zero => rw [List.mem_singleton.1 hr, Option.getD_none]
  | succ depth =>
    unfold includePiece at hr
    dsimp only at hr
    split at hr
    · rw [Piece.pin_remarksAll _ r hr, Option.getD_some]
      rfl
    · rw [List.mem_singleton.1 hr, Option.getD_none]
    · rw [List.mem_singleton.1 hr, Option.getD_none]

/-- Complaints give lines, also in spliced units. -/
theorem line_pos_includePiece (depth : Nat) (chain : List Bytes) (path : Bytes) {line : Nat}
    (hline : 0 < line) (pin : Option Nat) :
    ∀ r ∈ (includePiece ix self depth chain path line).remarks ctx pin, 0 < r.line := by
  induction depth generalizing chain path line pin with
  | zero =>
    intro r hr
    rw [List.mem_singleton.1 hr]
    exact hline
  | succ depth ih =>
    intro r hr
    unfold includePiece at hr
    dsimp only at hr
    split at hr
    · next u _ _ =>
      have hlines := (Document.ordered_read u.text).1
      exact Node.forall_remarks_piecesAll (fun l _ hl => hl)
        (fun path' l hl => ih _ path' hl _) _ (fun l hl => (hlines.within l hl).1) r hr
    · rw [List.mem_singleton.1 hr]
      exact hline
    · rw [List.mem_singleton.1 hr]
      exact hline

/-- **The complaints of rendering a body**, each at a line; and if the unit's own line is
given for what was spliced in, at a line of the body. -/
theorem line_remarks_expand (input : Bytes) {body : List Node} {n : Nat}
    (hbody : Ascending 1 n (Node.linesAll body)) :
    ∀ r ∈ Piece.remarksAll ctx none (expand ix self input body),
      0 < r.line ∧ 1 ≤ r.pin.getD r.line ∧ r.pin.getD r.line ≤ n := by
  refine Node.forall_remarks_piecesAll (L := fun l => 1 ≤ l ∧ l ≤ n) ?_ ?_ body hbody.within
  · exact fun l _ hl => ⟨hl.1, hl⟩
  · intro path l hl r hr
    refine ⟨line_pos_includePiece ctx ix self _ [] path hl.1 none r hr, ?_⟩
    rw [pinned_includePiece ctx ix self _ [] path l r hr]
    exact hl

end Splice

mutual

/-- An include that cannot be spliced is reported where it is written. -/
theorem Node.line_includeFindings (ix : UnitIndex) (self : Bytes) : ∀ n : Node,
    ∀ f ∈ n.includeFindings ix self, f.line ∈ n.lines
  | .text .., _, hf | .expr .., _, hf => absurd hf List.not_mem_nil
  | .splice path line, f, hf => by
    unfold Node.includeFindings at hf
    dsimp only at hf
    split at hf
    · exact absurd hf List.not_mem_nil
    · rw [List.mem_singleton.1 hf]
      exact List.mem_singleton_self _
  | .loop _ body _ _, f, hf =>
    List.mem_cons_of_mem _ (List.mem_append_left _ (Node.line_includeFindingsAll ix self body f hf))
  | .choice branches otherwise _ _, f, hf => by
    obtain hf | hf := List.mem_append.1 hf
    · exact List.mem_append_left _ (Branch.line_includeFindingsAll ix self branches f hf)
    · exact List.mem_append_right _ (List.mem_append_left _ (List.mem_append_right _
        (Node.line_includeFindingsAll ix self otherwise f hf)))
  | .element _ _ children _ _ _, f, hf =>
    List.mem_cons_of_mem _ (List.mem_append_left _ (List.mem_append_right _
      (Node.line_includeFindingsAll ix self children f hf)))

theorem Node.line_includeFindingsAll (ix : UnitIndex) (self : Bytes) : ∀ ns : List Node,
    ∀ f ∈ Node.includeFindingsAll ix self ns, f.line ∈ Node.linesAll ns
  | [], _, hf => absurd hf List.not_mem_nil
  | n :: ns, f, hf => by
    obtain hf | hf := List.mem_append.1 hf
    · exact List.mem_append_left _ (Node.line_includeFindings ix self n f hf)
    · exact List.mem_append_right _ (Node.line_includeFindingsAll ix self ns f hf)

theorem Branch.line_includeFindingsAll (ix : UnitIndex) (self : Bytes) : ∀ bs : List Branch,
    ∀ f ∈ Branch.includeFindingsAll ix self bs, f.line ∈ Branch.linesAll bs
  | [], _, hf => absurd hf List.not_mem_nil
  | .mk _ body _ :: bs, f, hf => by
    obtain hf | hf := List.mem_append.1 hf
    · exact List.mem_append_left _
        (List.mem_cons_of_mem _ (Node.line_includeFindingsAll ix self body f hf))
    · exact List.mem_append_right _ (Branch.line_includeFindingsAll ix self bs f hf)

end

/-! ## The diagnostics that name a unit -/

/-- **Complaints about tags of other units** that are reported for a unit: those raised inside
the units that its full code splices in. -/
def Generate.strays (u : SourceUnit) (input : Bytes) (mode : Mode) (ix : UnitIndex)
    (resolver : Resolver) : List Remark :=
  match mode with
  | .declaration => []
  | .full =>
    (Piece.remarksAll
      { imports := ((Document.read input).1.inheritImports ix u.path input).1.imports, resolver }
      none (Splice.expand ix u.path input (Document.read input).1.body)).filter
        fun r => r.onTag && r.pin.isSome

/-- A line of a source. -/
def LineOf (input : Bytes) (line : Nat) : Prop := 1 ≤ line ∧ line ≤ newlines input + 1

theorem Finding.line_diagnostic_iff (f : Finding) (file input : Bytes) :
    1 ≤ (f.diagnostic file).line ∧ (f.diagnostic file).line ≤ newlines input + 1
      ↔ LineOf input f.line := by
  show 1 ≤ (f.line : Int) ∧ (f.line : Int) ≤ newlines input + 1 ↔ _
  unfold LineOf
  omega

section Body

variable {u : SourceUnit} {input : Bytes} {mode : Mode} {ix : UnitIndex} {resolver : Resolver}

/-- A complaint about a tag of another unit is among what is wrong with the body, at the line
that the tag has there. -/
theorem Generate.finding_of_stray {r : Remark} (hr : r ∈ strays u input mode ix resolver) :
    r.finding ∈ (body mode resolver ix u.path input
      ((Document.read input).1.inheritImports ix u.path input).1).findings
    ∧ 1 ≤ r.line ∧ r.finding.line = r.line := by
  cases mode with
  | declaration => exact absurd hr List.not_mem_nil
  | full =>
    obtain ⟨hr, hstray⟩ := List.mem_filter.1 hr
    rw [findings_body_full, Document.body_inheritImports]
    refine ⟨List.mem_map_of_mem hr, ?_, if_pos (Bool.and_eq_true_iff.1 hstray).1⟩
    exact (Splice.line_remarks_expand _ ix u.path input (Document.ordered_read input).1 r hr).1

/-- **What is wrong with a body points into the source**, but for complaints about tags of
other units. -/
theorem Generate.lineOf_or_stray {f : Finding}
    (hf : f ∈ (body mode resolver ix u.path input
      ((Document.read input).1.inheritImports ix u.path input).1).findings) :
    LineOf input f.line ∨ ∃ r ∈ strays u input mode ix resolver, r.finding = f := by
  have hlines := (Document.ordered_read input).1
  cases mode with
  | declaration => exact .inl (hlines.within _ (Node.line_includeFindingsAll ix u.path _ f hf))
  | full =>
    rw [findings_body_full, Document.body_inheritImports] at hf
    obtain ⟨r, hr, rfl⟩ := List.mem_map.1 hf
    have hpinned := (Splice.line_remarks_expand _ ix u.path input hlines r hr).2
    show LineOf input (if r.onTag then r.line else r.pin.getD r.line) ∨ _
    split
    · next htag =>
      -- the line of a tag is a line of the source unless the tag is in another unit
      cases hpin : r.pin with
      | none =>
        rw [hpin] at hpinned
        exact .inl hpinned
      | some l => exact .inr ⟨r, List.mem_filter.2 ⟨hr, by rw [htag, hpin]; rfl⟩, rfl⟩
    · exact .inl hpinned

/-- **A diagnostic that names a unit** gives a line of its input, or is a complaint about a tag
of another unit, or is about an imports unit of the same path. -/
theorem Generate.diagnostic_cases {package : Bytes} {d : Diagnostic}
    (hd : d ∈ (Generate.unit u input mode ix resolver package).diagnostics)
    (hfile : d.file = u.path) :
    (1 ≤ d.line ∧ d.line ≤ newlines input + 1)
    ∨ (∃ r ∈ strays u input mode ix resolver, r.finding.diagnostic u.path = d)
    ∨ ∃ v ∈ ix.importsChain u.path, v.path = u.path
      ∧ ∃ f ∈ (Document.read v.text).2, f.diagnostic v.path = d := by
  rw [diagnostics_unit] at hd
  obtain hd | hd := List.mem_append.1 hd
  · obtain hd | hd := List.mem_append.1 hd
    · obtain ⟨f, hf, rfl⟩ := List.mem_map.1 hd
      exact .inl ((f.line_diagnostic_iff ..).2 ((Document.ordered_read input).2.2 f hf))
    · obtain ⟨v, hv, f, hf, rfl⟩ := Document.mem_inheritImports.1 hd
      exact .inr (.inr ⟨v, hv, hfile, f, hf, rfl⟩)
  · obtain ⟨f, hf, rfl⟩ := List.mem_map.1 hd
    obtain hline | ⟨r, hr, rfl⟩ := lineOf_or_stray hf
    · exact .inl ((f.line_diagnostic_iff ..).2 hline)
    · exact .inr (.inl ⟨r, hr, rfl⟩)

end Body

/-- **Where diagnostics of a unit point.** For every input, mode, index and resolver, each
diagnostic that names the unit gives a line of its input, or is a complaint about a tag of a
unit that was spliced in, or is about an imports unit of the same path. So all of them point
into the input exactly if these do. -/
theorem own_diagnostics_located_iff (u : SourceUnit) (input : Bytes) (mode : Mode)
    (ix : UnitIndex) (resolver : Resolver) (package : Bytes) :
    (∀ d ∈ (Generate.unit u input mode ix resolver package).diagnostics, d.file = u.path →
      (1 ≤ d.line ∧ d.line ≤ newlines input + 1)
      ∨ (∃ r ∈ Generate.strays u input mode ix resolver, r.finding.diagnostic u.path = d)
      ∨ ∃ v ∈ ix.importsChain u.path, v.path = u.path
        ∧ ∃ f ∈ (Document.read v.text).2, f.diagnostic v.path = d)
    ∧ ((∀ d ∈ (Generate.unit u input mode ix resolver package).diagnostics,
        d.file = u.path → 1 ≤ d.line ∧ d.line ≤ newlines input + 1)
      ↔ (∀ r ∈ Generate.strays u input mode ix resolver, r.line ≤ newlines input + 1)
        ∧ ∀ v ∈ ix.importsChain u.path, v.path = u.path →
          ∀ f ∈ (Document.read v.text).2, f.line ≤ newlines input + 1) := by
  refine ⟨fun d => Generate.diagnostic_cases, fun h => ⟨fun r hr => ?_, fun v hv hpath f hf => ?_⟩,
    fun ⟨hstrays, himports⟩ d hd hfile => ?_⟩
  · -- complaints about tags of other units and about imports units are among the diagnostics
    obtain ⟨hmem, -, hline⟩ := Generate.finding_of_stray hr
    rw [← hline]
    refine ((r.finding.line_diagnostic_iff u.path input).1 (h _ ?_ rfl)).2
    rw [Generate.diagnostics_unit]
    exact List.mem_append_right _ (List.mem_map_of_mem hmem)
  · refine ((f.line_diagnostic_iff v.path input).1 (h _ ?_ hpath)).2
    rw [Generate.diagnostics_unit]
    exact List.mem_append_left _ (List.mem_append_right _
      (Document.mem_inheritImports.2 ⟨v, hv, f, hf, rfl⟩))
  · obtain hline | ⟨r, hr, rfl⟩ | ⟨v, hv, hpath, f, hf, rfl⟩ := Generate.diagnostic_cases hd hfile
    · exact hline
    · obtain ⟨-, hpos, hline⟩ := Generate.finding_of_stray hr
      refine (r.finding.line_diagnostic_iff ..).2 ?_
      rw [hline]
      exact ⟨hpos, hstrays r hr⟩
    · exact (f.line_diagnostic_iff ..).2
        ⟨((Document.ordered_read v.text).2.2 f hf).1, himports v hv hpath f hf⟩

/-- A text, and on the second line a component tag. -/
theorem Document.read_textAndTag : (Document.read "x\n<Card/>").1.body
    = [.text "x\n" 1, .element "Card" [] [] true 2 2] := by
  have htext : (Reader.start "x\n<Card/>").step.step
      = ⟨⟨"<Card/>", 2, newline⟩, ⟨[], "\nx", 1⟩, [], {}, []⟩ := rfl
  have htag : (Reader.mk ⟨"<Card/>", 2, newline⟩ ⟨[], "\nx", 1⟩ [] {} []).step
      = ⟨⟨[], 2, ch '>'⟩,
        ⟨[.element "Card" [] [] true 2 2, .text "x\n" 1], [], 1⟩, [], {}, []⟩ := by
    have hrest : tagRest "Card" ⟨"/>", 2, ch 'd'⟩ = ⟨[], .selfClosed, ⟨[], 2, ch '>'⟩, []⟩ := by
      rw [tagRest_eq]
      rfl
    have hname : ((ofString "<Card/>").drop 1).takeWhile ElementName.isTagByte = "Card" := by
      decide
    have hbehind : Cursor.advance (1 + (ofString "Card").length) ⟨"<Card/>", 2, newline⟩
        = ⟨"/>", 2, ch 'd'⟩ := by decide
    have hcomponent : ElementName.isComponent "Card" = true := by decide
    show Reader.openTag _ = _
    unfold Reader.openTag
    dsimp only
    rw [hname, hbehind, hrest, hcomponent]
    rfl
  rw [Document.read, Reader.run_of_rest_ne_nil (by decide), Reader.run_of_rest_ne_nil (by decide),
    htext, Reader.run_of_rest_ne_nil (by decide), htag, Reader.run_of_rest_eq_nil rfl,
    Reader.leaveAll_nil rfl]
  rfl

/-- **Diagnostics do not always point into the file they name**: a unit of one line includes a
text and an unknown component tag on the second line, and is said to have it there. -/
theorem own_diagnostics_not_located :
    ¬ ∀ (u : SourceUnit) (input : Bytes) (mode : Mode) (ix : UnitIndex) (resolver : Resolver)
      (package : Bytes), ∀ d ∈ (Generate.unit u input mode ix resolver package).diagnostics,
        d.file = u.path → 1 ≤ d.line ∧ d.line ≤ newlines input + 1 := by
  intro h
  let a : SourceUnit := ⟨"/a", "@include \"/b\"", .component, .component⟩
  let b : SourceUnit := ⟨"/b", "x\n<Card/>", .component, .component⟩
  have hpath : SourceUnit.normalizePath "/b" = "/b" :=
    (SourceUnit.normalizePath_cons (by decide) (by decide) []).trans (by decide)
  have hread : (Document.read a.text).1.body = [.splice "/b" 1] :=
    congrArg (fun r => r.1.body) (Document.read_include (q := "/b\"") (by decide))
  have hcomponent : UnitIndex.component? ⟨[a, b]⟩ "/b" = some b := by
    unfold UnitIndex.component? UnitIndex.resolve
    rw [hpath]
    decide
  have hnone : Splice.obstacle? ⟨[a, b]⟩ a.path [] "/b" = none :=
    Splice.obstacle?_eq_none_iff.2 ⟨by rw [hcomponent]; rfl, by decide, List.not_mem_nil⟩
  have hexpand : Splice.expand ⟨[a, b]⟩ a.path a.text (Document.read a.text).1.body
      = [.spliced 1 [.text "x\n" 1, .element "Card" [] [] true 2 2]] := by
    obtain ⟨n, hn⟩ := UnitIndex.exists_depthBound_eq ⟨[a, b]⟩ a.path a.text
    have htarget : includeTarget (Splice.currentDir (Path.dir a.path) []) "/b" = "/b" := hpath
    rw [Splice.expand, hn, hread, Node.piecesAll, Node.pieces, Splice.includePiece, htarget, hnone,
      hcomponent]
    show [Piece.spliced 1 (Node.piecesAll _ (Document.read "x\n<Card/>").1.body)] = _
    rw [Document.read_textAndTag]
    rfl
  have hstray : ⟨some 1, 2, .unknownComponent "Card", true⟩
      ∈ Generate.strays a a.text .full ⟨[a, b]⟩ fun _ _ => none := by
    rw [Generate.strays, hexpand]
    generalize ((Document.read a.text).1.inheritImports _ _ _).1.imports = imports
    have hunknown : RenderContext.component { imports, resolver := fun _ _ => none } "Card"
        = .error (.unknownComponent "Card") := by
      have hcut : cutLast? (ch '.') "Card" = none := by decide
      unfold RenderContext.component
      rw [hcut]
    have hremarks : Piece.remarksAll { imports, resolver := fun _ _ => none } none
        [.spliced 1 [.text "x\n" 1, .element "Card" [] [] true 2 2]]
          = [⟨some 1, 2, .unknownComponent "Card", true⟩] := by
      have htag : ElementName.isComponent "Card" = true := by decide
      simp [Piece.remarksAll, Piece.remarks, htag, hunknown]
    rw [hremarks]
    exact List.mem_singleton_self _
  have hfinding := (Generate.finding_of_stray hstray).1
  have hlocated := h a a.text .full ⟨[a, b]⟩ (fun _ _ => none) [] (Finding.diagnostic a.path _)
    (by
      rw [Generate.diagnostics_unit]
      exact List.mem_append_right _ (List.mem_map_of_mem hfinding)) rfl
  exact absurd hlocated.2 (by decide)

end Stencil
