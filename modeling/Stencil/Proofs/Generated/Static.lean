import Stencil.Proofs.Generated.Alignment
import Stencil.Proofs.Generated.Modes
import Stencil.Proofs.Generated.Readback
import Stencil.Proofs.Template.Roundtrip

/-!
# Static markup passes through

Markup without conditionals, loops and components is rendered as calls that say it all
again: read line by line, the body of `Render` gives back the source byte by byte. Nothing
is lost where a text is split at its line feeds, where a tag is split at its attributes,
or where a closing tag is left to the end of the content.

A tag that names a component is rendered as a plain element as long as the component is not
known. That a tag takes no content does not keep it from naming a component: `Br` takes
none, and it names one. So what is said here needs that no such component is known
(`static_markup_unchanged`), and is wrong without (`static_markup_changed`).
-/

namespace Stencil

open Bytes

/-! ## Static markup -/

/-- The value is text free of double quotes, an expression on one line, or none. -/
def AttrValue.Static : AttrValue → Prop
  | .bare => True
  | .literal text => dquote ∉ text
  | .expr code => code.OneLine

mutual

/-- **The node is static markup**: text without at signs, an expression on one line, or an
element with static content. Only a tag that takes no content may name a component, and
then it has to be `plain`. -/
def Node.Static (plain : Bytes → Prop) : Node → Prop
  | .text value _ => ch '@' ∉ value
  | .expr code _ => code.OneLine
  | .splice .. | .loop .. | .choice .. => False
  | .element tag attrs children selfClosing _ _ =>
    (ElementName.isComponent tag = true → ElementName.isVoid tag = true ∧ plain tag)
      ∧ (∀ a ∈ attrs, a.value.Static) ∧ selfClosing = false ∧ Node.StaticAll plain children

/-- **The nodes are static markup.** -/
def Node.StaticAll (plain : Bytes → Prop) : List Node → Prop
  | [] => True
  | n :: ns => n.Static plain ∧ Node.StaticAll plain ns

end

/-! ## Lines do not matter

What is printed, and whether it is static, has nothing to do with the lines of a tree. -/

theorem Attr.flatMap_print_erase (attrs : List Attr) :
    (attrs.map Attr.erase).flatMap Attr.print = attrs.flatMap Attr.print := by
  rw [List.flatMap_map]
  rfl

mutual

theorem Node.print_erase : ∀ n : Node, n.erase.print = n.print
  | .text .. | .expr .. | .splice .. => rfl
  | .loop clause body _ _ => by
    rw [Node.erase, Node.print, Node.print, Node.printAll_eraseAll body]
  | .choice branches otherwise _ _ => by
    have hempty : (Node.eraseAll otherwise).isEmpty = otherwise.isEmpty := by
      cases otherwise <;> rfl
    rw [Node.erase, Node.print, Node.print, Branch.printAll_eraseAll branches,
      Node.printAll_eraseAll otherwise, hempty]
  | .element tag attrs children _ _ _ => by
    rw [Node.erase, Node.print, Node.print, Node.printAll_eraseAll children, printTag, printTag,
      Attr.flatMap_print_erase]

theorem Branch.printAll_eraseAll : ∀ (bs : List Branch) (opening : Bytes),
    Branch.printAll opening (Branch.eraseAll bs) = Branch.printAll opening bs
  | [], _ => rfl
  | .mk cond body _ :: bs, opening => by
    rw [Branch.eraseAll, Branch.printAll, Branch.printAll, Node.printAll_eraseAll body,
      Branch.printAll_eraseAll bs]

theorem Node.printAll_eraseAll : ∀ ns : List Node,
    Node.printAll (Node.eraseAll ns) = Node.printAll ns
  | [] => rfl
  | n :: ns => by
    rw [Node.eraseAll, Node.printAll, Node.printAll, Node.print_erase n, Node.printAll_eraseAll ns]

end

mutual

theorem Node.static_erase {plain : Bytes → Prop} : ∀ n : Node, n.erase.Static plain ↔ n.Static plain
  | .text .. | .expr .. | .splice .. | .loop .. | .choice .. => Iff.rfl
  | .element tag attrs children _ _ _ => by
    rw [Node.erase, Node.Static, Node.Static, Node.staticAll_eraseAll children, List.forall_mem_map]
    rfl

theorem Node.staticAll_eraseAll {plain : Bytes → Prop} : ∀ ns : List Node,
    Node.StaticAll plain (Node.eraseAll ns) ↔ Node.StaticAll plain ns
  | [] => Iff.rfl
  | n :: ns => by
    rw [Node.eraseAll, Node.StaticAll, Node.StaticAll, Node.static_erase n,
      Node.staticAll_eraseAll ns]

end

/-! ## What static markup is rendered as -/

namespace Line.AllWrite

/-- A line that is one of the calls reads as its markup. -/
theorem emit (p : Place) (src : Nat) {code m : Bytes} (hne : code ≠ []) (hline : code.OneLine)
    (h : readCall? code = some m) : AllWrite (p.emit src code).lines m :=
  singleton (l := p.line src code) hne hline h

/-- A raw call reads as the markup it is given. -/
theorem raw (p : Place) (src : Nat) (m : Bytes) : AllWrite (p.emit src (rawCall m)).lines m :=
  emit p src (List.cons_ne_nil _ _) (oneLine_rawCall m) (readCall?_raw m)

end Line.AllWrite

theorem flatten_textSegments (s : Bytes) : (textSegments s).flatten = s := by
  induction s with
  | nil => rfl
  | cons b s ih =>
    rw [textSegments]
    split
    · rw [List.flatten_cons, ih]
      rfl
    · cases hs : textSegments s with
      | nil =>
        rw [hs] at ih
        rw [← ih]
        rfl
      | cons seg segs =>
        rw [hs] at ih
        rw [← ih]
        rfl

/-- A text that is split at its line feeds reads as the text. -/
theorem allWrite_renderText (p : Place) (value : Bytes) (line : Nat) :
    Line.AllWrite (renderText p value line).lines value := by
  have hsegs : ∀ (segs : List Bytes) (k : Nat), Line.AllWrite
      ((segs.zipIdx k).map fun s => p.line (line + s.2) (rawCall s.1)) segs.flatten := by
    intro segs
    induction segs with
    | nil => exact fun _ => .nil
    | cons seg segs ih => exact fun k => (Line.AllWrite.raw p (line + k) seg).append (ih (k + 1))
  have h := hsegs (textSegments value) 0
  rw [flatten_textSegments] at h
  exact h

/-- A static attribute reads as it is printed. -/
theorem allWrite_renderAttr (p : Place) {a : Attr} (h : a.value.Static) :
    Line.AllWrite (renderAttr p a).lines a.print := by
  obtain ⟨name, value, line⟩ := a
  cases value with
  | bare =>
    have hprint : Attr.print ⟨name, .bare, line⟩ = ofString " " ++ name :=
      congrArg (ch ' ' :: ·) (List.append_nil name)
    rw [hprint]
    exact .raw p line _
  | literal text =>
    have hprint : Attr.print ⟨name, .literal text, line⟩
        = ofString " " ++ name ++ ofString "=\"" ++ replaceByte dquote "&#34;" text
          ++ ofString "\"" := by
      rw [replaceByte_of_not_mem h, Attr.print, AttrValue.print,
        show ofString "=\"" = [ch '=', dquote] from rfl]
      simp only [List.append_assoc]
      rfl
    rw [hprint]
    exact .raw p line _
  | expr code =>
    have hprint : Attr.print ⟨name, .expr code, line⟩
        = ofString " " ++ name ++ ofString "=@(" ++ code ++ ofString ")" := by
      rw [Attr.print, AttrValue.print, show ofString "=@(" = [ch '=', ch '@', ch '('] from rfl]
      simp only [List.append_assoc]
      rfl
    rw [hprint]
    refine .emit p line (List.cons_ne_nil _ _) ?_ (readCall?_attr name code)
    simp only [oneLine_append, oneLine_quote]
    exact ⟨⟨⟨⟨by decide, trivial⟩, by decide⟩, h⟩, by decide⟩

/-- Static attributes read as they are printed. -/
theorem allWrite_renderAttrs (p : Place) {attrs : List Attr} (h : ∀ a ∈ attrs, a.value.Static) :
    Line.AllWrite (Output.concat (attrs.map (renderAttr p))).lines (attrs.flatMap Attr.print) := by
  induction attrs with
  | nil => exact .nil
  | cons a attrs ih =>
    obtain ⟨ha, hattrs⟩ := List.forall_mem_cons.1 h
    exact (allWrite_renderAttr p ha).append (ih hattrs)

/-- An element that is rendered as it is reads as it is printed, if its content does. -/
theorem allWrite_plainElement (p : Place) (tag : Bytes) {attrs : List Attr}
    (hattrs : ∀ a ∈ attrs, a.value.Static) (line endLine : Nat) {complaint content : Output}
    {m : Bytes} (hcomplaint : complaint.lines = []) (hcontent : Line.AllWrite content.lines m) :
    Line.AllWrite (complaint ++ p.emit line (rawCall ("<" ++ tag))
        ++ Output.concat (attrs.map (renderAttr p))
        ++ if ElementName.isVoid tag then p.emit line "w.Raw(\">\")"
          else if false then p.emit line (rawCall ("></" ++ tag ++ ">"))
          else p.emit line "w.Raw(\">\")" ++ content
            ++ p.emit endLine (rawCall ("</" ++ tag ++ ">"))).lines
      (printTag tag attrs ++ if ElementName.isVoid tag then [] else m ++ printClose tag) := by
  have hend : Line.AllWrite (p.emit line (ofString "w.Raw(\">\")")).lines (ofString ">") :=
    .emit p line (by decide) (by decide) (by decide)
  have hopen : Line.AllWrite (complaint ++ p.emit line (rawCall ("<" ++ tag))
      ++ Output.concat (attrs.map (renderAttr p))).lines
      (ofString "<" ++ tag ++ attrs.flatMap Attr.print) := by
    rw [Output.append_lines, Output.append_lines, hcomplaint]
    exact (Line.AllWrite.raw p line _).append (allWrite_renderAttrs p hattrs)
  have hprint : printTag tag attrs
      = ofString "<" ++ tag ++ attrs.flatMap Attr.print ++ ofString ">" := rfl
  rw [Output.append_lines, hprint,
    List.append_assoc (ofString "<" ++ tag ++ attrs.flatMap Attr.print)]
  refine hopen.append ?_
  split
  · rw [List.append_nil]
    exact hend
  · have hclose : printClose tag = ofString "</" ++ tag ++ ofString ">" := rfl
    rw [if_neg Bool.false_ne_true, hclose, ← List.append_assoc (ofString ">")]
    exact (hend.append hcontent).append (.raw p endLine _)

/-- The component is not known: its tag is rendered as a plain element. -/
def RenderContext.Unknown (ctx : RenderContext) (tag : Bytes) : Prop :=
  ∃ fault, ctx.component tag = .error fault

mutual

/-- **The lines of a static node read as the node is printed.** -/
theorem Node.Static.allWrite {ctx : RenderContext} {f : Bytes → Nat → Piece} :
    ∀ {n : Node}, n.Static ctx.Unknown → ∀ p : Place,
      Line.AllWrite ((n.pieces f).render ctx p).lines n.print
  | .text value line, h, p => by
    have hprint : (Node.text value line).print = value := replaceByte_of_not_mem h
    rw [hprint]
    exact allWrite_renderText p value line
  | .expr code line, h, p => by
    refine .emit p line (List.cons_ne_nil _ _) ?_ (readCall?_text code)
    rw [oneLine_append, oneLine_append]
    exact ⟨⟨by decide, h⟩, by decide⟩
  | .element tag attrs children false line endLine, ⟨htag, hattrs, _, hchildren⟩, p => by
    have hcontent : Line.AllWrite (Piece.renderAll ctx p (Node.piecesAll f children)).lines
        (Node.printAll children) := hchildren.allWrite p
    rw [Node.pieces, Piece.render]
    dsimp only
    split
    · next hcomponent =>
      obtain ⟨fault, hfault⟩ := (htag hcomponent).2
      rw [hfault]
      exact allWrite_plainElement p tag hattrs line endLine rfl hcontent
    · exact allWrite_plainElement p tag hattrs line endLine rfl hcontent

/-- **The lines of static nodes read as the nodes are printed.** -/
theorem Node.StaticAll.allWrite {ctx : RenderContext} {f : Bytes → Nat → Piece} :
    ∀ {ns : List Node}, Node.StaticAll ctx.Unknown ns → ∀ p : Place,
      Line.AllWrite (Piece.renderAll ctx p (Node.piecesAll f ns)).lines (Node.printAll ns)
  | [], _, _ => .nil
  | _ :: _, ⟨hn, hns⟩, p => (hn.allWrite p).append (hns.allWrite p)

end

/-! ## Tags that take no content -/

/-- A tag that takes no content is not qualified. -/
theorem ElementName.dot_not_mem_of_isVoid {tag : Bytes} (h : ElementName.isVoid tag = true) :
    ch '.' ∉ tag := by
  intro hdot
  obtain ⟨name, hname, heq⟩ := List.any_eq_true.1 h
  have hall : ∀ n ∈ ElementName.voidNames, ch '.' ∉ ofString n := by decide
  have hlower := mem_lowerText hdot (by decide) (by decide)
  rw [← of_decide_eq_true heq] at hlower
  exact hall name hname hlower

/-- A tag that takes no content names a component of the unit's own package, if any. -/
theorem RenderContext.unknown_of_isVoid {ctx : RenderContext} {tag : Bytes}
    (h : ElementName.isVoid tag = true) (hresolver : ctx.resolver [] tag = none) :
    ctx.Unknown tag := by
  have hdot := ElementName.dot_not_mem_of_isVoid h
  have hcut : cutLast? (ch '.') tag = none := by
    have hall : tag.reverse.takeWhile (· ≠ ch '.') = tag.reverse :=
      List.takeWhile_eq_self_iff.2 fun b hb => by
        rw [decide_eq_true_eq]
        exact ne_of_mem_of_not_mem (List.mem_reverse.1 hb) hdot
    unfold cutLast?
    dsimp only
    rw [hall, List.reverse_reverse, if_neg (Nat.lt_irrefl _)]
  refine ⟨.unknownComponent tag, ?_⟩
  unfold RenderContext.component
  dsimp only
  rw [hcut]
  dsimp only
  rw [hresolver]

mutual

theorem Node.Static.mono {p q : Bytes → Prop}
    (hpq : ∀ tag, ElementName.isVoid tag = true → p tag → q tag) :
    ∀ {n : Node}, n.Static p → n.Static q
  | .text .., h | .expr .., h => h
  | .element .., ⟨htag, hattrs, hclosing, hchildren⟩ =>
    ⟨fun hc => ⟨(htag hc).1, hpq _ (htag hc).1 (htag hc).2⟩, hattrs, hclosing, hchildren.mono hpq⟩

theorem Node.StaticAll.mono {p q : Bytes → Prop}
    (hpq : ∀ tag, ElementName.isVoid tag = true → p tag → q tag) :
    ∀ {ns : List Node}, Node.StaticAll p ns → Node.StaticAll q ns
  | [], h => h
  | _ :: _, ⟨hn, hns⟩ => ⟨hn.mono hpq, hns.mono hpq⟩

end

/-! ## The whole unit -/

/-- The lines of the body of `Render`, in the full code of an input. -/
def Generate.renderLines (u : SourceUnit) (input : Bytes) (ix : UnitIndex) (resolver : Resolver) :
    List Line :=
  (Writer.bodyOutput .full resolver ix u.path input (u.document input ix)).lines

/-- **The full code says the input again**: it is the preamble up to the signature of
`Render`, the body, its last line and the closing brace, and the body read line by line is
the input. -/
def Generate.PassesThrough (u : SourceUnit) (input : Bytes) (ix : UnitIndex)
    (resolver : Resolver) (package : Bytes) : Prop :=
  ∃ body : Bytes, (Generate.unit u input .full ix resolver package).code
      = Line.textOf (Generate.preamble u.path (packageOr package) (Naming.typeName u.path)
          (u.document input ix)) ++ body ++ "\treturn w.Err()\n" ++ "\x7d\n"
    ∧ readBody? body = some input

/-- The code of an input without directives, and the body in it. -/
theorem Generate.code_of_read (u : SourceUnit) {input : Bytes} (ix : UnitIndex)
    {body : List Node} {findings : List Finding}
    (hread : Document.read input = ({ body := body }, findings)) (resolver : Resolver)
    (package : Bytes) :
    (Generate.unit u input .full ix resolver package).code
      = Line.textOf (Generate.preamble u.path (packageOr package) (Naming.typeName u.path)
          (u.document input ix)) ++ Line.textOf (Generate.renderLines u input ix resolver)
        ++ "\treturn w.Err()\n" ++ "\x7d\n"
    ∧ Generate.renderLines u input ix resolver
      = (Piece.renderAll ⟨(u.document input ix).imports, resolver⟩ { indent := 1 }
          (Splice.expand ix u.path input body)).lines := by
  have hdocument : u.document input ix
      = { body := body, imports := (u.document input ix).imports } := by
    unfold SourceUnit.document Document.inheritImports
    rw [hread]
  constructor
  · show Line.textOf (Generate.unit u input .full ix resolver package).lines = _
    rw [Generate.lines_unit, Line.textOf_append, Line.textOf_append, Line.textOf_append,
      show Generate.postamble (u.document input ix) = [Generate.line 0 0 "\x7d"] by
        rw [hdocument]; rfl]
    rfl
  · unfold Generate.renderLines
    rw [hdocument]
    rfl

/-- **Static markup passes through unchanged**: reading it finds nothing worse than a
warning, and the calls of the body of `Render`, read one after the other, write the source.
The resolver must not know a component under a tag of the source that takes no content. -/
theorem static_markup_unchanged (u : SourceUnit) (ix : UnitIndex) (resolver : Resolver)
    (package : Bytes) {ns : List Node} (h : Node.CanonicalAll false ns)
    (hstatic : Node.StaticAll (fun tag => resolver [] tag = none) ns) :
    (∀ f ∈ (Document.read (Node.printAll ns)).2, f.fault.severity = .warning)
    ∧ Generate.PassesThrough u (Node.printAll ns) ix resolver package := by
  obtain ⟨body, findings, hread, hbody, hfindings⟩ := h.read
  refine ⟨by rw [hread]; exact hfindings, ?_⟩
  obtain ⟨hcode, hlines⟩ := Generate.code_of_read u ix hread resolver package
  have hrendered : Node.StaticAll
      (RenderContext.Unknown ⟨(u.document (Node.printAll ns) ix).imports, resolver⟩) body := by
    rw [← Node.staticAll_eraseAll, hbody, Node.staticAll_eraseAll]
    exact hstatic.mono fun tag => RenderContext.unknown_of_isVoid
  have hprinted : Node.printAll body = Node.printAll ns := by
    rw [← Node.printAll_eraseAll, hbody, Node.printAll_eraseAll]
  refine ⟨_, hcode, ?_⟩
  rw [hlines]
  exact (hrendered.allWrite _).readBody.trans (congrArg some hprinted)

/-- Static markup with something of everything: text that ends a line, an element with an
attribute of each kind around an expression, and a tag that takes no content and would name
a component. -/
def sampleMarkup : List Node :=
  [.text "one\ntwo " 1,
    .element "p" sampleAttrs [.expr "name" 1] false 1 1,
    .element "Br" [] [] false 1 1]

/-- A tag that takes no content, whatever its case. -/
theorem isVoid_br : ElementName.isVoid "Br" = true := by
  rw [ElementName.isVoid, ElementName.occursIn, lowerText_of_ascii (List.all_iff_forall_prop.1 rfl)]
  decide

theorem static_markup_unchanged_sample :
    let u : SourceUnit :=
      { path := "/p.tmpl", text := Node.printAll sampleMarkup, kind := .component }
    let unknown : Resolver := fun _ _ => none
    Node.CanonicalAll false sampleMarkup
    ∧ Node.StaticAll (fun tag => unknown [] tag = none) sampleMarkup
    ∧ (∀ f ∈ (Document.read (Node.printAll sampleMarkup)).2, f.fault.severity = .warning)
    ∧ Generate.PassesThrough u (Node.printAll sampleMarkup) .empty unknown [] := by
  intro u unknown
  have h : Node.CanonicalAll false sampleMarkup := by
    refine ⟨⟨by decide, List.all_iff_forall_prop.1 rfl, by decide, by decide⟩, ?_,
      ⟨⟨⟨ch 'p', [], rfl, rfl⟩, List.all_eq_true.1 rfl⟩, sampleAttrs_canonical, rfl, ?_,
        .of_name (List.all_eq_true.1 rfl), ?_, trivial⟩, ?_,
      ⟨⟨⟨ch 'B', [ch 'r'], rfl, rfl⟩, List.all_eq_true.1 rfl⟩, List.forall_mem_nil _, rfl,
        fun _ => rfl, trivial⟩, ?_, trivial⟩
    · rintro _ ⟨⟩
      exact ⟨fun _ => rfl, by decide, nofun⟩
    · rw [isVoid_p]
      exact nofun
    · rintro _ ⟨⟩
    · rintro _ ⟨⟩
      exact ⟨nofun, nofun, nofun⟩
    · rintro _ ⟨⟩
  have hattrs : ∀ a ∈ sampleAttrs, a.value.Static := by
    unfold sampleAttrs
    simp only [List.forall_mem_cons]
    exact ⟨by show dquote ∉ _; decide, trivial, by show OneLine _; decide, List.forall_mem_nil _⟩
  have hstatic : Node.StaticAll (fun tag => unknown [] tag = none) sampleMarkup :=
    ⟨by show ch '@' ∉ _; decide,
      ⟨by decide, hattrs, rfl, by show OneLine _; decide, trivial⟩,
      ⟨fun _ => ⟨isVoid_br, rfl⟩, List.forall_mem_nil _, rfl, trivial⟩, trivial⟩
  exact ⟨h, hstatic, static_markup_unchanged u .empty unknown [] h hstatic⟩

/-- Nodes that are one element without attributes and content, lines apart, are one. -/
theorem Node.eq_singleton_of_erase {ns : List Node} {tag : Bytes}
    (h : Node.eraseAll ns = [.element tag [] [] false 0 0]) :
    ∃ line endLine, ns = [.element tag [] [] false line endLine] := by
  obtain _ | ⟨n, _ | ⟨n', ns⟩⟩ := ns
  · cases h
  · obtain ⟨hn, -⟩ := List.cons_eq_cons.1 h
    cases n with
    | element tag' attrs children selfClosing line endLine =>
      rw [Node.erase, Node.element.injEq, List.map_eq_nil_iff] at hn
      obtain ⟨rfl, rfl, hchildren, rfl, -, -⟩ := hn
      cases children with
      | nil => exact ⟨line, endLine, rfl⟩
      | cons => cases hchildren
    | _ => cases hn
  · obtain ⟨-, h⟩ := List.cons_eq_cons.1 h
    cases h

/-- **A known component under a tag that takes no content** is rendered as a component, and
the source is not written again. -/
theorem static_markup_changed :
    let u : SourceUnit := { path := "/p.tmpl", text := "<Br>", kind := .component }
    let known : Resolver := fun _ name => if name = "Br" then some { name := "Br" } else none
    let ns : List Node := [.element "Br" [] [] false 1 1]
    Node.printAll ns = "<Br>" ∧ Node.CanonicalAll false ns ∧ Node.StaticAll (fun _ => True) ns
    ∧ ¬ Generate.PassesThrough u "<Br>" .empty known [] := by
  intro u known ns
  have hprint : Node.printAll ns = "<Br>" := by
    rw [Node.printAll, Node.print, if_pos isVoid_br]
    rfl
  have h : Node.CanonicalAll false ns :=
    ⟨⟨⟨⟨ch 'B', [ch 'r'], rfl, rfl⟩, List.all_eq_true.1 rfl⟩, List.forall_mem_nil _, rfl,
      fun _ => rfl, trivial⟩, by rintro _ ⟨⟩, trivial⟩
  refine ⟨hprint, h, ⟨⟨fun _ => ⟨isVoid_br, trivial⟩, List.forall_mem_nil _, rfl, trivial⟩,
    trivial⟩, ?_⟩
  rintro ⟨written, hwritten, hmarkup⟩
  obtain ⟨body, findings, hread, hbody, -⟩ := h.read
  obtain ⟨line, endLine, rfl⟩ : ∃ line endLine, body = [.element "Br" [] [] false line endLine] :=
    Node.eq_singleton_of_erase hbody
  rw [hprint] at hread
  obtain ⟨hcode, hlines⟩ := Generate.code_of_read u .empty hread known []
  -- the body is what stands between the same texts
  have heq : written = Line.textOf (Generate.renderLines u "<Br>" .empty known) := by
    rw [hwritten] at hcode
    exact List.append_cancel_left (List.append_cancel_right (List.append_cancel_right hcode))
  have hnone : readBody? (Line.textOf (Generate.renderLines u "<Br>" .empty known)) = none := by
    rw [hlines]
    generalize (u.document "<Br>" .empty).imports = imports
    have hcomponent : (RenderContext.mk imports known).component "Br"
        = .ok ({ name := "Br" }, []) := rfl
    have hrender : (Piece.renderAll ⟨imports, known⟩ { indent := 1 }
        (Splice.expand .empty u.path "<Br>" [.element "Br" [] [] false line endLine])).lines
        = [Place.line { indent := 1 } line "w.Component(&Br\x7b",
          Place.line { indent := 1 } endLine "\x7d)"] := by
      rw [Splice.expand, Node.piecesAll, Node.pieces, Node.piecesAll, Piece.renderAll, Piece.render,
        if_pos (by decide), hcomponent]
      rfl
    rw [hrender]
    rfl
  rw [heq, hnone] at hmarkup
  cases hmarkup

end Stencil
