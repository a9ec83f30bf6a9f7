import Stencil.Proofs.Generated.Collected
import Stencil.Proofs.Generated.Reference
import Stencil.Proofs.Generated.Tokens
import Stencil.Proofs.Text.Search

/-!
# No import that is needed is dropped

A unit inherits an import only if a fragment of its code refers to it. The fragments that are
looked at are collected by one walk, and the code is generated by another. So for the imports
to be there that the code needs, the second walk must not come upon a fragment that the first
one missed. It does not: what the generator copies, from the unit or from any unit that is
spliced into it, was collected, but for blanks around it (`Generate.stemFrom_unitTokens`).

The rest is about which of the imports that are offered is kept: the first of each name that
the unit does not import itself, if a fragment refers to it (`exists_mem_keepImports`).
-/

namespace Stencil

open Bytes

/-! ## Component tags -/

/-- An import is never known by an empty name: without one of its own it goes by the last part of
its path, which is not empty either. -/
theorem ImportDirective.name_ne_nil (i : ImportDirective) : i.name ≠ [] := by
  unfold name
  split
  · exact Path.base_ne_nil i.path
  · next h => exact fun hnil => h (List.isEmpty_iff.2 hnil)

namespace RenderContext

variable {ctx : RenderContext} {tag : Bytes} {c : Component} {qualifier : Bytes}

/-- **A resolved tag** is the name of a component of the package, or the name of an import with
that of a component behind it. -/
theorem component_eq_ok (h : ctx.component tag = .ok (c, qualifier)) :
    ∃ pkg name, ctx.resolver pkg name = some c ∧ ch '.' ∉ name
      ∧ ((qualifier = [] ∧ tag = name) ∨ (qualifier ≠ [] ∧ tag = qualifier ++ ch '.' :: name)) := by
  unfold component at h
  dsimp only at h
  split at h
  · next hcut =>
    split at h
    · next hc =>
      cases h
      exact ⟨_, _, hc, notMem_of_cutLast? hcut, .inl ⟨rfl, rfl⟩⟩
    · cases h
  · next q name hcut =>
    obtain ⟨htag, hname⟩ := eq_of_cutLast? hcut
    split at h
    · next i hfind =>
      split at h
      · next hc =>
        cases h
        have hfound := List.find?_some hfind
        have hi : i.name = qualifier := of_decide_eq_true hfound
        exact ⟨_, _, hc, hname, .inr ⟨hi ▸ i.name_ne_nil, htag⟩⟩
      · cases h
    · cases h

/-- If components are found by their names, the type of a component that a tag was resolved to
is the tag. -/
theorem typeIn_eq (hresolver : ∀ pkg name c, ctx.resolver pkg name = some c → c.name = name)
    (h : ctx.component tag = .ok (c, qualifier)) : c.typeIn qualifier = tag := by
  obtain ⟨pkg, name, hc, -, ⟨rfl, rfl⟩ | ⟨hq, rfl⟩⟩ := component_eq_ok h
  · exact hresolver _ _ _ hc
  · rw [Component.typeIn, if_neg (mt List.isEmpty_iff.1 hq), hresolver _ _ _ hc,
      List.append_assoc]
    rfl

end RenderContext

/-! ## Fragments of pieces -/

/-- **A fragment stems from the given ones**: it is among them, or is what is left of one
without the blanks around it. -/
def Stems (spans : List Bytes) (s : Bytes) : Prop := ∃ c ∈ spans, s = c ∨ s = trim c

theorem Stems.of_mem {spans : List Bytes} {s : Bytes} (h : s ∈ spans) : Stems spans s :=
  ⟨s, h, .inl rfl⟩

/-- All fragments that lines copy stem from the given ones. -/
def StemFrom (spans : List Bytes) (ls : List (List Token)) : Prop :=
  ∀ ts ∈ ls, ∀ s, .copied s ∈ ts → Stems spans s

section StemFrom

variable {spans : List Bytes} {a b : List (List Token)} {ts : List Token}

@[simp] theorem stemFrom_nil : StemFrom spans [] := fun _ hts => absurd hts List.not_mem_nil

/-- Lines behind one another stem from the spans if all of them do. -/
@[simp] theorem stemFrom_append : StemFrom spans (a ++ b) ↔ StemFrom spans a ∧ StemFrom spans b :=
  List.forall_mem_append

/-- Of a line, only the fragments that it copies have to stem from the spans. -/
@[simp] theorem stemFrom_cons :
    StemFrom spans (ts :: a) ↔ (∀ s, .copied s ∈ ts → Stems spans s) ∧ StemFrom spans a :=
  List.forall_mem_cons

/-- A line that copies one fragment. -/
theorem stems_of_copied {before after s : Bytes} (h : Stems spans s) :
    ∀ s', Token.copied s' ∈ [.fixed before, .copied s, .fixed after] → Stems spans s' := by
  simpa using h

/-- Markup copies nothing: it is quoted. -/
@[simp] theorem copied_notMem_rawTokens (s text : Bytes) : Token.copied s ∉ rawTokens text := by
  simp [rawTokens]

theorem stems_rawTokens (text s : Bytes) (h : Token.copied s ∈ rawTokens text) : Stems spans s :=
  absurd h (copied_notMem_rawTokens s text)

end StemFrom

section Pieces

variable {ctx : RenderContext} {spans : List Bytes} {f : Bytes → Nat → Piece}

/-- The code of an attribute is a span of its tag. -/
theorem mem_tagSpans_of_expr {tag code : Bytes} {attrs : List Attr} {a : Attr} (ha : a ∈ attrs)
    (hvalue : a.value = .expr code) : code ∈ tagSpans tag attrs :=
  List.mem_append_right _ (List.mem_filterMap.2 ⟨a, ha, by rw [hvalue]⟩)

/-- A literal of a component tag is a span as well, since it may be copied as code. -/
theorem mem_tagSpans_of_literal {tag text : Bytes} (htag : ElementName.isComponent tag = true)
    {attrs : List Attr} {a : Attr} (ha : a ∈ attrs) (hvalue : a.value = .literal text) :
    text ∈ tagSpans tag attrs :=
  List.mem_append_right _ (List.mem_filterMap.2 ⟨a, ha, by rw [hvalue]; exact if_pos htag⟩)

/-- The name of a component is a span of its tag: it may begin with the name of an import. -/
theorem mem_tagSpans_of_component {tag : Bytes} (htag : ElementName.isComponent tag = true)
    (attrs : List Attr) : tag ∈ tagSpans tag attrs :=
  List.mem_append_left _ ((if_pos htag).symm ▸ List.mem_singleton_self tag)

/-- The attributes of a plain element copy nothing but their code. -/
theorem stemFrom_attrTokens {tag : Bytes} {attrs : List Attr} (h : tagSpans tag attrs ⊆ spans) :
    StemFrom spans (attrs.map attrTokens) := by
  refine List.forall_mem_map.2 fun a ha => ?_
  unfold attrTokens
  split
  · exact stems_rawTokens _
  · next code hvalue =>
    have hcode : Stems spans code := .of_mem (h (mem_tagSpans_of_expr ha hvalue))
    simpa using hcode
  · exact stems_rawTokens _

/-- The arguments of a component copy code and literals, all of which are spans of the tag. -/
theorem stemFrom_argumentTokens {tag : Bytes} (htag : ElementName.isComponent tag = true)
    {attrs : List Attr} (h : tagSpans tag attrs ⊆ spans) (c : Component) :
    StemFrom spans (attrs.flatMap (argumentTokens c)) := by
  refine List.forall_mem_flatMap.2 fun a ha => ?_
  have hvalue : ∀ param s, .copied s = argumentToken param a.value → Stems spans s := by
    intro param s hs
    cases hv : a.value with
    | literal text =>
      rw [hv, argumentToken] at hs
      split at hs
      · cases hs
      · cases hs
        exact ⟨text, h (mem_tagSpans_of_literal htag ha hv), .inr rfl⟩
    | expr code =>
      rw [hv, argumentToken] at hs
      cases hs
      exact .of_mem (h (mem_tagSpans_of_expr ha hv))
    | bare =>
      rw [hv, argumentToken] at hs
      cases hs
  unfold argumentTokens
  split
  · exact stemFrom_nil
  · next param _ =>
    refine stemFrom_cons.2 ⟨fun s hs => hvalue param s ?_, stemFrom_nil⟩
    simpa using hs

/-- A plain element copies what its attributes and its content copy. -/
theorem stemFrom_plainTokens {tag : Bytes} {attrs : List Attr} (h : tagSpans tag attrs ⊆ spans)
    (selfClosing : Bool) {content : List (List Token)} (hcontent : StemFrom spans content) :
    StemFrom spans (plainTokens tag attrs selfClosing content) := by
  unfold plainTokens
  split_ifs <;> simp [stemFrom_attrTokens h, hcontent]

/-- A component tag copies, besides, the type that it was resolved to, which is the tag itself. -/
theorem stemFrom_componentTokens {tag : Bytes} (htag : ElementName.isComponent tag = true)
    {attrs : List Attr} (h : tagSpans tag attrs ⊆ spans) {c : Component} {qualifier : Bytes}
    (htype : c.typeIn qualifier = tag) (shown : Bool) {content : List (List Token)}
    (hcontent : StemFrom spans content) :
    StemFrom spans (componentTokens c qualifier attrs shown content) := by
  have hargs := stemFrom_argumentTokens htag h c
  have htag : Stems spans tag := .of_mem (h (mem_tagSpans_of_component htag attrs))
  unfold componentTokens
  rw [htype]
  split_ifs <;> simp [htag, hargs, hcontent]

mutual

/-- **The fragments of a piece stem from those of its tree**, if that is so for includes. -/
theorem Node.stemFrom_pieces
    (hresolver : ∀ pkg name c, ctx.resolver pkg name = some c → c.name = name) : ∀ n : Node,
    n.spans ⊆ spans → (∀ p ∈ n.includes, ∀ line, StemFrom spans ((f p line).tokens ctx)) →
      StemFrom spans ((n.pieces f).tokens ctx)
  | .text value _, _, _ => List.forall_mem_map.2 fun seg _ => stems_rawTokens seg
  | .expr code _, h, _ =>
    stemFrom_cons.2 ⟨stems_of_copied (.of_mem (h (List.mem_cons_self ..))), stemFrom_nil⟩
  | .splice path line, _, hf => hf path (List.mem_singleton_self _) line
  | .loop clause body _ _, h, hf => by
    obtain ⟨hclause, hbody⟩ := List.cons_subset.1 h
    have hbody := Node.stemFrom_piecesAll hresolver body hbody hf
    have hclause : Stems spans clause := .of_mem hclause
    rw [Node.pieces, Piece.tokens]
    simp [hclause, hbody]
  | .choice branches otherwise _ _, h, hf => by
    obtain ⟨hbranches, hotherwise⟩ := List.append_subset.1 h
    obtain ⟨hfbranches, hfotherwise⟩ := List.forall_mem_append.1 hf
    have hbranches := Branch.stemFrom_piecesAll hresolver branches hbranches hfbranches "if "
    have hotherwise := Node.stemFrom_piecesAll hresolver otherwise hotherwise hfotherwise
    rw [Node.pieces, Piece.tokens]
    split_ifs <;> simp [hbranches, hotherwise]
  | .element tag attrs children selfClosing _ _, h, hf => by
    obtain ⟨htag, hchildren⟩ := List.append_subset.1 h
    have hchildren := Node.stemFrom_piecesAll hresolver children hchildren hf
    have hplain := stemFrom_plainTokens htag selfClosing hchildren
    rw [Node.pieces, Piece.tokens]
    split
    · next hcomponent =>
      cases hc : ctx.component tag with
      | error fault => exact hplain
      | ok found =>
        exact stemFrom_componentTokens hcomponent htag (RenderContext.typeIn_eq hresolver hc) _
          hchildren
    · exact hplain

/-- The lines of a list of nodes, by induction along with `Node.stemFrom_pieces`. -/
theorem Node.stemFrom_piecesAll
    (hresolver : ∀ pkg name c, ctx.resolver pkg name = some c → c.name = name) :
    ∀ ns : List Node, Node.spansAll ns ⊆ spans →
      (∀ p ∈ Node.includesAll ns, ∀ line, StemFrom spans ((f p line).tokens ctx)) →
        StemFrom spans (Piece.tokensAll ctx (Node.piecesAll f ns))
  | [], _, _ => stemFrom_nil
  | n :: ns, h, hf => by
    obtain ⟨hn, hns⟩ := List.append_subset.1 h
    obtain ⟨hfn, hfns⟩ := List.forall_mem_append.1 hf
    exact stemFrom_append.2 ⟨Node.stemFrom_pieces hresolver n hn hfn,
      Node.stemFrom_piecesAll hresolver ns hns hfns⟩

/-- The lines of branches, by the same induction. A condition is a span of its branch. -/
theorem Branch.stemFrom_piecesAll
    (hresolver : ∀ pkg name c, ctx.resolver pkg name = some c → c.name = name) :
    ∀ bs : List Branch, Branch.spansAll bs ⊆ spans →
      (∀ p ∈ Branch.includesAll bs, ∀ line, StemFrom spans ((f p line).tokens ctx)) →
        ∀ opening, StemFrom spans (PieceBranch.tokensAll ctx opening (Branch.piecesAll f bs))
  | [], _, _, _ => stemFrom_nil
  | .mk cond body _ :: bs, h, hf, opening => by
    obtain ⟨hb, hbs⟩ := List.append_subset.1 h
    obtain ⟨hcond, hbody⟩ := List.cons_subset.1 hb
    obtain ⟨hfb, hfbs⟩ := List.forall_mem_append.1 hf
    have hbody := Node.stemFrom_piecesAll hresolver body hbody hfb
    exact stemFrom_append.2 ⟨stemFrom_cons.2 ⟨stems_of_copied (.of_mem hcond), hbody⟩,
      Branch.stemFrom_piecesAll hresolver bs hbs hfbs _⟩

end

end Pieces

/-! ## Fragments of files -/

section Files

variable {ix : UnitIndex} {self : Bytes} {ctx : RenderContext} {spans seen : List Bytes}

/-- **Splicing comes upon nothing that was not collected**, whatever the bound on its depth, if
all that can be reached from the targets in `seen` was. -/
theorem Splice.stemFrom_includePiece
    (hresolver : ∀ pkg name c, ctx.resolver pkg name = some c → c.name = name)
    (hclosed : ∀ t ∈ seen, t ≠ self → ∀ u, ix.component? t = some u →
      (Document.read u.text).1.spans ⊆ spans
        ∧ ∀ p ∈ Node.includesAll (Document.read u.text).1.body,
          includeTarget (Path.dir t) p ∈ seen)
    {depth : Nat} {chain : List Bytes} {path : Bytes}
    (hpath : includeTarget (Path.dir (current self chain)) path ∈ seen) (line : Nat) :
    StemFrom spans ((includePiece ix self depth chain path line).tokens ctx) := by
  induction depth generalizing chain path line with
  | zero => exact stemFrom_nil
  | succ depth ih =>
    unfold includePiece
    dsimp only
    rw [currentDir_eq]
    split
    · next u hnone hu =>
      obtain ⟨-, hself, -⟩ := obstacle?_eq_none_iff.1 hnone
      obtain ⟨hspans, hincludes⟩ := hclosed _ hpath hself u hu
      exact Node.stemFrom_piecesAll hresolver _ (List.append_subset.1 hspans).2
        fun p hp line => ih (by rw [current_concat]; exact hincludes p hp) line
    · exact stemFrom_nil
    · exact stemFrom_nil

/-- Behind the imports, a file copies the declarations of the unit and what its body copies. -/
theorem Generate.stemFrom_restTokens (typeName : Bytes) {d : Document}
    (hparams : d.params.map ParamDirective.type ⊆ spans)
    (hcode : d.code.flatMap CodeBlock.lines ⊆ spans) {body : List (List Token)}
    (hbody : StemFrom spans body) : StemFrom spans (restTokens typeName d body) := by
  have hfields : StemFrom spans
      (d.params.map fun p => [.name p.name, .fixed " ", .copied p.type]) := by
    refine List.forall_mem_map.2 fun p hp => ?_
    have htype : Stems spans p.type := .of_mem (hparams (List.mem_map_of_mem hp))
    simpa using htype
  have hroute : StemFrom spans (routeTokens typeName d.page) := by
    cases d.page <;> simp [routeTokens]
  have hlocals : StemFrom spans (d.params.flatMap fun p =>
      [[.name p.name, .fixed " := c.", .name p.name], [.fixed "_ = ", .name p.name]]) :=
    List.forall_mem_flatMap.2 fun p _ => by simp
  have hblocks : StemFrom spans (d.code.flatMap fun block =>
      [] :: block.lines.map fun l => [.copied l]) := by
    refine List.forall_mem_flatMap.2 fun block hblock => ?_
    refine List.forall_mem_cons.2 ⟨by simp, List.forall_mem_map.2 fun l hl => ?_⟩
    have hline : Stems spans l := .of_mem (hcode (List.mem_flatMap.2 ⟨block, hblock, hl⟩))
    simpa using hline
  unfold restTokens
  simp [hfields, hroute, hlocals, hbody, hblocks]

/-- **The fragments that the full code of a unit copies were collected.** -/
theorem Generate.stemFrom_unitTokens (u : SourceUnit) (input : Bytes) (ix : UnitIndex)
    {resolver : Resolver} (hresolver : ∀ pkg name c, resolver pkg name = some c → c.name = name) :
    StemFrom ((Document.read input).1.codeSpans ix u.path input)
      (unitTokens u input ix resolver) := by
  obtain ⟨seen, hown, hincludes, hclosed⟩ := Document.codeSpans_closed ix u.path input
  generalize (Document.read input).1.codeSpans ix u.path input = spans at hown hclosed ⊢
  obtain ⟨hdeclared, hbody⟩ := List.append_subset.1 hown
  obtain ⟨hparams, hcode⟩ := List.append_subset.1 hdeclared
  refine stemFrom_restTokens (d := u.document input ix) _ hparams hcode ?_
  refine Node.stemFrom_piecesAll hresolver _ hbody fun p hp line => ?_
  refine Splice.stemFrom_includePiece hresolver hclosed ?_ line
  rw [Splice.current_nil]
  exact hincludes p hp

/-- Up to the end of the imports nothing is copied. -/
theorem Generate.stemFrom_headTokens (spans : List Bytes) (self package : Bytes)
    (imports : List ImportDirective) : StemFrom spans (headTokens self package imports) := by
  have himports : StemFrom spans ((importBlock imports).map importTokens) := by
    refine List.forall_mem_map.2 fun i _ => ?_
    unfold importTokens
    split <;> simp
  unfold headTokens
  simp [himports]

/-- Every fragment that the lines copy is a span or the trimmed text of one. -/
theorem StemFrom.of_mem_fragments {ls : List (List Token)} (h : StemFrom spans ls) {s : Bytes}
    (hs : s ∈ Token.fragments ls) : Stems spans s := by
  obtain ⟨ts, hts, hs⟩ := Token.mem_fragments.1 hs
  exact h ts hts s hs

/-- What a fragment refers to, the one that it stems from refers to as well. -/
theorem Stems.exists_refersTo {s name : Bytes} (h : Stems spans s)
    (hrefers : refersTo s name = true) : ∃ c ∈ spans, refersTo c name = true := by
  obtain ⟨c, hc, rfl | rfl⟩ := h
  · exact ⟨s, hc, hrefers⟩
  · exact ⟨c, hc, refersTo_of_trim hrefers⟩

end Files

/-! ## Imports that are kept -/

section Kept

variable {spans taken : List Bytes} {offered : List ImportDirective} {o i : ImportDirective}

/-- An offered import is kept if its name is not taken and a fragment refers to it. -/
theorem offerImport_of_refersTo (hnew : o.name ∉ taken) {s : Bytes} (hs : s ∈ spans)
    (hrefers : refersTo s o.name = true) :
    offerImport spans taken o = some { o with inherited := true } := by
  have hany : spans.any (fun s => refersTo s o.name) = true := List.any_eq_true.2 ⟨s, hs, hrefers⟩
  unfold offerImport
  rw [if_neg (mt List.contains_iff_mem.1 hnew), hany, if_neg (by simp)]

/-- **The names that are needed are kept**: of each name that is offered, that is not taken and
that a fragment refers to, there is an import. -/
theorem exists_mem_keepImports (hi : i ∈ offered) (hnew : i.name ∉ taken) {s : Bytes}
    (hs : s ∈ spans) (hrefers : refersTo s i.name = true) :
    ∃ j ∈ keepImports spans taken offered, j.name = i.name := by
  induction offered generalizing taken with
  | nil => cases hi
  | cons o offered ih =>
    rcases keepImports_cons spans taken o offered with ⟨hnone, heq⟩ | ⟨-, heq⟩
    · rcases List.mem_cons.1 hi with rfl | hi
      · rw [offerImport_of_refersTo hnew hs hrefers] at hnone
        cases hnone
      · rw [heq]
        exact ih hi hnew
    · rw [heq]
      by_cases hname : i.name = o.name
      · exact ⟨_, List.mem_cons_self .., hname.symm⟩
      · have hi := (List.mem_cons.1 hi).resolve_left fun h => hname (congrArg _ h)
        obtain ⟨j, hj, hjname⟩ := ih hi (List.not_mem_cons_of_ne_of_not_mem hname hnew)
        exact ⟨j, List.mem_cons_of_mem _ hj, hjname⟩

/-- **No name is kept twice**, nor one that is taken. -/
theorem nodup_keepImports (spans taken : List Bytes) (offered : List ImportDirective) :
    ((keepImports spans taken offered).map ImportDirective.name).Nodup
      ∧ ∀ i ∈ keepImports spans taken offered, i.inherited = true ∧ i.name ∉ taken := by
  induction offered generalizing taken with
  | nil => exact ⟨.nil, fun i hi => absurd hi List.not_mem_nil⟩
  | cons o offered ih =>
    rcases keepImports_cons spans taken o offered with ⟨-, heq⟩ | ⟨hsome, heq⟩
    · rw [heq]
      exact ih taken
    · obtain ⟨hnodup, hkept⟩ := ih (o.name :: taken)
      rw [heq, List.map_cons]
      refine ⟨List.nodup_cons.2 ⟨fun hmem => ?_, hnodup⟩, List.forall_mem_cons.2
        ⟨⟨rfl, (offerImport_eq_some hsome).2.1⟩, fun i hi => ?_⟩⟩
      · obtain ⟨i, hi, hname⟩ := List.mem_map.1 hmem
        exact (hkept i hi).2 (hname ▸ List.mem_cons_self ..)
      · exact ⟨(hkept i hi).1, fun h => (hkept i hi).2 (List.mem_cons_of_mem _ h)⟩

end Kept

/-- The imports that a unit can inherit, those of the outermost imports unit first. -/
def SourceUnit.offered (u : SourceUnit) (ix : UnitIndex) : List ImportDirective :=
  (ix.importsChain u.path).flatMap fun v => (Document.read v.text).1.imports

/-- The imports that a unit inherits. -/
def SourceUnit.inherited (u : SourceUnit) (input : Bytes) (ix : UnitIndex) :
    List ImportDirective :=
  keepImports ((Document.read input).1.codeSpans ix u.path input)
    ((Document.read input).1.imports.map ImportDirective.name) (u.offered ix)

/-- The document of a unit is what was read for it, with the inherited imports in front. -/
theorem SourceUnit.document_eq (u : SourceUnit) (input : Bytes) (ix : UnitIndex) :
    u.document input ix = { (Document.read input).1 with
      imports := u.inherited input ix ++ (Document.read input).1.imports } := by
  unfold inherited offered document Document.inheritImports
  dsimp only
  rw [List.flatMap_map]

/-- The inherited imports come first, followed by those of the unit itself. -/
theorem SourceUnit.imports_document (u : SourceUnit) (input : Bytes) (ix : UnitIndex) :
    (u.document input ix).imports = u.inherited input ix ++ (Document.read input).1.imports := by
  rw [document_eq]

/-- Every name that a unit imports is imported by the file, the runtime by its own line. -/
theorem Generate.exists_mem_importBlock {imports : List ImportDirective} {i : ImportDirective}
    (hi : i ∈ imports) : ∃ j ∈ importBlock imports, j.name = i.name := by
  by_cases hruntime : i.path = runtimePath && i.name = "runtime"
  · rw [Bool.and_eq_true, decide_eq_true_eq, decide_eq_true_eq] at hruntime
    exact ⟨_, List.mem_cons_self .., hruntime.2.symm ▸ (by decide)⟩
  · refine ⟨i, List.mem_cons_of_mem _ (List.mem_filter.2 ⟨hi, ?_⟩), rfl⟩
    rw [Bool.eq_false_iff.2 hruntime]
    rfl

/-- The component that shapes find by a name has that name. -/
theorem Shapes.name_of_component? {shapes : Shapes} {pkg name : Bytes} {c : Component}
    (h : shapes.component? pkg name = some c) : c.name = name := by
  obtain ⟨⟨pkg', c'⟩, hfind, rfl⟩ := Option.map_eq_some_iff.1 h
  have hfound := List.find?_some hfind
  rw [Bool.and_eq_true, decide_eq_true_eq, decide_eq_true_eq] at hfound
  exact hfound.2

/-- **No import that is needed is dropped.** The full code of a unit, generated with components
that are found by their names, is made of the lines with the imports and of the lines behind
them. Every fragment that is copied into it was collected from the unit and the units that it
includes, but for blanks around it. If such a fragment refers to a package that an imports unit
imports under a name, and the unit itself does not, then the file imports a package under that
name; and no two of the inherited imports have the same name. -/
theorem needed_imports_kept (u : SourceUnit) (input : Bytes) (ix : UnitIndex) (shapes : Shapes)
    (package : Bytes) :
    let own := (Document.read input).1
    let imports := (u.document input ix).imports
    let file := Generate.headTokens u.path (packageOr package) imports
      ++ Generate.unitTokens u input ix shapes.component?
    (Generate.unit u input .full ix shapes.component? package).lines.map Line.code
        = file.map Token.lineOf
      ∧ (∀ s ∈ Token.fragments file, ∃ c ∈ own.codeSpans ix u.path input, s = c ∨ s = trim c)
      ∧ (∀ s ∈ Token.fragments file, ∀ v ∈ ix.importsChain u.path,
          ∀ i ∈ (Document.read v.text).1.imports, refersTo s i.name = true →
            (∀ o ∈ own.imports, o.name ≠ i.name) →
              ∃ j ∈ Generate.importBlock imports, j.name = i.name)
      ∧ ∃ inherited : List ImportDirective, imports = inherited ++ own.imports
        ∧ (inherited.map ImportDirective.name).Nodup
        ∧ ∀ i ∈ inherited, i.inherited = true ∧ ∀ o ∈ own.imports, o.name ≠ i.name := by
  intro own imports file
  have himports : imports = u.inherited input ix ++ own.imports := u.imports_document input ix
  have hstems : StemFrom (own.codeSpans ix u.path input) file :=
    stemFrom_append.2 ⟨Generate.stemFrom_headTokens _ _ _ _,
      Generate.stemFrom_unitTokens u input ix fun _ _ _ => Shapes.name_of_component?⟩
  have htaken : ∀ {name : Bytes}, name ∉ own.imports.map ImportDirective.name
      ↔ ∀ o ∈ own.imports, o.name ≠ name := by simp
  refine ⟨Generate.map_code_unit .., fun s => hstems.of_mem_fragments, ?_, u.inherited input ix,
    himports, ?_⟩
  · intro s hs v hv i hi hrefers hown
    obtain ⟨c, hc, hrefers⟩ := (hstems.of_mem_fragments hs).exists_refersTo hrefers
    have hoffered : i ∈ u.offered ix := List.mem_flatMap.2 ⟨v, hv, hi⟩
    obtain ⟨j, hj, hname⟩ := exists_mem_keepImports hoffered (htaken.2 hown) hc hrefers
    rw [himports, ← hname]
    exact Generate.exists_mem_importBlock (List.mem_append_left _ hj)
  · obtain ⟨hnodup, hkept⟩ := nodup_keepImports (own.codeSpans ix u.path input)
      (own.imports.map ImportDirective.name) (u.offered ix)
    exact ⟨hnodup, fun i hi => ⟨(hkept i hi).1, htaken.1 (hkept i hi).2⟩⟩

end Stencil
