import Stencil.Generated.Code
import Stencil.Proofs.Generated.Includes
import Stencil.Proofs.Template.LineOrder

/-!
# What rendering complains about

Rendering complains about includes that could not be spliced and about component tags. Lines
of code apart, `Piece.remarks` lists these complaints in order, each with the place where it
comes up: the line in the unit that it stands in, and the include that this unit was spliced
for, if it was. What becomes of a complaint differs. One about an include is reported at that
include if there is one (`Remark.finding`), one about a tag always at its own line.

Markup without component tags has nothing to complain about but the includes, and then the
complaints are just the faults of its broken pieces (`Piece.map_fault_remarks`). That needs a
fact about reading: content that nothing closes is never rendered, but the reader makes no
such content.
-/

namespace Stencil

open Bytes

/-- **A complaint of rendering.** -/
structure Remark where
  /-- The line of the outermost include being spliced. -/
  pin : Option Nat
  /-- The line in the unit that is at fault. -/
  line : Nat
  /-- What is wrong. -/
  fault : Fault
  /-- Whether it is about a tag, and not about an include. -/
  onTag : Bool

/-- What is reported. -/
def Remark.finding (r : Remark) : Finding where
  line := if r.onTag then r.line else r.pin.getD r.line
  fault := r.fault

/-- The complaints about the attributes of a component tag. -/
def attrRemarks (pin : Option Nat) (tag : Bytes) (c : Component) (attrs : List Attr) :
    List Remark :=
  attrs.flatMap fun a =>
    if (c.param? a.name).isNone then [⟨pin, a.line, .unknownParam tag a.name, true⟩] else []

mutual

/-- **The complaints of rendering a piece**, in order. -/
def Piece.remarks (ctx : RenderContext) (pin : Option Nat) : Piece → List Remark
  | .text .. | .expr .. => []
  | .spliced line body => Piece.remarksAll ctx (some (pin.getD line)) body
  | .broken line fault => [⟨pin, line, fault, false⟩]
  | .loop _ body _ _ => Piece.remarksAll ctx pin body
  | .choice branches otherwise _ _ =>
    PieceBranch.remarksAll ctx pin branches ++ Piece.remarksAll ctx pin otherwise
  | .element tag attrs children selfClosing line _ =>
    let content :=
      if ElementName.isVoid tag || selfClosing then [] else Piece.remarksAll ctx pin children
    if ElementName.isComponent tag then
      match ctx.component tag with
      | .error fault => ⟨pin, line, fault, true⟩ :: content
      | .ok (c, _) =>
        attrRemarks pin tag c attrs ++
          if !children.any Piece.isContent then []
          else if (c.param? "Children").isNone then [⟨pin, line, .noChildContent tag, true⟩]
          else Piece.remarksAll ctx pin children
    else content

/-- The complaints of rendering a branch. -/
def PieceBranch.remarks (ctx : RenderContext) (pin : Option Nat) : PieceBranch → List Remark
  | .mk _ body _ => Piece.remarksAll ctx pin body

/-- The complaints of rendering a list of pieces. -/
def Piece.remarksAll (ctx : RenderContext) (pin : Option Nat) : List Piece → List Remark
  | [] => []
  | x :: xs => x.remarks ctx pin ++ Piece.remarksAll ctx pin xs

/-- The complaints of rendering a list of branches. -/
def PieceBranch.remarksAll (ctx : RenderContext) (pin : Option Nat) :
    List PieceBranch → List Remark
  | [] => []
  | b :: bs => b.remarks ctx pin ++ PieceBranch.remarksAll ctx pin bs

end

/-! ## The complaints are what is found -/

/-- What is found in outputs one behind the other is found in each of them. -/
theorem Output.findings_concat (os : List Output) :
    (Output.concat os).findings = os.flatMap Output.findings := by
  induction os with
  | nil => rfl
  | cons o os ih =>
    rw [List.flatMap_cons, ← ih]
    rfl

/-- Every argument that the component does not have is remarked on, and nothing else. -/
theorem findings_renderArguments (p : Place) (tag : Bytes) (c : Component) (attrs : List Attr) :
    (Output.concat (attrs.map (renderArgument p tag c))).findings
      = (attrRemarks p.pin tag c attrs).map Remark.finding := by
  rw [Output.findings_concat, List.flatMap_map, attrRemarks, List.map_flatMap]
  refine List.flatMap_congr fun a _ => ?_
  unfold renderArgument
  cases c.param? a.name <;> rfl

section Rendered

variable (ctx : RenderContext)

/-- A plain element adds nothing to complaints about it and about its content. -/
theorem findings_plainElement (p : Place) (tag : Bytes) (attrs : List Attr)
    (selfClosing : Bool) (line endLine : Nat) (complaint content : Output) :
    (complaint ++ p.emit line (rawCall ("<" ++ tag))
      ++ Output.concat (attrs.map (renderAttr p))
      ++ if ElementName.isVoid tag then p.emit line "w.Raw(\">\")"
        else if selfClosing then p.emit line (rawCall ("></" ++ tag ++ ">"))
        else p.emit line "w.Raw(\">\")" ++ content
          ++ p.emit endLine (rawCall ("</" ++ tag ++ ">"))).findings
      = complaint.findings
        ++ if ElementName.isVoid tag || selfClosing then [] else content.findings := by
  have hattrs : (Output.concat (attrs.map (renderAttr p))).findings = [] := by
    rw [Output.findings_concat, List.flatMap_map]
    exact List.flatMap_eq_nil_iff.2 fun _ _ => rfl
  simp only [Output.append_findings, hattrs]
  cases ElementName.isVoid tag <;> cases selfClosing <;> simp [Place.emit]

mutual

/-- **What rendering a piece finds** are its complaints. -/
theorem Piece.findings_render : ∀ (x : Piece) (p : Place),
    (x.render ctx p).findings = (x.remarks ctx p.pin).map Remark.finding
  | .text .., _ | .expr .., _ | .broken .., _ => rfl
  | .spliced _ body, _ => Piece.findings_renderAll body _
  | .loop _ body _ _, p => by
    rw [Piece.render, Piece.remarks, Output.append_findings, Output.append_findings,
      Piece.findings_renderAll body p.deeper]
    exact List.append_nil _
  | .choice branches otherwise _ _, p => by
    -- neither the lines around the branches nor those around the rest are complained about
    have helse : ∀ o : Output, o.findings = [] →
        (if otherwise.isEmpty then {} else o : Output).findings = [] := by
      intro o ho
      split
      · rfl
      · exact ho
    rw [Piece.render, Piece.remarks, Output.append_findings, Output.append_findings,
      Output.append_findings, PieceBranch.findings_renderAll branches p,
      Piece.findings_renderAll otherwise p.deeper, helse _ rfl, List.map_append, List.append_nil]
    exact List.append_nil _
  | .element tag attrs children selfClosing line endLine, p => by
    rw [Piece.render, Piece.remarks]
    dsimp only
    split
    · -- an unknown component is rendered as a plain element, behind the complaint about it
      cases ctx.component tag with
      | error fault =>
        dsimp only
        rw [findings_plainElement, Piece.findings_renderAll children p]
        split <;> rfl
      | ok found =>
        dsimp only
        rw [Output.append_findings, Output.append_findings, Output.append_findings,
          findings_renderArguments, List.map_append]
        show [] ++ _ ++ _ ++ [] = _
        rw [List.nil_append, List.append_nil]
        refine congrArg _ ?_
        split_ifs
        · rfl
        · rfl
        · rw [Output.append_findings, Output.append_findings, Output.append_findings,
            Piece.findings_renderAll children p.deeper.deeper]
          exact (List.append_nil _).trans (List.append_nil _)
    · rw [findings_plainElement, Piece.findings_renderAll children p]
      split <;> rfl

/-- The findings of a list of pieces, by induction along with `Piece.findings_render`. -/
theorem Piece.findings_renderAll : ∀ (xs : List Piece) (p : Place),
    (Piece.renderAll ctx p xs).findings = (Piece.remarksAll ctx p.pin xs).map Remark.finding
  | [], _ => rfl
  | x :: xs, p => by
    rw [Piece.renderAll, Piece.remarksAll, Output.append_findings, Piece.findings_render x p,
      Piece.findings_renderAll xs p, List.map_append]

/-- The findings of branches, by the same induction. -/
theorem PieceBranch.findings_renderAll : ∀ (bs : List PieceBranch) (p : Place)
    (opening : Bytes), (PieceBranch.renderAll ctx p opening bs).findings
      = (PieceBranch.remarksAll ctx p.pin bs).map Remark.finding
  | [], _, _ => rfl
  | .mk _ body _ :: bs, p, _ => by
    rw [PieceBranch.renderAll, PieceBranch.remarksAll, PieceBranch.render, PieceBranch.remarks,
      Output.append_findings, Output.append_findings, Piece.findings_renderAll body p.deeper,
      PieceBranch.findings_renderAll bs p, List.map_append]
    rfl

end

end Rendered

/-! ## Markup without component tags -/

mutual

/-- **A tree without component tags.** -/
def Node.Plain : Node → Prop
  | .text .. | .expr .. | .splice .. => True
  | .loop _ body _ _ => Node.AllPlain body
  | .choice branches otherwise _ _ => Branch.AllPlain branches ∧ Node.AllPlain otherwise
  | .element tag _ children _ _ _ => ElementName.isComponent tag = false ∧ Node.AllPlain children

/-- A branch without component tags. -/
def Branch.Plain : Branch → Prop
  | .mk _ body _ => Node.AllPlain body

/-- Trees without component tags. -/
def Node.AllPlain : List Node → Prop
  | [] => True
  | n :: ns => n.Plain ∧ Node.AllPlain ns

/-- Branches without component tags. -/
def Branch.AllPlain : List Branch → Prop
  | [] => True
  | b :: bs => b.Plain ∧ Branch.AllPlain bs

end

mutual

/-- **A piece without component tags**, and without content that nothing closes. -/
def Piece.Plain : Piece → Prop
  | .text .. | .expr .. | .broken .. => True
  | .spliced _ body | .loop _ body _ _ => Piece.AllPlain body
  | .choice branches otherwise _ _ => PieceBranch.AllPlain branches ∧ Piece.AllPlain otherwise
  | .element tag _ children selfClosing _ _ =>
    ElementName.isComponent tag = false ∧ Piece.AllPlain children
      ∧ ((ElementName.isVoid tag || selfClosing) = true → children = [])

/-- A branch of such pieces. -/
def PieceBranch.Plain : PieceBranch → Prop
  | .mk _ body _ => Piece.AllPlain body

/-- A list of such pieces. -/
def Piece.AllPlain : List Piece → Prop
  | [] => True
  | x :: xs => x.Plain ∧ Piece.AllPlain xs

/-- A list of such branches. -/
def PieceBranch.AllPlain : List PieceBranch → Prop
  | [] => True
  | b :: bs => b.Plain ∧ PieceBranch.AllPlain bs

end

section Plain

variable {f : Bytes → Nat → Piece}

mutual

/-- Plain trees become plain pieces, as long as includes do. -/
theorem Node.plain_pieces (hf : ∀ path line, (f path line).Plain) :
    ∀ n : Node, n.WellFormed → n.Plain → (n.pieces f).Plain
  | .text .., _, _ | .expr .., _, _ => trivial
  | .splice path line, _, _ => hf path line
  | .loop _ body _ _, hw, h => Node.plain_piecesAll hf body hw h
  | .choice branches otherwise _ _, hw, h =>
    ⟨Branch.plain_piecesAll hf branches hw.2.1 h.1, Node.plain_piecesAll hf otherwise hw.2.2 h.2⟩
  | .element _ _ children _ _ _, hw, h =>
    ⟨h.1, Node.plain_piecesAll hf children hw.2.2.1 h.2, fun hclosed => by
      rw [hw.2.2.2 hclosed, Node.piecesAll]⟩

/-- The pieces of a list of nodes, by induction along with `Node.plain_pieces`. -/
theorem Node.plain_piecesAll (hf : ∀ path line, (f path line).Plain) :
    ∀ ns : List Node, Node.AllWellFormed ns → Node.AllPlain ns →
      Piece.AllPlain (Node.piecesAll f ns)
  | [], _, _ => trivial
  | n :: ns, hw, h => ⟨Node.plain_pieces hf n hw.1 h.1, Node.plain_piecesAll hf ns hw.2 h.2⟩

/-- The pieces of branches, by the same induction. -/
theorem Branch.plain_piecesAll (hf : ∀ path line, (f path line).Plain) :
    ∀ bs : List Branch, Branch.AllWellFormed bs → Branch.AllPlain bs →
      PieceBranch.AllPlain (Branch.piecesAll f bs)
  | [], _, _ => trivial
  | .mk _ body _ :: bs, hw, h =>
    ⟨Node.plain_piecesAll hf body hw.1 h.1, Branch.plain_piecesAll hf bs hw.2 h.2⟩

end

end Plain

section Faults

variable (ctx : RenderContext)

mutual

/-- **Without component tags, the complaints are about the broken pieces**, about each of
them. -/
theorem Piece.map_fault_remarks : ∀ (x : Piece) (pin : Option Nat), x.Plain →
    (x.remarks ctx pin).map Remark.fault = x.faults
  | .text .., _, _ | .expr .., _, _ | .broken .., _, _ => rfl
  | .spliced _ body, _, h => Piece.map_fault_remarksAll body _ h
  | .loop _ body _ _, pin, h => Piece.map_fault_remarksAll body pin h
  | .choice branches otherwise _ _, pin, h => by
    rw [Piece.remarks, Piece.faults, List.map_append,
      PieceBranch.map_fault_remarksAll branches pin h.1,
      Piece.map_fault_remarksAll otherwise pin h.2]
  | .element tag _ children selfClosing _ _, pin, h => by
    rw [Piece.remarks, Piece.faults, if_neg (by rw [h.1]; exact Bool.false_ne_true)]
    split
    · next hclosed =>
      rw [h.2.2 hclosed]
      rfl
    · exact Piece.map_fault_remarksAll children pin h.2.1

/-- The remarks on a list of pieces, by induction along with `Piece.map_fault_remarks`. -/
theorem Piece.map_fault_remarksAll : ∀ (xs : List Piece) (pin : Option Nat), Piece.AllPlain xs →
    (Piece.remarksAll ctx pin xs).map Remark.fault = Piece.faultsAll xs
  | [], _, _ => rfl
  | x :: xs, pin, h => by
    rw [Piece.remarksAll, Piece.faultsAll, List.map_append, Piece.map_fault_remarks x pin h.1,
      Piece.map_fault_remarksAll xs pin h.2]

/-- The remarks on branches, by the same induction. -/
theorem PieceBranch.map_fault_remarksAll : ∀ (bs : List PieceBranch) (pin : Option Nat),
    PieceBranch.AllPlain bs →
      (PieceBranch.remarksAll ctx pin bs).map Remark.fault = PieceBranch.faultsAll bs
  | [], _, _ => rfl
  | .mk _ body _ :: bs, pin, h => by
    rw [PieceBranch.remarksAll, PieceBranch.faultsAll, PieceBranch.remarks, PieceBranch.faults,
      List.map_append, Piece.map_fault_remarksAll body pin h.1,
      PieceBranch.map_fault_remarksAll bs pin h.2]

end

end Faults

/-! ## What is wrong with a unit -/

/-- **What is wrong with a unit**: what is wrong with its source, with the imports units that
apply to it, and with its body. -/
theorem Generate.diagnostics_unit (u : SourceUnit) (input : Bytes) (mode : Mode) (ix : UnitIndex)
    (resolver : Resolver) (package : Bytes) :
    (Generate.unit u input mode ix resolver package).diagnostics
      = (Document.read input).2.map (Finding.diagnostic u.path)
        ++ ((Document.read input).1.inheritImports ix u.path input).2
        ++ (Generate.body mode resolver ix u.path input
          ((Document.read input).1.inheritImports ix u.path input).1).findings.map
            (Finding.diagnostic u.path) := by
  unfold Generate.unit
  dsimp only

/-- What is wrong with the imports units is what is wrong with their texts. -/
theorem Document.mem_inheritImports {ix : UnitIndex} {self input : Bytes} {own : Document}
    {d : Diagnostic} : d ∈ (own.inheritImports ix self input).2 ↔
      ∃ v ∈ ix.importsChain self, ∃ f ∈ (Document.read v.text).2, f.diagnostic v.path = d := by
  unfold Document.inheritImports
  simp only [List.mem_flatMap, List.mem_map, exists_exists_and_eq_and]

/-- Inherited imports leave the markup alone. -/
theorem Document.body_inheritImports (ix : UnitIndex) (self input : Bytes) (own : Document) :
    (own.inheritImports ix self input).1.body = own.body := by
  unfold Document.inheritImports
  dsimp only

/-- What is wrong with a body are the complaints about its markup, in full code. -/
theorem Generate.findings_body_full (resolver : Resolver) (ix : UnitIndex) (self input : Bytes)
    (d : Document) : (Generate.body .full resolver ix self input d).findings
      = (Piece.remarksAll { imports := d.imports, resolver } none
        (Splice.expand ix self input d.body)).map Remark.finding := by
  unfold Generate.body
  dsimp only
  rw [Output.append_findings, Piece.findings_renderAll]
  exact List.append_nil _

end Stencil
