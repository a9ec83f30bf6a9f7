import Stencil.Generated.Code
import Stencil.Proofs.Template.Findings

/-!
# What can be wrong with includes

Includes are looked at twice. The declaration pass only asks of each include written in a
unit whether it could be spliced (`Node.includeFindings`); the full pass splices it, and
then the includes of the included unit, and so on, and what cannot be spliced becomes a
broken piece. This module says what the first look tells about the second: a unit whose
includes passed has no include that is not found, and code that is rendered from pieces
complains about broken pieces, about arguments of components, and otherwise only warns.
-/

namespace Stencil

open Bytes

/-! ## The includes of a tree -/

mutual

/-- **The paths that a tree includes**, in order. -/
def Node.includes : Node → List Bytes
  | .text .. | .expr .. => []
  | .splice path _ => [path]
  | .loop _ body _ _ => Node.includesAll body
  | .choice branches otherwise _ _ => Branch.includesAll branches ++ Node.includesAll otherwise
  | .element _ _ children _ _ _ => Node.includesAll children

/-- The paths that a branch includes. -/
def Branch.includes : Branch → List Bytes
  | .mk _ body _ => Node.includesAll body

/-- The paths that a list of trees includes. -/
def Node.includesAll : List Node → List Bytes
  | [] => []
  | n :: ns => n.includes ++ Node.includesAll ns

/-- The paths that a list of branches includes. -/
def Branch.includesAll : List Branch → List Bytes
  | [] => []
  | b :: bs => b.includes ++ Branch.includesAll bs

end

/-- A list of nodes includes what its nodes include. -/
theorem Node.mem_includesAll {ns : List Node} {path : Bytes} :
    path ∈ Node.includesAll ns ↔ ∃ n ∈ ns, path ∈ n.includes := by
  induction ns with
  | nil => simp [Node.includesAll]
  | cons n ns ih => rw [Node.includesAll, List.mem_append, ih, List.exists_mem_cons_iff]

theorem Branch.mem_includesAll {bs : List Branch} {path : Bytes} :
    path ∈ Branch.includesAll bs ↔ ∃ b ∈ bs, path ∈ b.includes := by
  induction bs with
  | nil => simp [Branch.includesAll]
  | cons b bs ih => rw [Branch.includesAll, List.mem_append, ih, List.exists_mem_cons_iff]

mutual

/-- A tree further down includes the same paths. -/
theorem Node.includes_shift (k : Nat) : ∀ n : Node, (n.shift k).includes = n.includes
  | .text .. | .expr .. | .splice .. => rfl
  | .loop _ body _ _ => Node.includesAll_shiftAll k body
  | .choice branches otherwise _ _ =>
    congrArg₂ _ (Branch.includesAll_shiftAll k branches) (Node.includesAll_shiftAll k otherwise)
  | .element _ _ children _ _ _ => Node.includesAll_shiftAll k children

/-- The same for a list of nodes, by induction along with `Node.includes_shift`. -/
theorem Node.includesAll_shiftAll (k : Nat) :
    ∀ ns : List Node, Node.includesAll (Node.shiftAll k ns) = Node.includesAll ns
  | [] => rfl
  | n :: ns => congrArg₂ _ (Node.includes_shift k n) (Node.includesAll_shiftAll k ns)

/-- The same for branches. -/
theorem Branch.includesAll_shiftAll (k : Nat) :
    ∀ bs : List Branch, Branch.includesAll (Branch.shiftAll k bs) = Branch.includesAll bs
  | [] => rfl
  | .mk _ body _ :: bs =>
    congrArg₂ _ (Node.includesAll_shiftAll k body) (Branch.includesAll_shiftAll k bs)

end

/-- **What is read for a unit includes what its text includes**, unless it is a root without
a route. -/
theorem SourceUnit.includes_input (u : SourceUnit) {route : Bytes}
    (hroute : u.role = .root → route ≠ []) :
    Node.includesAll (Document.read (u.input route)).1.body
      = Node.includesAll (Document.read u.text).1.body := by
  unfold input
  cases hrole : u.role with
  | component => rfl
  | root =>
    dsimp only
    rw [Document.read_routeDirective (hroute hrole)]
    show Node.includesAll ((Document.read u.text).1.body.map (Node.shift 1)) = _
    rw [← Node.shiftAll_eq_map, Node.includesAll_shiftAll]

/-- A source that is an include of a quoted path and nothing else. -/
theorem Document.read_include {q path : Bytes}
    (h : Reader.quotedAt (dquote :: q) = (some path, q.length + 1, false)) :
    Document.read ("@include " ++ dquote :: q) = ({ body := [.splice path 1] }, []) := by
  have hstep : (Reader.start ("@include " ++ dquote :: q)).step
      = (Reader.start ("@include " ++ dquote :: q)).keyword "include" 1 := rfl
  have hword : (Reader.start ("@include " ++ dquote :: q)).keyword "include" 1
      = ((Reader.start ("@include " ++ dquote :: q)).moveTo
          ⟨ch ' ' :: dquote :: q, 1, ch 'e'⟩).splice 1 := rfl
  have hblank : Cursor.skipWhile isBlank ⟨ch ' ' :: dquote :: q, 1, ch 'e'⟩
      = ⟨dquote :: q, 1, ch ' '⟩ := rfl
  have hend : (Cursor.advance (q.length + 1) ⟨dquote :: q, 1, ch ' '⟩).rest = [] :=
    List.drop_of_length_le (Nat.le_refl _)
  have hread : (Reader.start ("@include " ++ dquote :: q)).step
      = ((Reader.start ("@include " ++ dquote :: q)).moveTo
          (Cursor.advance (q.length + 1) ⟨dquote :: q, 1, ch ' '⟩)).addNode (.splice path 1) := by
    rw [hstep, hword]
    unfold Reader.splice
    dsimp only [Reader.moveTo_cursor]
    rw [hblank]
    dsimp only
    rw [h]
    rfl
  have hrun : (Reader.start ("@include " ++ dquote :: q)).run
      = (Reader.start ("@include " ++ dquote :: q)).step := by
    rw [Reader.run_of_rest_ne_nil (List.cons_ne_nil _ _), Reader.run_of_rest_eq_nil]
    rw [hread, Reader.addNode_cursor]
    exact hend
  rw [Document.read, hrun, hread, Reader.leaveAll_nil rfl]
  rfl

/-! ## Includes that passed -/

/-- An include that cannot be spliced is an error. -/
theorem Splice.severity_obstacle {ix : UnitIndex} {self : Bytes} {chain : List Bytes}
    {target : Bytes} {fault : Fault} (h : obstacle? ix self chain target = some fault) :
    fault.severity = .error := by
  unfold obstacle? at h
  split_ifs at h <;> cases h <;> rfl

section Passed

variable {ix : UnitIndex} {self : Bytes}

mutual

/-- **If no include of a tree is reported, each of them can be spliced.** -/
theorem Node.obstacle_eq_none : ∀ n : Node,
    (∀ f ∈ n.includeFindings ix self, f.fault.severity ≠ .error) →
      ∀ path ∈ n.includes, Splice.obstacle? ix self [] (includeTarget (Path.dir self) path) = none
  | .text .., _, _, hp | .expr .., _, _, hp => absurd hp List.not_mem_nil
  | .splice path line, h, path', hp => by
    rw [List.mem_singleton.1 hp]
    cases ho : Splice.obstacle? ix self [] (includeTarget (Path.dir self) path) with
    | none => rfl
    | some fault =>
      rw [Node.includeFindings, ho] at h
      exact absurd (Splice.severity_obstacle ho) (h _ (List.mem_singleton_self _))
  | .loop _ body _ _, h, path, hp => Node.obstacle_eq_none_all body h path hp
  | .choice branches otherwise _ _, h, path, hp => by
    obtain ⟨hbranches, hotherwise⟩ := List.forall_mem_append.1 h
    obtain hp | hp := List.mem_append.1 hp
    · exact Branch.obstacle_eq_none_all branches hbranches path hp
    · exact Node.obstacle_eq_none_all otherwise hotherwise path hp
  | .element _ _ children _ _ _, h, path, hp => Node.obstacle_eq_none_all children h path hp

/-- The includes of a list of nodes, by induction along with `Node.obstacle_eq_none`. -/
theorem Node.obstacle_eq_none_all : ∀ ns : List Node,
    (∀ f ∈ Node.includeFindingsAll ix self ns, f.fault.severity ≠ .error) →
      ∀ path ∈ Node.includesAll ns,
        Splice.obstacle? ix self [] (includeTarget (Path.dir self) path) = none
  | [], _, _, hp => absurd hp List.not_mem_nil
  | n :: ns, h, path, hp => by
    obtain ⟨hn, hns⟩ := List.forall_mem_append.1 h
    obtain hp | hp := List.mem_append.1 hp
    · exact Node.obstacle_eq_none n hn path hp
    · exact Node.obstacle_eq_none_all ns hns path hp

/-- The includes of branches, by the same induction. -/
theorem Branch.obstacle_eq_none_all : ∀ bs : List Branch,
    (∀ f ∈ Branch.includeFindingsAll ix self bs, f.fault.severity ≠ .error) →
      ∀ path ∈ Branch.includesAll bs,
        Splice.obstacle? ix self [] (includeTarget (Path.dir self) path) = none
  | [], _, _, hp => absurd hp List.not_mem_nil
  | .mk _ body _ :: bs, h, path, hp => by
    obtain ⟨hb, hbs⟩ := List.forall_mem_append.1 h
    obtain hp | hp := List.mem_append.1 hp
    · exact Node.obstacle_eq_none_all body hb path hp
    · exact Branch.obstacle_eq_none_all bs hbs path hp

end

end Passed

/-! ## Broken pieces -/

mutual

/-- **The faults of the broken pieces** in a piece. -/
def Piece.faults : Piece → List Fault
  | .text .. | .expr .. => []
  | .broken _ fault => [fault]
  | .spliced _ body | .loop _ body _ _ => Piece.faultsAll body
  | .choice branches otherwise _ _ => PieceBranch.faultsAll branches ++ Piece.faultsAll otherwise
  | .element _ _ children _ _ _ => Piece.faultsAll children

/-- The faults of the broken pieces in a branch. -/
def PieceBranch.faults : PieceBranch → List Fault
  | .mk _ body _ => Piece.faultsAll body

/-- The faults of the broken pieces in a list of pieces. -/
def Piece.faultsAll : List Piece → List Fault
  | [] => []
  | x :: xs => x.faults ++ Piece.faultsAll xs

/-- The faults of the broken pieces in a list of branches. -/
def PieceBranch.faultsAll : List PieceBranch → List Fault
  | [] => []
  | b :: bs => b.faults ++ PieceBranch.faultsAll bs

end

section Pieces

variable {f : Bytes → Nat → Piece} {P : Fault → Prop}

mutual

/-- **Only includes become broken pieces**: what holds of the faults that they become, for
every path that the tree includes, holds of all its faults. -/
theorem Node.forall_faults_pieces : ∀ n : Node,
    (∀ path ∈ n.includes, ∀ line, ∀ fault ∈ (f path line).faults, P fault) →
      ∀ fault ∈ (n.pieces f).faults, P fault
  | .text .., _, _, hf | .expr .., _, _, hf => absurd hf List.not_mem_nil
  | .splice path line, h, fault, hf => h path (List.mem_singleton_self _) line fault hf
  | .loop _ body _ _, h, fault, hf => Node.forall_faults_piecesAll body h fault hf
  | .choice branches otherwise _ _, h, fault, hf => by
    obtain ⟨hbranches, hotherwise⟩ := List.forall_mem_append.1 h
    obtain hf | hf := List.mem_append.1 hf
    · exact Branch.forall_faults_piecesAll branches hbranches fault hf
    · exact Node.forall_faults_piecesAll otherwise hotherwise fault hf
  | .element _ _ children _ _ _, h, fault, hf => Node.forall_faults_piecesAll children h fault hf

/-- The faults of a list of nodes, by induction along with `Node.forall_faults_pieces`. -/
theorem Node.forall_faults_piecesAll : ∀ ns : List Node,
    (∀ path ∈ Node.includesAll ns, ∀ line, ∀ fault ∈ (f path line).faults, P fault) →
      ∀ fault ∈ Piece.faultsAll (Node.piecesAll f ns), P fault
  | [], _, _, hf => absurd hf List.not_mem_nil
  | n :: ns, h, fault, hf => by
    obtain ⟨hn, hns⟩ := List.forall_mem_append.1 h
    obtain hf | hf := List.mem_append.1 hf
    · exact Node.forall_faults_pieces n hn fault hf
    · exact Node.forall_faults_piecesAll ns hns fault hf

/-- The faults of branches, by the same induction. -/
theorem Branch.forall_faults_piecesAll : ∀ bs : List Branch,
    (∀ path ∈ Branch.includesAll bs, ∀ line, ∀ fault ∈ (f path line).faults, P fault) →
      ∀ fault ∈ PieceBranch.faultsAll (Branch.piecesAll f bs), P fault
  | [], _, _, hf => absurd hf List.not_mem_nil
  | .mk _ body _ :: bs, h, fault, hf => by
    obtain ⟨hb, hbs⟩ := List.forall_mem_append.1 h
    obtain hf | hf := List.mem_append.1 hf
    · exact Node.forall_faults_piecesAll body hb fault hf
    · exact Branch.forall_faults_piecesAll bs hbs fault hf

end

end Pieces

/-! ## Findings of rendered code -/

/-- **Among the findings of an output, the errors are about arguments of components** or
about one of the given faults. -/
def Output.Blames (faults : List Fault) (o : Output) : Prop :=
  ∀ f ∈ o.findings, f.fault.severity = .error → f.fault.code = "TPL0203" ∨ f.fault ∈ faults

namespace Output.Blames

variable {faults more : List Fault} {a b : Output}

theorem mono (h : a.Blames faults) (hmore : faults ⊆ more) : a.Blames more :=
  fun f hf herror => (h f hf herror).imp_right fun hmem => hmore hmem

theorem append (ha : a.Blames faults) (hb : b.Blames faults) : (a ++ b).Blames faults :=
  List.forall_mem_append.2 ⟨ha, hb⟩

/-- Where nothing is found, there is no error to account for. -/
theorem of_findings_eq_nil (h : a.findings = []) : a.Blames faults := by
  intro f hf
  rw [h] at hf
  exact absurd hf List.not_mem_nil

theorem emit (p : Place) (src : Nat) (code : Bytes) : (p.emit src code).Blames faults :=
  of_findings_eq_nil rfl

/-- A warning is no error. -/
theorem warning (line : Nat) {fault : Fault} (h : fault.severity = .warning) :
    (Output.found line fault).Blames faults := by
  refine List.forall_mem_singleton.2 fun herror => ?_
  rw [h] at herror
  exact absurd herror (by decide)

theorem concat {os : List Output} (h : ∀ o ∈ os, o.Blames faults) :
    (Output.concat os).Blames faults := by
  induction os with
  | nil => exact of_findings_eq_nil rfl
  | cons o os ih =>
    obtain ⟨ho, hos⟩ := List.forall_mem_cons.1 h
    exact append ho (ih hos)

/-- An argument that the component does not have is the one error that rendering itself finds. -/
theorem ofArgument (p : Place) (tag : Bytes) (c : Component) (a : Attr) :
    (renderArgument p tag c a).Blames faults := by
  unfold renderArgument
  split
  · exact List.forall_mem_singleton.2 fun _ => .inl rfl
  · exact emit _ _ _

/-- A component tag that is not resolved is only warned about. -/
theorem unresolved {ctx : RenderContext} {tag : Bytes} {fault : Fault}
    (h : ctx.component tag = .error fault) : fault.severity = .warning := by
  unfold RenderContext.component at h
  dsimp only at h
  split at h
  · split at h <;> cases h
    rfl
  · split at h
    · split at h <;> cases h
      rfl
    · cases h
      rfl

end Output.Blames

section Rendered

open Output.Blames

variable (ctx : RenderContext)

mutual

/-- **The code of a piece blames its broken pieces**, and arguments of components. -/
theorem Piece.blames_render : ∀ (x : Piece) (p : Place), (x.render ctx p).Blames x.faults
  | .text .., _ => of_findings_eq_nil rfl
  | .expr .., p => emit p _ _
  | .broken _ fault, _ => List.forall_mem_singleton.2 fun _ => .inr (List.mem_singleton_self _)
  | .spliced _ body, _ => Piece.blames_renderAll body _
  | .loop _ body _ _, p => by
    rw [Piece.render]
    exact ((emit p _ _).append (Piece.blames_renderAll body p.deeper)).append (emit p _ _)
  | .choice branches otherwise _ _, p => by
    have hbranches := (PieceBranch.blames_renderAll branches p "if ").mono
      (List.subset_append_left _ (Piece.faultsAll otherwise))
    have hotherwise := (Piece.blames_renderAll otherwise p.deeper).mono
      (List.subset_append_right (PieceBranch.faultsAll branches) _)
    rw [Piece.render, Piece.faults]
    refine ((hbranches.append ?_).append hotherwise).append (emit p _ _)
    split
    · exact of_findings_eq_nil rfl
    · exact emit p _ _
  | .element tag attrs children selfClosing line endLine, p => by
    have hchildren := fun p => Piece.blames_renderAll children p
    have hplain : ∀ complaint : Output, complaint.Blames (Piece.faultsAll children) →
        Output.Blames (Piece.faultsAll children)
          (complaint ++ p.emit line (rawCall ("<" ++ tag))
            ++ Output.concat (attrs.map (renderAttr p))
            ++ if ElementName.isVoid tag then p.emit line "w.Raw(\">\")"
              else if selfClosing then p.emit line (rawCall ("></" ++ tag ++ ">"))
              else p.emit line "w.Raw(\">\")" ++ Piece.renderAll ctx p children
                ++ p.emit endLine (rawCall ("</" ++ tag ++ ">"))) := by
      intro complaint hcomplaint
      refine ((hcomplaint.append (emit p _ _)).append
        (concat (List.forall_mem_map.2 fun a _ => emit p _ _))).append ?_
      split_ifs
      · exact emit p _ _
      · exact emit p _ _
      · exact ((emit p _ _).append (hchildren p)).append (emit p _ _)
    rw [Piece.render, Piece.faults]
    dsimp only
    split
    · cases hc : ctx.component tag with
      | error fault => exact hplain _ (warning line (unresolved hc))
      | ok found =>
        refine (((emit p _ _).append (concat (List.forall_mem_map.2 fun a _ =>
          ofArgument _ _ _ _))).append ?_).append (emit p _ _)
        split_ifs
        · exact of_findings_eq_nil rfl
        · exact List.forall_mem_singleton.2 fun _ => .inl rfl
        · exact (((emit p.deeper _ _).append (hchildren p.deeper.deeper)).append
            (emit p.deeper.deeper _ _)).append (emit p.deeper _ _)
    · exact hplain _ (of_findings_eq_nil rfl)

/-- The errors of a list of pieces, by induction along with `Piece.blames_render`. -/
theorem Piece.blames_renderAll : ∀ (xs : List Piece) (p : Place),
    (Piece.renderAll ctx p xs).Blames (Piece.faultsAll xs)
  | [], _ => of_findings_eq_nil rfl
  | x :: xs, p =>
    ((Piece.blames_render x p).mono (List.subset_append_left _ _)).append
      ((Piece.blames_renderAll xs p).mono (List.subset_append_right _ _))

/-- The errors of branches, by the same induction. -/
theorem PieceBranch.blames_renderAll : ∀ (bs : List PieceBranch) (p : Place) (opening : Bytes),
    (PieceBranch.renderAll ctx p opening bs).Blames (PieceBranch.faultsAll bs)
  | [], _, _ => of_findings_eq_nil rfl
  | .mk _ body _ :: bs, p, _ =>
    (((emit p _ _).append (Piece.blames_renderAll body p.deeper)).mono
      (List.subset_append_left _ _)).append
        ((PieceBranch.blames_renderAll bs p _).mono (List.subset_append_right _ _))

end

end Rendered

end Stencil
