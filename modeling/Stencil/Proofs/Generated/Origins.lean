import Stencil.Proofs.Generated.Modes
import Stencil.Proofs.Template.LineOrder

/-!
# Generated code comes from lines of the input

A generated line remembers the input line it was made for. This module shows that the
input has that line (`Generate.within_unit`), in either mode and whatever the unit
includes.

The lines of an included unit are no lines of the input, and may be larger than all of
these. What is spliced in is made for the line of its include, though, so a piece is asked
only for the lines that are not covered by a pin: `Piece.lines` leaves out everything below
an include, and `Piece.within_render` bounds what the pin makes of a line.
-/

namespace Stencil

open Bytes

/-- **The line was made for one of the first `n` lines of the input**, or for none. -/
def Line.Within (n : Nat) (l : Line) : Prop := ∀ o ∈ l.origin, o < n

/-- Every line of an output was made for one of the first `n` lines. -/
def Output.Within (n : Nat) (o : Output) : Prop := ∀ l ∈ o.lines, l.Within n

/-- A line is made for what the pin says, and for the given line if there is none. -/
theorem Place.within_line {p : Place} {src n : Nat} (hn : 0 < n) (h : p.pin.getD src ≤ n)
    (code : Bytes) : (p.line src code).Within n := by
  obtain ⟨indent, pin⟩ := p
  intro o ho
  cases pin with
  | some pin =>
    have hpin : pin ≤ n := h
    have heq : pin - 1 = o := Option.some.inj ho
    omega
  | none =>
    have hsrc : src ≤ n := h
    have ho : (if src = 0 then none else some (src - 1)) = some o := ho
    split at ho
    · cases ho
    · cases ho
      omega

namespace Output

variable {n : Nat}

@[simp] theorem within_empty : Within n {} := fun _ hl => absurd hl List.not_mem_nil

@[simp] theorem within_append {a b : Output} : (a ++ b).Within n ↔ a.Within n ∧ b.Within n :=
  List.forall_mem_append

@[simp] theorem within_found (line : Nat) (fault : Fault) : (found line fault).Within n :=
  fun _ hl => absurd hl List.not_mem_nil

/-- One emitted line stays within the input if the line it counts for does. -/
theorem within_emit {p : Place} {src : Nat} (hn : 0 < n) (h : p.pin.getD src ≤ n)
    (code : Bytes) : (p.emit src code).Within n :=
  List.forall_mem_singleton.2 (Place.within_line hn h code)

@[simp] theorem within_concat {os : List Output} :
    (concat os).Within n ↔ ∀ o ∈ os, o.Within n := by
  induction os with
  | nil => exact iff_of_true within_empty fun o ho => absurd ho List.not_mem_nil
  | cons o os ih =>
    rw [List.forall_mem_cons, ← ih]
    exact within_append

end Output

/-! ## Lines of pieces -/

mutual

/-- **The lines that the code of a piece is made for**, unless there is a pin. -/
def Piece.lines : Piece → List Nat
  | .text value line => [line, line + newlines value]
  | .expr _ line | .spliced line _ => [line]
  | .broken .. => []
  | .loop _ body line endLine => line :: endLine :: Piece.linesAll body
  | .choice branches otherwise elseLine endLine =>
    elseLine :: endLine :: (PieceBranch.linesAll branches ++ Piece.linesAll otherwise)
  | .element _ attrs children _ line endLine =>
    line :: endLine :: (attrs.map Attr.line ++ Piece.linesAll children)

/-- The lines that the code of a branch is made for. -/
def PieceBranch.lines : PieceBranch → List Nat
  | .mk _ body line => line :: Piece.linesAll body

/-- The lines that the code of a list of pieces is made for. -/
def Piece.linesAll : List Piece → List Nat
  | [] => []
  | x :: xs => x.lines ++ Piece.linesAll xs

/-- The lines that the code of a list of branches is made for. -/
def PieceBranch.linesAll : List PieceBranch → List Nat
  | [] => []
  | b :: bs => b.lines ++ PieceBranch.linesAll bs

end

mutual

/-- **A piece is generated for lines of its node**, or for none. -/
theorem Node.mem_lines_pieces {f : Bytes → Nat → Piece}
    (hf : ∀ path line, ∀ l ∈ (f path line).lines, l = line) :
    ∀ (n : Node), ∀ l ∈ (n.pieces f).lines, l = 0 ∨ l ∈ n.lines
  | .text .., l, hl => .inr hl
  | .expr .., l, hl => .inr hl
  | .splice path line, l, hl => .inr (List.mem_singleton.2 (hf path line l hl))
  | .loop _ body line endLine, l, hl => by
    simp only [Node.pieces, Piece.lines, Node.lines, List.mem_cons, List.mem_append] at *
    obtain rfl | rfl | hl := hl
    · exact .inr (.inl rfl)
    · exact .inr (.inr (.inr (.inl rfl)))
    · exact (Node.mem_linesAll_pieces hf body l hl).imp_right fun h => .inr (.inl h)
  | .choice branches otherwise elseLine endLine, l, hl => by
    simp only [Node.pieces, Piece.lines, Node.lines, List.mem_cons, List.mem_append] at *
    obtain rfl | rfl | hl | hl := hl
    · by_cases h : l = 0
      · exact .inl h
      · exact .inr (.inr (.inl (.inl (by simp [h]))))
    · exact .inr (.inr (.inr (.inl rfl)))
    · exact (Branch.mem_linesAll_pieces hf branches l hl).imp_right .inl
    · exact (Node.mem_linesAll_pieces hf otherwise l hl).imp_right fun h => .inr (.inl (.inr h))
  | .element _ attrs children _ line endLine, l, hl => by
    simp only [Node.pieces, Piece.lines, Node.lines, List.mem_cons, List.mem_append] at *
    obtain rfl | rfl | hl | hl := hl
    · exact .inr (.inl rfl)
    · by_cases h : l = line
      · exact .inr (.inl h)
      · exact .inr (.inr (.inr (by simp [h])))
    · exact .inr (.inr (.inl (.inl hl)))
    · exact (Node.mem_linesAll_pieces hf children l hl).imp_right fun h => .inr (.inl (.inr h))

/-- The pieces of a list of nodes, by induction along with `Node.mem_lines_pieces`. -/
theorem Node.mem_linesAll_pieces {f : Bytes → Nat → Piece}
    (hf : ∀ path line, ∀ l ∈ (f path line).lines, l = line) : ∀ (ns : List Node),
    ∀ l ∈ Piece.linesAll (Node.piecesAll f ns), l = 0 ∨ l ∈ Node.linesAll ns
  | [], l, hl => .inr hl
  | n :: ns, l, hl => by
    obtain hl | hl := List.mem_append.1 hl
    · exact (Node.mem_lines_pieces hf n l hl).imp_right (List.mem_append_left _)
    · exact (Node.mem_linesAll_pieces hf ns l hl).imp_right (List.mem_append_right _)

/-- The pieces of branches, by the same induction. A branch has the line of its condition. -/
theorem Branch.mem_linesAll_pieces {f : Bytes → Nat → Piece}
    (hf : ∀ path line, ∀ l ∈ (f path line).lines, l = line) : ∀ (bs : List Branch),
    ∀ l ∈ PieceBranch.linesAll (Branch.piecesAll f bs), l = 0 ∨ l ∈ Branch.linesAll bs
  | [], l, hl => .inr hl
  | .mk _ body line :: bs, l, hl => by
    obtain hl | hl := List.mem_append.1 hl
    · obtain rfl | hl := List.mem_cons.1 hl
      · exact .inr (List.mem_append_left _ List.mem_cons_self)
      · exact (Node.mem_linesAll_pieces hf body l hl).imp_right fun h =>
          List.mem_append_left _ (List.mem_cons_of_mem _ h)
    · exact (Branch.mem_linesAll_pieces hf bs l hl).imp_right (List.mem_append_right _)

end

/-- What an include stands for is made for the line of the include, broken or not. -/
theorem Splice.lines_includePiece (ix : UnitIndex) (self : Bytes) (depth : Nat)
    (chain : List Bytes) (path : Bytes) (line : Nat) :
    ∀ l ∈ (includePiece ix self depth chain path line).lines, l = line := by
  intro l hl
  cases depth with
  | zero => exact absurd hl List.not_mem_nil
  | succ depth =>
    unfold includePiece at hl
    dsimp only at hl
    split at hl
    · exact List.mem_singleton.1 hl
    · exact absurd hl List.not_mem_nil
    · exact absurd hl List.not_mem_nil

/-! ## Rendered lines -/

/-- A text has at most one segment more than line feeds: the last one is left out if it is empty. -/
theorem length_textSegments_le (s : Bytes) : (textSegments s).length ≤ newlines s + 1 := by
  unfold newlines
  induction s with
  | nil => exact Nat.zero_le _
  | cons c s ih =>
    rw [textSegments, List.count_cons]
    by_cases hc : c = newline
    · simpa [hc] using ih
    · cases hs : textSegments s with
      | nil => simp [hc]
      | cons seg segs => simpa [hc, hs] using ih

/-- A text is written for its lines from the first to the last, or for the pin alone. -/
theorem within_renderText {n : Nat} (hn : 0 < n) {p : Place} {value : Bytes} {line : Nat}
    (h : ∀ l ∈ [line, line + newlines value], p.pin.getD l ≤ n) :
    (renderText p value line).Within n := by
  intro l hl
  obtain ⟨⟨seg, i⟩, hseg, rfl⟩ := List.mem_map.1 hl
  have hi : i < (textSegments value).length := (List.mem_zipIdx' hseg).1
  have hcount := length_textSegments_le value
  have hend := h _ (List.mem_cons_of_mem _ (List.mem_singleton_self _))
  refine Place.within_line hn ?_ _
  cases hpin : p.pin with
  | some pin => simpa [hpin] using hend
  | none =>
    rw [hpin] at hend
    dsimp only [Option.getD_none] at hend ⊢
    omega

/-- An argument is written for the line of its attribute, or not at all. -/
theorem within_renderArgument {n : Nat} (hn : 0 < n) {p : Place} (tag : Bytes) (c : Component)
    {a : Attr} (h : p.pin.getD a.line ≤ n) : (renderArgument p tag c a).Within n := by
  unfold renderArgument
  split
  · exact Output.within_found _ _
  · exact Output.within_emit hn h _

mutual

/-- **The code of a piece is made for its lines**, or for the line of the outermost
include. -/
theorem Piece.within_render {n : Nat} (hn : 0 < n) (ctx : RenderContext) :
    ∀ (x : Piece) (p : Place), (∀ l ∈ x.lines, p.pin.getD l ≤ n) → (x.render ctx p).Within n
  | .text value line, p, h => within_renderText hn h
  | .broken _ _, _, _ => Output.within_found _ _
  | .expr code line, p, h => Output.within_emit hn (h line List.mem_cons_self) _
  | .spliced line body, p, h =>
    -- the pin covers whatever lines the included unit has
    Piece.within_renderAll hn ctx body _ fun _ _ => h line List.mem_cons_self
  | .loop clause body line endLine, p, h => by
    simp only [Piece.lines, List.forall_mem_cons] at h
    rw [Piece.render]
    simp only [Output.within_append]
    exact ⟨⟨Output.within_emit hn h.1 _, Piece.within_renderAll hn ctx body p.deeper h.2.2⟩,
      Output.within_emit hn h.2.1 _⟩
  | .choice branches otherwise elseLine endLine, p, h => by
    simp only [Piece.lines, List.forall_mem_cons, List.forall_mem_append] at h
    obtain ⟨helse, hend, hbranches, hotherwise⟩ := h
    rw [Piece.render]
    simp only [Output.within_append]
    refine ⟨⟨⟨PieceBranch.within_renderAll hn ctx branches p _ hbranches, ?_⟩,
      Piece.within_renderAll hn ctx otherwise p.deeper hotherwise⟩, Output.within_emit hn hend _⟩
    split
    · exact Output.within_empty
    · exact Output.within_emit hn helse _
  | .element tag attrs children selfClosing line endLine, p, h => by
    simp only [Piece.lines, List.forall_mem_cons, List.forall_mem_append,
      List.forall_mem_map] at h
    obtain ⟨hline, hend, hattrs, hchildren⟩ := h
    have hcontent := fun (q : Place) (hq : q.pin = p.pin) =>
      Piece.within_renderAll hn ctx children q (hq ▸ hchildren)
    have hemit : ∀ (q : Place), q.pin = p.pin → ∀ code, (q.emit line code).Within n :=
      fun q hq => Output.within_emit hn (hq ▸ hline)
    have hclose : ∀ (q : Place), q.pin = p.pin → ∀ code, (q.emit endLine code).Within n :=
      fun q hq => Output.within_emit hn (hq ▸ hend)
    have hplain : ∀ complaint : Output, complaint.Within n → Output.Within n
        (complaint ++ p.emit line (rawCall ("<" ++ tag))
          ++ Output.concat (attrs.map (renderAttr p))
          ++ if ElementName.isVoid tag then p.emit line "w.Raw(\">\")"
            else if selfClosing then p.emit line (rawCall ("></" ++ tag ++ ">"))
            else p.emit line "w.Raw(\">\")" ++ Piece.renderAll ctx p children
              ++ p.emit endLine (rawCall ("</" ++ tag ++ ">"))) := by
      intro complaint hcomplaint
      simp only [Output.within_append, Output.within_concat, List.forall_mem_map]
      refine ⟨⟨⟨hcomplaint, hemit p rfl _⟩, fun a ha => Output.within_emit hn (hattrs a ha) _⟩, ?_⟩
      split_ifs
      · exact hemit p rfl _
      · exact hemit p rfl _
      · exact Output.within_append.2 ⟨Output.within_append.2 ⟨hemit p rfl _, hcontent p rfl⟩,
          hclose p rfl _⟩
    rw [Piece.render]
    dsimp only
    split
    · cases hc : ctx.component tag with
      | error fault => exact hplain _ (Output.within_found line fault)
      | ok found =>
        simp only [Output.within_append, Output.within_concat, List.forall_mem_map]
        refine ⟨⟨⟨hemit p rfl _, fun a ha => within_renderArgument hn tag _ (hattrs a ha)⟩, ?_⟩,
          hclose p rfl _⟩
        split_ifs
        · exact Output.within_empty
        · exact Output.within_found _ _
        · simp only [Output.within_append]
          exact ⟨⟨⟨hemit p.deeper rfl _, hcontent p.deeper.deeper rfl⟩,
            hclose p.deeper.deeper rfl _⟩, hclose p.deeper rfl _⟩
    · exact hplain _ Output.within_empty

/-- The code of a list of pieces, by induction along with `Piece.within_render`. -/
theorem Piece.within_renderAll {n : Nat} (hn : 0 < n) (ctx : RenderContext) :
    ∀ (xs : List Piece) (p : Place), (∀ l ∈ Piece.linesAll xs, p.pin.getD l ≤ n) →
      (Piece.renderAll ctx p xs).Within n
  | [], _, _ => Output.within_empty
  | x :: xs, p, h => by
    obtain ⟨hx, hxs⟩ := List.forall_mem_append.1 h
    exact Output.within_append.2
      ⟨Piece.within_render hn ctx x p hx, Piece.within_renderAll hn ctx xs p hxs⟩

/-- The code of branches, by the same induction. -/
theorem PieceBranch.within_renderAll {n : Nat} (hn : 0 < n) (ctx : RenderContext) :
    ∀ (bs : List PieceBranch) (p : Place) (opening : Bytes),
      (∀ l ∈ PieceBranch.linesAll bs, p.pin.getD l ≤ n) →
        (PieceBranch.renderAll ctx p opening bs).Within n
  | [], _, _, _ => Output.within_empty
  | .mk cond body line :: bs, p, opening, h => by
    obtain ⟨hb, hbs⟩ := List.forall_mem_append.1 h
    obtain ⟨hline, hbody⟩ := List.forall_mem_cons.1 hb
    exact Output.within_append.2 ⟨Output.within_append.2 ⟨Output.within_emit hn hline _,
      Piece.within_renderAll hn ctx body p.deeper hbody⟩,
      PieceBranch.within_renderAll hn ctx bs p _ hbs⟩

end

/-! ## Whole files -/

/-- Inherited imports are marked as such. -/
theorem inherited_of_mem_keepImports {spans taken : List Bytes} {offered : List ImportDirective}
    {i : ImportDirective} (h : i ∈ keepImports spans taken offered) : i.inherited = true := by
  induction offered generalizing taken with
  | nil => exact absurd h List.not_mem_nil
  | cons o offered ih =>
    rw [keepImports] at h
    cases hoffer : offerImport spans taken o with
    | none =>
      rw [hoffer] at h
      exact ih h
    | some kept =>
      rw [hoffer] at h
      obtain rfl | h := List.mem_cons.1 h
      · unfold offerImport at hoffer
        split_ifs at hoffer
        cases hoffer
        rfl
      · exact ih h

namespace Generate

variable {n : Nat}

/-- A line that is made for a line of the input, or for none, stays within the input. -/
theorem within_line (hn : 0 < n) (indent : Nat) {src : Nat} (h : src ≤ n) (code : Bytes) :
    (line indent src code).Within n :=
  Place.within_line (p := { indent }) hn h code

/-- The lines in front of the body are made for imports, parameters and the route, and those of an
inherited import for no line. -/
theorem within_preamble (hn : 0 < n) (self package typeName : Bytes) {d : Document}
    (himports : ∀ i ∈ d.imports, i.inherited = true ∨ i.line ≤ n)
    (hparams : ∀ p ∈ d.params, p.line ≤ n) (hpage : ∀ p ∈ d.page, p.line ≤ n) :
    ∀ l ∈ preamble self package typeName d, l.Within n := by
  have hmade : ∀ indent code, (line indent 0 code).Within n := fun indent code =>
    within_line hn indent (Nat.zero_le n) code
  have hroute : ∀ l ∈ routeLines typeName d.page, l.Within n := by
    unfold routeLines
    cases hp : d.page with
    | none => exact fun l hl => absurd hl List.not_mem_nil
    | some page =>
      have hline := hpage page hp
      simp only [List.forall_mem_cons, List.not_mem_nil, false_implies, implies_true, and_true,
        hmade, blank, within_line hn _ hline]
  unfold preamble importLines typeLines
  simp only [List.forall_mem_append, List.forall_mem_cons, List.forall_mem_map,
    List.not_mem_nil, false_implies, implies_true, hmade, blank, true_and, and_true]
  refine ⟨⟨fun i hi => within_line hn 1 ?_ _, fun p hp => within_line hn 1 (hparams p hp) _⟩,
    hroute⟩
  split
  · exact Nat.zero_le n
  · next h => exact (himports i (List.mem_filter.1 hi).1).resolve_left h

/-- The lines that hand on the parameters are made for these. -/
theorem within_paramLines (hn : 0 < n) {params : List ParamDirective}
    (h : ∀ p ∈ params, p.line ≤ n) : ∀ l ∈ paramLines params, l.Within n := by
  intro l hl
  obtain ⟨p, hp, hl⟩ := List.mem_flatMap.1 hl
  have hline := fun code => within_line hn 1 (h p hp) code
  obtain rfl | hl := List.mem_cons.1 hl
  · exact hline _
  · rw [List.mem_singleton.1 hl]
    exact hline _

/-- A block of declarations is copied line by line, each for its own line. -/
theorem within_postamble (hn : 0 < n) {d : Document}
    (h : ∀ b ∈ d.code, b.line + b.lines.length ≤ n + 1) : ∀ l ∈ postamble d, l.Within n := by
  refine List.forall_mem_cons.2 ⟨within_line hn 0 (Nat.zero_le n) _, fun l hl => ?_⟩
  obtain ⟨block, hblock, hl⟩ := List.mem_flatMap.1 hl
  obtain rfl | hl := List.mem_cons.1 hl
  · exact within_line hn 0 (Nat.zero_le n) _
  · obtain ⟨⟨s, i⟩, hs, rfl⟩ := List.mem_map.1 hl
    have hi : i < block.lines.length := (List.mem_zipIdx' hs).1
    have hend := h block hblock
    exact within_line hn 0 (show block.line + i ≤ n by omega) s

/-- **Every line of a unit is made for a line of its input**, or for none. -/
theorem within_unit (u : SourceUnit) (input : Bytes) (mode : Mode) (ix : UnitIndex)
    (resolver : Resolver) (package : Bytes) :
    ∀ l ∈ (unit u input mode ix resolver package).lines, l.Within (newlines input + 1) := by
  have hn : 0 < newlines input + 1 := Nat.succ_pos _
  obtain ⟨hbody, hdoc, -⟩ := Document.ordered_read input
  have hparams : ∀ p ∈ (u.document input ix).params, p.line ≤ newlines input + 1 :=
    fun p hp => (hdoc.params p hp).2
  have himports : ∀ i ∈ (u.document input ix).imports,
      i.inherited = true ∨ i.line ≤ newlines input + 1 :=
    List.forall_mem_append.2 ⟨fun i hi => .inl (inherited_of_mem_keepImports hi),
      fun i hi => .inr (hdoc.imports i hi).2⟩
  have hcontent : (Writer.bodyOutput mode resolver ix u.path input
      (u.document input ix)).Within (newlines input + 1) := by
    cases mode with
    | declaration => exact fun l hl => absurd hl List.not_mem_nil
    | full =>
      refine Output.within_append.2 ⟨within_paramLines hn hparams,
        Piece.within_renderAll hn _ _ _ fun l hl => ?_⟩
      obtain rfl | hl := Node.mem_linesAll_pieces (Splice.lines_includePiece ix u.path _ []) _ l hl
      · exact Nat.zero_le _
      · exact (hbody.within l hl).2
  rw [lines_unit]
  simp only [List.forall_mem_append, List.forall_mem_singleton]
  exact ⟨⟨⟨within_preamble hn _ _ _ himports hparams fun p hp => (hdoc.page p hp).2, hcontent⟩,
    within_line hn 1 (Nat.zero_le _) _⟩, within_postamble hn fun b hb => (hdoc.code b hb).2.2⟩

end Generate

end Stencil
