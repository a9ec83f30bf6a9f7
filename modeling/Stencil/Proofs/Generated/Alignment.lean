import Mathlib.Data.Bool.AllAny
import Stencil.Proofs.Generated.Modes
import Stencil.Proofs.Template.Balanced

/-!
# Where source maps are right

A writer counts one line for every line of code it is asked for, and notes input lines
under that count. Code that was copied from the input can hold line feeds of its own; then
the text has more lines than the writer counted, and everything behind is noted under too
small a number. This module says exactly when that happens.

Two equivalences make the answer. The count and the source map of a file agree with its
text if and only if every line that was asked for is a single line (`Buffer.aligned_iff`).
And every line of a unit is a single one if and only if no fragment that is copied into it
holds a line feed (`oneLine_lines_iff`), where `Piece.copied` collects the fragments:
expressions, conditions, clauses, arguments that are code, and the names of component
types. The rest of a generated file cannot break: it is quoted, or was read from one line.
-/

namespace Stencil

open Bytes

/-- **Every line that was asked for is a single line.** -/
def Line.AllSingle (ls : List Line) : Prop := ∀ l ∈ ls, l.code.OneLine

/-! ## Counted lines and lines of the text -/

/-- A line has the line feeds of its code, and the one at its end. -/
theorem Line.newlines_text (l : Line) : newlines l.text = newlines l.code + 1 := by
  unfold Line.text
  split
  · next h =>
    rw [List.isEmpty_iff.1 h]
    rfl
  · have htabs : newlines (List.replicate l.indent 0x09) = 0 := by
      rw [newlines_eq_zero, OneLine, List.mem_replicate]
      exact fun h => absurd h.2 (by decide)
    unfold newlines at *
    rw [List.count_append, List.count_append, htabs]
    simp

/-- A file has at least as many lines as were asked for, and more than that if one of
them is more than a single line. -/
theorem Line.length_eq_newlines_iff (ls : List Line) :
    ls.length ≤ newlines (Line.textOf ls)
    ∧ (ls.length = newlines (Line.textOf ls) ↔ Line.AllSingle ls) := by
  induction ls with
  | nil => exact ⟨Nat.le_refl _, iff_of_true rfl fun l hl => absurd hl List.not_mem_nil⟩
  | cons l ls ih =>
    obtain ⟨hle, hiff⟩ := ih
    have hcount : newlines (Line.textOf (l :: ls))
        = newlines l.code + 1 + newlines (Line.textOf ls) := by
      rw [← l.newlines_text]
      exact List.count_append
    rw [hcount, Line.AllSingle, List.forall_mem_cons, ← newlines_eq_zero, List.length_cons]
    rw [Line.AllSingle] at hiff
    rw [← hiff]
    constructor
    · omega
    · omega

/-- The entries for the lines from position `k` on, one by one. -/
theorem SourceMap.find?_entries (ls : List Line) (k i : Nat) :
    (((ls.zipIdx k).filterMap fun (l, j) => l.origin.map fun o => (j + 1, o)).find?
      fun e => e.1 = k + i + 1).map Prod.snd = ls[i]?.bind Line.origin := by
  induction ls generalizing k i with
  | nil => rfl
  | cons l ls ih =>
    rw [List.zipIdx_cons, List.filterMap_cons]
    cases i with
    | zero =>
      cases ho : l.origin with
      | some o => simp [ho]
      | none =>
        -- the lines behind are noted under larger numbers
        have hlater : (((ls.zipIdx (k + 1)).filterMap fun (l, j) =>
            l.origin.map fun o => (j + 1, o)).find? fun e => e.1 = k + 0 + 1) = none := by
          rw [List.find?_eq_none]
          intro e he
          obtain ⟨⟨l', j⟩, hmem, hl'⟩ := List.mem_filterMap.1 he
          obtain ⟨o, -, rfl⟩ := Option.map_eq_some_iff.1 hl'
          have hj : k + 1 ≤ j := List.le_snd_of_mem_zipIdx hmem
          simp only [decide_eq_true_eq]
          omega
        simpa [ho] using hlater
    | succ i =>
      have hrest := ih (k + 1) i
      have hkey : k + 1 + i + 1 = k + (i + 1) + 1 := by omega
      rw [hkey] at hrest
      cases ho : l.origin with
      | none => simpa [ho] using hrest
      | some o =>
        have hne : ¬ k + 1 = k + (i + 1) + 1 := by omega
        simpa [ho, hne] using hrest

/-- The source map of a file gives each line that was asked for its origin. -/
theorem SourceMap.lookup_ofLines (ls : List Line) (i : Nat) :
    (SourceMap.ofLines ls).lookup (i + 1) = ls[i]?.bind Line.origin := by
  have h := SourceMap.find?_entries ls 0 i
  rwa [Nat.zero_add] at h

namespace Buffer

theorem foldl_push_line (ls : List Line) (b : Buffer) :
    (ls.foldl push b).line = b.line + ls.length := by
  induction ls generalizing b with
  | nil => rfl
  | cons l ls ih =>
    rw [List.foldl_cons, ih, List.length_cons]
    show b.line + 1 + _ = _
    omega

/-- What is noted for a line is what it was made for. -/
theorem push_origins (b : Buffer) (l : Line) :
    (b.push l).origins = b.origins ++ (l.origin.map fun o => (b.line, o)).toList := by
  show (if 0 < _ then _ else _) = _
  cases l.origin with
  | none => exact (List.append_nil _).symm
  | some o => rfl

/-- The line of the text on which a line starts, with what it was made for. -/
theorem push_calls (b : Buffer) (l : Line) :
    (b.push l).calls = b.calls ++ [(1 + newlines b.text, l.origin)] := by
  show b.calls ++ [(_, if 0 < _ then _ else _)] = _
  cases l.origin with
  | none => rfl
  | some o => rfl

/-- The table of a buffer numbers its lines from where it was, and has an entry for each line that
comes from somewhere. -/
theorem foldl_push_origins (ls : List Line) {b : Buffer} {k : Nat} (hk : b.line = k + 1) :
    (ls.foldl push b).origins
      = b.origins ++ (ls.zipIdx k).filterMap fun (l, j) => l.origin.map fun o => (j + 1, o) := by
  induction ls generalizing b k with
  | nil => exact (List.append_nil _).symm
  | cons l ls ih =>
    have hnext : (b.push l).line = k + 1 + 1 := congrArg (· + 1) hk
    rw [List.foldl_cons, ih hnext, push_origins, List.zipIdx_cons, List.filterMap_cons, hk]
    cases ho : l.origin with
    | none => simp [ho]
    | some o => simp [ho]

/-- As long as lines are single ones, each starts where the writer counts it. -/
theorem foldl_push_calls {ls : List Line} (hls : Line.AllSingle ls) {b : Buffer} {k : Nat}
    (hk : newlines b.text = k) :
    (ls.foldl push b).calls = b.calls ++ (ls.zipIdx k).map fun (l, j) => (j + 1, l.origin) := by
  induction ls generalizing b k with
  | nil => exact (List.append_nil _).symm
  | cons l ls ih =>
    obtain ⟨hl, hls⟩ := List.forall_mem_cons.1 hls
    have hnext : newlines (b.push l).text = k + 1 := by
      have hline := l.newlines_text
      rw [newlines_eq_zero.2 hl] at hline
      unfold newlines at *
      rw [push_text, List.count_append, hk, hline]
    rw [List.foldl_cons, ih hls hnext, push_calls, hk, Nat.add_comm 1 k]
    simp

/-- **The writer's account of its text is right if and only if every line it was asked for
is a single line.** -/
theorem aligned_iff (ls : List Line) :
    ((ls.foldl push {}).line - 1 = newlines (Line.textOf ls)
      ∧ ∀ c ∈ (ls.foldl push {}).calls, (SourceMap.ofLines ls).lookup c.1 = c.2)
    ↔ Line.AllSingle ls := by
  have hcount : (ls.foldl push {}).line - 1 = ls.length := by
    rw [foldl_push_line]
    exact Nat.add_sub_cancel_left ..
  rw [hcount, (Line.length_eq_newlines_iff ls).2]
  refine ⟨fun h => h.1, fun h => ⟨h, ?_⟩⟩
  rw [foldl_push_calls h (rfl : newlines ({} : Buffer).text = 0)]
  rintro ⟨start, input⟩ hc
  obtain ⟨⟨l, j⟩, hl, heq⟩ := List.mem_map.1 hc
  cases heq
  rw [SourceMap.lookup_ofLines, List.mem_zipIdx_iff_getElem?.1 hl]
  rfl

end Buffer

/-! ## Pieces of well-formed documents -/

mutual

/-- A piece whose tags and attributes have their names on one line. -/
def Piece.WellFormed : Piece → Prop
  | .text .. | .expr .. | .broken .. => True
  | .spliced _ body | .loop _ body _ _ => Piece.AllWellFormed body
  | .choice branches otherwise _ _ =>
    PieceBranch.AllWellFormed branches ∧ Piece.AllWellFormed otherwise
  | .element tag attrs children _ _ _ =>
    tag.OneLine ∧ (∀ a ∈ attrs, a.WellFormed) ∧ Piece.AllWellFormed children

/-- A branch of such pieces. -/
def PieceBranch.WellFormed : PieceBranch → Prop
  | .mk _ body _ => Piece.AllWellFormed body

/-- A list of such pieces. -/
def Piece.AllWellFormed : List Piece → Prop
  | [] => True
  | x :: xs => x.WellFormed ∧ Piece.AllWellFormed xs

/-- A list of such branches. -/
def PieceBranch.AllWellFormed : List PieceBranch → Prop
  | [] => True
  | b :: bs => b.WellFormed ∧ PieceBranch.AllWellFormed bs

end

mutual

/-- Nodes as the reader makes them become such pieces, as long as includes do. -/
theorem Node.wellFormed_pieces {f : Bytes → Nat → Piece}
    (hf : ∀ path line, (f path line).WellFormed) :
    ∀ n : Node, n.WellFormed → (n.pieces f).WellFormed
  | .text .., _ => trivial
  | .expr .., _ => trivial
  | .splice path line, _ => hf path line
  | .loop _ body _ _, h => Node.wellFormed_piecesAll hf body h
  | .choice branches otherwise _ _, h =>
    ⟨Branch.wellFormed_piecesAll hf branches h.2.1, Node.wellFormed_piecesAll hf otherwise h.2.2⟩
  | .element _ _ children _ _ _, h =>
    ⟨oneLine_of_isTagByte h.1, h.2.1, Node.wellFormed_piecesAll hf children h.2.2.1⟩

/-- The pieces of well-formed nodes are well-formed, by induction along with
`Node.wellFormed_pieces`. -/
theorem Node.wellFormed_piecesAll {f : Bytes → Nat → Piece}
    (hf : ∀ path line, (f path line).WellFormed) :
    ∀ ns : List Node, Node.AllWellFormed ns → Piece.AllWellFormed (Node.piecesAll f ns)
  | [], _ => trivial
  | n :: ns, h => ⟨Node.wellFormed_pieces hf n h.1, Node.wellFormed_piecesAll hf ns h.2⟩

/-- The pieces of well-formed branches are well-formed, by the same induction. -/
theorem Branch.wellFormed_piecesAll {f : Bytes → Nat → Piece}
    (hf : ∀ path line, (f path line).WellFormed) :
    ∀ bs : List Branch, Branch.AllWellFormed bs → PieceBranch.AllWellFormed (Branch.piecesAll f bs)
  | [], _ => trivial
  | .mk _ body _ :: bs, h =>
    ⟨Node.wellFormed_piecesAll hf body h.1, Branch.wellFormed_piecesAll hf bs h.2⟩

end

/-- What an include stands for is well-formed, however long the chain: a refused include is a broken
piece, and the body of a unit that was read is well-formed. -/
theorem Splice.wellFormed_includePiece (ix : UnitIndex) (self : Bytes) (depth : Nat)
    (chain : List Bytes) (path : Bytes) (line : Nat) :
    (includePiece ix self depth chain path line).WellFormed := by
  induction depth generalizing chain path line with
  | zero => trivial
  | succ depth ih =>
    unfold includePiece
    dsimp only
    split
    · exact Node.wellFormed_piecesAll (ih _) _
        (Node.allWellFormed_iff.2 (Document.wellFormed_read _).body)
    · trivial
    · trivial

/-- The pieces of a body are well-formed with all its includes in place. -/
theorem Splice.wellFormed_expand (ix : UnitIndex) (self input : Bytes) {body : List Node}
    (h : ∀ n ∈ body, n.WellFormed) : Piece.AllWellFormed (expand ix self input body) :=
  Node.wellFormed_piecesAll (wellFormed_includePiece ix self _ []) body
    (Node.allWellFormed_iff.2 h)

/-! ## Copied fragments -/

/-- The fragment an attribute of a plain element copies. -/
def copiedAttr (a : Attr) : List Bytes :=
  match a.value with
  | .expr code => [code]
  | .literal _ | .bare => []

/-- The fragment an attribute of a component tag copies: the value of its argument, which
is quoted if it is text. -/
def copiedArgument (c : Component) (a : Attr) : List Bytes :=
  match c.param? a.name with
  | none => []
  | some param => [argument param a.value]

mutual

/-- **The fragments that the code of a piece copies as they are.** -/
def Piece.copied (ctx : RenderContext) : Piece → List Bytes
  | .text .. | .broken .. => []
  | .expr code _ => [code]
  | .spliced _ body => Piece.copiedAll ctx body
  | .loop clause body _ _ => clause :: Piece.copiedAll ctx body
  | .choice branches otherwise _ _ =>
    PieceBranch.copiedAll ctx branches ++ Piece.copiedAll ctx otherwise
  | .element tag attrs children selfClosing _ _ =>
    let plain := attrs.flatMap copiedAttr
      ++ if ElementName.isVoid tag || selfClosing then [] else Piece.copiedAll ctx children
    if ElementName.isComponent tag then
      match ctx.component tag with
      | .error _ => plain
      | .ok (c, _) =>
        c.name :: attrs.flatMap (copiedArgument c)
          ++ if children.any Piece.isContent && (c.param? "Children").isSome then
            Piece.copiedAll ctx children else []
    else plain

/-- The fragments that the code of a branch copies. -/
def PieceBranch.copied (ctx : RenderContext) : PieceBranch → List Bytes
  | .mk cond body _ => cond :: Piece.copiedAll ctx body

/-- The fragments that the code of a list of pieces copies. -/
def Piece.copiedAll (ctx : RenderContext) : List Piece → List Bytes
  | [] => []
  | x :: xs => x.copied ctx ++ Piece.copiedAll ctx xs

/-- The fragments that the code of a list of branches copies. -/
def PieceBranch.copiedAll (ctx : RenderContext) : List PieceBranch → List Bytes
  | [] => []
  | b :: bs => b.copied ctx ++ PieceBranch.copiedAll ctx bs

end

/-! ## Rendered lines -/

/-- Every line of an output is a single line. -/
def Output.OneLine (o : Output) : Prop := Line.AllSingle o.lines

namespace Output

@[simp] theorem oneLine_empty : OneLine {} := fun _ hl => absurd hl List.not_mem_nil

@[simp] theorem oneLine_append {a b : Output} : (a ++ b).OneLine ↔ a.OneLine ∧ b.OneLine :=
  List.forall_mem_append

@[simp] theorem oneLine_found (line : Nat) (fault : Fault) : (found line fault).OneLine :=
  fun _ hl => absurd hl List.not_mem_nil

@[simp] theorem oneLine_emit {p : Place} {src : Nat} {code : Bytes} :
    (p.emit src code).OneLine ↔ code.OneLine :=
  List.forall_mem_singleton

@[simp] theorem oneLine_concat {os : List Output} :
    (concat os).OneLine ↔ ∀ o ∈ os, o.OneLine := by
  induction os with
  | nil => exact iff_of_true oneLine_empty fun o ho => absurd ho List.not_mem_nil
  | cons o os ih =>
    rw [List.forall_mem_cons, ← ih]
    exact oneLine_append

end Output

/-- Between two texts on one line only what is between matters. -/
theorem oneLine_between {a s b : Bytes} (ha : a.OneLine) (hb : b.OneLine) :
    OneLine (a ++ s ++ b) ↔ s.OneLine := by
  rw [oneLine_append, oneLine_append]
  exact ⟨fun h => h.1.2, fun h => ⟨⟨ha, h⟩, hb⟩⟩

/-- Markup is written as a literal, in which a line feed is escaped. -/
theorem oneLine_rawCall (s : Bytes) : (rawCall s).OneLine :=
  (oneLine_between (by decide) (by decide)).2 (oneLine_quote s)

theorem oneLine_renderText (p : Place) (value : Bytes) (line : Nat) :
    (renderText p value line).OneLine := by
  intro l hl
  obtain ⟨⟨seg, i⟩, -, rfl⟩ := List.mem_map.1 hl
  exact oneLine_rawCall seg

/-- The line of an attribute is one line if the code it copies is. A literal is quoted. -/
theorem oneLine_renderAttr (p : Place) (a : Attr) :
    (renderAttr p a).OneLine ↔ ∀ s ∈ copiedAttr a, s.OneLine := by
  unfold renderAttr copiedAttr
  rw [Output.oneLine_emit]
  cases a.value with
  | literal text => exact iff_of_true (oneLine_rawCall _) fun s hs => absurd hs List.not_mem_nil
  | bare => exact iff_of_true (oneLine_rawCall _) fun s hs => absurd hs List.not_mem_nil
  | expr code =>
    have hname : OneLine ("w.Attr(" ++ Quoted.quote a.name ++ ", ") :=
      (oneLine_between (by decide) (by decide)).2 (oneLine_quote _)
    rw [List.forall_mem_singleton]
    exact oneLine_between hname (by decide)

/-- The same for an argument of a component, of which a literal may be copied as well. -/
theorem oneLine_renderArgument (p : Place) (tag : Bytes) (c : Component) {a : Attr}
    (ha : a.WellFormed) :
    (renderArgument p tag c a).OneLine ↔ ∀ s ∈ copiedArgument c a, s.OneLine := by
  unfold renderArgument copiedArgument
  cases c.param? a.name with
  | none => exact iff_of_true (Output.oneLine_found _ _) fun s hs => absurd hs List.not_mem_nil
  | some param =>
    dsimp only
    rw [List.forall_mem_singleton, Output.oneLine_emit]
    exact oneLine_between (oneLine_append.2 ⟨ha, by decide⟩) (by decide)

/-- The import name that qualifies a component's type is part of the tag. -/
theorem RenderContext.oneLine_qualifier {ctx : RenderContext} {tag : Bytes} (htag : tag.OneLine)
    {c : Component} {qualifier : Bytes} (h : ctx.component tag = .ok (c, qualifier)) :
    qualifier.OneLine := by
  unfold RenderContext.component at h
  dsimp only at h
  split at h
  · split at h
    · cases h
      exact oneLine_nil
    · cases h
  · next q name hcut =>
    have hq : q.OneLine := by
      unfold cutLast? at hcut
      dsimp only at hcut
      split at hcut
      · cases hcut
        exact htag.mono (List.take_subset _ _)
      · cases hcut
    split at h
    · split at h
      · cases h
        exact hq
      · cases h
    · cases h

/-- A type name, qualified or not, is on one line if the component's name is. -/
theorem oneLine_typeOf {qualifier : Bytes} (hq : qualifier.OneLine) (c : Component) :
    OneLine (if qualifier.isEmpty then c.name else qualifier ++ "." ++ c.name)
      ↔ c.name.OneLine := by
  split
  · exact Iff.rfl
  · rw [oneLine_append]
    exact ⟨fun h => h.2, fun h => ⟨oneLine_append.2 ⟨hq, by decide⟩, h⟩⟩

/-- The lines of a plain element, whose content copies the fragments `inner`. -/
theorem oneLine_plainElement (p : Place) (tag : Bytes) (attrs : List Attr) (selfClosing : Bool)
    (line endLine : Nat) {complaint content : Output} {inner : List Bytes}
    (hcomplaint : complaint.OneLine) (hcontent : content.OneLine ↔ ∀ s ∈ inner, s.OneLine) :
    (complaint ++ p.emit line (rawCall ("<" ++ tag))
        ++ Output.concat (attrs.map (renderAttr p))
        ++ if ElementName.isVoid tag then p.emit line "w.Raw(\">\")"
          else if selfClosing then p.emit line (rawCall ("></" ++ tag ++ ">"))
          else p.emit line "w.Raw(\">\")" ++ content
            ++ p.emit endLine (rawCall ("</" ++ tag ++ ">"))).OneLine
      ↔ ∀ s ∈ attrs.flatMap copiedAttr
          ++ if ElementName.isVoid tag || selfClosing then [] else inner, s.OneLine := by
  have hend : OneLine "w.Raw(\">\")" := by decide
  have hattrs : (Output.concat (attrs.map (renderAttr p))).OneLine
      ↔ ∀ s ∈ attrs.flatMap copiedAttr, s.OneLine := by
    simp only [Output.oneLine_concat, List.forall_mem_map, oneLine_renderAttr,
      List.forall_mem_flatMap]
  rw [Output.oneLine_append, Output.oneLine_append, Output.oneLine_append, hattrs,
    List.forall_mem_append]
  simp only [hcomplaint, Output.oneLine_emit, oneLine_rawCall, true_and]
  cases ElementName.isVoid tag <;> cases selfClosing <;>
    simp [hend, hcontent, oneLine_rawCall]

/-- The lines of a component tag, whose content copies the fragments `inner`. -/
theorem oneLine_componentTag (p : Place) (tag : Bytes) {attrs : List Attr}
    (hattrs : ∀ a ∈ attrs, a.WellFormed) (line endLine : Nat) (c : Component) {type : Bytes}
    (htype : type.OneLine ↔ c.name.OneLine) {shown : Bool} {opening content : Output}
    {inner : List Bytes} (hopening : opening.OneLine)
    (hcontent : content.OneLine ↔ ∀ s ∈ inner, s.OneLine) :
    (p.emit line ("w.Component(&" ++ type ++ "\x7b")
        ++ Output.concat (attrs.map (renderArgument p.deeper tag c))
        ++ (if !shown then {}
          else if (c.param? "Children").isNone then .found line (.noChildContent tag)
          else opening ++ content ++ p.deeper.deeper.emit endLine "return nil"
            ++ p.deeper.emit endLine "\x7d)\x7d,")
        ++ p.emit endLine "\x7d)").OneLine
      ↔ ∀ s ∈ c.name :: attrs.flatMap (copiedArgument c)
          ++ if shown && (c.param? "Children").isSome then inner else [], s.OneLine := by
  have hopen : OneLine ("w.Component(&" ++ type ++ "\x7b") ↔ c.name.OneLine :=
    (oneLine_between (by decide) (by decide)).trans htype
  have hargs : (Output.concat (attrs.map (renderArgument p.deeper tag c))).OneLine
      ↔ ∀ s ∈ attrs.flatMap (copiedArgument c), s.OneLine := by
    rw [Output.oneLine_concat, List.forall_mem_map, List.forall_mem_flatMap]
    exact forall₂_congr fun a ha => oneLine_renderArgument _ _ _ (hattrs a ha)
  have hreturn : OneLine "return nil" := by decide
  have hinner : OneLine "\x7d)\x7d," := by decide
  have hclose : OneLine "\x7d)" := by decide
  rw [Output.oneLine_append, Output.oneLine_append, Output.oneLine_append, hargs,
    List.cons_append, List.forall_mem_cons, List.forall_mem_append]
  simp only [Output.oneLine_emit, hopen, hclose, and_true]
  cases shown <;> cases hc : c.param? "Children" <;>
    simp [hopening, hreturn, hinner, hcontent, and_assoc]

section Rendered

variable (ctx : RenderContext)

mutual

/-- **The code of a piece has single lines if and only if it copies none that are not.** -/
theorem Piece.oneLine_render_iff : ∀ (x : Piece) (p : Place), x.WellFormed →
    ((x.render ctx p).OneLine ↔ ∀ s ∈ x.copied ctx, s.OneLine)
  | .text value line, p, _ =>
    iff_of_true (oneLine_renderText p value line) fun s hs => absurd hs List.not_mem_nil
  | .broken _ _, _, _ =>
    iff_of_true (Output.oneLine_found _ _) fun s hs => absurd hs List.not_mem_nil
  | .expr code line, p, _ => by
    rw [Piece.render, Piece.copied, Output.oneLine_emit, List.forall_mem_singleton]
    exact oneLine_between (by decide) (by decide)
  | .spliced line body, p, h => Piece.oneLine_renderAll_iff body _ h
  | .loop clause body line endLine, p, h => by
    have hopen : OneLine ("for " ++ clause ++ " \x7b") ↔ clause.OneLine :=
      oneLine_between (by decide) (by decide)
    have hclose : OneLine "\x7d" := by decide
    rw [Piece.render, Piece.copied, List.forall_mem_cons]
    simp only [Output.oneLine_append, Output.oneLine_emit, hopen, hclose, and_true,
      Piece.oneLine_renderAll_iff body p.deeper h]
  | .choice branches otherwise elseLine endLine, p, h => by
    have helse : Output.OneLine (if otherwise.isEmpty then {}
        else p.emit elseLine "\x7d else \x7b") := by
      split
      · exact Output.oneLine_empty
      · exact Output.oneLine_emit.2 (by decide)
    have hclose : OneLine "\x7d" := by decide
    rw [Piece.render, Piece.copied, List.forall_mem_append]
    simp only [Output.oneLine_append, Output.oneLine_emit, helse, hclose, and_true,
      PieceBranch.oneLine_renderAll_iff branches p "if " (by decide) h.1,
      Piece.oneLine_renderAll_iff otherwise p.deeper h.2]
  | .element tag attrs children selfClosing line endLine, p, h => by
    obtain ⟨htag, hattrs, hchildren⟩ := h
    have hchildren := fun p => Piece.oneLine_renderAll_iff children p hchildren
    rw [Piece.render, Piece.copied]
    dsimp only
    split
    · cases hc : ctx.component tag with
      | error fault =>
        exact oneLine_plainElement p tag attrs selfClosing line endLine
          (Output.oneLine_found line fault) (hchildren p)
      | ok found =>
        obtain ⟨c, qualifier⟩ := found
        exact oneLine_componentTag p tag hattrs line endLine c
          (oneLine_typeOf (ctx.oneLine_qualifier htag hc) c) (Output.oneLine_emit.2 (by decide))
          (hchildren p.deeper.deeper)
    · exact oneLine_plainElement p tag attrs selfClosing line endLine Output.oneLine_empty
        (hchildren p)

/-- The lines of pieces are single if all copied fragments are, by induction along with
`Piece.oneLine_render_iff`. -/
theorem Piece.oneLine_renderAll_iff : ∀ (xs : List Piece) (p : Place), Piece.AllWellFormed xs →
    ((Piece.renderAll ctx p xs).OneLine ↔ ∀ s ∈ Piece.copiedAll ctx xs, s.OneLine)
  | [], _, _ => iff_of_true Output.oneLine_empty fun s hs => absurd hs List.not_mem_nil
  | x :: xs, p, h => by
    rw [Piece.renderAll, Piece.copiedAll, Output.oneLine_append, List.forall_mem_append,
      Piece.oneLine_render_iff x p h.1, Piece.oneLine_renderAll_iff xs p h.2]

/-- The lines of branches are single if their conditions and their bodies are. -/
theorem PieceBranch.oneLine_renderAll_iff : ∀ (bs : List PieceBranch) (p : Place)
    (opening : Bytes), opening.OneLine → PieceBranch.AllWellFormed bs →
    ((PieceBranch.renderAll ctx p opening bs).OneLine
      ↔ ∀ s ∈ PieceBranch.copiedAll ctx bs, s.OneLine)
  | [], _, _, _, _ => iff_of_true Output.oneLine_empty fun s hs => absurd hs List.not_mem_nil
  | .mk cond body line :: bs, p, opening, ho, h => by
    have hopen : OneLine (opening ++ cond ++ " \x7b") ↔ cond.OneLine :=
      oneLine_between ho (by decide)
    rw [PieceBranch.renderAll, PieceBranch.copiedAll, PieceBranch.render, PieceBranch.copied,
      List.forall_mem_append, List.forall_mem_cons]
    simp only [Output.oneLine_append, Output.oneLine_emit, hopen,
      Piece.oneLine_renderAll_iff body p.deeper h.1,
      PieceBranch.oneLine_renderAll_iff bs p "\x7d else if " (by decide) h.2]

end

end Rendered

/-! ## Whole files -/

namespace Generate

open Line (AllSingle)

/-- An import is one line if its name is. Its path is quoted. -/
theorem allSingle_importLines {imports : List ImportDirective}
    (h : ∀ i ∈ imports, i.localName.OneLine) : AllSingle (importLines imports) := by
  unfold AllSingle importLines
  simp only [List.cons_append, List.forall_mem_cons, List.forall_mem_append, List.forall_mem_map,
    List.not_mem_nil, false_implies, implies_true, and_true]
  refine ⟨by decide, oneLine_quote _, fun i hi => ?_, by decide, by decide⟩
  have hname := h i (List.mem_filter.1 hi).1
  rw [code_line]
  split
  · exact oneLine_quote _
  · exact oneLine_append.2 ⟨oneLine_append.2 ⟨hname, by decide⟩, oneLine_quote _⟩

/-- A field is one line if the name and the type of its parameter are. -/
theorem allSingle_typeLines {typeName : Bytes} (htype : typeName.OneLine)
    {params : List ParamDirective} (h : ∀ p ∈ params, p.name.OneLine ∧ p.type.OneLine) :
    AllSingle (typeLines typeName params) := by
  unfold AllSingle typeLines
  simp only [List.cons_append, List.forall_mem_cons, List.forall_mem_append, List.forall_mem_map,
    List.not_mem_nil, false_implies, implies_true, and_true]
  refine ⟨(oneLine_between (by decide) (by decide)).2 htype, fun p hp => ?_, by decide, by decide⟩
  obtain ⟨hname, htype⟩ := h p hp
  exact oneLine_append.2 ⟨oneLine_append.2 ⟨hname, by decide⟩, htype⟩

/-- The route is quoted, so it does not matter what is in it. -/
theorem allSingle_routeLines {typeName : Bytes} (htype : typeName.OneLine)
    (page : Option PageDirective) : AllSingle (routeLines typeName page) := by
  cases page with
  | none => exact fun l hl => absurd hl List.not_mem_nil
  | some page =>
    unfold AllSingle routeLines
    simp only [List.forall_mem_cons, List.not_mem_nil, false_implies, implies_true, and_true]
    exact ⟨(oneLine_between (by decide) (by decide)).2 htype,
      oneLine_append.2 ⟨by decide, oneLine_quote _⟩, by decide, by decide⟩

/-- **In front of the body only the path of the unit and the name of the package are
copied.** -/
theorem allSingle_preamble_iff (self package : Bytes) {typeName : Bytes}
    (htype : typeName.OneLine) {d : Document} (hd : d.WellFormed) :
    AllSingle (preamble self package typeName d) ↔ self.OneLine ∧ package.OneLine := by
  have hself : OneLine ("// Code generated by templc from " ++ self ++ ". DO NOT EDIT.")
      ↔ self.OneLine := oneLine_between (by decide) (by decide)
  have hpackage : OneLine ("package " ++ package) ↔ package.OneLine := by
    rw [oneLine_append]
    exact and_iff_right (by decide)
  have himports := allSingle_importLines hd.imports
  have htypes := allSingle_typeLines htype hd.params
  have hroute := allSingle_routeLines htype d.page
  have hrender : OneLine ("func (c *" ++ typeName ++ ") Render(w *runtime.Buffer) error \x7b") :=
    (oneLine_between (by decide) (by decide)).2 htype
  unfold AllSingle preamble at *
  simp only [List.forall_mem_append, List.forall_mem_cons, List.not_mem_nil, false_implies,
    implies_true, and_true, code_line, code_blank, oneLine_nil, true_and, hself, hpackage, hrender]
  exact ⟨fun h => h.1.1.1, fun h => ⟨⟨⟨h, himports⟩, htypes⟩, hroute⟩⟩

/-- A parameter is handed on by one line. -/
theorem allSingle_paramLines {params : List ParamDirective}
    (h : ∀ p ∈ params, p.name.OneLine ∧ p.type.OneLine) : AllSingle (paramLines params) := by
  intro l hl
  obtain ⟨p, hp, hl⟩ := List.mem_flatMap.1 hl
  have hname := (h p hp).1
  obtain rfl | hl := List.mem_cons.1 hl
  · exact oneLine_append.2 ⟨oneLine_append.2 ⟨hname, by decide⟩, hname⟩
  · rw [List.mem_singleton.1 hl]
    exact oneLine_append.2 ⟨by decide, hname⟩

/-- **Nothing behind the body is copied in more than single lines**: the declarations are
copied line by line. -/
theorem allSingle_postamble {d : Document} (hd : d.WellFormed) : AllSingle (postamble d) := by
  refine List.forall_mem_cons.2 ⟨by decide, fun l hl => ?_⟩
  obtain ⟨block, hblock, hl⟩ := List.mem_flatMap.1 hl
  obtain rfl | hl := List.mem_cons.1 hl
  · exact oneLine_nil
  · obtain ⟨⟨s, i⟩, hs, rfl⟩ := List.mem_map.1 hl
    exact hd.code block hblock s (List.fst_mem_of_mem_zipIdx hs)

end Generate

/-- The fragments of the input, and the names of component types, that the full code of a
unit copies as they are. -/
def SourceUnit.copied (u : SourceUnit) (input : Bytes) (ix : UnitIndex) (resolver : Resolver) :
    List Bytes :=
  Piece.copiedAll { imports := (u.document input ix).imports, resolver }
    (Splice.expand ix u.path input (u.document input ix).body)

/-- **The full code of a unit consists of single lines** if and only if nothing it copies
holds a line feed. -/
theorem Generate.allSingle_unit_iff (u : SourceUnit) (input : Bytes) (ix : UnitIndex)
    (resolver : Resolver) (package : Bytes) :
    Line.AllSingle (Generate.unit u input .full ix resolver package).lines
      ↔ u.path.OneLine ∧ package.OneLine ∧ ∀ s ∈ u.copied input ix resolver, s.OneLine := by
  have hd := u.wellFormed_document input ix
  have hpackage : (packageOr package).OneLine ↔ package.OneLine := by
    unfold packageOr
    split
    · next h =>
      rw [List.isEmpty_iff.1 h]
      exact iff_of_true (by decide) oneLine_nil
    · exact Iff.rfl
  have hbody := Piece.oneLine_renderAll_iff { imports := (u.document input ix).imports, resolver }
    (Splice.expand ix u.path input (u.document input ix).body) { indent := 1 }
    (Splice.wellFormed_expand ix u.path input hd.body)
  have hpre := Generate.allSingle_preamble_iff u.path (packageOr package)
    (Naming.oneLine_typeName u.path) hd
  have hparams := Generate.allSingle_paramLines hd.params
  have hpost := Generate.allSingle_postamble hd
  have hlast : (Generate.line 1 0 (Writer.lastLine .full)).code.OneLine := by decide
  rw [Generate.lines_unit]
  unfold Output.OneLine Line.AllSingle SourceUnit.copied at *
  simp only [List.forall_mem_append, List.forall_mem_singleton, Writer.bodyOutput,
    Output.append_lines, hpre, hpackage, hbody]
  exact ⟨fun h => ⟨h.1.1.1.1, h.1.1.1.2, h.1.1.2.2⟩,
    fun h => ⟨⟨⟨⟨h.1, h.2.1⟩, hparams, h.2.2⟩, hlast⟩, hpost⟩⟩

/-- What a writer of a unit has counted and noted is right if and only if every line of the
unit is a single line. -/
theorem Writer.aligned_ofUnit_iff (u : SourceUnit) (input : Bytes) (mode : Mode)
    (ix : UnitIndex) (resolver : Resolver) (package : Bytes) :
    let g := Generate.unit u input mode ix resolver package
    let w := Writer.ofUnit u input mode ix resolver package
    (w.buffer.line - 1 = newlines g.code ∧ ∀ c ∈ w.buffer.calls, g.sourceMap.lookup c.1 = c.2)
      ↔ Line.AllSingle g.lines := by
  intro g w
  have hw : w.buffer = g.lines.foldl Buffer.push {} :=
    Writer.buffer_ofUnit u input mode ix resolver package
  clear_value g w
  rw [hw]
  exact Buffer.aligned_iff g.lines

/-- The source map of a unit is what its writer has noted. -/
theorem Writer.origins_ofUnit (u : SourceUnit) (input : Bytes) (mode : Mode)
    (ix : UnitIndex) (resolver : Resolver) (package : Bytes) :
    (Writer.ofUnit u input mode ix resolver package).buffer.origins
      = (Generate.unit u input mode ix resolver package).sourceMap.entries := by
  rw [Writer.buffer_ofUnit]
  generalize Generate.unit u input mode ix resolver package = g
  exact Buffer.foldl_push_origins g.lines (rfl : ({} : Buffer).line = 0 + 1)

/-- **When the source map of a unit is right.** The writer of the full code of a unit counts
its lines correctly, and its source map gives the line on which each line of code really
starts the input line it was made for, if and only if neither the path of the unit nor the
name of the package nor any fragment that is copied into the code holds a line feed. -/
theorem source_map_aligned_iff (u : SourceUnit) (input : Bytes) (ix : UnitIndex)
    (resolver : Resolver) (package : Bytes) :
    let g := Generate.unit u input .full ix resolver package
    let w := Writer.ofUnit u input .full ix resolver package
    (w.buffer.text = g.code ∧ w.buffer.origins = g.sourceMap.entries)
    ∧ ((w.buffer.line - 1 = newlines g.code
          ∧ ∀ c ∈ w.buffer.calls, g.sourceMap.lookup c.1 = c.2)
        ↔ u.path.OneLine ∧ package.OneLine ∧ ∀ s ∈ u.copied input ix resolver, s.OneLine) := by
  refine ⟨⟨Writer.text_ofUnit u input .full ix resolver package,
    Writer.origins_ofUnit u input .full ix resolver package⟩, ?_⟩
  rw [← Generate.allSingle_unit_iff]
  exact Writer.aligned_ofUnit_iff u input .full ix resolver package

/-- An expression in parentheses that spans two lines is read as one fragment. -/
theorem body_twoLineExpression :
    (Document.read "@(1 +\n2)x").1.body = [.expr "1 +\n2" 1, .text "x" 2] := by
  have hcode : Fragment.Balanced (Fragment.closerOf (ch '(')) "1 +\n2" :=
    .of_forall (ch '(') (List.all_iff_forall_prop.1 rfl)
  have hscan : Fragment.group .expression "(1 +\n2)x" = ⟨7, none⟩ :=
    Fragment.group_closed hcode .expression "x"
  have htrim : trim "1 +\n2" = "1 +\n2" :=
    trim_eq_self (a := ch '1') (b := ch '2') (by decide) (by decide) (by decide) (by decide) " +\n"
  have hfirst : (Reader.start "@(1 +\n2)x").step
      = ((Reader.start "@(1 +\n2)x").moveTo ⟨"x", 2, ch ')'⟩).addNode (.expr "1 +\n2" 1) := by
    have hstep : (Reader.start "@(1 +\n2)x").step
        = (Reader.start "@(1 +\n2)x").groupExpression 1 := rfl
    have hrest : (Reader.start "@(1 +\n2)x").cursor.rest.drop 1 = "(1 +\n2)x" := rfl
    have hinner : Fragment.enclosed "(1 +\n2)x" ⟨7, none⟩ = "1 +\n2" := by decide
    rw [hstep, Reader.groupExpression, hrest, hscan, hinner, htrim]
    rfl
  have hrun : (Reader.start "@(1 +\n2)x").run = (Reader.start "@(1 +\n2)x").step.step := by
    rw [Reader.run, dif_neg (by decide), hfirst, Reader.run, dif_neg (by decide), Reader.run]
    exact dif_pos rfl
  rw [Document.read, hrun, hfirst, Reader.leaveAll_nil rfl]
  rfl

/-- An expression that spans two lines is enough to make the count wrong. -/
theorem source_map_not_aligned :
    let u : SourceUnit := { path := "/p.tmpl", text := "@(1 +\n2)x", kind := .component }
    let g := Generate.unit u u.text .full .empty (fun _ _ => none) []
    let w := Writer.ofUnit u u.text .full .empty (fun _ _ => none) []
    ¬ (w.buffer.line - 1 = newlines g.code
        ∧ ∀ c ∈ w.buffer.calls, g.sourceMap.lookup c.1 = c.2) := by
  intro u g w haligned
  have hsingle := (Writer.aligned_ofUnit_iff u u.text .full .empty (fun _ _ => none) []).1 haligned
  obtain ⟨-, -, hcopied⟩ := (Generate.allSingle_unit_iff u u.text .empty _ []).1 hsingle
  have hexpand : Splice.expand .empty u.path u.text (u.document u.text .empty).body
      = [.expr "1 +\n2" 1, .text "x" 2] := by
    change Splice.expand .empty u.path u.text (Document.read "@(1 +\n2)x").1.body = _
    rw [body_twoLineExpression]
    rfl
  have hmem : ("1 +\n2" : Bytes) ∈ u.copied u.text .empty (fun _ _ => none) := by
    rw [SourceUnit.copied, hexpand]
    exact List.mem_cons_self ..
  exact absurd (hcopied _ hmem) (by decide)

end Stencil
