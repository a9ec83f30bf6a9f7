import Stencil.Proofs.Text.OneLine
import Stencil.Template.Reader

/-!
# What every document that was read has in common

Code is generated from documents, and the generator trusts them in small ways: a
conditional has a branch, an include stands on a line, an element that nothing closes is
empty, a tag consists of tag bytes, and names of attributes, imports and parameters, types of
parameters and the lines of declarations hold no line feed. The markup tree type does not say
so, the reader makes it so.

Which properties the reader gives to nodes is asked more than once, so the walk is taken once
for all of them: `Reader.Makes` lists how nodes are made, and for expressions also where their
code comes from (`Reader.Cut`). A property that holds of nodes made like that holds of every node
that was read (`Document.made_read`), since every handler of the reader keeps it and hence every
step does. Being well-formed is one such property (`Document.wellFormed_read`).

Being well-formed says nothing of expressions, conditions, clauses and attribute values: they may
well span lines.
-/

namespace Stencil

open Bytes

/-- **An attribute has its name on one line.** -/
def Attr.WellFormed (a : Attr) : Prop := a.name.OneLine

mutual

/-- **A node as the reader makes it.** -/
def Node.WellFormed : Node → Prop
  | .text .. | .expr .. => True
  | .splice _ line => 0 < line
  | .loop _ body _ _ => Node.AllWellFormed body
  | .choice branches otherwise _ _ =>
    branches ≠ [] ∧ Branch.AllWellFormed branches ∧ Node.AllWellFormed otherwise
  | .element tag attrs children selfClosing _ _ =>
    (∀ b ∈ tag, ElementName.isTagByte b = true) ∧ (∀ a ∈ attrs, a.WellFormed)
      ∧ Node.AllWellFormed children
      ∧ ((ElementName.isVoid tag || selfClosing) = true → children = [])

/-- A branch as the reader makes it. -/
def Branch.WellFormed : Branch → Prop
  | .mk _ body _ => Node.AllWellFormed body

/-- Nodes as the reader makes them. -/
def Node.AllWellFormed : List Node → Prop
  | [] => True
  | n :: ns => n.WellFormed ∧ Node.AllWellFormed ns

/-- Branches as the reader makes them. -/
def Branch.AllWellFormed : List Branch → Prop
  | [] => True
  | b :: bs => b.WellFormed ∧ Branch.AllWellFormed bs

end

/-- Well-formed nodes are nodes each of which is well-formed; the recursion goes through the list
only to be structural. -/
theorem Node.allWellFormed_iff {ns : List Node} :
    Node.AllWellFormed ns ↔ ∀ n ∈ ns, n.WellFormed := by
  induction ns with
  | nil => exact iff_of_true trivial (fun n hn => absurd hn List.not_mem_nil)
  | cons n ns ih => rw [Node.AllWellFormed, ih, List.forall_mem_cons]

theorem Branch.allWellFormed_iff {bs : List Branch} :
    Branch.AllWellFormed bs ↔ ∀ b ∈ bs, b.WellFormed := by
  induction bs with
  | nil => exact iff_of_true trivial (fun b hb => absurd hb List.not_mem_nil)
  | cons b bs ih => rw [Branch.AllWellFormed, ih, List.forall_mem_cons]

/-- A document whose directives are as the reader makes them. -/
structure Document.Directed (d : Document) : Prop where
  imports : ∀ i ∈ d.imports, i.localName.OneLine
  params : ∀ p ∈ d.params, p.name.OneLine ∧ p.type.OneLine
  code : ∀ b ∈ d.code, ∀ l ∈ b.lines, l.OneLine

/-- **A document as the reader makes it.** -/
structure Document.WellFormed (d : Document) : Prop extends d.Directed where
  body : ∀ n ∈ d.body, n.WellFormed

/-- A tag is on one line. -/
theorem oneLine_of_isTagByte {tag : Bytes} (h : ∀ b ∈ tag, ElementName.isTagByte b = true) :
    tag.OneLine := fun hmem => absurd (h newline hmem) (by decide)

/-! ## Directives -/

namespace Document.Directed

variable {d d' : Document} {line : Nat} {rest : Bytes}

/-- A route leaves the other directives as they are. -/
theorem addPage (h : d.Directed) (hadd : d.addPage line rest = .ok d') : d'.Directed := by
  unfold Document.addPage at hadd
  split at hadd
  · split at hadd
    · cases hadd
    · cases hadd
      exact ⟨h.imports, h.params, h.code⟩
  · cases hadd

/-- **The name of an import is on one line** if the directive is: it is cut from the text of the
directive. -/
theorem addImport (h : d.Directed) (hrest : rest.OneLine)
    (hadd : d.addImport line rest = .ok d') : d'.Directed := by
  have hname : ∀ localName path : Bytes, localName.OneLine → Document.Directed
      { d with imports := d.imports ++ [{ localName, path, line }] } := fun localName path hl =>
    ⟨List.forall_mem_append.2 ⟨h.imports, List.forall_mem_singleton.2 hl⟩, h.params, h.code⟩
  unfold Document.addImport at hadd
  dsimp only at hadd
  split at hadd
  · split at hadd
    · split at hadd
      · cases hadd
      · cases hadd
        exact hname _ _ oneLine_nil
    · cases hadd
  · next localName literal hfields =>
    have hmem : localName ∈ fields rest := by rw [hfields]; exact List.mem_cons_self ..
    split at hadd
    · split at hadd
      · cases hadd
      · cases hadd
        exact hname _ _ (hrest.of_mem_fields hmem)
    · cases hadd
  · cases hadd

/-- The same goes for the name and the type of a parameter. -/
theorem addParam (h : d.Directed) (hrest : rest.OneLine)
    (hadd : d.addParam line rest = .ok d') : d'.Directed := by
  have hname : (cut (ch ' ') rest).1.OneLine := hrest.mono (List.takeWhile_subset _)
  have htype : (trim (cut (ch ' ') rest).2).OneLine :=
    (hrest.mono fun b hb => (List.dropWhile_subset _) (List.mem_of_mem_drop hb)).trim
  unfold Document.addParam at hadd
  dsimp only at hadd
  split at hadd
  · cases hadd
  · split at hadd
    · cases hadd
    · split at hadd
      · cases hadd
      · cases hadd
        exact ⟨h.imports, List.forall_mem_append.2
          ⟨h.params, List.forall_mem_singleton.2 ⟨hname, htype⟩⟩, h.code⟩

end Document.Directed

/-! ## Positions and tags -/

/-- Reading on never goes up a line. -/
theorem Cursor.advance_line (n : Nat) (c : Cursor) : c.line ≤ (c.advance n).line :=
  Nat.le_add_right ..

theorem Cursor.skipWhile_line (p : UInt8 → Bool) (c : Cursor) : c.line ≤ (c.skipWhile p).line :=
  advance_line ..

/-- The rest of a tag has well-formed attributes and goes on behind the position. -/
theorem tagRest_wellFormed (tag : Bytes) (c : Cursor) :
    (∀ a ∈ (tagRest tag c).attrs, a.WellFormed) ∧ c.line ≤ (tagRest tag c).cursor.line := by
  have hname : ∀ s : Bytes, OneLine (s.takeWhile isAttrNameByte) := oneLine_takeWhile (by decide)
  have hline : ∀ (c : Cursor) (k : Nat), c.line ≤ ((c.skipWhile isSpace).advance k).line :=
    fun c k => Nat.le_trans (c.skipWhile_line isSpace) (Cursor.advance_line ..)
  fun_induction tagRest tag c with
  | case1 c c₁ => exact ⟨fun a ha => absurd ha List.not_mem_nil, c.skipWhile_line isSpace⟩
  | case2 c c₁ | case3 c c₁ => exact ⟨fun a ha => absurd ha List.not_mem_nil, hline c _⟩
  | case4 c c₁ b r _ _ _ _ _ more ih => exact ⟨ih.1, Nat.le_trans (hline c 1) ih.2⟩
  | case5 c c₁ b r _ _ _ name _ c₂ _ v _ attr more ih =>
    refine ⟨fun a ha => ?_, Nat.le_trans (hline c _) ih.2⟩
    obtain ha | ha := List.mem_append.1 ha
    · -- an attribute whose value was not understood is left out
      cases hv : v.value with
      | none =>
        simp only [attr, hv] at ha
        exact absurd ha List.not_mem_nil
      | some value =>
        simp only [attr, hv] at ha
        rw [List.mem_singleton.1 ha]
        exact hname _
    · exact ih.1 a ha
  | case6 c c₁ b r _ _ _ name _ c₂ _ more ih =>
    refine ⟨List.forall_mem_cons.2 ⟨hname _, ih.1⟩, Nat.le_trans (hline c _) ih.2⟩

/-- Nor does reading a closing tag. -/
theorem closeTag_line (c : Cursor) : c.line ≤ (closeTag c).2.line := by
  have hskip := Nat.le_trans
    (c.advance_line (2 + ((c.rest.drop 2).takeWhile ElementName.isTagByte).length))
    (Cursor.skipWhile_line isSpace _)
  unfold closeTag
  dsimp only
  split
  · exact Nat.le_trans hskip (Cursor.advance_line ..)
  · exact hskip

/-! ## What the reader makes -/

/-- **Code that is cut out of a source as an expression**: a chain as it is, or what stands in
parentheses without the white space around it. -/
inductive Reader.Cut : Bytes → Prop where
  /-- A name with its selectors, calls and indices. -/
  | chain {s : Bytes} (h : (Fragment.chain s).fault = none) :
      Cut (s.take (Fragment.chain s).taken)
  /-- What stands in parentheses. -/
  | group {s : Bytes} (h : (Fragment.group .expression (ch '(' :: s)).fault = none) :
      Cut (trim (Fragment.enclosed (ch '(' :: s) (Fragment.group .expression (ch '(' :: s))))

/-- **A property that the reader gives to the nodes and branches it makes** of a source of at
most `size` bytes, whatever else they are: it makes them as it does here, inner ones first. -/
structure Reader.Makes (size : Nat) (P : Node → Prop) (Q : Branch → Prop) : Prop where
  text : ∀ {value line}, P (.text value line)
  expr : ∀ {code line}, Reader.Cut code → P (.expr code line)
  splice : ∀ {s path line}, s.length ≤ size → (quotedAt s).1 = some path → 0 < line →
    P (.splice path line)
  loop : ∀ {clause body line endLine}, (∀ n ∈ body, P n) → P (.loop clause body line endLine)
  branch : ∀ {cond body line}, (∀ n ∈ body, P n) → Q (.mk cond body line)
  choice : ∀ {branches otherwise elseLine endLine}, branches ≠ [] →
    (elseLine = 0 → otherwise = []) → (∀ b ∈ branches, Q b) → (∀ n ∈ otherwise, P n) →
    P (.choice branches otherwise elseLine endLine)
  element : ∀ {tag attrs children selfClosing line endLine},
    (∀ b ∈ tag, ElementName.isTagByte b = true) → (∀ a ∈ attrs, a.WellFormed) →
    (∀ n ∈ children, P n) → ((ElementName.isVoid tag || selfClosing) = true → children = []) →
    P (.element tag attrs children selfClosing line endLine)

/-! ## The invariant -/

section Made

variable {size : Nat} {P : Node → Prop} {Q : Branch → Prop}

/-- What opened a level is as the reader makes it. -/
def Opener.Made (Q : Branch → Prop) : Opener → Prop
  | .element tag attrs _ =>
    (∀ b ∈ tag, ElementName.isTagByte b = true) ∧ (∀ a ∈ attrs, a.WellFormed)
      ∧ ElementName.isVoid tag = false
  | .loop .. => True
  | .branch done .. => ∀ b ∈ done, Q b
  | .otherwise done line => 0 < line ∧ done ≠ [] ∧ ∀ b ∈ done, Q b

/-- What was read so far is as the reader makes it. -/
def Content.Made (P : Node → Prop) (k : Content) : Prop := ∀ n ∈ k.nodes, P n

/-- An open construct is as the reader makes it. -/
structure Level.Made (P : Node → Prop) (Q : Branch → Prop) (l : Level) : Prop where
  opener : l.opener.Made Q
  content : l.content.Made P

/-- **The invariant of reading.** -/
structure Reader.Made (P : Node → Prop) (Q : Branch → Prop) (r : Reader) : Prop where
  line : 0 < r.cursor.line
  base : r.base.Made P
  levels : ∀ l ∈ r.levels, l.Made P Q
  document : r.document.Directed

namespace Content.Made

variable {k : Content}

/-- Text that waits becomes a text node, which is one of the nodes that the reader makes. -/
theorem flush (hP : Reader.Makes size P Q) (h : k.Made P) : k.flush.Made P := by
  unfold Content.flush
  split
  · exact h
  · exact List.forall_mem_cons.2 ⟨hP.text, h⟩

/-- A node that was made can be added to content that was. -/
theorem addNode (hP : Reader.Makes size P Q) (h : k.Made P) {n : Node} (hn : P n) :
    (k.addNode n).Made P :=
  List.forall_mem_cons.2 ⟨hn, h.flush hP⟩

/-- The body of content that was made consists of nodes that were. -/
theorem body (hP : Reader.Makes size P Q) (h : k.Made P) : ∀ n ∈ k.body, P n := by
  intro n hn
  exact h.flush hP n (List.mem_reverse.1 hn)

end Content.Made

namespace Reader.Made

variable {r : Reader}

/-! ## Small moves -/

theorem report (h : r.Made P Q) (line : Nat) (fault : Fault) : (r.report line fault).Made P Q :=
  ⟨h.line, h.base, h.levels, h.document⟩

theorem moveTo (h : r.Made P Q) {c : Cursor} (hc : r.cursor.line ≤ c.line) :
    (r.moveTo c).Made P Q :=
  ⟨Nat.lt_of_lt_of_le h.line hc, h.base, h.levels, h.document⟩

theorem advance (h : r.Made P Q) (n : Nat) : (r.moveTo (r.cursor.advance n)).Made P Q :=
  h.moveTo (Cursor.advance_line ..)

/-- **What is done to the content of the innermost construct** keeps the invariant if it keeps that
of the content. -/
theorem mapContent (h : r.Made P Q) {f : Content → Content}
    (hf : ∀ k : Content, k.Made P → (f k).Made P) : (r.mapContent f).Made P Q := by
  have hlevels := h.levels
  unfold Reader.mapContent
  split
  · exact ⟨h.line, hf _ h.base, hlevels, h.document⟩
  · next l ls hr =>
    rw [hr] at hlevels
    obtain ⟨hl, hls⟩ := List.forall_mem_cons.1 hlevels
    exact ⟨h.line, h.base, List.forall_mem_cons.2 ⟨⟨hl.opener, hf _ hl.content⟩, hls⟩,
      h.document⟩

theorem addText (h : r.Made P Q) (s : Bytes) : (r.addText s).Made P Q :=
  h.mapContent fun _ hk => hk

/-- Code that does not end makes no node, only a report. -/
theorem failedScan (h : r.Made P Q) (line skipped : Nat) (scan : Fragment.Scan) :
    (r.failedScan line skipped scan).Made P Q := by
  have hm : (r.moveTo ((r.cursor.advance skipped).advance scan.taken)).Made P Q :=
    h.moveTo (Nat.le_trans (Cursor.advance_line ..) (Cursor.advance_line ..))
  unfold Reader.failedScan
  dsimp only
  split
  · exact hm
  · exact hm.report _ _
  · exact hm.report _ _

variable (hP : Reader.Makes size P Q)
include hP

theorem flush (h : r.Made P Q) : (r.mapContent Content.flush).Made P Q :=
  h.mapContent fun _ hk => hk.flush hP

theorem addNode (h : r.Made P Q) {n : Node} (hn : P n) : (r.addNode n).Made P Q :=
  h.mapContent fun _ hk => hk.addNode hP hn

/-- A construct can be entered with what it was opened by, and nothing inside it yet. -/
theorem enter (h : r.Made P Q) (opener : Opener) (ho : opener.Made Q)
    (inBlock foreign : Bool) : (r.enter opener inBlock foreign).Made P Q := by
  have hf := h.flush hP
  refine ⟨hf.line, hf.base, List.forall_mem_cons.2 ⟨⟨ho, ?_⟩, hf.levels⟩, hf.document⟩
  exact fun n hn => absurd hn List.not_mem_nil

/-- A construct that has become a node is left by adding that node to the one around it. -/
theorem leave (h : r.Made P Q) {outer : List Level} (ho : ∀ l ∈ outer, l.Made P Q)
    {n : Node} (hn : P n) : (r.leave outer n).Made P Q := by
  have hr : Reader.Made P Q { r with levels := outer } := ⟨h.line, h.base, ho, h.document⟩
  exact hr.addNode hP hn

/-! ## Elements -/

omit hP in
/-- **What becomes of a construct that is left open**: an element without an end, a loop or a
conditional with what is there of it. The reader makes such nodes, too. -/
theorem unfinished (hP : Reader.Makes size P Q) {l : Level} (h : l.Made P Q) (line : Nat) :
    P (unfinished l line).1 := by
  have hbody := h.content.body hP
  have ho := h.opener
  unfold Reader.unfinished
  cases hl : l.opener with
  | element tag attrs openLine =>
    rw [hl] at ho
    exact hP.element ho.1 ho.2.1 hbody fun hclosed => by rw [ho.2.2] at hclosed; cases hclosed
  | loop clause openLine => exact hP.loop hbody
  | branch done what cond openLine =>
    rw [hl] at ho
    exact hP.choice (List.append_ne_nil_of_right_ne_nil _ (List.cons_ne_nil _ _)) (fun _ => rfl)
      (List.forall_mem_append.2 ⟨ho, List.forall_mem_singleton.2 (hP.branch hbody)⟩)
      fun n hn => absurd hn List.not_mem_nil
  | otherwise done openLine =>
    rw [hl] at ho
    exact hP.choice ho.2.1 (fun hline => absurd hline ho.1.ne') ho.2.2 hbody

theorem leaveUnfinished (h : r.Made P Q) {l : Level} (hl : l.Made P Q) {outer : List Level}
    (ho : ∀ l ∈ outer, l.Made P Q) : (r.leaveUnfinished l outer).Made P Q :=
  (h.report _ _).leave hP ho (Made.unfinished hP hl _)

/-- An opening tag makes an element without content, or opens one. -/
theorem openTag (h : r.Made P Q) : r.openTag.Made P Q := by
  have htag : ∀ b ∈ (r.cursor.rest.drop 1).takeWhile ElementName.isTagByte,
      ElementName.isTagByte b = true := List.all_eq_true.1 List.all_takeWhile
  have hnone : ∀ n ∈ ([] : List Node), P n := fun n hn => absurd hn List.not_mem_nil
  unfold Reader.openTag
  dsimp only
  generalize (r.cursor.rest.drop 1).takeWhile ElementName.isTagByte = tag at htag
  obtain ⟨hattrs, hline⟩ := tagRest_wellFormed tag (r.cursor.advance (1 + tag.length))
  generalize tagRest tag (r.cursor.advance (1 + tag.length)) = rest at hattrs hline
  have hpos : 0 < rest.cursor.line :=
    Nat.lt_of_lt_of_le h.line (Nat.le_trans (Cursor.advance_line ..) hline)
  have hw : (if (!ElementName.isComponent tag && !r.foreign && !ElementName.isKnown tag) = true
      then r.report r.cursor.line (.unknownElement tag) else r).Made P Q := by
    split
    · exact h.report _ _
    · exact h
  generalize (if (!ElementName.isComponent tag && !r.foreign && !ElementName.isKnown tag) = true
    then r.report r.cursor.line (.unknownElement tag) else r) = w at hw
  have hr : Reader.Made P Q
      { w with findings := rest.findings.reverse ++ w.findings, cursor := rest.cursor } :=
    ⟨hpos, hw.base, hw.levels, hw.document⟩
  split
  · exact (hr.report _ _).addNode hP (hP.element htag hattrs hnone fun _ => rfl)
  · exact hr.addNode hP (hP.element htag hattrs hnone fun _ => rfl)
  · split
    · exact hr.addNode hP (hP.element htag hattrs hnone fun _ => rfl)
    · next hvoid =>
      exact hr.enter hP (.element tag rest.attrs _) ⟨htag, hattrs, by simpa using hvoid⟩ _ _

theorem strayClose (h : r.Made P Q) : r.strayClose.Made P Q :=
  ((h.moveTo (closeTag_line r.cursor)).flush hP).report _ _

/-- **A closing tag** makes an element of the innermost construct, after those inside that were left
open, or finds nothing to close. -/
theorem closingTag (h : r.Made P Q) : r.closingTag.Made P Q := by
  have hlevels := h.levels
  unfold Reader.closingTag
  split
  · exact h.strayClose hP
  · next l outer hr =>
    rw [hr] at hlevels
    obtain ⟨hl, hls⟩ := List.forall_mem_cons.1 hlevels
    have ho := hl.opener
    split
    · next tag attrs openLine hopen =>
      rw [hopen] at ho
      have hm := h.moveTo (closeTag_line r.cursor)
      have hnode : P (.element tag attrs l.content.body false openLine r.cursor.line) :=
        hP.element ho.1 ho.2.1 (hl.content.body hP)
          fun hclosed => by rw [ho.2.2] at hclosed; cases hclosed
      dsimp only
      split
      · exact (hm.report _ _).leave hP hls hnode
      · exact hm.leave hP hls hnode
    · exact h.strayClose hP

/-! ## Conditionals and loops -/

/-- A branch is entered behind those that are done. -/
theorem enterBranch (h : r.Made P Q) {done : List Branch} (hdone : ∀ b ∈ done, Q b)
    (what : Construct) (line : Nat) {failed : Reader → Reader}
    (hfailed : ∀ r : Reader, r.Made P Q → (failed r).Made P Q) :
    (r.enterBranch done what line failed).Made P Q := by
  unfold Reader.enterBranch
  dsimp only
  split
  · exact hfailed _ (h.failedScan _ _ _)
  · refine enter hP (advance ?_ _) (.branch done what _ line) hdone true _
    split
    · exact h.report _ _
    · exact h

/-- Behind a branch, another one is entered, or the conditional is made of all of them. It has at
least one. -/
theorem afterBranch (h : r.Made P Q) {branches : List Branch} (hne : branches ≠ [])
    (hbranches : ∀ b ∈ branches, Q b) (endLine : Nat) :
    (r.afterBranch branches endLine).Made P Q := by
  have hcomplete : ∀ q : Reader, q.Made P Q →
      (q.addNode (.choice branches [] 0 endLine)).Made P Q := fun q hq =>
    hq.addNode hP (hP.choice hne (fun _ => rfl) hbranches fun n hn => absurd hn List.not_mem_nil)
  have hskip : r.cursor.line ≤ (((r.cursor.skipWhile isSpace).advance 4).skipWhile isSpace).line :=
    Nat.le_trans (Cursor.skipWhile_line ..)
      (Nat.le_trans (Cursor.advance_line ..) (Cursor.skipWhile_line ..))
  have hadvance : ∀ k, r.cursor.line
      ≤ ((((r.cursor.skipWhile isSpace).advance 4).skipWhile isSpace).advance k).line := fun k =>
    Nat.le_trans hskip (Cursor.advance_line ..)
  unfold Reader.afterBranch
  dsimp only
  split
  · exact hcomplete _ h
  · split
    · exact (h.moveTo (hadvance 2)).enterBranch hP hbranches _ _ hcomplete
    · split
      · have hline := Nat.lt_of_lt_of_le h.line (r.cursor.skipWhile_line isSpace)
        exact (h.moveTo (hadvance 1)).enter hP (.otherwise branches _) ⟨hline, hne, hbranches⟩ _ _
      · exact hcomplete _ ((h.moveTo hskip).report _ _)

/-- A closing brace ends a branch, the default branch or a loop; an element that is open inside it
is left first. -/
theorem closeBrace (h : r.Made P Q) : r.closeBrace.Made P Q := by
  have hm := h.advance 1
  have hlevels := h.levels
  unfold Reader.closeBrace
  dsimp only
  split
  · exact hm
  · next l outer hr =>
    rw [hr] at hlevels
    obtain ⟨hl, hls⟩ := List.forall_mem_cons.1 hlevels
    have ho := hl.opener
    have hbody := hl.content.body hP
    split
    · exact h.leaveUnfinished hP hl hls
    · exact hm.leave hP hls (hP.loop hbody)
    · next done line hopen =>
      rw [hopen] at ho
      exact hm.leave hP hls
        (hP.choice ho.2.1 (fun hline => absurd hline ho.1.ne') ho.2.2 hbody)
    · next done what cond line hopen =>
      rw [hopen] at ho
      have hr : Reader.Made P Q { r.moveTo (r.cursor.advance 1) with levels := outer } :=
        ⟨hm.line, hm.base, hls, hm.document⟩
      have hall : ∀ b ∈ done ++ [Branch.mk cond l.content.body line], Q b :=
        List.forall_mem_append.2 ⟨ho, List.forall_mem_singleton.2 (hP.branch hbody)⟩
      exact hr.afterBranch hP (List.append_ne_nil_of_right_ne_nil _ (List.cons_ne_nil _ _)) hall _

/-! ## What an at sign starts -/

/-- A loop is opened with nothing inside it yet. -/
theorem openLoop (h : r.Made P Q) (line : Nat) : (r.openLoop line).Made P Q := by
  unfold Reader.openLoop
  dsimp only
  split
  · exact (h.failedScan _ _ _).addNode hP (n := .text [] line) hP.text
  · exact (h.advance _).enter hP (.loop _ line) trivial _ _

/-- **An include** has a path that was cut from the source, and the line it stands on. That is where
the size of the source comes in. -/
theorem splice (h : r.Made P Q) (hsize : r.cursor.rest.length ≤ size) {line : Nat}
    (hline : 0 < line) : (r.splice line).Made P Q := by
  have hrest : (r.cursor.skipWhile isBlank).rest.length ≤ size :=
    Nat.le_trans (Cursor.skipWhile_le ..) hsize
  unfold Reader.splice
  dsimp only
  cases hq : quotedAt (r.cursor.skipWhile isBlank).rest with
  | mk path more =>
    obtain ⟨n, isOpen⟩ := more
    have hr : ((if isOpen = true then r.report (r.cursor.skipWhile isBlank).line .unterminatedString
        else r).moveTo ((r.cursor.skipWhile isBlank).advance n)).Made P Q := by
      have hn := Nat.le_trans (r.cursor.skipWhile_line isBlank) (Cursor.advance_line n _)
      split
      · exact (h.report _ _).moveTo hn
      · exact h.moveTo hn
    cases path with
    | some path =>
      exact hr.addNode hP (n := .splice path line) (hP.splice hrest (by rw [hq]) hline)
    | none => exact (hr.report _ _).addNode hP (n := .text [] line) hP.text

omit hP in
/-- A code block is part of the document and not of its body; each of its lines is what lies between
two line feeds. -/
theorem codeBlock (h : r.Made P Q) (line : Nat) : (r.codeBlock line).Made P Q := by
  have hblank := r.cursor.skipWhile_line isBlank
  unfold Reader.codeBlock
  dsimp only
  split
  · exact (h.moveTo (Nat.le_trans hblank (Cursor.advance_line ..))).report _ _
  · split
    · exact (h.moveTo hblank).failedScan _ _ _
    · have hafter := Nat.le_trans hblank (Cursor.advance_line
        (Fragment.group .codeBlock (r.cursor.skipWhile isBlank).rest).taken _)
      refine ⟨Nat.lt_of_lt_of_le h.line ?_, h.base, h.levels, ?_⟩
      · show _ ≤ (if _ then _ else _ : Cursor).line
        split
        · exact Nat.le_trans hafter
            (Nat.le_trans (Cursor.skipWhile_line isBlank _) (Cursor.advance_line ..))
        · exact hafter
      · refine ⟨h.document.imports, h.document.params, ?_⟩
        refine List.forall_mem_append.2 ⟨h.document.code, List.forall_mem_singleton.2 ?_⟩
        exact fun l hl => oneLine_of_mem_lines hl

omit hP in
/-- A directive makes no node. -/
theorem directive (h : r.Made P Q) (word : DirectiveWord) (line : Nat) :
    (r.directive word line).Made P Q := by
  have hrest : (trim r.cursor.restOfLine.1).OneLine := (oneLine_takeWhile (by decide) _).trim
  have hm : (r.moveTo r.cursor.restOfLine.2).Made P Q := h.moveTo (Cursor.advance_line ..)
  unfold Reader.directive
  cases word with
  | code => exact h.codeBlock line
  | page =>
    dsimp only
    split
    · next d hd => exact ⟨hm.line, hm.base, hm.levels, h.document.addPage hd⟩
    · exact hm.report _ _
  | import_ =>
    dsimp only
    split
    · next d hd => exact ⟨hm.line, hm.base, hm.levels, h.document.addImport hrest hd⟩
    · exact hm.report _ _
  | param =>
    dsimp only
    split
    · next d hd => exact ⟨hm.line, hm.base, hm.levels, h.document.addParam hrest hd⟩
    · exact hm.report _ _

/-- An expression makes a node of the code that was cut, or nothing. -/
theorem expression (h : r.Made P Q) (line : Nat) : (r.expression line).Made P Q := by
  unfold Reader.expression
  dsimp only
  split
  · exact h.failedScan _ _ _
  · next hscan => exact (h.advance _).addNode hP (n := .expr _ line) (hP.expr (.chain hscan))

/-- So does one in parentheses, whose code is cut inside them. -/
theorem groupExpression (h : r.Made P Q) (line : Nat) (hopen : r.cursor.peek 1 = ch '(') :
    (r.groupExpression line).Made P Q := by
  have hrest : ∃ s, r.cursor.rest.drop 1 = ch '(' :: s := by
    unfold Cursor.peek at hopen
    cases hs : r.cursor.rest.drop 1 with
    | nil =>
      rw [hs] at hopen
      exact absurd hopen (by decide)
    | cons c s =>
      rw [hs] at hopen
      exact ⟨s, congrArg (· :: s) hopen⟩
  obtain ⟨s, hs⟩ := hrest
  unfold Reader.groupExpression
  dsimp only
  rw [hs]
  split
  · exact h.failedScan _ _ _
  · next hscan => exact (h.advance _).addNode hP (n := .expr _ line) (hP.expr (.group hscan))

omit hP in
theorem comment (h : r.Made P Q) (line : Nat) : (r.comment line).Made P Q := by
  unfold Reader.comment
  split
  · exact h.advance _
  · exact (h.advance _).report _ _

/-- **Whatever word stands behind an at sign**, the nodes that come of it are made like this. -/
theorem keyword (h : r.Made P Q) (hsize : r.cursor.rest.length ≤ size) (word : Bytes)
    {line : Nat} (hline : 0 < line) : (r.keyword word line).Made P Q := by
  have hm := h.advance (1 + word.length)
  unfold Reader.keyword
  dsimp only
  split
  · exact hm.enterBranch hP (fun b hb => absurd hb List.not_mem_nil) _ _
      fun q hq => hq.addNode hP (n := .text [] line) hP.text
  · split
    · exact hm.openLoop hP line
    · split
      · exact hm.splice hP (Nat.le_trans (Cursor.advance_le ..) hsize) hline
      · split
        · exact hm.report _ _
        · split
          · split
            · exact hm.directive _ _
            · exact (hm.moveTo (Cursor.advance_line ..)).report _ _
          · exact h.expression hP line

/-- And so are those that come of the at sign as such, with or without a word. -/
theorem atSign (h : r.Made P Q) (hsize : r.cursor.rest.length ≤ size) : r.atSign.Made P Q := by
  unfold Reader.atSign
  dsimp only
  split
  · exact (h.advance 2).addText _
  · split
    · exact h.comment _
    · split
      · exact (h.advance 1).addText _
      · split
        · next hopen => exact h.groupExpression hP _ hopen
        · split
          · exact h.keyword hP hsize _ h.line
          · exact (h.advance 1).addText _

/-! ## The walk -/

/-- **Every step keeps the invariant.** -/
theorem step (h : r.Made P Q) (hsize : r.cursor.rest.length ≤ size) : r.step.Made P Q := by
  unfold Reader.step
  dsimp only
  split
  · exact h.closingTag hP
  · split
    · exact h.openTag hP
    · split
      · exact h.closeBrace hP
      · split
        · exact h.atSign hP hsize
        · have ht := h.addText (Utf8.encode (r.cursor.peek 0).toNat)
          refine ht.moveTo ?_
          rw [Reader.addText_cursor]
          exact Cursor.advance_line ..

/-- Hence the walk does. -/
theorem run (h : r.Made P Q) (hsize : r.cursor.rest.length ≤ size) : r.run.Made P Q := by
  fun_induction Reader.run r with
  | case1 r hend => exact h
  | case2 r hend ih =>
    refine ih (h.step hP hsize) ?_
    rcases Reader.step_decreases hend with hless | ⟨hsame, -⟩
    · omega
    · rw [hsame]
      exact hsize

/-- The constructs that are open at the end are left one by one, inner ones first. -/
theorem leaveAll (h : r.Made P Q) : r.leaveAll.Made P Q := by
  fun_induction Reader.leaveAll r with
  | case1 r hr => exact h
  | case2 r l outer hr ih =>
    have hlevels := h.levels
    rw [hr] at hlevels
    obtain ⟨hl, ho⟩ := List.forall_mem_cons.1 hlevels
    exact ih (h.leaveUnfinished hP hl ho)

end Reader.Made

/-- **The nodes of every document that was read have what the reader gives them**, whatever the
source. -/
theorem Document.made_read {src : Bytes} (hP : Reader.Makes src.length P Q) :
    (Document.read src).1.Directed ∧ ∀ n ∈ (Document.read src).1.body, P n := by
  have hnone : ∀ {α : Type} {p : α → Prop}, ∀ a ∈ ([] : List α), p a := fun a ha =>
    absurd ha List.not_mem_nil
  have hstart : (Reader.start src).Made P Q := ⟨Nat.one_pos, hnone, hnone, ⟨hnone, hnone, hnone⟩⟩
  have hread := (hstart.run hP (Nat.le_refl _)).leaveAll hP
  exact ⟨⟨hread.document.imports, hread.document.params, hread.document.code⟩,
    hread.base.body hP⟩

end Made

/-! ## What every document has -/

/-- **The reader makes well-formed nodes.** This goes through the ways of making one, and needs no
look at the walk. -/
theorem Node.makes_wellFormed (size : Nat) :
    Reader.Makes size Node.WellFormed Branch.WellFormed where
  text := trivial
  expr _ := trivial
  splice _ _ hline := hline
  loop hbody := Node.allWellFormed_iff.2 hbody
  branch hbody := Node.allWellFormed_iff.2 hbody
  choice hne _ hbranches hotherwise :=
    ⟨hne, Branch.allWellFormed_iff.2 hbranches, Node.allWellFormed_iff.2 hotherwise⟩
  element htag hattrs hchildren hclosed :=
    ⟨htag, hattrs, Node.allWellFormed_iff.2 hchildren, hclosed⟩

/-- **Every document that was read is well-formed**, whatever the source. -/
theorem Document.wellFormed_read (src : Bytes) : (Document.read src).1.WellFormed :=
  let h := Document.made_read (Node.makes_wellFormed src.length)
  ⟨h.1, h.2⟩

end Stencil
