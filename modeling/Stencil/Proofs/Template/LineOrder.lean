import Stencil.Proofs.Template.WellFormed

/-!
# Document order is line order

Every part of a document remembers a line, and what is generated from it, reported about
it or mapped back to it goes by that line. The reader notes these lines at different
moments: before or after a token, at a position it returned to, at the end of the source.
This module shows that they fit together all the same. Written down in the order in which
the parts stand in the source, the lines of a markup tree never go back, and none of them
lies outside of the source (`Document.ordered_read`).

A text counts twice, with the line it starts on and the line it reaches to, so the bound
also holds for each of its lines. The end of an element counts if it was found; an element
that is left open has the line it was opened on instead.

The invariant of reading, `Reader.Ordered`, is about the lines noted so far: they ascend
up to a `mark` that the position has reached. A handler reads on and then moves the mark.
What it takes off the stack to put it together anew is `held` meanwhile.
-/

namespace Stencil

open Bytes

/-! ## Ascending lines -/

/-- **Lines that never go back**, all of them between two given ones. -/
structure Ascending (lo hi : Nat) (ls : List Nat) : Prop where
  bounds : lo ≤ hi
  within : ∀ l ∈ ls, lo ≤ l ∧ l ≤ hi
  sorted : ls.Pairwise (· ≤ ·)

namespace Ascending

variable {lo mid hi : Nat} {ls ms : List Nat}

theorem nil (h : lo ≤ hi) : Ascending lo hi [] :=
  ⟨h, fun _ hl => absurd hl List.not_mem_nil, .nil⟩

theorem singleton {l : Nat} (hlo : lo ≤ l) (hhi : l ≤ hi) : Ascending lo hi [l] :=
  ⟨Nat.le_trans hlo hhi, List.forall_mem_singleton.2 ⟨hlo, hhi⟩, List.pairwise_singleton ..⟩

/-- Lines that ascend up to some line also ascend up to a later one. -/
theorem mono (h : Ascending lo mid ls) (hhi : mid ≤ hi) : Ascending lo hi ls :=
  ⟨Nat.le_trans h.bounds hhi,
    fun l hl => ⟨(h.within l hl).1, Nat.le_trans (h.within l hl).2 hhi⟩, h.sorted⟩

/-- **Ascending lines that follow one another ascend together**, if the second ones begin where the
first may end. Every handler puts the lines of what it made behind those noted so far like this. -/
theorem append (hls : Ascending lo mid ls) (hms : Ascending mid hi ms) :
    Ascending lo hi (ls ++ ms) := by
  refine ⟨Nat.le_trans hls.bounds hms.bounds, List.forall_mem_append.2 ⟨?_, ?_⟩,
    List.pairwise_append.2 ⟨hls.sorted, hms.sorted, ?_⟩⟩
  · exact fun l hl => ⟨(hls.within l hl).1, Nat.le_trans (hls.within l hl).2 hms.bounds⟩
  · exact fun l hl => ⟨Nat.le_trans hls.bounds (hms.within l hl).1, (hms.within l hl).2⟩
  · exact fun l hl m hm => Nat.le_trans (hls.within l hl).2 (hms.within m hm).1

/-- One more line in front. -/
theorem cons {l : Nat} (hl : lo ≤ l) (h : Ascending l hi ls) : Ascending lo hi (l :: ls) :=
  (singleton hl (Nat.le_refl l)).append h

/-- The lines in front of one of them ascend up to it. -/
theorem before {l : Nat} (h : Ascending lo hi (ls ++ l :: ms)) : Ascending lo l ls := by
  obtain ⟨hls, -, hle⟩ := List.pairwise_append.1 h.sorted
  have hl := h.within l (List.mem_append_right _ List.mem_cons_self)
  refine ⟨hl.1, fun k hk => ⟨?_, hle k hk l List.mem_cons_self⟩, hls⟩
  exact (h.within k (List.mem_append_left _ hk)).1

end Ascending

/-! ## The lines of a tree -/

mutual

/-- **The lines that a node and its parts remember**, in the order of the source. -/
def Node.lines : Node → List Nat
  | .text value line => [line, line + newlines value]
  | .expr _ line | .splice _ line => [line]
  | .loop _ body line endLine => line :: (Node.linesAll body ++ [endLine])
  | .choice branches otherwise elseLine endLine =>
    Branch.linesAll branches
      ++ ((if elseLine = 0 then [] else [elseLine]) ++ Node.linesAll otherwise ++ [endLine])
  | .element _ attrs children _ line endLine =>
    line :: (attrs.map Attr.line ++ Node.linesAll children
      ++ if endLine = line then [] else [endLine])

/-- The lines of a branch. -/
def Branch.lines : Branch → List Nat
  | .mk _ body line => line :: Node.linesAll body

/-- The lines of nodes. -/
def Node.linesAll : List Node → List Nat
  | [] => []
  | n :: ns => n.lines ++ Node.linesAll ns

/-- The lines of branches. -/
def Branch.linesAll : List Branch → List Nat
  | [] => []
  | b :: bs => b.lines ++ Branch.linesAll bs

end

/-- The lines of nodes that follow one another are those of the ones and then those of the others.
-/
theorem Node.linesAll_append (ns ms : List Node) :
    Node.linesAll (ns ++ ms) = Node.linesAll ns ++ Node.linesAll ms := by
  induction ns with
  | nil => rfl
  | cons n ns ih => rw [List.cons_append, Node.linesAll, Node.linesAll, ih, List.append_assoc]

theorem Branch.linesAll_append (bs cs : List Branch) :
    Branch.linesAll (bs ++ cs) = Branch.linesAll bs ++ Branch.linesAll cs := by
  induction bs with
  | nil => rfl
  | cons b bs ih => rw [List.cons_append, Branch.linesAll, Branch.linesAll, ih, List.append_assoc]

/-- **The directives of a document stand on lines up to `n`**, and so do the lines of its
declarations. -/
structure Document.Within (n : Nat) (d : Document) : Prop where
  page : ∀ p ∈ d.page, 0 < p.line ∧ p.line ≤ n
  imports : ∀ i ∈ d.imports, 0 < i.line ∧ i.line ≤ n
  params : ∀ p ∈ d.params, 0 < p.line ∧ p.line ≤ n
  code : ∀ b ∈ d.code, 0 < b.line ∧ b.line ≤ n ∧ b.line + b.lines.length ≤ n + 1

namespace Document.Within

variable {n n' line : Nat} {d d' : Document} {rest : Bytes}

theorem mono (h : d.Within n) (hn : n ≤ n') : d.Within n' where
  page p hp := ⟨(h.page p hp).1, Nat.le_trans (h.page p hp).2 hn⟩
  imports i hi := ⟨(h.imports i hi).1, Nat.le_trans (h.imports i hi).2 hn⟩
  params p hp := ⟨(h.params p hp).1, Nat.le_trans (h.params p hp).2 hn⟩
  code b hb := ⟨(h.code b hb).1, Nat.le_trans (h.code b hb).2.1 hn,
    Nat.le_trans (h.code b hb).2.2 (Nat.succ_le_succ hn)⟩

/-- A route is noted on the line of its directive, so the lines stay within the source. -/
theorem addPage (h : d.Within n) (hline : 0 < line ∧ line ≤ n)
    (hadd : d.addPage line rest = .ok d') : d'.Within n := by
  unfold Document.addPage at hadd
  split at hadd
  · split at hadd
    · cases hadd
    · cases hadd
      refine ⟨fun p hp => ?_, h.imports, h.params, h.code⟩
      cases hp
      exact hline
  · cases hadd

/-- So is an import, -/
theorem addImport (h : d.Within n) (hline : 0 < line ∧ line ≤ n)
    (hadd : d.addImport line rest = .ok d') : d'.Within n := by
  have hmore : ∀ localName path : Bytes, Document.Within n
      { d with imports := d.imports ++ [{ localName, path, line }] } := fun localName path =>
    ⟨h.page, List.forall_mem_append.2 ⟨h.imports, List.forall_mem_singleton.2 hline⟩, h.params,
      h.code⟩
  unfold Document.addImport at hadd
  dsimp only at hadd
  split at hadd
  · split at hadd
    · split at hadd
      · cases hadd
      · cases hadd
        exact hmore _ _
    · cases hadd
  · split at hadd
    · split at hadd
      · cases hadd
      · cases hadd
        exact hmore _ _
    · cases hadd
  · cases hadd

/-- and so is a parameter. -/
theorem addParam (h : d.Within n) (hline : 0 < line ∧ line ≤ n)
    (hadd : d.addParam line rest = .ok d') : d'.Within n := by
  unfold Document.addParam at hadd
  dsimp only at hadd
  split at hadd
  · cases hadd
  · split at hadd
    · cases hadd
    · split at hadd
      · cases hadd
      · cases hadd
        exact ⟨h.page, h.imports,
          List.forall_mem_append.2 ⟨h.params, List.forall_mem_singleton.2 hline⟩, h.code⟩

end Document.Within

/-! ## Positions -/

/-- The position `d` lies behind the position `c` of the same source. -/
structure Cursor.Ahead (c d : Cursor) : Prop where
  line : c.line ≤ d.line
  total : d.line + newlines d.rest = c.line + newlines c.rest

namespace Cursor

/-- A cursor that is ahead of one that is ahead of another is ahead of that. -/
theorem Ahead.trans {c d e : Cursor} (h : c.Ahead d) (h' : d.Ahead e) : c.Ahead e :=
  ⟨Nat.le_trans h.line h'.line, h'.total.trans h.total⟩

/-- No position lies behind the last line. -/
theorem Ahead.le_total {c d : Cursor} (h : c.Ahead d) : d.line ≤ c.line + newlines c.rest :=
  h.total ▸ Nat.le_add_right ..

/-- The line behind a text. -/
theorem Ahead.line_eq {c d : Cursor} {s : Bytes} (h : c.Ahead d) (hc : c.rest = s ++ d.rest) :
    d.line = c.line + newlines s := by
  have htotal := h.total
  have hsplit : newlines (s ++ d.rest) = newlines s + newlines d.rest := List.count_append
  rw [hc, hsplit] at htotal
  omega

/-- **Reading on leads ahead**: nothing is put back in front of the cursor, and lines are only
added. -/
theorem ahead_advance (n : Nat) (c : Cursor) : c.Ahead (c.advance n) := by
  refine ⟨advance_line n c, ?_⟩
  show c.line + newlines (c.rest.take n) + newlines (c.rest.drop n) = _
  unfold newlines
  rw [Nat.add_assoc, ← List.count_append, List.take_append_drop]

theorem ahead_skipWhile (p : UInt8 → Bool) (c : Cursor) : c.Ahead (c.skipWhile p) :=
  ahead_advance ..

theorem ahead_restOfLine (c : Cursor) : c.Ahead c.restOfLine.2 := ahead_advance ..

end Cursor

/-- The position behind a closing tag. -/
theorem ahead_closeTag (c : Cursor) : c.Ahead (closeTag c).2 := by
  have hskip :=
    (c.ahead_advance (2 + ((c.rest.drop 2).takeWhile ElementName.isTagByte).length)).trans
      (Cursor.ahead_skipWhile isSpace _)
  unfold closeTag
  dsimp only
  split
  · exact hskip.trans (Cursor.ahead_advance ..)
  · exact hskip

/-- **The attributes of a tag ascend** up to the position behind it, and what is wrong
with them lies in the source. -/
theorem tagRest_ordered (tag : Bytes) (c : Cursor) :
    c.Ahead (tagRest tag c).cursor
    ∧ Ascending c.line (tagRest tag c).cursor.line ((tagRest tag c).attrs.map Attr.line)
    ∧ ∀ f ∈ (tagRest tag c).findings, c.line ≤ f.line ∧ f.line ≤ c.line + newlines c.rest := by
  have hnone : ∀ f ∈ ([] : List Finding), c.line ≤ f.line ∧ f.line ≤ c.line + newlines c.rest :=
    fun f hf => absurd hf List.not_mem_nil
  -- what was found from a later position on was found from here on
  have hlater : ∀ {c d : Cursor} {fs : List Finding}, c.Ahead d →
      (∀ f ∈ fs, d.line ≤ f.line ∧ f.line ≤ d.line + newlines d.rest) →
      ∀ f ∈ fs, c.line ≤ f.line ∧ f.line ≤ c.line + newlines c.rest := fun hd hfs f hf =>
    ⟨Nat.le_trans hd.line (hfs f hf).1, hd.total ▸ (hfs f hf).2⟩
  fun_induction tagRest tag c with
  | case1 c c₁ =>
    have h₁ := c.ahead_skipWhile isSpace
    exact ⟨h₁, .nil h₁.line, hnone⟩
  | case2 c c₁ =>
    have h₁ := (c.ahead_skipWhile isSpace).trans (Cursor.ahead_advance 1 _)
    exact ⟨h₁, .nil h₁.line, hnone⟩
  | case3 c c₁ =>
    have h₁ := (c.ahead_skipWhile isSpace).trans (Cursor.ahead_advance 2 _)
    exact ⟨h₁, .nil h₁.line, hnone⟩
  | case4 c c₁ b r _ _ _ _ _ more ih =>
    have h₁ := c.ahead_skipWhile isSpace
    have h₂ := h₁.trans (Cursor.ahead_advance 1 _)
    obtain ⟨hcursor, hattrs, hfound⟩ := ih (fun f hf => absurd hf List.not_mem_nil)
    refine ⟨h₂.trans hcursor, ?_, List.forall_mem_cons.2 ⟨⟨h₁.line, h₁.le_total⟩, hlater h₂ hfound⟩⟩
    exact ⟨Nat.le_trans h₂.line hattrs.bounds,
      fun l hl => ⟨Nat.le_trans h₂.line (hattrs.within l hl).1, (hattrs.within l hl).2⟩,
      hattrs.sorted⟩
  | case5 c c₁ b r _ _ _ name _ c₂ _ v found attr more ih =>
    have h₁ := c.ahead_skipWhile isSpace
    have h₂ := Cursor.ahead_advance (name.length + 1 + v.taken) c₁
    obtain ⟨hcursor, hattrs, hfound⟩ := ih (fun f hf => absurd hf List.not_mem_nil)
    refine ⟨(h₁.trans h₂).trans hcursor, ?_, List.forall_mem_append.2
      ⟨?_, hlater (h₁.trans h₂) hfound⟩⟩
    · rw [List.map_append]
      have hattr : Ascending c.line c₁.line (attr.map Attr.line) := by
        -- an attribute whose value was not understood is left out
        cases hv : v.value with
        | none =>
          simp only [attr, hv]
          exact .nil h₁.line
        | some value =>
          simp only [attr, hv]
          exact .singleton h₁.line (Nat.le_refl _)
      exact hattr.append ((Ascending.nil h₂.line).append hattrs)
    · intro f hf
      cases hv : v.fault with
      | none =>
        simp only [found, hv] at hf
        exact absurd hf List.not_mem_nil
      | some e =>
        simp only [found, hv] at hf
        rw [List.mem_singleton.1 hf]
        have hplace := (h₁.trans (Cursor.ahead_advance name.length _)).trans
          (Cursor.ahead_advance (1 + e.1) _)
        exact ⟨hplace.line, hplace.le_total⟩
  | case6 c c₁ b r _ _ _ name _ c₂ _ more ih =>
    have h₁ := c.ahead_skipWhile isSpace
    have h₂ := Cursor.ahead_advance name.length c₁
    obtain ⟨hcursor, hattrs, hfound⟩ := ih (fun f hf => absurd hf List.not_mem_nil)
    refine ⟨(h₁.trans h₂).trans hcursor, ?_, hlater (h₁.trans h₂) hfound⟩
    exact .cons h₁.line ((Ascending.nil h₂.line).append hattrs)

/-! ## The lines noted so far -/

/-- The lines noted by what opened a level. -/
def Opener.lines : Opener → List Nat
  | .element _ attrs line => line :: attrs.map Attr.line
  | .loop _ line => [line]
  | .branch done _ _ line => Branch.linesAll done ++ [line]
  | .otherwise done line => Branch.linesAll done ++ [line]

/-- The lines of what was read inside a construct. -/
def Content.lines (k : Content) : List Nat :=
  Node.linesAll k.nodes.reverse
    ++ if k.text.isEmpty then [] else [k.textLine, k.textLine + newlines k.text]

/-- The lines of an open construct and what was read inside it. -/
def Level.lines (l : Level) : List Nat := l.opener.lines ++ l.content.lines

/-- **The lines noted so far**, in the order of the source. -/
def Reader.lines (r : Reader) : List Nat :=
  r.base.lines ++ r.levels.reverse.flatMap Level.lines

namespace Content

variable (k : Content)

/-- Text that waits has been noted with its lines already. -/
@[simp] theorem lines_flush : k.flush.lines = k.lines := by
  unfold flush
  split
  · rfl
  · next ht =>
    have hcount : newlines k.text.reverse = newlines k.text := List.count_reverse
    unfold Content.lines
    rw [if_neg ht]
    dsimp only
    rw [List.reverse_cons, Node.linesAll_append, Node.linesAll, Node.lines, hcount]
    exact List.append_nil _

/-- A node that is added comes behind all that was noted before, also behind text that waits. -/
theorem lines_addNode (n : Node) : (k.addNode n).lines = k.lines ++ n.lines := by
  have hempty : k.flush.text.isEmpty := by
    unfold flush
    split
    · assumption
    · rfl
  rw [← k.lines_flush]
  unfold Content.addNode Content.lines
  dsimp only
  rw [if_pos hempty, List.reverse_cons, Node.linesAll_append, Node.linesAll, Node.linesAll]
  simp

/-- The body of finished content has exactly the lines that were noted. -/
theorem linesAll_body : Node.linesAll k.body = k.lines := by
  have hempty : k.flush.text.isEmpty := by
    unfold flush
    split
    · assumption
    · rfl
  rw [← k.lines_flush, Content.lines, if_pos hempty]
  exact (List.append_nil _).symm

/-- More text, read from the given line on, makes the text reach further. -/
theorem ascending_addText {lo line hi : Nat} {pre s : List _} (hs : s ≠ [])
    (h : Ascending lo line (pre ++ k.lines)) (hhi : line + newlines s ≤ hi) :
    Ascending lo hi (pre ++ (k.addText line s).lines) := by
  have hne : (s.reverse ++ k.text).isEmpty = false := by simpa using fun h => absurd h hs
  have hcount : newlines (s.reverse ++ k.text) = newlines s + newlines k.text := by
    unfold newlines
    rw [List.count_append, List.count_reverse]
  unfold Content.addText Content.lines at *
  dsimp only
  rw [hne, hcount, ← List.append_assoc]
  rw [← List.append_assoc] at h
  by_cases ht : k.text.isEmpty = true
  · rw [if_pos ht, List.append_nil] at h
    rw [if_pos ht, List.isEmpty_iff.1 ht]
    exact h.append (.cons (Nat.le_refl _) (.singleton (Nat.le_add_right ..) hhi))
  · rw [if_neg ht] at h
    have hreach := h.within (k.textLine + newlines k.text) (by simp)
    rw [if_neg ht]
    exact h.before.append (.cons (Nat.le_refl _) (.singleton (Nat.le_add_right ..) (by omega)))

end Content

/-- **The invariant of reading.** The source has `total` lines; the lines noted so far,
followed by those that are held, ascend up to the mark, and the position has reached it. -/
structure Reader.Ordered (total mark : Nat) (held : List Nat) (r : Reader) : Prop where
  total_eq : r.cursor.line + newlines r.cursor.rest = total
  mark_le : mark ≤ r.cursor.line
  lines : Ascending 1 mark (r.lines ++ held)
  document : r.document.Within r.cursor.line
  findings : ∀ f ∈ r.findings, 0 < f.line ∧ f.line ≤ total

namespace Reader

/-- What was read at the innermost level comes last of all. -/
theorem lines_mapContent (r : Reader) : ∃ (pre : List Nat) (k : Content),
    r.lines = pre ++ k.lines ∧ ∀ f, (r.mapContent f).lines = pre ++ (f k).lines := by
  unfold lines mapContent
  cases r.levels with
  | nil => exact ⟨[], r.base, by simp⟩
  | cons l outer =>
    refine ⟨r.base.lines ++ outer.reverse.flatMap Level.lines ++ l.opener.lines, l.content, ?_⟩
    simp [Level.lines, List.flatMap_append]

@[simp] theorem mapContent_document (f : Content → Content) (r : Reader) :
    (r.mapContent f).document = r.document := by
  unfold mapContent
  split <;> rfl

@[simp] theorem mapContent_findings (f : Content → Content) (r : Reader) :
    (r.mapContent f).findings = r.findings := by
  unfold mapContent
  split <;> rfl

/-- Where the reader is does not matter for what it has read. -/
theorem moveTo_mapContent (f : Content → Content) (c : Cursor) (r : Reader) :
    (r.mapContent f).moveTo c = (r.moveTo c).mapContent f := by
  obtain ⟨c', b, ls, d, fs⟩ := r
  cases ls <;> rfl

/-- The lines of the innermost construct come last of all. -/
theorem lines_cons {r : Reader} {l : Level} {outer : List Level} (hr : r.levels = l :: outer) :
    r.lines = { r with levels := outer }.lines ++ l.lines := by
  unfold lines
  rw [hr, List.reverse_cons, List.flatMap_append, List.append_assoc]
  simp

end Reader

namespace Reader.Ordered

variable {total mark mark' : Nat} {held : List Nat} {r : Reader}

/-! ## Small moves -/

theorem pos (h : r.Ordered total mark held) : 0 < mark := h.lines.bounds

/-- A line that the position has reached lies in the source. -/
theorem within (h : r.Ordered total mark held) {line : Nat} (hlo : mark ≤ line)
    (hhi : line ≤ r.cursor.line) : 0 < line ∧ line ≤ total :=
  ⟨Nat.lt_of_lt_of_le h.pos hlo, Nat.le_trans hhi (h.total_eq ▸ Nat.le_add_right ..)⟩

/-- The mark may be moved up to the line of the cursor, since what has yet to be noted is not above
it. -/
theorem raiseMark (h : r.Ordered total mark held) (hlo : mark ≤ mark')
    (hhi : mark' ≤ r.cursor.line) : r.Ordered total mark' held :=
  ⟨h.total_eq, hhi, h.lines.mono hlo, h.document, h.findings⟩

/-- A report on a line of the source keeps the order, for reports are not put in order here. -/
theorem report (h : r.Ordered total mark held) {line : Nat} (hline : 0 < line ∧ line ≤ total)
    (fault : Fault) : (r.report line fault).Ordered total mark held :=
  ⟨h.total_eq, h.mark_le, h.lines, h.document, List.forall_mem_cons.2 ⟨hline, h.findings⟩⟩

/-- **Reading on keeps the order**: the line of the cursor only goes up. -/
theorem moveTo (h : r.Ordered total mark held) {c : Cursor} (hc : r.cursor.Ahead c) :
    (r.moveTo c).Ordered total mark held :=
  ⟨hc.total.trans h.total_eq, Nat.le_trans h.mark_le hc.line, h.lines, h.document.mono hc.line,
    h.findings⟩

theorem advance (h : r.Ordered total mark held) (n : Nat) :
    (r.moveTo (r.cursor.advance n)).Ordered total mark held :=
  h.moveTo (Cursor.ahead_advance ..)

/-- A change at the innermost level that keeps the lines in order. -/
theorem mapContent (h : r.Ordered total mark held) {f : Content → Content} {held' : List Nat}
    (hf : ∀ pre k, r.lines = pre ++ k.lines → Ascending 1 mark' (pre ++ (f k).lines ++ held'))
    (hmark : mark' ≤ r.cursor.line) : (r.mapContent f).Ordered total mark' held' := by
  obtain ⟨pre, k, hlines, hmap⟩ := r.lines_mapContent
  refine ⟨?_, ?_, ?_, ?_, ?_⟩
  · rw [Reader.mapContent_cursor]
    exact h.total_eq
  · rw [Reader.mapContent_cursor]
    exact hmark
  · rw [hmap]
    exact hf pre k hlines
  · rw [Reader.mapContent_cursor, Reader.mapContent_document]
    exact h.document
  · rw [Reader.mapContent_findings]
    exact h.findings

/-- Text that waits becomes a node, and no line is noted by that. -/
theorem flush (h : r.Ordered total mark held) :
    (r.mapContent Content.flush).Ordered total mark held := by
  refine h.mapContent (fun pre k hlines => ?_) h.mark_le
  rw [Content.lines_flush, ← hlines]
  exact h.lines

/-- A node that is made of what is held and goes on from the mark. -/
theorem addNode (h : r.Ordered total mark held) {n : Node} {more : List Nat}
    (hn : n.lines = held ++ more) (hmore : Ascending mark mark' more)
    (hmark : mark' ≤ r.cursor.line) : (r.addNode n).Ordered total mark' [] := by
  refine h.mapContent (fun pre k hlines => ?_) hmark
  rw [Content.lines_addNode, ← List.append_assoc, ← hlines, hn, List.append_nil,
    ← List.append_assoc]
  exact h.lines.append hmore

/-- A node of one line that was passed since the mark. -/
theorem addLine (h : r.Ordered total mark []) {n : Node} {line : Nat} (hn : n.lines = [line])
    (hlo : mark ≤ line) (hhi : line ≤ r.cursor.line) : (r.addNode n).Ordered total line [] :=
  h.addNode hn (.singleton hlo (Nat.le_refl _)) hhi

/-- The empty text that stands for a construct that could not be read. -/
theorem addMissing (h : r.Ordered total mark []) {line : Nat} (hlo : mark ≤ line)
    (hhi : line ≤ r.cursor.line) : (r.addNode (.text [] line)).Ordered total line [] :=
  have hmore : Ascending mark line [line, line] :=
    .cons hlo (.singleton (Nat.le_refl _) (Nat.le_refl _))
  h.addNode rfl hmore hhi

/-- Text at the position, which is then passed. -/
theorem addText (h : r.Ordered total mark []) {s : Bytes} (hs : s ≠ []) {c : Cursor}
    (hc : r.cursor.Ahead c) (hline : r.cursor.line + newlines s ≤ c.line) :
    ((r.addText s).moveTo c).Ordered total c.line [] := by
  unfold Reader.addText
  rw [Reader.moveTo_mapContent]
  refine (h.moveTo hc).mapContent (fun pre k hlines => ?_) (Nat.le_refl _)
  have hbefore := h.lines.mono h.mark_le
  rw [List.append_nil, show r.lines = _ from hlines] at hbefore
  rw [List.append_nil]
  exact k.ascending_addText hs hbefore hline

/-- A construct is entered that is made of what is held and goes on from the mark. -/
theorem enter (h : r.Ordered total mark held) {opener : Opener} {more : List Nat}
    (ho : opener.lines = held ++ more) (hmore : Ascending mark mark' more)
    (hmark : mark' ≤ r.cursor.line) (inBlock foreign : Bool) :
    (r.enter opener inBlock foreign).Ordered total mark' [] := by
  have hf := h.flush
  have hlines : (r.enter opener inBlock foreign).lines
      = (r.mapContent Content.flush).lines ++ opener.lines := by
    rw [Reader.lines_cons (r := r.enter opener inBlock foreign) rfl]
    exact congrArg (_ ++ ·) (List.append_nil _)
  refine ⟨hf.total_eq, ?_, ?_, hf.document, hf.findings⟩
  · rw [Reader.enter_cursor]
    exact hmark
  · rw [hlines, ho, ← List.append_assoc, List.append_nil]
    exact hf.lines.append hmore

/-- The innermost construct is taken off the stack, and what it noted is held. -/
theorem hold (h : r.Ordered total mark []) {l : Level} {outer : List Level}
    (hr : r.levels = l :: outer) :
    Reader.Ordered total mark l.lines { r with levels := outer } := by
  refine ⟨h.total_eq, h.mark_le, ?_, h.document, h.findings⟩
  rw [← Reader.lines_cons hr, ← List.append_nil r.lines]
  exact h.lines

/-- The innermost construct becomes a node of the one around it. -/
theorem leave (h : r.Ordered total mark []) {l : Level} {outer : List Level}
    (hr : r.levels = l :: outer) {n : Node} {more : List Nat} (hn : n.lines = l.lines ++ more)
    (hmore : Ascending mark mark' more) (hmark : mark' ≤ r.cursor.line) :
    (r.leave outer n).Ordered total mark' [] :=
  (h.hold hr).addNode hn hmore hmark

/-- Code that does not end is reported where it begins, and the reader goes on behind the place
where it was given up. -/
theorem failedScan (h : r.Ordered total mark held) {line : Nat} (hlo : mark ≤ line)
    (hhi : line ≤ r.cursor.line) (skipped : Nat) (scan : Fragment.Scan) :
    (r.failedScan line skipped scan).Ordered total mark held := by
  have hskipped := r.cursor.ahead_advance skipped
  have hm := h.moveTo (hskipped.trans (Cursor.ahead_advance scan.taken _))
  have hplace : ∀ n, 0 < ((r.cursor.advance skipped).advance n).line
      ∧ ((r.cursor.advance skipped).advance n).line ≤ total := fun n =>
    (h.moveTo (hskipped.trans (Cursor.ahead_advance n _))).within
      (Nat.le_trans h.mark_le (hskipped.trans (Cursor.ahead_advance n _)).line) (Nat.le_refl _)
  unfold Reader.failedScan
  dsimp only
  split
  · exact hm
  · exact hm.report (h.within hlo hhi) _
  · exact hm.report (hplace _) _

end Reader.Ordered

/-- **All lines noted so far lie in front of the position**, in order, and nothing is
held. -/
def Reader.Settled (total : Nat) (r : Reader) : Prop := r.Ordered total r.cursor.line []

/-- When a handler is through, it may put the mark where the cursor is. -/
theorem Reader.Ordered.settled {total mark : Nat} {r : Reader} (h : r.Ordered total mark []) :
    r.Settled total :=
  h.raiseMark h.mark_le (Nat.le_refl _)

namespace Reader.Settled

variable {total : Nat} {r : Reader}

/-! ## Elements -/

/-- The lines of an open construct are lines of the source. -/
theorem level_lines (h : r.Settled total) {l : Level} {outer : List Level}
    (hr : r.levels = l :: outer) : ∀ line ∈ l.lines, 0 < line ∧ line ≤ total := by
  intro line hline
  have hmem := h.lines.within line (by rw [Reader.lines_cons hr]; simp [hline])
  exact ⟨hmem.1, Nat.le_trans hmem.2 (h.total_eq ▸ Nat.le_add_right ..)⟩

/-- A construct that is left open ends where it was opened or at the position. -/
theorem unfinished_lines (l : Level) (line : Nat) (hpos : ∀ line ∈ l.lines, 0 < line) :
    ∃ more, (unfinished l line).1.lines = l.lines ++ more ∧ (more = [] ∨ more = [line]) := by
  unfold unfinished Level.lines at *
  cases hl : l.opener with
  | element tag attrs openLine =>
    refine ⟨[], ?_, .inl rfl⟩
    simp [Node.lines, Opener.lines, Content.linesAll_body]
  | loop clause openLine =>
    refine ⟨[line], ?_, .inr rfl⟩
    simp [Node.lines, Opener.lines, Content.linesAll_body]
  | branch done what cond openLine =>
    refine ⟨[line], ?_, .inr rfl⟩
    simp [Node.lines, Branch.lines, Branch.linesAll, Branch.linesAll_append, Node.linesAll,
      Opener.lines, Content.linesAll_body]
  | otherwise done openLine =>
    have hopen : openLine ≠ 0 :=
      Nat.pos_iff_ne_zero.1 (hpos openLine (by simp [hl, Opener.lines]))
    refine ⟨[line], ?_, .inr rfl⟩
    simp [Node.lines, Opener.lines, Content.linesAll_body, hopen]

/-- It is reported at a line that was noted when it was opened. -/
theorem unfinished_finding (l : Level) (line : Nat) :
    (unfinished l line).2.line ∈ l.lines := by
  unfold unfinished Level.lines
  cases l.opener <;> simp [Opener.lines]

/-- A construct that is left open at the end becomes a node in the one around it, with the lines
that it has so far. -/
theorem leaveUnfinished (h : r.Settled total) {l : Level} {outer : List Level}
    (hr : r.levels = l :: outer) : (r.leaveUnfinished l outer).Settled total := by
  have hl := h.level_lines hr
  obtain ⟨more, hn, hmore⟩ := unfinished_lines l r.cursor.line fun k hk => (hl k hk).1
  have hfound := hl _ (unfinished_finding l r.cursor.line)
  have hend : Ascending r.cursor.line r.cursor.line more := by
    obtain rfl | rfl := hmore
    · exact .nil (Nat.le_refl _)
    · exact .singleton (Nat.le_refl _) (Nat.le_refl _)
  exact ((h.report hfound _).leave hr hn hend (Nat.le_refl _)).settled

/-- **An opening tag keeps the order.** The lines of its attributes are noted while they are read,
so they stand in order between the line of the tag and the cursor. -/
theorem openTag (h : r.Settled total) : r.openTag.Settled total := by
  unfold Reader.openTag
  dsimp only
  generalize (r.cursor.rest.drop 1).takeWhile ElementName.isTagByte = tag
  have hname := r.cursor.ahead_advance (1 + tag.length)
  obtain ⟨hend, hattrs, hfound⟩ := tagRest_ordered tag (r.cursor.advance (1 + tag.length))
  generalize tagRest tag (r.cursor.advance (1 + tag.length)) = rest at hend hattrs hfound
  have hahead := hname.trans hend
  have hline : 0 < r.cursor.line ∧ r.cursor.line ≤ total :=
    h.within (Nat.le_refl _) (Nat.le_refl _)
  have hw : Reader.Ordered total r.cursor.line []
      (if (!ElementName.isComponent tag && !r.foreign && !ElementName.isKnown tag) = true
        then r.report r.cursor.line (.unknownElement tag) else r)
      ∧ (if (!ElementName.isComponent tag && !r.foreign && !ElementName.isKnown tag) = true
        then r.report r.cursor.line (.unknownElement tag) else r).cursor = r.cursor := by
    split
    · exact ⟨h.report hline _, rfl⟩
    · exact ⟨h, rfl⟩
  generalize (if (!ElementName.isComponent tag && !r.foreign && !ElementName.isKnown tag) = true
    then r.report r.cursor.line (.unknownElement tag) else r) = w at hw
  obtain ⟨hw, hcursor⟩ := hw
  have hm : Reader.Ordered total r.cursor.line []
      { w with findings := rest.findings.reverse ++ w.findings, cursor := rest.cursor } := by
    have hmoved := hw.moveTo (c := rest.cursor) (hcursor ▸ hahead)
    refine ⟨hmoved.total_eq, hmoved.mark_le, hmoved.lines, hmoved.document, ?_⟩
    refine List.forall_mem_append.2 ⟨fun f hf => ?_, hw.findings⟩
    obtain ⟨hlo, hhi⟩ := hfound f (List.mem_reverse.1 hf)
    exact ⟨Nat.lt_of_lt_of_le hline.1 (Nat.le_trans hname.line hlo),
      Nat.le_trans hhi (Nat.le_of_eq (hname.total.trans h.total_eq))⟩
  have hlines : Ascending r.cursor.line rest.cursor.line
      (r.cursor.line :: rest.attrs.map Attr.line) :=
    .cons (Nat.le_refl _) ((Ascending.nil hname.line).append hattrs)
  have hnode : ∀ closing, (Node.element tag rest.attrs [] closing r.cursor.line r.cursor.line).lines
      = [] ++ r.cursor.line :: rest.attrs.map Attr.line := fun closing => by
    simp [Node.lines, Node.linesAll]
  split
  · exact ((hm.report hline _).addNode (hnode _) hlines (Nat.le_refl _)).settled
  · exact (hm.addNode (hnode _) hlines (Nat.le_refl _)).settled
  · split
    · exact (hm.addNode (hnode _) hlines (Nat.le_refl _)).settled
    · have hopener : (Opener.element tag rest.attrs r.cursor.line).lines
          = [] ++ r.cursor.line :: rest.attrs.map Attr.line := rfl
      exact (hm.enter hopener hlines (Nat.le_refl _) _ _).settled

/-- A closing tag without an element is reported on the line of the cursor. -/
theorem strayClose (h : r.Settled total) : r.strayClose.Settled total :=
  ((h.moveTo (ahead_closeTag r.cursor)).flush.report
    (h.within (Nat.le_refl _) (Nat.le_refl _)) _).settled

/-- **A closing tag keeps the order.** The element ends on the line of its closing tag, behind all
that it holds; elements inside it that are left open get the line they were opened on and no other.
-/
theorem closingTag (h : r.Settled total) : r.closingTag.Settled total := by
  unfold Reader.closingTag
  split
  · exact h.strayClose
  · next l outer hr =>
    split
    · next tag attrs openLine hopen =>
      have hafter := ahead_closeTag r.cursor
      dsimp only
      generalize closeTag r.cursor = close at hafter ⊢
      have hm := h.moveTo hafter
      have hnode : (Node.element tag attrs l.content.body false openLine r.cursor.line).lines
          = l.lines ++ if r.cursor.line = openLine then [] else [r.cursor.line] := by
        simp [Node.lines, Level.lines, hopen, Opener.lines, Content.linesAll_body]
      have hmore : Ascending r.cursor.line close.2.line
          (if r.cursor.line = openLine then [] else [r.cursor.line]) := by
        split
        · exact .nil hafter.line
        · exact .singleton (Nat.le_refl _) hafter.line
      split
      · exact ((hm.report (h.within (Nat.le_refl _) (Nat.le_refl _)) _).leave hr hnode hmore
          (Nat.le_refl _)).settled
      · exact (hm.leave hr hnode hmore (Nat.le_refl _)).settled
    · exact h.strayClose

end Reader.Settled

namespace Reader.Ordered

variable {total mark line : Nat} {r : Reader}

/-! ## Conditionals and loops -/

/-- A branch is entered, or its construct fails as `failed` says. -/
theorem enterBranch {done : List Branch} (h : r.Ordered total mark (Branch.linesAll done))
    (what : Construct) (hlo : mark ≤ line) (hhi : line ≤ r.cursor.line)
    {failed : Reader → Reader} (hfailed : ∀ q : Reader,
      q.Ordered total mark (Branch.linesAll done) → line ≤ q.cursor.line →
        (failed q).Settled total) :
    (r.enterBranch done what line failed).Settled total := by
  unfold Reader.enterBranch
  dsimp only
  split
  · refine hfailed _ (h.failedScan hlo hhi _ _) ?_
    rw [failedScan_cursor]
    exact Nat.le_trans hhi (Nat.le_trans (Cursor.advance_line ..) (Cursor.advance_line ..))
  · have hmoved : ∀ q : Reader, q.Ordered total mark (Branch.linesAll done) → q.cursor = r.cursor →
        ∀ (n : Nat) (cond : Bytes) (b f : Bool),
          ((q.moveTo (q.cursor.advance n)).enter (.branch done what cond line) b f).Settled total :=
      fun q hq hcursor n cond b f => ((hq.advance n).enter rfl
        (.singleton hlo (Nat.le_refl _))
        (Nat.le_trans hhi (hcursor ▸ Cursor.advance_line ..)) _ _).settled
    split
    · exact hmoved _ (h.report (h.within hlo hhi) _) rfl _ _ _ _
    · exact hmoved r h rfl _ _ _ _

/-- The branches so far are held behind the brace that closed the last of them. -/
theorem afterBranch {branches : List Branch} {endLine : Nat}
    (h : r.Ordered total endLine (Branch.linesAll branches)) :
    (r.afterBranch branches endLine).Settled total := by
  have hnode : (Node.choice branches [] 0 endLine).lines
      = Branch.linesAll branches ++ [endLine] := by simp [Node.lines, Node.linesAll]
  have hcomplete : ∀ q : Reader, q.Ordered total endLine (Branch.linesAll branches) →
      (q.addNode (.choice branches [] 0 endLine)).Settled total := fun q hq =>
    (hq.addNode hnode (.singleton (Nat.le_refl _) (Nat.le_refl _)) hq.mark_le).settled
  have helse := Cursor.ahead_skipWhile isSpace r.cursor
  have hskip := (helse.trans (Cursor.ahead_advance 4 _)).trans (Cursor.ahead_skipWhile isSpace _)
  -- the line of the else branch was passed after the brace and before its body
  have hlo := Nat.le_trans h.mark_le helse.line
  have hhi := Nat.le_trans (Cursor.advance_line 4 (r.cursor.skipWhile isSpace))
    (Cursor.skipWhile_line isSpace _)
  unfold Reader.afterBranch
  dsimp only
  split
  · exact hcomplete _ h
  · split
    · exact (h.moveTo (hskip.trans (Cursor.ahead_advance 2 _))).enterBranch _ hlo
        (Nat.le_trans hhi (Cursor.advance_line ..)) fun q hq _ => hcomplete q hq
    · split
      · exact ((h.moveTo (hskip.trans (Cursor.ahead_advance 1 _))).enter rfl
          (.singleton hlo (Nat.le_refl _)) (Nat.le_trans hhi (Cursor.advance_line ..)) _ _).settled
      · exact hcomplete _ ((h.moveTo hskip).report ((h.moveTo hskip).within hlo hhi) _)

/-! ## What an at sign starts -/

/-- A loop is opened on the line of its keyword, which may lie above the cursor by now. -/
theorem openLoop (h : r.Ordered total mark []) (hlo : mark ≤ line) (hhi : line ≤ r.cursor.line) :
    (r.openLoop line).Settled total := by
  unfold Reader.openLoop
  dsimp only
  split
  · refine ((h.failedScan hlo hhi _ _).addMissing hlo ?_).settled
    rw [failedScan_cursor]
    exact Nat.le_trans hhi (Nat.le_trans (Cursor.advance_line ..) (Cursor.advance_line ..))
  · have hopener : ∀ clause, (Opener.loop clause line).lines = [] ++ [line] := fun _ => rfl
    exact ((h.advance _).enter (hopener _) (.singleton hlo (Nat.le_refl _))
      (Nat.le_trans hhi (Cursor.advance_line ..)) _ _).settled

/-- An include is noted on the line of its keyword. Its path may be missing, which is reported there
too. -/
theorem splice (h : r.Ordered total mark []) (hlo : mark ≤ line) (hhi : line ≤ r.cursor.line) :
    (r.splice line).Settled total := by
  have hblank := Cursor.ahead_skipWhile isBlank r.cursor
  unfold Reader.splice
  dsimp only
  generalize quotedAt (r.cursor.skipWhile isBlank).rest = q
  obtain ⟨path, n, isOpen⟩ := q
  have hn := hblank.trans (Cursor.ahead_advance n _)
  have hhi' := Nat.le_trans hhi hn.line
  have hline := h.within hlo hhi
  have hr : ((if isOpen = true then r.report (r.cursor.skipWhile isBlank).line .unterminatedString
      else r).moveTo ((r.cursor.skipWhile isBlank).advance n)).Ordered total mark [] := by
    split
    · exact (h.report ((h.moveTo hblank).within (Nat.le_trans h.mark_le hblank.line)
        (Nat.le_refl _)) _).moveTo hn
    · exact h.moveTo hn
  cases path with
  | some path => exact (hr.addLine (n := .splice path line) rfl hlo hhi').settled
  | none => exact ((hr.report hline _).addMissing hlo hhi').settled

/-- More was declared, and nothing else happened. -/
theorem withDocument {held : List Nat} (h : r.Ordered total mark held) {d : Document}
    (hd : d.Within r.cursor.line) : Reader.Ordered total mark held { r with document := d } :=
  ⟨h.total_eq, h.mark_le, h.lines, hd, h.findings⟩

/-- What stands between the brackets has no more lines than the whole. -/
theorem length_lines_enclosed_le (s : Bytes) (scan : Fragment.Scan) :
    (Bytes.lines (Fragment.enclosed s scan)).length ≤ newlines (s.take scan.taken) + 1 := by
  rw [length_lines]
  refine Nat.succ_le_succ (List.Sublist.count_le _ ?_)
  unfold Fragment.enclosed
  by_cases h : 2 ≤ scan.taken
  · rw [List.take_drop]
    exact (List.drop_sublist ..).trans (List.take_sublist_take_left (by omega))
  · rw [show scan.taken - 2 = 0 by omega]
    exact List.nil_sublist _

/-- **A code block keeps the order**: it begins on the line of its brace and has no more lines than
there are up to the cursor behind it. Without a brace, or without an end, it is only reported. -/
theorem codeBlock (h : r.Ordered total mark []) (hlo : mark ≤ line) (hhi : line ≤ r.cursor.line) :
    (r.codeBlock line).Settled total := by
  have hblank := Cursor.ahead_skipWhile isBlank r.cursor
  unfold Reader.codeBlock
  dsimp only
  split
  · exact ((h.moveTo (hblank.trans (Cursor.ahead_restOfLine _))).report
      (h.within hlo hhi) _).settled
  · split
    · exact ((h.moveTo hblank).failedScan (Nat.le_trans h.mark_le hblank.line) (Nat.le_refl _)
        _ _).settled
    · generalize hc : r.cursor.skipWhile isBlank = c at hblank
      generalize hg : Fragment.group .codeBlock c.rest = scan
      have hscan := Cursor.ahead_advance scan.taken c
      have hend := (Cursor.ahead_skipWhile isBlank (c.advance scan.taken)).trans
        (Cursor.ahead_advance 1 _)
      have hblock : ∀ n, (c.advance scan.taken).line ≤ n → Document.Within n
          { r.document with
            code := r.document.code
              ++ [⟨Bytes.lines (Fragment.enclosed c.rest scan), c.line⟩] } := by
        intro n hn
        have hlines := length_lines_enclosed_le c.rest scan
        have hsum : (c.advance scan.taken).line
            = c.line + newlines (c.rest.take scan.taken) := rfl
        have hpos := Nat.lt_of_lt_of_le h.pos (Nat.le_trans h.mark_le hblank.line)
        have hd := h.document.mono (Nat.le_trans (Nat.le_trans hblank.line hscan.line) hn)
        refine ⟨hd.page, hd.imports, hd.params, List.forall_mem_append.2
          ⟨hd.code, List.forall_mem_singleton.2 ⟨hpos, Nat.le_trans hscan.line hn, ?_⟩⟩⟩
        dsimp only
        omega
      split
      · exact ((h.moveTo ((hblank.trans hscan).trans hend)).withDocument
          (hblock _ hend.line)).settled
      · exact ((h.moveTo (hblank.trans hscan)).withDocument (hblock _ (Nat.le_refl _))).settled

/-- A directive notes what it declares on its own line, and is reported there if it declares
nothing. -/
theorem directive (h : r.Ordered total mark []) (word : DirectiveWord) (hlo : mark ≤ line)
    (hhi : line ≤ r.cursor.line) : (r.directive word line).Settled total := by
  have hafter := Cursor.ahead_restOfLine r.cursor
  have hm := h.moveTo hafter
  have hline := h.within hlo hhi
  have hpassed : 0 < line ∧ line ≤ r.cursor.restOfLine.2.line :=
    ⟨hline.1, Nat.le_trans hhi hafter.line⟩
  unfold Reader.directive
  cases word with
  | code => exact h.codeBlock hlo hhi
  | page =>
    dsimp only
    split
    · next d hd => exact (hm.withDocument (hm.document.addPage hpassed hd)).settled
    · exact (hm.report hline _).settled
  | import_ =>
    dsimp only
    split
    · next d hd => exact (hm.withDocument (hm.document.addImport hpassed hd)).settled
    · exact (hm.report hline _).settled
  | param =>
    dsimp only
    split
    · next d hd => exact (hm.withDocument (hm.document.addParam hpassed hd)).settled
    · exact (hm.report hline _).settled

end Reader.Ordered

namespace Reader.Settled

variable {total : Nat} {r : Reader}

/-- An expression is noted on the line of its at sign, though its code may reach further down. -/
theorem expression (h : r.Settled total) : (r.expression r.cursor.line).Settled total := by
  unfold Reader.expression
  dsimp only
  split
  · exact (h.failedScan (Nat.le_refl _) (Nat.le_refl _) _ _).settled
  · exact ((h.advance _).addLine (n := .expr _ r.cursor.line) rfl (Nat.le_refl _)
      (Cursor.advance_line ..)).settled

/-- So is one in parentheses. -/
theorem groupExpression (h : r.Settled total) :
    (r.groupExpression r.cursor.line).Settled total := by
  unfold Reader.groupExpression
  dsimp only
  split
  · exact (h.failedScan (Nat.le_refl _) (Nat.le_refl _) _ _).settled
  · exact ((h.advance _).addLine (n := .expr _ r.cursor.line) rfl (Nat.le_refl _)
      (Cursor.advance_line ..)).settled

/-- A comment leaves nothing in the document, and is reported on its line if it does not end. -/
theorem comment (h : r.Settled total) : (r.comment r.cursor.line).Settled total := by
  unfold Reader.comment
  split
  · exact (h.advance _).settled
  · exact ((h.advance _).report (h.within (Nat.le_refl _) (Nat.le_refl _)) _).settled

/-- **Whatever word stands behind an at sign, the order is kept.** There is a case for each word of
the language, and the others begin an expression. -/
theorem keyword (h : r.Settled total) (word : Bytes) :
    (r.keyword word r.cursor.line).Settled total := by
  have hm := h.advance (1 + word.length)
  have hline := r.cursor.advance_line (1 + word.length)
  have hmissing : ∀ q : Reader, q.Ordered total r.cursor.line (Branch.linesAll []) →
      r.cursor.line ≤ q.cursor.line → (q.addNode (.text [] r.cursor.line)).Settled total :=
    fun q hq hhi => (hq.addMissing (Nat.le_refl _) hhi).settled
  unfold Reader.keyword
  dsimp only
  split
  · exact hm.enterBranch _ (Nat.le_refl _) hline hmissing
  · split
    · exact hm.openLoop (Nat.le_refl _) hline
    · split
      · exact hm.splice (Nat.le_refl _) hline
      · split
        · exact (hm.report (h.within (Nat.le_refl _) (Nat.le_refl _)) _).settled
        · split
          · split
            · exact hm.directive _ (Nat.le_refl _) hline
            · exact ((hm.moveTo (Cursor.ahead_restOfLine _)).report
                (h.within (Nat.le_refl _) (Nat.le_refl _)) _).settled
          · exact h.expression

/-- An at sign that is just text. -/
theorem addAt (h : r.Settled total) {n : Nat} :
    ((r.moveTo (r.cursor.advance n)).addText [ch '@']).Settled total := by
  have hadded := ((h.advance n).settled.addText (s := [ch '@']) (List.cons_ne_nil _ _)
    ⟨Nat.le_refl _, rfl⟩ (Nat.le_refl _)).settled
  rw [Reader.addText, Reader.moveTo_mapContent] at hadded
  exact hadded

/-- An at sign begins a keyword, an expression or a comment, or is text. -/
theorem atSign (h : r.Settled total) : r.atSign.Settled total := by
  unfold Reader.atSign
  dsimp only
  split
  · exact h.addAt
  · split
    · exact h.comment
    · split
      · exact h.addAt
      · split
        · exact h.groupExpression
        · split
          · exact h.keyword _
          · exact h.addAt

/-! ## The walk -/

/-- **A closing brace keeps the order.** It ends a branch or a loop on its own line, and what may
come behind a branch is read on the spot. -/
theorem closeBrace (h : r.Settled total) : r.closeBrace.Settled total := by
  have hm := h.advance 1
  have hend := r.cursor.advance_line 1
  have hclose : Ascending r.cursor.line r.cursor.line [r.cursor.line] :=
    .singleton (Nat.le_refl _) (Nat.le_refl _)
  unfold Reader.closeBrace
  dsimp only
  split
  · exact hm.settled
  · next l outer hr =>
    split
    · exact h.leaveUnfinished hr
    · next clause openLine hopen =>
      have hnode : (Node.loop clause l.content.body openLine r.cursor.line).lines
          = l.lines ++ [r.cursor.line] := by
        simp [Node.lines, Level.lines, hopen, Opener.lines, Content.linesAll_body]
      exact (hm.leave hr hnode hclose hend).settled
    · next done openLine hopen =>
      have hpos : openLine ≠ 0 := Nat.pos_iff_ne_zero.1
        (h.level_lines hr openLine (by simp [Level.lines, hopen, Opener.lines])).1
      have hnode : (Node.choice done l.content.body openLine r.cursor.line).lines
          = l.lines ++ [r.cursor.line] := by
        simp [Node.lines, Level.lines, hopen, Opener.lines, Content.linesAll_body, hpos]
      exact (hm.leave hr hnode hclose hend).settled
    · next done what cond openLine hopen =>
      have hheld := hm.hold hr
      rw [show l.lines = Branch.linesAll (done ++ [Branch.mk cond l.content.body openLine]) by
        simp [Level.lines, hopen, Opener.lines, Content.linesAll_body, Branch.linesAll_append,
          Branch.linesAll, Branch.lines]] at hheld
      exact hheld.afterBranch

/-- A byte that is text is encoded without more line feeds than it has. -/
theorem newlines_encode_peek (c : Cursor) :
    newlines (Utf8.encode (c.peek 0).toNat) ≤ newlines (c.rest.take 1) := by
  by_cases hb : c.peek 0 = newline
  · cases hrest : c.rest with
    | nil =>
      rw [Cursor.peek, hrest] at hb
      exact absurd hb (by decide)
    | cons b s =>
      rw [Cursor.peek, hrest] at hb
      rw [Cursor.peek, hrest, show b = newline from hb]
      exact Nat.le_refl 1
  · rw [newlines_eq_zero.2 (Naming.oneLine_encode fun h => hb (UInt8.toNat_inj.1 h))]
    exact Nat.zero_le _

/-- **Every step keeps the lines in order.** -/
theorem step (h : r.Settled total) : r.step.Settled total := by
  have hne : ∀ n, Utf8.encode n ≠ [] := fun n => by
    unfold Utf8.encode
    split_ifs <;> exact List.cons_ne_nil _ _
  unfold Reader.step
  dsimp only
  split
  · exact h.closingTag
  · split
    · exact h.openTag
    · split
      · exact h.closeBrace
      · split
        · exact h.atSign
        · exact (h.addText (hne _) (Cursor.ahead_advance 1 _)
            (Nat.add_le_add_left (newlines_encode_peek _) _)).settled

/-- Hence the walk does. -/
theorem run (h : r.Settled total) : r.run.Settled total := by
  fun_induction Reader.run r with
  | case1 r hend => exact h
  | case2 r hend ih => exact ih h.step

/-- At the end of the source the constructs that are open are left one by one. -/
theorem leaveAll (h : r.Settled total) : r.leaveAll.Settled total := by
  fun_induction Reader.leaveAll r with
  | case1 r hr => exact h
  | case2 r l outer hr ih => exact ih (h.leaveUnfinished hr)

end Reader.Settled

/-- Nothing is open once all constructs are left. -/
theorem Reader.leaveAll_levels (r : Reader) : r.leaveAll.levels = [] := by
  fun_induction Reader.leaveAll r with
  | case1 r hr => exact hr
  | case2 r l outer hr ih => exact ih

/-- The invariant holds in front of a source. -/
theorem Reader.settled_start (src : Bytes) : (Reader.start src).Settled (newlines src + 1) := by
  have hnone : ∀ {α : Type} {p : α → Prop}, ∀ a ∈ ([] : List α), p a := fun a ha =>
    absurd ha List.not_mem_nil
  exact ⟨Nat.add_comm .., Nat.le_refl _, .nil (Nat.le_refl _),
    ⟨fun p hp => absurd hp (Option.not_mem_none p), hnone, hnone, hnone⟩, hnone⟩

/-- **Document order is line order.** The lines of the markup ascend, the declarations
and what is wrong lie in the source, whatever it says. -/
theorem Document.ordered_read (src : Bytes) :
    Ascending 1 (newlines src + 1) (Node.linesAll (Document.read src).1.body)
    ∧ (Document.read src).1.Within (newlines src + 1)
    ∧ ∀ f ∈ (Document.read src).2, 0 < f.line ∧ f.line ≤ newlines src + 1 := by
  have hread := (Reader.settled_start src).run.leaveAll
  have hend : (Reader.start src).run.leaveAll.cursor.line ≤ newlines src + 1 :=
    hread.total_eq ▸ Nat.le_add_right ..
  have hlines := hread.lines
  rw [List.append_nil, Reader.lines, Reader.leaveAll_levels] at hlines
  refine ⟨?_, ⟨(hread.document.mono hend).page, (hread.document.mono hend).imports,
    (hread.document.mono hend).params, (hread.document.mono hend).code⟩,
    fun f hf => hread.findings f (List.mem_reverse.1 hf)⟩
  show Ascending _ _ (Node.linesAll (Reader.start src).run.leaveAll.base.body)
  rw [Content.linesAll_body, ← List.append_nil (Content.lines _)]
  exact hlines.mono hend

end Stencil
