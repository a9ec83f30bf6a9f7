import Stencil.Proofs.Template.Parts

/-!
# Where constructs begin and end

The parts of a document that was read begin on lines that never decrease, and whatever they record
lies in the source. A loop or a conditional ends on a line that nothing inside it exceeds.

With elements the tree does not tell all. An element whose closing tag was found ends on the line of
that tag, any other where it begins; but a tag that is closed on its own line looks no different
from one that is not closed. So the walk of the reader is asked: `Document.endings` lists the
elements in the order in which they end, each with whether a closing tag ended it, and these are
exactly the elements of the document (`Document.elements_read`).

Which element ends at a position is said beside the handlers of the walk (`Reader.ending`), so each
of them is gone through once: those of tags and braces add the element that ends, and no other adds
one (`Reader.elements_step`). Where an element ends is then a matter of a single step, since
everything noted before lies in front of the position.
-/

namespace Stencil

open Bytes

/-! ## The elements read so far -/

/-- The elements inside the branches that a construct already has. -/
@[simp] def Opener.elements : Opener → List Node
  | .element .. | .loop .. => []
  | .branch done _ _ _ | .otherwise done _ => Branch.elementsAll done

/-- The elements read inside a construct. -/
def Content.elements (k : Content) : List Node := Node.elementsAll k.nodes.reverse

/-- The elements of an open construct and of what was read inside it. -/
def Level.elements (l : Level) : List Node := l.opener.elements ++ l.content.elements

/-- **The elements that have ended**, in document order. -/
def Reader.elements (r : Reader) : List Node :=
  r.base.elements ++ r.levels.reverse.flatMap Level.elements

namespace Content

variable (k : Content)

@[simp] theorem elements_flush : k.flush.elements = k.elements := by
  unfold flush
  split
  · rfl
  · unfold Content.elements
    rw [List.reverse_cons, Node.elementsAll_append, Node.elementsAll_cons]
    exact List.append_nil _

@[simp] theorem elements_addText (line : Nat) (s : Bytes) :
    (k.addText line s).elements = k.elements := rfl

theorem elements_addNode (n : Node) : (k.addNode n).elements = k.elements ++ n.elements := by
  rw [← k.elements_flush]
  unfold Content.addNode Content.elements
  rw [List.reverse_cons, Node.elementsAll_append, Node.elementsAll_cons, Node.elementsAll_nil,
    List.append_nil]

@[simp] theorem elementsAll_body : Node.elementsAll k.body = k.elements := k.elements_flush

end Content

namespace Reader

variable {r : Reader} {l : Level} {outer : List Level}

@[simp] theorem elements_report (line : Nat) (fault : Fault) (r : Reader) :
    (r.report line fault).elements = r.elements := rfl

@[simp] theorem elements_moveTo (c : Cursor) (r : Reader) :
    (r.moveTo c).elements = r.elements := rfl

/-- What is read at the innermost level comes last of all. -/
theorem elements_mapContent {f : Content → Content} (more : List Node)
    (hf : ∀ k, (f k).elements = k.elements ++ more) (r : Reader) :
    (r.mapContent f).elements = r.elements ++ more := by
  unfold mapContent Reader.elements
  cases hr : r.levels with
  | nil => simp [hf]
  | cons l outer => simp [Level.elements, hf]

theorem elements_flush (r : Reader) : (r.mapContent Content.flush).elements = r.elements := by
  rw [elements_mapContent [] (by simp), List.append_nil]

@[simp] theorem elements_addText (s : Bytes) (r : Reader) :
    (r.addText s).elements = r.elements := by
  rw [Reader.addText, elements_mapContent [] (by simp), List.append_nil]

@[simp] theorem elements_addNode (n : Node) (r : Reader) :
    (r.addNode n).elements = r.elements ++ n.elements :=
  elements_mapContent _ (fun k => k.elements_addNode n) r

@[simp] theorem elements_enter (opener : Opener) (b f : Bool) (r : Reader) :
    (r.enter opener b f).elements = r.elements ++ opener.elements := by
  rw [← r.elements_flush]
  simp [Reader.enter, Reader.elements, Level.elements, Content.elements]

@[simp] theorem elements_failedScan (line skipped : Nat) (scan : Fragment.Scan) (r : Reader) :
    (r.failedScan line skipped scan).elements = r.elements := by
  unfold failedScan
  dsimp only
  split <;> rfl

/-- The elements of the innermost construct come last of all. -/
theorem elements_cons (hr : r.levels = l :: outer) :
    r.elements = { r with levels := outer }.elements ++ l.elements := by
  unfold Reader.elements
  rw [hr, List.reverse_cons, List.flatMap_append, List.append_assoc]
  simp

end Reader

/-! ## Which elements end -/

/-- **An element that has ended**, and whether a closing tag was found for it. A closing tag of
another name ends an element as well; that it is another is reported. -/
structure Ended where
  /-- The element. -/
  element : Node
  /-- Whether a closing tag was found. -/
  closed : Bool

/-- What an open construct ends as, if it is an element: on the line of its closing tag, or, if
there is none, on its own. -/
def Level.ended (closing : Option Nat) (l : Level) : Option Ended :=
  match l.opener with
  | .element tag attrs line =>
    some ⟨.element tag attrs l.content.body false line (closing.getD line), closing.isSome⟩
  | _ => none

namespace Reader

variable {r : Reader} {l : Level} {outer : List Level}

/-- The element that begins at the position, if it ends with its tag: because that closes itself, or
never ends, or because the element is void. -/
def loneTag (r : Reader) : Option Ended :=
  let tag := (r.cursor.rest.drop 1).takeWhile ElementName.isTagByte
  let rest := tagRest tag (r.cursor.advance (1 + tag.length))
  if rest.ending = .opened ∧ ElementName.isVoid tag = false then none
  else some
    ⟨.element tag rest.attrs [] (rest.ending = .selfClosed) r.cursor.line r.cursor.line, false⟩

/-- **The element that ends at the position**, if one does. A closing tag ends the innermost
construct if that is an element. The brace of a block does as well, and stays for the next one. -/
def ending (r : Reader) : Option Ended :=
  if r.cursor.peek 0 = ch '<' ∧ r.cursor.peek 1 = slash then
    r.levels.head?.bind (Level.ended (some r.cursor.line))
  else if r.cursor.peek 0 = ch '<' ∧ isIdentStart (r.cursor.peek 1) then r.loneTag
  else if r.cursor.peek 0 = rbrace ∧ r.inBlock then r.levels.head?.bind (Level.ended none)
  else none

/-- The elements that end before the end of the source. -/
def endings (r : Reader) : List Ended :=
  if _h : r.cursor.rest = [] then [] else r.ending.toList ++ endings r.step
termination_by (r.cursor.rest.length, r.levels.length)
decreasing_by
  rcases step_decreases _h with hlt | ⟨heq, hlt⟩
  · exact Prod.Lex.left _ _ hlt
  · rw [heq]
    exact Prod.Lex.right _ hlt

/-- The elements that are still open at the end of the source. -/
def leavings (r : Reader) : List Ended :=
  match _h : r.levels with
  | [] => []
  | l :: outer => (l.ended none).toList ++ leavings (r.leaveUnfinished l outer)
termination_by r.levels.length
decreasing_by simp [_h]

/-- With nothing open, nothing is left open. -/
theorem leavings_nil (hr : r.levels = []) : r.leavings = [] := by
  rw [leavings]
  split <;> simp_all

/-- Otherwise the innermost construct is the first to be left, and then those around it. -/
theorem leavings_cons (hr : r.levels = l :: outer) :
    r.leavings = (l.ended none).toList ++ (r.leaveUnfinished l outer).leavings := by
  rw [leavings]
  split <;> simp_all

/-- The innermost construct becomes a node of the one around it. -/
theorem elements_leave (hr : r.levels = l :: outer) {n : Node} {new : List Node}
    (hn : n.elements.Perm (new ++ l.elements)) :
    (r.leave outer n).elements.Perm (r.elements ++ new) := by
  rw [Reader.leave, elements_addNode, elements_cons hr, List.append_assoc]
  exact .append_left _ (hn.trans List.perm_append_comm)

/-! ## Elements -/

/-- A construct that is left open has ended, if it is an element. -/
theorem elements_leaveUnfinished (hr : r.levels = l :: outer) :
    (r.leaveUnfinished l outer).elements.Perm
      (r.elements ++ (l.ended none).toList.map Ended.element) := by
  refine elements_leave (r := r.report _ _) hr (.of_eq ?_)
  cases hopen : l.opener with
  | element | loop | otherwise => simp [Level.ended, Level.elements, hopen]
  | branch =>
    simp [Level.ended, Level.elements, hopen, Branch.elementsAll_append, Branch.elementsAll_cons,
      Branch.body]

/-- **An opening tag ends an element** if the tag has no content: it is void, closes itself, or is
not finished when the source ends. Otherwise the element is open now and has yet to end. -/
theorem elements_openTag (r : Reader) :
    r.openTag.elements = r.elements ++ r.loneTag.toList.map Ended.element := by
  unfold Reader.openTag loneTag
  dsimp only
  generalize (r.cursor.rest.drop 1).takeWhile ElementName.isTagByte = tag
  generalize tagRest tag (r.cursor.advance (1 + tag.length)) = rest
  have hw : Reader.elements
      (if (!ElementName.isComponent tag && !r.foreign && !ElementName.isKnown tag) = true
        then r.report r.cursor.line (.unknownElement tag) else r) = r.elements := by
    split <;> rfl
  generalize (if (!ElementName.isComponent tag && !r.foreign && !ElementName.isKnown tag) = true
    then r.report r.cursor.line (.unknownElement tag) else r) = w at hw
  have hm : Reader.elements
      { w with findings := rest.findings.reverse ++ w.findings, cursor := rest.cursor }
      = r.elements := hw
  split
  · next hend => simp [hm, hend]
  · next hend => simp [hm, hend]
  · next hend =>
    split
    · next hvoid => simp [hm, hend, hvoid]
    · next hvoid => simp [hm, hend, hvoid]

/-- A closing tag that closes nothing ends no element. -/
theorem elements_strayClose (r : Reader) : r.strayClose.elements = r.elements := by
  unfold Reader.strayClose
  rw [elements_report, elements_flush, elements_moveTo]

/-- **A closing tag ends the innermost construct**, which is the element that it names or one inside
it that was left open. The elements are the same up to their order, since those inside were read
before it and stand behind it in the document. -/
theorem elements_closingTag (r : Reader) :
    r.closingTag.elements.Perm (r.elements
      ++ (r.levels.head?.bind (Level.ended (some r.cursor.line))).toList.map Ended.element) := by
  have hstray : r.strayClose.elements.Perm (r.elements ++ []) :=
    .of_eq ((elements_strayClose r).trans (List.append_nil _).symm)
  unfold Reader.closingTag
  split
  · next hr =>
    rw [hr]
    exact hstray
  · next l outer hr =>
    rw [hr]
    split
    · next tag attrs openLine hopen =>
      have hnode :
          (Node.element tag attrs l.content.body false openLine r.cursor.line).elements.Perm
          ((l.ended (some r.cursor.line)).toList.map Ended.element ++ l.elements) := by
        simp [Level.ended, Level.elements, hopen]
      dsimp only
      generalize closeTag r.cursor = close
      split
      · exact elements_leave (r := (r.moveTo close.2).report _ _) hr hnode
      · exact elements_leave (r := r.moveTo close.2) hr hnode
    · next hopen =>
      have hnone : l.ended (some r.cursor.line) = none := by
        unfold Level.ended
        split
        · next tag attrs line h => exact absurd h (hopen tag attrs line)
        · rfl
      rw [List.head?_cons, Option.bind_some, hnone]
      exact hstray

/-! ## Conditionals and loops -/

/-- A branch is entered with the elements of the branches before it, and none of its own yet. -/
theorem elements_enterBranch (done : List Branch) (what : Construct) (line : Nat)
    {failed : Reader → Reader}
    (hfailed : ∀ q : Reader, (failed q).elements = q.elements ++ Branch.elementsAll done)
    (r : Reader) :
    (r.enterBranch done what line failed).elements = r.elements ++ Branch.elementsAll done := by
  unfold Reader.enterBranch
  dsimp only
  split
  · rw [hfailed, elements_failedScan]
  · split <;> simp

/-- Behind a branch its elements and those before it become part of the document, whether or not
another one follows. -/
theorem elements_afterBranch (branches : List Branch) (endLine : Nat) (r : Reader) :
    (r.afterBranch branches endLine).elements = r.elements ++ Branch.elementsAll branches := by
  have hcomplete : ∀ q : Reader, (q.addNode (.choice branches [] 0 endLine)).elements
      = q.elements ++ Branch.elementsAll branches := by simp
  unfold Reader.afterBranch
  dsimp only
  split
  · exact hcomplete r
  · split
    · exact elements_enterBranch _ _ _ hcomplete _
    · split
      · simp
      · exact hcomplete _

/-- A brace ends an element that is open in front of it, and nothing else. -/
theorem elements_closeBrace (r : Reader) :
    r.closeBrace.elements.Perm
      (r.elements ++ (r.levels.head?.bind (Level.ended none)).toList.map Ended.element) := by
  unfold Reader.closeBrace
  dsimp only
  split
  · next hr =>
    rw [hr]
    exact .of_eq (List.append_nil _).symm
  · next l outer hr =>
    rw [hr]
    split
    · exact elements_leaveUnfinished hr
    · next clause line hopen =>
      refine elements_leave (r := r.moveTo (r.cursor.advance 1)) hr (.of_eq ?_)
      simp [Level.ended, Level.elements, hopen]
    · next done line hopen =>
      refine elements_leave (r := r.moveTo (r.cursor.advance 1)) hr (.of_eq ?_)
      simp [Level.ended, Level.elements, hopen]
    · next done what cond line hopen =>
      rw [elements_afterBranch]
      refine .of_eq ?_
      rw [elements_cons hr]
      simp [Level.ended, Level.elements, hopen, Branch.elementsAll_append, Branch.elementsAll_cons,
        Branch.body]
      rfl

/-! ## What an at sign starts -/

/-- A loop that is opened has no elements so far. -/
theorem elements_openLoop (line : Nat) (r : Reader) : (r.openLoop line).elements = r.elements := by
  unfold Reader.openLoop
  dsimp only
  split <;> simp

/-- The elements of an included unit are not those of the document that includes it. -/
theorem elements_splice (line : Nat) (r : Reader) : (r.splice line).elements = r.elements := by
  unfold Reader.splice
  dsimp only
  generalize quotedAt (r.cursor.skipWhile isBlank).rest = q
  obtain ⟨path, n, isOpen⟩ := q
  cases path <;> cases isOpen <;> simp

/-- Declarations have no elements. -/
theorem elements_codeBlock (line : Nat) (r : Reader) :
    (r.codeBlock line).elements = r.elements := by
  unfold Reader.codeBlock
  dsimp only
  split
  · rfl
  · split
    · exact elements_failedScan _ _ _ _
    · rfl

theorem elements_directive (word : DirectiveWord) (line : Nat) (r : Reader) :
    (r.directive word line).elements = r.elements := by
  unfold Reader.directive
  cases word with
  | code => exact elements_codeBlock line r
  | page | import_ | param =>
    dsimp only
    split <;> rfl

theorem elements_expression (line : Nat) (r : Reader) :
    (r.expression line).elements = r.elements := by
  unfold Reader.expression
  dsimp only
  split <;> simp

theorem elements_groupExpression (line : Nat) (r : Reader) :
    (r.groupExpression line).elements = r.elements := by
  unfold Reader.groupExpression
  dsimp only
  split <;> simp

theorem elements_comment (line : Nat) (r : Reader) : (r.comment line).elements = r.elements := by
  unfold Reader.comment
  split <;> rfl

/-- **Whatever word stands behind an at sign**, it ends no element: what it opens is a loop or a
branch. -/
theorem elements_keyword (word : Bytes) (line : Nat) (r : Reader) :
    (r.keyword word line).elements = r.elements := by
  unfold Reader.keyword
  dsimp only
  split
  · rw [elements_enterBranch [] _ _ (by simp), Branch.elementsAll_nil, List.append_nil]
    rfl
  · split
    · exact elements_openLoop _ _
    · split
      · exact elements_splice _ _
      · split
        · rfl
        · split
          · split
            · exact elements_directive _ _ _
            · rfl
          · exact elements_expression _ _

/-- And so it is with the other things that an at sign begins. -/
theorem elements_atSign (r : Reader) : r.atSign.elements = r.elements := by
  unfold Reader.atSign
  dsimp only
  split
  · exact elements_addText _ _
  · split
    · exact elements_comment _ _
    · split
      · exact elements_addText _ _
      · split
        · exact elements_groupExpression _ _
        · split
          · exact elements_keyword _ _ _
          · exact elements_addText _ _

/-! ## The walk -/

/-- **Every step adds the element that ends at its position.** -/
theorem elements_step (r : Reader) :
    r.step.elements.Perm (r.elements ++ r.ending.toList.map Ended.element) := by
  unfold Reader.step ending
  dsimp only
  split
  · exact elements_closingTag r
  · split
    · exact .of_eq (elements_openTag r)
    · split
      · exact elements_closeBrace r
      · split
        · exact .of_eq ((elements_atSign r).trans (List.append_nil _).symm)
        · exact .of_eq ((elements_addText _ r).trans (List.append_nil _).symm)

/-- Hence the walk adds those that end on its way. -/
theorem elements_run (r : Reader) :
    r.run.elements.Perm (r.elements ++ r.endings.map Ended.element) := by
  fun_induction Reader.run r with
  | case1 r hend =>
    rw [endings, dif_pos hend]
    exact .of_eq (List.append_nil _).symm
  | case2 r hend ih =>
    rw [endings, dif_neg hend, List.map_append, ← List.append_assoc]
    exact ih.trans ((elements_step r).append_right _)

/-- At the end of the source, the elements that are left open are added, from the inside out. -/
theorem elements_leaveAll (r : Reader) :
    r.leaveAll.elements.Perm (r.elements ++ r.leavings.map Ended.element) := by
  fun_induction Reader.leaveAll r with
  | case1 r hr =>
    rw [leavings_nil hr]
    exact .of_eq (List.append_nil _).symm
  | case2 r l outer hr ih =>
    rw [leavings_cons hr, List.map_append, ← List.append_assoc]
    exact ih.trans ((elements_leaveUnfinished hr).append_right _)

end Reader

/-! ## Where elements end -/

/-- **Where an element ends**: on a line that nothing inside it exceeds if a closing tag was found,
and where it begins otherwise. -/
def Ended.Fits (e : Ended) : Prop :=
  if e.closed then ∀ l ∈ e.element.lines, l ≤ e.element.endLine
  else e.element.endLine = e.element.line

/-- An element that nothing closes ends where it begins. -/
theorem Level.fits_ended_none {l : Level} {e : Ended} (he : l.ended none = some e) : e.Fits := by
  unfold Level.ended at he
  split at he
  · cases he
    rfl
  · cases he

namespace Reader

variable {r : Reader} {total : Nat} {e : Ended}

/-- What was noted inside an element lies in front of its closing tag. -/
theorem Settled.fits_ended (h : r.Settled total) {l : Level} {outer : List Level}
    (hr : r.levels = l :: outer) (he : l.ended (some r.cursor.line) = some e) : e.Fits := by
  have hbefore : ∀ k ∈ l.lines, k ≤ r.cursor.line := fun k hk =>
    (h.lines.within k (by rw [lines_cons hr]; simp [hk])).2
  unfold Level.ended at he
  split at he
  · next tag attrs line hopen =>
    cases he
    have hlines : (Node.element tag attrs l.content.body false line r.cursor.line).lines
        = l.lines ++ if r.cursor.line = line then [] else [r.cursor.line] := by
      simp [Node.lines, Level.lines, hopen, Opener.lines, Content.linesAll_body]
    change ∀ k ∈ (Node.element tag attrs l.content.body false line r.cursor.line).lines,
      k ≤ r.cursor.line
    rw [hlines]
    refine List.forall_mem_append.2 ⟨hbefore, fun k hk => ?_⟩
    split at hk
    · exact absurd hk List.not_mem_nil
    · exact (List.mem_singleton.1 hk).le
  · cases he

/-- An element without content ends where it begins, and nothing is inside it. -/
theorem fits_loneTag (he : r.loneTag = some e) : e.Fits := by
  unfold loneTag at he
  dsimp only at he
  split at he
  · cases he
  · cases he
    rfl

/-- **The element that ends at a position ends where it should.** -/
theorem Settled.fits_ending (h : r.Settled total) (he : r.ending = some e) : e.Fits := by
  unfold ending at he
  split at he
  · obtain ⟨l, hl, he⟩ := Option.bind_eq_some_iff.1 he
    obtain ⟨outer, hr⟩ := List.head?_eq_some_iff.1 hl
    exact h.fits_ended hr he
  · split at he
    · exact fits_loneTag he
    · split at he
      · obtain ⟨l, -, he⟩ := Option.bind_eq_some_iff.1 he
        exact Level.fits_ended_none he
      · cases he

/-- Hence all do that end before the end of the source. -/
theorem Settled.fits_endings (h : r.Settled total) : ∀ e ∈ r.endings, e.Fits := by
  fun_induction endings r with
  | case1 r hend => exact fun e he => absurd he List.not_mem_nil
  | case2 r hend ih =>
    refine List.forall_mem_append.2 ⟨fun e he => h.fits_ending (Option.mem_toList.1 he), ?_⟩
    exact ih h.step

/-- And so do those that are still open there. -/
theorem fits_leavings (r : Reader) : ∀ e ∈ r.leavings, e.Fits := by
  fun_induction leavings r with
  | case1 r hr => exact fun e he => absurd he List.not_mem_nil
  | case2 r l outer hr ih =>
    refine List.forall_mem_append.2 ⟨fun e he => ?_, ih⟩
    exact Level.fits_ended_none (Option.mem_toList.1 he)

end Reader

namespace Document

/-- **The elements of a source in the order in which they end**, and how. -/
def endings (src : Bytes) : List Ended :=
  (Reader.start src).endings ++ (Reader.start src).run.leavings

/-- Each of them ends where it should. -/
theorem fits_endings (src : Bytes) : ∀ e ∈ endings src, e.Fits :=
  List.forall_mem_append.2 ⟨(Reader.settled_start src).fits_endings, Reader.fits_leavings _⟩

/-- They are the elements of the document. -/
theorem elements_read (src : Bytes) :
    (Node.elementsAll (Document.read src).1.body).Perm ((endings src).map Ended.element) := by
  have hleft : (Reader.start src).run.leaveAll.elements
      = Node.elementsAll (Document.read src).1.body := by
    rw [Reader.elements, Reader.leaveAll_levels]
    exact (List.append_nil _).trans (Content.elementsAll_body _).symm
  have hrun : (Reader.start src).run.elements.Perm ((Reader.start src).endings.map Ended.element) :=
    Reader.elements_run _
  rw [← hleft, endings, List.map_append]
  exact (Reader.elements_leaveAll _).trans (hrun.append_right _)

/-- Whatever a document records is a line of the source. -/
theorem recorded_read (src : Bytes) :
    ∀ l ∈ (Document.read src).1.recorded, 1 ≤ l ∧ l ≤ newlines src + 1 := by
  obtain ⟨hbody, hwithin, -⟩ := ordered_read src
  have hparts := Node.standOn_all _ (Node.allWellFormed_iff.2 (wellFormed_read src).body)
  unfold Document.recorded
  simp only [List.forall_mem_append, List.forall_mem_flatMap, List.forall_mem_map,
    Option.mem_toList]
  refine ⟨fun p hp l hl => hbody.within l (hparts.recorded p hp l hl), ⟨⟨?_, ?_⟩, ?_⟩, ?_⟩
  · exact hwithin.page
  · exact hwithin.imports
  · exact hwithin.params
  · exact fun b hb => ⟨(hwithin.code b hb).1, (hwithin.code b hb).2.1⟩

/-- **Document order is line order**, whatever the source says.
* Every line that is recorded, in the document or for what is wrong with it, is one of the source.
  There is one for each else branch.
* In document order, nodes, attributes and branches begin on lines that never decrease.
* A block ends on a line that nothing recorded inside it exceeds.
* The elements are those that end in the course of reading. One that ends with a closing tag does so
  on a line that nothing recorded inside it exceeds, any other ends where it begins. -/
theorem lines_in_order (file src : Bytes) :
    (∀ l ∈ (Document.read src).1.recorded, 1 ≤ l ∧ l ≤ (lines src).length)
    ∧ (∀ d ∈ (Document.read src).2.map (Finding.diagnostic file),
      1 ≤ d.line ∧ d.line ≤ (lines src).length)
    ∧ (∀ n, .node n ∈ Node.partsAll (Document.read src).1.body → n.ElseKnown)
    ∧ ((Node.partsAll (Document.read src).1.body).map Node.Part.line).Pairwise (· ≤ ·)
    ∧ (∀ n, .node n ∈ Node.partsAll (Document.read src).1.body → n.isBlock = true → n.EndsLast)
    ∧ (Node.elementsAll (Document.read src).1.body).Perm ((endings src).map Ended.element)
    ∧ ∀ e ∈ endings src,
      if e.closed then e.element.EndsLast else e.element.endLine = e.element.line := by
  obtain ⟨hbody, -, hfound⟩ := ordered_read src
  have hparts := Node.standOn_all _ (Node.allWellFormed_iff.2 (wellFormed_read src).body)
  have helements := elements_read src
  rw [length_lines]
  refine ⟨recorded_read src, ?_, ?_, hparts.ordered hbody.sorted, ?_, helements, ?_⟩
  · intro d hd
    obtain ⟨f, hf, rfl⟩ := List.mem_map.1 hd
    have hline := hfound f hf
    exact ⟨Int.ofNat_le.2 hline.1, Int.ofNat_le.2 hline.2⟩
  · intro n hn
    obtain ⟨m, hm, hn⟩ := Node.mem_partsAll.1 hn
    exact (made_read (Node.makes_elseKnown src.length)).2 m hm n hn
  · intro n hn hblock p hp l hl
    obtain ⟨hsub, hrecorded⟩ := hparts.nodes n hn
    exact Node.le_endLine_of_isBlock hblock (hbody.sorted.sublist hsub) l (hrecorded p hp l hl)
  · intro e he
    have hfits := fits_endings src e he
    unfold Ended.Fits at hfits
    split at hfits
    · next hclosed =>
      have hmem := Node.mem_partsAll_of_mem_elementsAll
        (helements.mem_iff.2 (List.mem_map_of_mem he))
      rw [if_pos hclosed]
      exact fun p hp l hl => hfits l ((hparts.nodes _ hmem).2 p hp l hl)
    · next hclosed =>
      rw [if_neg hclosed]
      exact hfits

end Document

end Stencil
