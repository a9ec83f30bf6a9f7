import Stencil.Proofs.Template.LineOrder

/-!
# Lines of the source

A position counts the line feeds it has passed, and is never moved but forward over bytes that
it counts; where the reader goes back it takes up an earlier position as it was. So the line of
a position is always the line of the source that it is on (`Cursor.At`), and a directive that
is declared for a line can be found there.

`Document.Written` says so of everything that a document declares: its page, imports and
parameters stand on their lines, from the at sign to the end of the line, and each line of a
declaration block is part of the source line that is counted for it, whatever strings,
comments and braces come before it in the block. What is read from any source is written in it
(`Document.written_read`).
-/

namespace Stencil

namespace Bytes

/-! ## Lines of joined texts -/

/-- A byte that ends no line belongs to the first one. -/
theorem lines_cons {b : UInt8} (hb : b ≠ newline) (s : Bytes) :
    lines (b :: s) = (lines s).modifyHead (b :: ·) := by
  unfold lines
  rw [splitOn, if_neg hb]
  cases hs : splitOn newline s with
  | nil => exact absurd (congrArg List.length hs) (by
      rw [← lines, length_lines]
      exact Nat.succ_ne_zero _)
  | cons piece rest => rfl

/-- A line feed in front of a text is an empty line in front of its lines. -/
theorem lines_newline (s : Bytes) : lines (newline :: s) = [] :: lines s := by
  unfold lines
  rw [splitOn, if_pos rfl]

/-- The lines of a text are, from some line on, those of its end, except that the first of them
has something in front. -/
theorem drop_lines (s t : Bytes) :
    ∃ a, (lines (s ++ t)).drop (newlines s) = (lines t).modifyHead (a ++ ·) := by
  induction s with
  | nil => exact ⟨[], (congrFun List.modifyHead_id _).symm⟩
  | cons b s ih =>
    obtain ⟨a, ha⟩ := ih
    by_cases hb : b = newline
    · refine ⟨a, ?_⟩
      have hcount : newlines (b :: s) = newlines s + 1 := by rw [hb]; exact List.count_cons_self
      rw [hcount, hb, List.cons_append, lines_newline, List.drop_succ_cons, ha]
    · have hcount : newlines (b :: s) = newlines s := List.count_cons_of_ne hb
      rw [hcount, List.cons_append, lines_cons hb]
      cases hs : newlines s with
      | zero =>
        rw [hs, List.drop_zero] at ha
        refine ⟨b :: a, ?_⟩
        rw [List.drop_zero, ha]
        cases lines t <;> rfl
      | succ n =>
        refine ⟨a, ?_⟩
        rw [← ha, hs]
        cases lines (s ++ t) <;> rfl

/-- The first line of a text. -/
theorem head?_lines (s : Bytes) : (lines s).head? = some (s.takeWhile (· ≠ newline)) := by
  induction s with
  | nil => rfl
  | cons b s ih =>
    by_cases hb : b = newline
    · rw [hb, lines_newline]
      rfl
    · rw [lines_cons hb, List.head?_modifyHead, ih, List.takeWhile_cons_of_pos (by simpa using hb)]
      rfl

/-- A line of a text is the beginning of a line if more text follows. -/
theorem getElem?_lines_append {s l : Bytes} {i : Nat} (h : (lines s)[i]? = some l) (t : Bytes) :
    ∃ a, (lines (s ++ t))[i]? = some (l ++ a) := by
  induction s generalizing i l with
  | nil =>
    obtain ⟨rfl, rfl⟩ : i = 0 ∧ l = [] := by
      cases i with
      | zero => exact ⟨rfl, (Option.some.inj h).symm⟩
      | succ i => exact absurd h nofun
    exact ⟨t.takeWhile (· ≠ newline), by rw [← List.head?_eq_getElem?]; exact head?_lines t⟩
  | cons b s ih =>
    by_cases hb : b = newline
    · rw [hb, lines_newline] at h
      rw [hb, List.cons_append, lines_newline]
      cases i with
      | zero => exact ⟨[], by rw [← Option.some.inj h]; rfl⟩
      | succ i => exact ih h
    · rw [lines_cons hb] at h
      rw [List.cons_append, lines_cons hb]
      rw [List.getElem?_modifyHead] at h ⊢
      split at h
      · next hi =>
        obtain ⟨k, hk, rfl⟩ := Option.map_eq_some_iff.1 h
        obtain ⟨a, ha⟩ := ih hk
        exact ⟨a, by rw [if_pos hi, ha]; rfl⟩
      · next hi =>
        obtain ⟨a, ha⟩ := ih h
        exact ⟨a, by rw [if_neg hi, ha]⟩

/-- **A line of a part of a text is part of a line** of the whole: as many lines further down
as there are line feeds in front of the part. -/
theorem getElem?_lines_inside (a : Bytes) {s l : Bytes} {i : Nat} (h : (lines s)[i]? = some l)
    (b : Bytes) : ∃ k, (lines (a ++ (s ++ b)))[newlines a + i]? = some k ∧ l <:+: k := by
  obtain ⟨behind, hbehind⟩ := getElem?_lines_append h b
  obtain ⟨front, hfront⟩ := drop_lines a (s ++ b)
  rw [← List.getElem?_drop, hfront, List.getElem?_modifyHead, hbehind]
  split
  · exact ⟨_, rfl, front, behind, List.append_assoc ..⟩
  · exact ⟨_, rfl, [], behind, rfl⟩

end Bytes

open Bytes

/-! ## Positions in a source -/

/-- **The position is one of the source**, and its line is the line it is on. -/
def Cursor.At (src : Bytes) (c : Cursor) : Prop :=
  ∃ passed, src = passed ++ c.rest ∧ c.line = 1 + newlines passed

namespace Cursor.At

variable {src : Bytes} {c : Cursor}

/-- Reading begins at the first byte, on the first line. -/
theorem ofSource (src : Bytes) : (Cursor.ofSource src).At src := ⟨[], rfl, rfl⟩

/-- **A position that moves forward is still counted right**: the lines that are added are the line
feeds that are passed. -/
theorem advance (h : c.At src) (n : Nat) : (c.advance n).At src := by
  obtain ⟨passed, hsrc, hline⟩ := h
  refine ⟨passed ++ c.rest.take n, ?_, ?_⟩
  · rw [List.append_assoc, Cursor.advance_rest, List.take_append_drop, hsrc]
  · have hcount : newlines (passed ++ c.rest.take n) = newlines passed + newlines (c.rest.take n) :=
      List.count_append
    rw [hcount, ← Nat.add_assoc, ← hline]
    rfl

theorem skipWhile (h : c.At src) (p : UInt8 → Bool) : (c.skipWhile p).At src := h.advance _

theorem restOfLine (h : c.At src) : c.restOfLine.2.At src := h.advance _

/-- A closing tag is read by moving forward, -/
theorem closeTag (h : c.At src) : (closeTag c).2.At src := by
  have hname := (h.advance (2 + ((c.rest.drop 2).takeWhile ElementName.isTagByte).length)).skipWhile
    isSpace
  unfold Stencil.closeTag
  dsimp only
  split
  · exact hname.advance _
  · exact hname

/-- and so is the rest of an opening tag, by induction on what is left of it. -/
theorem tagRest (h : c.At src) (tag : Bytes) : (tagRest tag c).cursor.At src := by
  fun_induction Stencil.tagRest tag c with
  | case1 c c₁ => exact h.skipWhile isSpace
  | case2 c c₁ => exact (h.skipWhile isSpace).advance 1
  | case3 c c₁ => exact (h.skipWhile isSpace).advance 2
  | case4 c c₁ b r _ _ _ _ _ more ih => exact ih ((h.skipWhile isSpace).advance 1)
  | case5 c c₁ b r _ _ _ name _ c₂ _ v found attr more ih =>
    exact ih ((h.skipWhile isSpace).advance _)
  | case6 c c₁ b r _ _ _ name _ c₂ _ more ih => exact ih ((h.skipWhile isSpace).advance _)

/-- The line a position is on ends as the rest of the source starts. -/
theorem getElem?_lines (h : c.At src) : 0 < c.line
    ∧ ∃ a, (lines src)[c.line - 1]? = some (a ++ c.rest.takeWhile (· ≠ newline)) := by
  obtain ⟨passed, hsrc, hline⟩ := h
  obtain ⟨a, ha⟩ := drop_lines passed c.rest
  have hindex : c.line - 1 = newlines passed + 0 := by omega
  refine ⟨by omega, a, ?_⟩
  rw [hsrc, hindex, ← List.getElem?_drop, ha, ← List.head?_eq_getElem?, List.head?_modifyHead,
    head?_lines]
  rfl

/-- A line of what comes next is part of the line that is counted for it. -/
theorem getElem?_lines_inside (h : c.At src) {s l t : Bytes} {i : Nat} (hc : c.rest = s ++ t)
    (hl : (lines s)[i]? = some l) : ∃ k, (lines src)[c.line + i - 1]? = some k ∧ l <:+: k := by
  obtain ⟨passed, hsrc, hline⟩ := h
  have hindex : c.line + i - 1 = newlines passed + i := by omega
  rw [hsrc, hindex, hc]
  exact Bytes.getElem?_lines_inside passed hl t

end Cursor.At

/-! ## Directives on their lines -/

/-- The word of a directive. -/
def DirectiveWord.name : DirectiveWord → Bytes
  | .page => "page"
  | .import_ => "import"
  | .param => "param"
  | .code => "code"

/-- A word that is understood is one of the words, and written as it is written here. -/
theorem DirectiveWord.eq_name {s : Bytes} {word : DirectiveWord}
    (h : DirectiveWord.ofName? s = some word) : s = word.name := by
  unfold DirectiveWord.ofName? at h
  split_ifs at h with hs hs hs hs
  all_goals
    cases h
    exact hs

/-- **A directive stands on a line of the source**: the line ends with an at sign, the word and
a text that is the argument but for blanks around it. -/
def DirectiveAt (src : Bytes) (line : Nat) (word argument : Bytes) : Prop :=
  0 < line ∧ ∃ before text, (lines src)[line - 1]? = some (before ++ ch '@' :: (word ++ text))
    ∧ trim text = argument

/-- What starts with an at sign and a word is such a directive. -/
theorem Cursor.At.directiveAt {src : Bytes} {c : Cursor} (h : c.At src) {word t : Bytes}
    (hword : word.OneLine) (hc : c.rest = ch '@' :: (word ++ t)) :
    DirectiveAt src c.line word (trim (c.advance (1 + word.length)).restOfLine.1) := by
  obtain ⟨hpos, before, hline⟩ := h.getElem?_lines
  have hbehind : (c.advance (1 + word.length)).rest = t := by
    rw [Cursor.advance_rest, hc, Nat.add_comm, List.drop_succ_cons, List.drop_left]
  have htext : c.rest.takeWhile (· ≠ newline)
      = ch '@' :: (word ++ t.takeWhile (· ≠ newline)) := by
    have hhead : ∀ b ∈ ch '@' :: word, (decide (b ≠ newline)) = true :=
      List.forall_mem_cons.2 ⟨by decide, fun b hb => by simpa using ne_of_mem_of_not_mem hb hword⟩
    rw [hc, ← List.cons_append, List.takeWhile_append_of_pos hhead]
    rfl
  refine ⟨hpos, before, _, by rw [hline, htext], ?_⟩
  rw [Cursor.restOfLine, hbehind]

/-- **A document is written in a source** if each of its directives stands on its line and would
declare the same by itself, and the lines of its declaration blocks are part of the lines of
the source that are counted for them. -/
structure Document.Written (src : Bytes) (d : Document) : Prop where
  page : ∀ p ∈ d.page, ∃ s, DirectiveAt src p.line "page" s
    ∧ ({} : Document).addPage p.line s = .ok { page := some p }
  imports : ∀ i ∈ d.imports, i.inherited = false ∧ ∃ s, DirectiveAt src i.line "import" s
    ∧ ({} : Document).addImport i.line s = .ok { imports := [i] }
  params : ∀ p ∈ d.params, ∃ s, DirectiveAt src p.line "param" s
    ∧ ({} : Document).addParam p.line s = .ok { params := [p] }
  code : ∀ b ∈ d.code, 0 < b.line ∧ ∀ (i : Nat) (l : Bytes), b.lines[i]? = some l →
    ∃ k, (lines src)[b.line + i - 1]? = some k ∧ l <:+: k

namespace Document.Written

variable {src s : Bytes} {line : Nat} {d d' : Document}

/-- **A route that is declared for a line is written there**, as the argument of its directive. -/
theorem addPage (h : d.Written src) (hline : DirectiveAt src line "page" s)
    (hadd : d.addPage line s = .ok d') : d'.Written src := by
  obtain ⟨p, rfl, hown, rfl⟩ : ∃ p : PageDirective, p.line = line
      ∧ ({} : Document).addPage line s = .ok { page := some p }
      ∧ d' = { d with page := some p } := by
    unfold Document.addPage at hadd ⊢
    split at hadd
    · split at hadd
      · cases hadd
      · next hne =>
        cases hadd
        exact ⟨_, rfl, if_neg hne, rfl⟩
    · cases hadd
  refine ⟨fun q hq => ?_, h.imports, h.params, h.code⟩
  cases hq
  exact ⟨s, hline, hown⟩

/-- So is an import: its name and its literal are the words of the argument. -/
theorem addImport (h : d.Written src) (hline : DirectiveAt src line "import" s)
    (hadd : d.addImport line s = .ok d') : d'.Written src := by
  obtain ⟨i, rfl, hnew, hown, rfl⟩ : ∃ i : ImportDirective, i.line = line ∧ i.inherited = false
      ∧ ({} : Document).addImport line s = .ok { imports := [i] }
      ∧ d' = { d with imports := d.imports ++ [i] } := by
    unfold Document.addImport at hadd ⊢
    dsimp only at hadd ⊢
    split at hadd
    · split at hadd
      · split at hadd
        · cases hadd
        · next hvalid =>
          cases hadd
          exact ⟨_, rfl, rfl, if_neg hvalid, rfl⟩
      · cases hadd
    · split at hadd
      · split at hadd
        · cases hadd
        · next hvalid =>
          cases hadd
          exact ⟨_, rfl, rfl, if_neg hvalid, rfl⟩
      · cases hadd
    · cases hadd
  exact ⟨h.page, List.forall_mem_append.2 ⟨h.imports, List.forall_mem_singleton.2
    ⟨hnew, s, hline, hown⟩⟩, h.params, h.code⟩

/-- So is a parameter: its name is what stands before the first blank, and its type what stands
behind. -/
theorem addParam (h : d.Written src) (hline : DirectiveAt src line "param" s)
    (hadd : d.addParam line s = .ok d') : d'.Written src := by
  obtain ⟨p, rfl, hown, rfl⟩ : ∃ p : ParamDirective, p.line = line
      ∧ ({} : Document).addParam line s = .ok { params := [p] }
      ∧ d' = { d with params := d.params ++ [p] } := by
    unfold Document.addParam at hadd ⊢
    dsimp only at hadd ⊢
    split at hadd
    · cases hadd
    · next hnamed =>
      split at hadd
      · cases hadd
      · next hfree =>
        split at hadd
        · cases hadd
        · cases hadd
          exact ⟨_, rfl, by rw [if_neg hnamed, if_neg hfree]; rfl, rfl⟩
  exact ⟨h.page, h.imports, List.forall_mem_append.2 ⟨h.params, List.forall_mem_singleton.2
    ⟨s, hline, hown⟩⟩, h.code⟩

end Document.Written

/-! ## What the reader keeps -/

/-- The reader is somewhere in the source, and what it has declared is written there. -/
structure Reader.Placed (src : Bytes) (r : Reader) : Prop where
  position : r.cursor.At src
  written : r.document.Written src

namespace Reader.Placed

variable {src : Bytes} {r : Reader} {line : Nat}

/-- What is found does not matter for what is declared. -/
theorem report (h : r.Placed src) (line : Nat) (fault : Fault) :
    (r.report line fault).Placed src :=
  ⟨h.position, h.written⟩

/-- Reading may go on at any position of the source, also at an earlier one. -/
theorem moveTo (h : r.Placed src) {c : Cursor} (hc : c.At src) : (r.moveTo c).Placed src :=
  ⟨hc, h.written⟩

theorem advance (h : r.Placed src) (n : Nat) : (r.moveTo (r.cursor.advance n)).Placed src :=
  h.moveTo (h.position.advance n)

theorem withLevels (h : r.Placed src) (ls : List Level) :
    Reader.Placed src { r with levels := ls } :=
  ⟨h.position, h.written⟩

/-- Nor does what is shown matter for it. -/
theorem mapContent (h : r.Placed src) (f : Content → Content) : (r.mapContent f).Placed src :=
  ⟨by rw [mapContent_cursor]; exact h.position, by rw [mapContent_document]; exact h.written⟩

theorem addNode (h : r.Placed src) (n : Node) : (r.addNode n).Placed src := h.mapContent _

theorem addText (h : r.Placed src) (s : Bytes) : (r.addText s).Placed src := h.mapContent _

theorem enter (h : r.Placed src) (opener : Opener) (b f : Bool) :
    (r.enter opener b f).Placed src :=
  (h.mapContent _).withLevels _

theorem leave (h : r.Placed src) (outer : List Level) (n : Node) :
    (r.leave outer n).Placed src :=
  (h.withLevels outer).addNode n

/-- **Where code does not end**, the reader takes up a position behind its beginning, which is one
of the source. -/
theorem failedScan (h : r.Placed src) (line n : Nat) (scan : Fragment.Scan) :
    (r.failedScan line n scan).Placed src := by
  have hm := h.moveTo ((h.position.advance n).advance scan.taken)
  unfold Reader.failedScan
  dsimp only
  split
  · exact hm
  · exact hm.report ..
  · exact hm.report ..

/-! ## Tags and blocks -/

theorem leaveUnfinished (h : r.Placed src) (l : Level) (outer : List Level) :
    (r.leaveUnfinished l outer).Placed src :=
  (h.report ..).leave ..

/-- A tag moves the position and declares nothing. -/
theorem openTag (h : r.Placed src) : r.openTag.Placed src := by
  unfold Reader.openTag
  dsimp only
  generalize (r.cursor.rest.drop 1).takeWhile ElementName.isTagByte = tag
  have hend := (h.position.advance (1 + tag.length)).tagRest tag
  generalize Stencil.tagRest tag (r.cursor.advance (1 + tag.length)) = rest at hend
  have hm : ∀ w : Reader, w.document = r.document → Reader.Placed src
      { w with findings := rest.findings.reverse ++ w.findings, cursor := rest.cursor } :=
    fun w hw => ⟨hend, hw ▸ h.written⟩
  have hw := hm (if (!ElementName.isComponent tag && !r.foreign && !ElementName.isKnown tag) = true
    then r.report r.cursor.line (.unknownElement tag) else r) (by split <;> rfl)
  split
  · exact (hw.report ..).addNode _
  · exact hw.addNode _
  · split
    · exact hw.addNode _
    · exact hw.enter ..

theorem strayClose (h : r.Placed src) : r.strayClose.Placed src :=
  ((h.moveTo h.position.closeTag).mapContent _).report ..

/-- No more does a closing tag, whatever it closes. -/
theorem closingTag (h : r.Placed src) : r.closingTag.Placed src := by
  have hm := h.moveTo h.position.closeTag
  unfold Reader.closingTag
  split
  · exact h.strayClose
  · split
    · dsimp only
      split
      · exact (hm.report ..).leave ..
      · exact hm.leave ..
    · exact h.strayClose

/-- A branch is entered behind its condition. -/
theorem enterBranch (h : r.Placed src) (done : List Branch) (what : Construct) (line : Nat)
    {failed : Reader → Reader} (hfailed : ∀ q : Reader, q.Placed src → (failed q).Placed src) :
    (r.enterBranch done what line failed).Placed src := by
  unfold Reader.enterBranch
  dsimp only
  split
  · exact hfailed _ (h.failedScan ..)
  · split
    · exact ((h.report ..).advance _).enter ..
    · exact (h.advance _).enter ..

/-- Behind a branch the reader looks ahead for another one, and stays where it was if there is none.
-/
theorem afterBranch (h : r.Placed src) (branches : List Branch) (endLine : Nat) :
    (r.afterBranch branches endLine).Placed src := by
  have helse := (((h.position.skipWhile isSpace).advance 4).skipWhile isSpace)
  unfold Reader.afterBranch
  dsimp only
  split
  · exact h.addNode _
  · split
    · exact (h.moveTo (helse.advance 2)).enterBranch _ _ _ fun q hq => hq.addNode _
    · split
      · exact (h.moveTo (helse.advance 1)).enter ..
      · exact ((h.moveTo helse).report ..).addNode _

theorem closeBrace (h : r.Placed src) : r.closeBrace.Placed src := by
  have hm := h.advance 1
  unfold Reader.closeBrace
  dsimp only
  split
  · exact hm
  · split
    · exact h.leaveUnfinished ..
    · exact hm.leave ..
    · exact hm.leave ..
    · exact (hm.withLevels _).afterBranch ..

/-! ## What an at sign starts -/

theorem openLoop (h : r.Placed src) (line : Nat) : (r.openLoop line).Placed src := by
  unfold Reader.openLoop
  dsimp only
  split
  · exact (h.failedScan ..).addNode _
  · exact (h.advance _).enter ..

/-- An include is no directive, since its unit is part of the markup. -/
theorem splice (h : r.Placed src) (line : Nat) : (r.splice line).Placed src := by
  have hblank := h.position.skipWhile isBlank
  unfold Reader.splice
  dsimp only
  generalize quotedAt (r.cursor.skipWhile isBlank).rest = q
  obtain ⟨path, n, isOpen⟩ := q
  have hr : ((if isOpen = true then r.report (r.cursor.skipWhile isBlank).line .unterminatedString
      else r).moveTo ((r.cursor.skipWhile isBlank).advance n)).Placed src := by
    split
    · exact (h.report ..).moveTo (hblank.advance n)
    · exact h.moveTo (hblank.advance n)
  cases path with
  | some path => exact hr.addNode _
  | none => exact (hr.report ..).addNode _

/-- **The lines of a declaration block are those of the source**, counted from the line of the
opening brace. -/
theorem codeBlock (h : r.Placed src) (line : Nat) : (r.codeBlock line).Placed src := by
  have hblank := h.position.skipWhile isBlank
  unfold Reader.codeBlock
  dsimp only
  split
  · exact (h.moveTo hblank.restOfLine).report ..
  · next hbrace =>
    split
    · exact (h.moveTo hblank).failedScan ..
    · generalize r.cursor.skipWhile isBlank = c at hblank hbrace
      generalize Fragment.group .codeBlock c.rest = scan
      have hinner : (c.advance 1).line = c.line := by
        -- the brace is not a line feed
        have hnone : newlines (c.rest.take 1) = 0 := by
          rw [newlines_eq_zero]
          cases hc : c.rest with
          | nil => exact oneLine_nil
          | cons b t =>
            rw [Cursor.peek, hc, not_not] at hbrace
            rw [show b = lbrace from hbrace]
            exact (by decide : OneLine [lbrace])
        rw [Cursor.advance, hnone, Nat.add_zero]
      have hblock : Document.Written src { r.document with
          code := r.document.code
            ++ [⟨Bytes.lines (Fragment.enclosed c.rest scan), c.line⟩] } := by
        refine ⟨h.written.page, h.written.imports, h.written.params, List.forall_mem_append.2
          ⟨h.written.code, List.forall_mem_singleton.2 ⟨hblank.getElem?_lines.1, ?_⟩⟩⟩
        intro i l hl
        have hpart := (hblank.advance 1).getElem?_lines_inside
          (List.take_append_drop (scan.taken - 2) _).symm hl
        rwa [hinner] at hpart
      split
      · exact ⟨((hblank.advance _).skipWhile isBlank).advance 1, hblock⟩
      · exact ⟨hblank.advance _, hblock⟩

/-- A directive is declared for the line it stands on. -/
theorem directive (h : r.Placed src) (word : DirectiveWord)
    (hline : DirectiveAt src line word.name (trim r.cursor.restOfLine.1)) :
    (r.directive word line).Placed src := by
  have hm := h.moveTo h.position.restOfLine
  unfold Reader.directive
  cases word with
  | code => exact h.codeBlock line
  | page =>
    dsimp only
    split
    · next d hd => exact ⟨hm.position, hm.written.addPage hline hd⟩
    · exact hm.report ..
  | import_ =>
    dsimp only
    split
    · next d hd => exact ⟨hm.position, hm.written.addImport hline hd⟩
    · exact hm.report ..
  | param =>
    dsimp only
    split
    · next d hd => exact ⟨hm.position, hm.written.addParam hline hd⟩
    · exact hm.report ..

/-- An expression moves the position behind its code. -/
theorem expression (h : r.Placed src) (line : Nat) : (r.expression line).Placed src := by
  unfold Reader.expression
  dsimp only
  split
  · exact h.failedScan ..
  · exact (h.advance _).addNode _

theorem groupExpression (h : r.Placed src) (line : Nat) :
    (r.groupExpression line).Placed src := by
  unfold Reader.groupExpression
  dsimp only
  split
  · exact h.failedScan ..
  · exact (h.advance _).addNode _

/-- A comment moves it behind its end, or to the end of the source. -/
theorem comment (h : r.Placed src) (line : Nat) : (r.comment line).Placed src := by
  unfold Reader.comment
  split
  · exact h.advance _
  · exact (h.advance _).report ..

/-- The word behind an at sign is on the line of the at sign, and so is what follows it up to
the end of the line. -/
theorem keyword (h : r.Placed src) {word t : Bytes} (hword : word.OneLine)
    (hrest : r.cursor.rest = ch '@' :: (word ++ t)) :
    (r.keyword word r.cursor.line).Placed src := by
  have hm := h.advance (1 + word.length)
  unfold Reader.keyword
  dsimp only
  split
  · exact hm.enterBranch _ _ _ fun q hq => hq.addNode _
  · split
    · exact hm.openLoop _
    · split
      · exact hm.splice _
      · split
        · exact hm.report ..
        · split
          · next d hd =>
            split
            · refine hm.directive d ?_
              rw [← DirectiveWord.eq_name hd]
              exact h.position.directiveAt hword hrest
            · exact (hm.moveTo hm.position.restOfLine).report ..
          · exact h.expression _

/-- **What an at sign starts** is declared for the line of the at sign, and that is where it is
written. -/
theorem atSign (h : r.Placed src) (hat : r.cursor.peek 0 = ch '@') : r.atSign.Placed src := by
  have hrest : r.cursor.rest = ch '@' :: ((r.cursor.rest.drop 1).takeWhile isIdentChar
      ++ (r.cursor.rest.drop 1).dropWhile isIdentChar) := by
    rw [List.takeWhile_append_dropWhile]
    cases hc : r.cursor.rest with
    | nil =>
      rw [Cursor.peek, hc] at hat
      exact absurd hat (by decide)
    | cons b t =>
      rw [Cursor.peek, hc] at hat
      rw [show b = ch '@' from hat]
      rfl
  unfold Reader.atSign
  dsimp only
  split
  · exact (h.advance 2).addText _
  · split
    · exact h.comment _
    · split
      · exact (h.advance 1).addText _
      · split
        · exact h.groupExpression _
        · split
          · exact h.keyword (oneLine_takeWhile (by decide) _) hrest
          · exact (h.advance 1).addText _

/-! ## The walk -/

/-- **Every step stays in the source** and declares what is written there. -/
theorem step (h : r.Placed src) : r.step.Placed src := by
  unfold Reader.step
  dsimp only
  split
  · exact h.closingTag
  · split
    · exact h.openTag
    · split
      · exact h.closeBrace
      · split
        · next hat => exact h.atSign hat
        · exact (h.addText _).moveTo (h.position.advance 1)

/-- The walk preserves what its step does. -/
theorem run (h : r.Placed src) : r.run.Placed src := by
  fun_induction Reader.run r with
  | case1 r hend => exact h
  | case2 r hend ih => exact ih h.step

theorem leaveAll (h : r.Placed src) : r.leaveAll.Placed src := by
  fun_induction Reader.leaveAll r with
  | case1 r hr => exact h
  | case2 r l outer hr ih => exact ih (h.leaveUnfinished ..)

/-- A reader that has declared nothing has declared it in its place. -/
theorem start (src : Bytes) : (Reader.start src).Placed src :=
  ⟨.ofSource src, fun p hp => absurd hp (Option.not_mem_none p), List.forall_mem_nil _,
    List.forall_mem_nil _, List.forall_mem_nil _⟩

end Reader.Placed

/-- **What is read from a source is written in it.** -/
theorem Document.written_read (src : Bytes) : (Document.read src).1.Written src :=
  let h := (Reader.Placed.start src).run.leaveAll.written
  ⟨h.page, h.imports, h.params, h.code⟩

end Stencil
