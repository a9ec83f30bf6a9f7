import Stencil.Proofs.Template.Shift
import Stencil.Proofs.Text.Quoted
import Stencil.Source.Unit

/-!
# A route put in front of a source

The root of a batch is read with a page directive in front of its text. That directive
takes one line, and reading goes on behind it as if the text stood alone one line
higher: the same directives, the same markup and the same findings, with every line
number larger by one. The route of the directive is the route of the page, unless the
text has a page directive of its own.

The argument is a simulation. `Reader.Below` relates the state of reading a text to the
state of reading the same text further down; every handler of the reader keeps the
relation, hence every step, hence the whole walk. What the relation leaves open is only
what the reader does not look at: the byte before the position as far as no identifier
is concerned, and the line of collected text while there is none.
-/

namespace Stencil

open Bytes

/-! ## Related states -/

/-- What opened a level, `n` lines further down. -/
def Opener.shift (n : Nat) : Opener → Opener
  | .element tag attrs line => .element tag (attrs.map (Attr.shift n)) (line + n)
  | .loop clause line => .loop clause (line + n)
  | .branch done what cond line => .branch (done.map (Branch.shift n)) what cond (line + n)
  | .otherwise done line => .otherwise (done.map (Branch.shift n)) (line + n)

/-- The branch without a condition stands on a line. -/
def Opener.Located : Opener → Prop
  | .otherwise _ line => 0 < line
  | _ => True

/-- **What was read inside a construct, `n` lines further down.** The line of collected
text counts only if there is some. -/
structure Content.Below (n : Nat) (k k' : Content) : Prop where
  nodes : k'.nodes = k.nodes.map (Node.shift n)
  text : k'.text = k.text
  textLine : k.text ≠ [] → k'.textLine = k.textLine + n

/-- **An open construct, `n` lines further down.** -/
structure Level.Below (n : Nat) (l l' : Level) : Prop where
  opener : l'.opener = l.opener.shift n
  inBlock : l'.inBlock = l.inBlock
  foreign : l'.foreign = l.foreign
  content : l.content.Below n l'.content
  located : l.opener.Located

/-- **The state of reading a source `n` lines further down**, below the page directive
`top`. -/
structure Reader.Below (n : Nat) (top : PageDirective) (r r' : Reader) : Prop where
  cursor : r.cursor.Below n r'.cursor
  base : r.base.Below n r'.base
  levels : List.Forall₂ (Level.Below n) r.levels r'.levels
  document : r'.document = r.document.shiftBelow n top
  findings : r'.findings = r.findings.map (Finding.shift n)

namespace Content.Below

variable {n : Nat} {k k' : Content}

/-- Text that waits becomes a node on the line where it began, in both states. -/
theorem flush (h : k.Below n k') : k.flush.Below n k'.flush := by
  unfold Content.flush
  rw [h.text]
  by_cases ht : k.text = []
  · rw [ht]
    exact h
  · rw [if_neg (by simpa using ht), if_neg (by simpa using ht)]
    refine ⟨?_, rfl, fun hne => absurd rfl hne⟩
    show Node.text _ k'.textLine :: k'.nodes = _
    rw [h.nodes, h.textLine ht]
    rfl

/-- Text is collected on the line of its first byte; that line is only compared once there is some
text. -/
theorem addText (h : k.Below n k') (line : Nat) {s : Bytes} :
    (k.addText line s).Below n (k'.addText (line + n) s) := by
  refine ⟨h.nodes, ?_, fun _ => ?_⟩
  · show s.reverse ++ k'.text = s.reverse ++ k.text
    rw [h.text]
  · show (if k'.text.isEmpty then line + n else k'.textLine)
      = (if k.text.isEmpty then line else k.textLine) + n
    rw [h.text]
    by_cases ht : k.text = []
    · rw [ht]
      rfl
    · rw [if_neg (by simpa using ht), if_neg (by simpa using ht), h.textLine ht]

/-- A node is added behind the text that waits, which becomes a node of its own. -/
theorem addNode (h : k.Below n k') (x : Node) :
    (k.addNode x).Below n (k'.addNode (x.shift n)) := by
  have hf := h.flush
  refine ⟨?_, hf.text, hf.textLine⟩
  show x.shift n :: k'.flush.nodes = _
  rw [hf.nodes]
  rfl

/-- The bodies are the same nodes, on other lines. -/
theorem body (h : k.Below n k') : k'.body = k.body.map (Node.shift n) := by
  unfold Content.body
  rw [h.flush.nodes, List.map_reverse]

/-- Nothing read is nothing read, wherever it was not read. -/
theorem empty : Content.Below n {} {} :=
  ⟨rfl, rfl, fun hne => absurd rfl hne⟩

end Content.Below

namespace Reader.Below

variable {n : Nat} {top : PageDirective} {r r' : Reader}

/-! ## Small moves -/

/-- **A report is made further down**, with the lines that its text names moved as well. -/
theorem report (h : r.Below n top r') (line : Nat) (fault : Fault) :
    (r.report line fault).Below n top (r'.report (line + n) (fault.shift n)) where
  cursor := h.cursor
  base := h.base
  levels := h.levels
  document := h.document
  findings := by
    show _ :: r'.findings = _
    rw [h.findings]
    rfl

/-- Reading goes on at positions that correspond. -/
theorem moveTo (h : r.Below n top r') {c c' : Cursor} (hc : c.Below n c') :
    (r.moveTo c).Below n top (r'.moveTo c') where
  cursor := hc
  base := h.base
  levels := h.levels
  document := h.document
  findings := h.findings

/-- What is done to the content of the open construct keeps the relation if it does so for the
contents alone; both readers are at the same depth. -/
theorem mapContent (h : r.Below n top r') {f f' : Content → Content}
    (hf : ∀ k k', k.Below n k' → (f k).Below n (f' k')) :
    (r.mapContent f).Below n top (r'.mapContent f') := by
  obtain ⟨cursor, base, levels, document, findings⟩ := r
  obtain ⟨cursor', base', levels', document', findings'⟩ := r'
  obtain ⟨hcursor, hbase, hlevels, hdocument, hfindings⟩ := h
  cases hlevels with
  | nil => exact ⟨hcursor, hf _ _ hbase, .nil, hdocument, hfindings⟩
  | cons hl hls =>
    refine ⟨hcursor, hbase, .cons ?_ hls, hdocument, hfindings⟩
    exact ⟨hl.opener, hl.inBlock, hl.foreign, hf _ _ hl.content, hl.located⟩

theorem addNode (h : r.Below n top r') (x : Node) :
    (r.addNode x).Below n top (r'.addNode (x.shift n)) :=
  h.mapContent fun _ _ hk => hk.addNode x

theorem addText (h : r.Below n top r') (s : Bytes) :
    (r.addText s).Below n top (r'.addText s) := by
  unfold Reader.addText
  rw [h.cursor.line]
  exact h.mapContent fun _ _ hk => hk.addText _

/-- A construct is entered in both states, with what it was opened by further down in one of them.
-/
theorem enter (h : r.Below n top r') (opener : Opener) (ho : opener.Located)
    (inBlock foreign : Bool) :
    (r.enter opener inBlock foreign).Below n top
      (r'.enter (opener.shift n) inBlock foreign) := by
  have hf := h.mapContent fun _ _ hk => hk.flush
  exact ⟨hf.cursor, hf.base, .cons ⟨rfl, rfl, rfl, .empty, ho⟩ hf.levels, hf.document,
    hf.findings⟩

/-- And it is left in both. -/
theorem leave (h : r.Below n top r') {outer outer' : List Level}
    (ho : List.Forall₂ (Level.Below n) outer outer') (x : Node) :
    (r.leave outer x).Below n top (r'.leave outer' (x.shift n)) := by
  have hr : Reader.Below n top { r with levels := outer } { r' with levels := outer' } :=
    ⟨h.cursor, h.base, ho, h.document, h.findings⟩
  exact hr.addNode x

/-- A failed scan reports what it found at a line that moves with the source. -/
theorem failedScan (h : r.Below n top r') (line skipped : Nat) {scan : Fragment.Scan}
    (hs : scan.Steady) :
    (r.failedScan line skipped scan).Below n top
      (r'.failedScan (line + n) skipped scan) := by
  have hc := h.cursor.advance skipped
  have hm := h.moveTo (hc.advance scan.taken)
  unfold Reader.failedScan
  dsimp only
  split
  · exact hm
  · next fault hf =>
    have := hm.report line fault
    rwa [hs _ _ hf] at this
  · next k fault hf =>
    have := hm.report ((r.cursor.advance skipped).advance k).line fault
    rwa [hs _ _ hf, ← (hc.advance k).line] at this

/-- The innermost levels agree on everything the reader asks them. -/
theorem head_eq {α : Type} {f : Level → α} (hf : ∀ l l', l.Below n l' → f l' = f l)
    (h : r.Below n top r') : r'.levels.head?.map f = r.levels.head?.map f := by
  have hl := h.levels
  generalize r.levels = ls, r'.levels = ls' at hl
  cases hl with
  | nil => rfl
  | cons hl _ => exact congrArg some (hf _ _ hl)

/-- Whether the text is inside foreign content does not depend on the line, -/
theorem foreign_eq (h : r.Below n top r') : r'.foreign = r.foreign :=
  congrArg (Option.getD · false) (h.head_eq fun _ _ hl => hl.foreign)

/-- nor does whether it is inside a block. -/
theorem inBlock_eq (h : r.Below n top r') : r'.inBlock = r.inBlock :=
  congrArg (Option.getD · false) (h.head_eq fun _ _ hl => hl.inBlock)

/-! ## Elements -/

/-- What becomes of a construct that is left open, and what is said about it, is the same further
down. -/
theorem unfinished_below {l l' : Level} (h : l.Below n l') (line : Nat) :
    unfinished l' (line + n) = ((unfinished l line).1.shift n, (unfinished l line).2.shift n) := by
  have hbody := h.content.body
  have hloc := h.located
  unfold unfinished
  rw [h.opener, hbody]
  cases ho : l.opener with
  | element | loop => simp [Opener.shift, Node.shift, Finding.shift, Fault.shift]
  | branch => simp [Opener.shift, Node.shift, Branch.shift, shiftElse, Finding.shift, Fault.shift]
  | otherwise done openLine =>
    rw [ho] at hloc
    have hne : openLine ≠ 0 := Nat.pos_iff_ne_zero.1 hloc
    simp [Opener.shift, Node.shift, shiftElse, hne, Finding.shift, Fault.shift]

theorem leaveUnfinished (h : r.Below n top r') {l l' : Level} (hl : l.Below n l')
    {outer outer' : List Level} (ho : List.Forall₂ (Level.Below n) outer outer') :
    (r.leaveUnfinished l outer).Below n top (r'.leaveUnfinished l' outer') := by
  unfold Reader.leaveUnfinished
  rw [h.cursor.line, unfinished_below hl]
  exact (h.report _ _).leave ho _

/-- **An opening tag corresponds.** The tag and its attributes are read from the same bytes; only
the line of each is another. -/
theorem openTag (h : r.Below n top r') : r.openTag.Below n top r'.openTag := by
  unfold Reader.openTag
  rw [h.cursor.rest, h.cursor.line, h.foreign_eq, h.inBlock_eq]
  dsimp only
  generalize (r.cursor.rest.drop 1).takeWhile ElementName.isTagByte = tag
  have hrest := tagRest_below tag (h.cursor.advance (1 + tag.length))
  generalize hu : (!ElementName.isComponent tag && !r.foreign && !ElementName.isKnown tag) = unknown
  -- the tag behind its name leaves the reader as it is, but for findings and position
  have hw : (if unknown = true then r.report r.cursor.line (.unknownElement tag) else r).Below n top
      (if unknown = true then r'.report (r.cursor.line + n) (.unknownElement tag) else r') := by
    cases unknown with
    | true => exact h.report _ _
    | false => exact h
  generalize (if unknown = true then r.report r.cursor.line (.unknownElement tag) else r) = w at hw
  generalize (if unknown = true then r'.report (r.cursor.line + n) (.unknownElement tag) else r')
    = w' at hw
  generalize tagRest tag (r.cursor.advance (1 + tag.length)) = rest at hrest
  generalize tagRest tag (r'.cursor.advance (1 + tag.length)) = rest' at hrest
  have hr : Reader.Below n top
      { w with findings := rest.findings.reverse ++ w.findings, cursor := rest.cursor }
      { w' with findings := rest'.findings.reverse ++ w'.findings, cursor := rest'.cursor } := by
    refine ⟨hrest.cursor, hw.base, hw.levels, hw.document, ?_⟩
    show rest'.findings.reverse ++ w'.findings = _
    rw [hrest.findings, hw.findings, List.map_append, List.map_reverse]
  rw [hrest.ending, hrest.attrs]
  split
  · exact (hr.report _ _).addNode _
  · exact hr.addNode _
  · split
    · exact hr.addNode _
    · exact hr.enter (.element tag rest.attrs r.cursor.line) trivial _ _

theorem strayClose (h : r.Below n top r') : r.strayClose.Below n top r'.strayClose := by
  obtain ⟨hname, hafter⟩ := closeTag_below h.cursor
  unfold Reader.strayClose
  rw [h.cursor.line]
  dsimp only
  rw [hname]
  exact ((h.moveTo hafter).mapContent fun _ _ hk => hk.flush).report _ _

/-- **A closing tag corresponds.** The elements that it leaves open and the one it closes are at the
same depth of both stacks. -/
theorem closingTag (h : r.Below n top r') : r.closingTag.Below n top r'.closingTag := by
  obtain ⟨hname, hafter⟩ := closeTag_below h.cursor
  have hstray := h.strayClose
  have hlevels := h.levels
  unfold Reader.closingTag
  generalize r.levels = ls, r'.levels = ls' at hlevels
  cases hlevels with
  | nil => exact hstray
  | cons hl hls =>
    rename_i l l' outer outer'
    dsimp only
    rw [hl.opener]
    cases l.opener with
    | loop | branch | otherwise => exact hstray
    | element tag attrs openLine =>
      dsimp only [Opener.shift]
      rw [hname, h.cursor.line, hl.content.body]
      have hmoved : Reader.Below n top
          (if (closeTag r.cursor).1 ≠ tag then (r.moveTo (closeTag r.cursor).2).report
            r.cursor.line (.mismatchedClose (closeTag r.cursor).1 tag openLine)
            else r.moveTo (closeTag r.cursor).2)
          (if (closeTag r.cursor).1 ≠ tag then (r'.moveTo (closeTag r'.cursor).2).report
            (r.cursor.line + n) (.mismatchedClose (closeTag r.cursor).1 tag (openLine + n))
            else r'.moveTo (closeTag r'.cursor).2) := by
        split
        · exact (h.moveTo hafter).report _ _
        · exact h.moveTo hafter
      have hnode := hmoved.leave hls
        (.element tag attrs l.content.body false openLine r.cursor.line)
      rwa [Node.shift, Node.shiftAll_eq_map] at hnode

/-! ## Conditionals and loops -/

/-- A branch is entered in both states, or its condition does not parse in either. -/
theorem enterBranch (h : r.Below n top r') (done : List Branch) (what : Construct) (line : Nat)
    {failed failed' : Reader → Reader}
    (hfailed : ∀ r r', Reader.Below n top r r' → (failed r).Below n top (failed' r')) :
    (r.enterBranch done what line failed).Below n top
      (r'.enterBranch (done.map (Branch.shift n)) what (line + n) failed') := by
  unfold Reader.enterBranch
  rw [h.cursor.rest]
  dsimp only
  split
  · exact hfailed _ _ (h.failedScan line 0 (Fragment.header_steady _ _))
  · generalize trim (r.cursor.rest.take (Fragment.header what r.cursor.rest).taken) = cond
    have hr : Reader.Below n top
        (if (cond.isEmpty && what = .ifBranch) = true then r.report line .noCondition else r)
        (if (cond.isEmpty && what = .ifBranch) = true then r'.report (line + n) .noCondition
          else r') := by
      split
      · exact h.report _ _
      · exact h
    generalize (if (cond.isEmpty && what = .ifBranch) = true then r.report line .noCondition
      else r) = q at hr
    generalize (if (cond.isEmpty && what = .ifBranch) = true then
      r'.report (line + n) .noCondition else r') = q' at hr
    rw [hr.foreign_eq]
    exact (hr.moveTo (hr.cursor.advance _)).enter (.branch done what cond line) trivial
      true q.foreign

/-- Behind a branch both readers see the same bytes, and so agree on whether another one follows. -/
theorem afterBranch (h : r.Below n top r') (branches : List Branch) (endLine : Nat) :
    (r.afterBranch branches endLine).Below n top
      (r'.afterBranch (branches.map (Branch.shift n)) (endLine + n)) := by
  have hcomplete : ∀ q q', Reader.Below n top q q' →
      (q.addNode (.choice branches [] 0 endLine)).Below n top
        (q'.addNode (.choice (branches.map (Branch.shift n)) [] 0 (endLine + n))) := by
    intro q q' hq
    simpa [Node.shift, shiftElse] using hq.addNode (.choice branches [] 0 endLine)
  have hc := h.cursor.skipWhile isSpace
  have hc' := (hc.advance 4).skipWhile isSpace
  unfold Reader.afterBranch
  dsimp only
  rw [hc.rest, hc.peek, hc.line, hc'.rest, hc'.peek, hc'.peek]
  split
  · exact hcomplete _ _ h
  · split
    · exact (h.moveTo (hc'.advance 2)).enterBranch branches .elseIfBranch _ hcomplete
    · split
      · rw [h.foreign_eq]
        exact (h.moveTo (hc'.advance 1)).enter (.otherwise branches _) hc.pos true _
      · exact hcomplete _ _ ((h.moveTo hc').report _ _)

/-- **A closing brace corresponds**, whatever it closes. -/
theorem closeBrace (h : r.Below n top r') : r.closeBrace.Below n top r'.closeBrace := by
  have hm := h.moveTo (h.cursor.advance 1)
  have hlevels := h.levels
  unfold Reader.closeBrace
  dsimp only
  rw [h.cursor.line]
  generalize r.levels = ls, r'.levels = ls' at hlevels
  cases hlevels with
  | nil => exact hm
  | cons hl hls =>
    rename_i l l' outer outer'
    have hloc := hl.located
    have hunfinished := h.leaveUnfinished hl hls
    dsimp only
    rw [hl.opener, hl.content.body]
    cases ho : l.opener with
    | element => exact hunfinished
    | loop clause line =>
      simpa [Opener.shift, Node.shift] using
        hm.leave hls (.loop clause l.content.body line r.cursor.line)
    | otherwise done line =>
      rw [ho] at hloc
      have hne : line ≠ 0 := Nat.pos_iff_ne_zero.1 hloc
      simpa [Opener.shift, Node.shift, shiftElse, hne] using
        hm.leave hls (.choice done l.content.body line r.cursor.line)
    | branch done what cond line =>
      have hr : Reader.Below n top { r.moveTo (r.cursor.advance 1) with levels := outer }
          { r'.moveTo (r'.cursor.advance 1) with levels := outer' } :=
        ⟨hm.cursor, hm.base, hls, hm.document, hm.findings⟩
      simpa [Opener.shift, Branch.shift] using
        hr.afterBranch (done ++ [Branch.mk cond l.content.body line]) r.cursor.line

/-! ## What an at sign starts -/

/-- A loop is opened in both states, -/
theorem openLoop (h : r.Below n top r') (line : Nat) :
    (r.openLoop line).Below n top (r'.openLoop (line + n)) := by
  unfold Reader.openLoop
  rw [h.cursor.rest, h.foreign_eq]
  dsimp only
  split
  · exact (h.failedScan line 0 (Fragment.header_steady _ _)).addNode _
  · exact (h.moveTo (h.cursor.advance _)).enter (.loop _ line) trivial true _

/-- an include is noted in both, -/
theorem splice (h : r.Below n top r') (line : Nat) :
    (r.splice line).Below n top (r'.splice (line + n)) := by
  have hc := h.cursor.skipWhile isBlank
  unfold Reader.splice
  dsimp only
  rw [hc.rest, hc.line]
  generalize quotedAt (r.cursor.skipWhile isBlank).rest = q
  obtain ⟨path, k, isOpen⟩ := q
  have hr : Reader.Below n top
      ((if isOpen = true then r.report (r.cursor.skipWhile isBlank).line .unterminatedString
        else r).moveTo ((r.cursor.skipWhile isBlank).advance k))
      ((if isOpen = true then r'.report ((r.cursor.skipWhile isBlank).line + n) .unterminatedString
        else r').moveTo ((r'.cursor.skipWhile isBlank).advance k)) := by
    refine moveTo ?_ (hc.advance k)
    split
    · exact h.report _ _
    · exact h
  cases path with
  | some path => exact hr.addNode (.splice path line)
  | none => exact (hr.report line .noIncludePath).addNode (.text [] line)

/-- and so is a code block, whose lines are the same text on other lines. -/
theorem codeBlock (h : r.Below n top r') (line : Nat) :
    (r.codeBlock line).Below n top (r'.codeBlock (line + n)) := by
  have hc := h.cursor.skipWhile isBlank
  unfold Reader.codeBlock
  dsimp only
  generalize r.cursor.skipWhile isBlank = c, r'.cursor.skipWhile isBlank = c' at hc
  rw [hc.peek, hc.rest, hc.line]
  split
  · exact (h.moveTo hc.restOfLine.2).report line .noCodeBlock
  · split
    · exact (h.moveTo hc).failedScan c.line 0 (Fragment.group_steady _ _)
    · have ha := hc.advance (Fragment.group .codeBlock c.rest).taken
      have hb := ha.skipWhile isBlank
      rw [hb.rest, hb.peek]
      refine ⟨?_, h.base, h.levels, ?_, h.findings⟩
      · show Cursor.Below n (if _ then _ else _) (if _ then _ else _)
        split
        · exact hb.advance 1
        · exact ha
      · dsimp only [Reader.moveTo]
        rw [h.document]
        simp [Document.shiftBelow, CodeBlock.shift]

/-- What came of a directive, `n` lines further down. -/
def shiftAdded (n : Nat) (top : PageDirective) : Except Fault Document → Except Fault Document
  | .ok d => .ok (d.shiftBelow n top)
  | .error fault => .error (fault.shift n)

/-- **The route of the text wins.** A page directive is refused further down for the same reasons,
and one that is accepted takes the place of the route in front. -/
theorem addPage_below (d : Document) (line : Nat) (rest : Bytes) :
    (d.shiftBelow n top).addPage (line + n) rest = shiftAdded n top (d.addPage line rest) := by
  unfold Document.addPage
  split
  · split
    · rfl
    · rfl
  · rfl

/-- An import is added to both documents, on its line in each, or refused by both: whether it is
well formed shows from its text alone. -/
theorem addImport_below (d : Document) (line : Nat) (rest : Bytes) :
    (d.shiftBelow n top).addImport (line + n) rest = shiftAdded n top (d.addImport line rest) := by
  unfold Document.addImport
  dsimp only
  split
  · split
    · split
      · rfl
      · simp [shiftAdded, Document.shiftBelow, ImportDirective.shift]
    · rfl
  · split
    · split
      · rfl
      · simp [shiftAdded, Document.shiftBelow, ImportDirective.shift]
    · rfl
  · rfl

/-- A parameter declared twice is reported with the line of its first declaration,
which moves as well. -/
theorem addParam_below (d : Document) (line : Nat) (rest : Bytes) :
    (d.shiftBelow n top).addParam (line + n) rest = shiftAdded n top (d.addParam line rest) := by
  have hfind : ∀ name : Bytes, (d.shiftBelow n top).params.find? (fun p => p.name = name)
      = (d.params.find? fun p => p.name = name).map (ParamDirective.shift n) := by
    intro name
    show (d.params.map (ParamDirective.shift n)).find? _ = _
    rw [List.find?_map]
    rfl
  unfold Document.addParam
  generalize cut (ch ' ') rest = q
  obtain ⟨name, after⟩ := q
  dsimp only
  rw [hfind]
  split
  · rfl
  · split
    · rfl
    · cases d.params.find? fun p => p.name = name with
      | some first => rfl
      | none => simp [shiftAdded, Document.shiftBelow, ParamDirective.shift]

/-- A directive corresponds, since what it adds does and the rest of its line is the same. -/
theorem directive (h : r.Below n top r') (word : DirectiveWord) (line : Nat) :
    (r.directive word line).Below n top (r'.directive word (line + n)) := by
  obtain ⟨htext, hafter⟩ := h.cursor.restOfLine
  have hm := h.moveTo hafter
  -- the three directives that take the rest of their line do the same with what they got
  have hadded : ∀ added : Except Fault Document, Reader.Below n top
      (match added with
        | .ok d => { r.moveTo r.cursor.restOfLine.2 with document := d }
        | .error fault => (r.moveTo r.cursor.restOfLine.2).report line fault)
      (match shiftAdded n top added with
        | .ok d => { r'.moveTo r'.cursor.restOfLine.2 with document := d }
        | .error fault => (r'.moveTo r'.cursor.restOfLine.2).report (line + n) fault) := by
    intro added
    cases added with
    | ok d => exact ⟨hm.cursor, hm.base, hm.levels, rfl, hm.findings⟩
    | error fault => exact hm.report line fault
  unfold Reader.directive
  cases word with
  | code => exact h.codeBlock line
  | page =>
    dsimp only
    rw [htext, h.document, addPage_below]
    exact hadded _
  | import_ =>
    dsimp only
    rw [htext, h.document, addImport_below]
    exact hadded _
  | param =>
    dsimp only
    rw [htext, h.document, addParam_below]
    exact hadded _

theorem expression (h : r.Below n top r') (line : Nat) :
    (r.expression line).Below n top (r'.expression (line + n)) := by
  unfold Reader.expression
  rw [h.cursor.rest]
  dsimp only
  split
  · exact h.failedScan line 1 (Fragment.chain_steady _)
  · exact (h.moveTo (h.cursor.advance _)).addNode (.expr _ line)

theorem groupExpression (h : r.Below n top r') (line : Nat) :
    (r.groupExpression line).Below n top (r'.groupExpression (line + n)) := by
  unfold Reader.groupExpression
  rw [h.cursor.rest]
  dsimp only
  split
  · exact h.failedScan line 1 (Fragment.group_steady _ _)
  · exact (h.moveTo (h.cursor.advance _)).addNode (.expr _ line)

theorem comment (h : r.Below n top r') (line : Nat) :
    (r.comment line).Below n top (r'.comment (line + n)) := by
  unfold Reader.comment
  rw [h.cursor.rest]
  split
  · exact h.moveTo (h.cursor.advance _)
  · exact (h.moveTo (h.cursor.advance _)).report line .unterminatedComment

/-- **Whatever word stands behind an at sign**, both readers see it and do the same. -/
theorem keyword (h : r.Below n top r') (word : Bytes) (line : Nat) :
    (r.keyword word line).Below n top (r'.keyword word (line + n)) := by
  have hm := h.moveTo (h.cursor.advance (1 + word.length))
  unfold Reader.keyword
  dsimp only
  split
  · exact hm.enterBranch [] .ifBranch line fun _ _ hq => hq.addNode (.text [] line)
  · split
    · exact hm.openLoop line
    · split
      · exact hm.splice line
      · split
        · exact hm.report line .strayElse
        · split
          · next d _ =>
            have hlevels := h.levels
            generalize r.levels = ls, r'.levels = ls' at hlevels
            cases hlevels with
            | nil => exact hm.directive d line
            | cons _ _ =>
              exact (hm.moveTo hm.cursor.restOfLine.2).report line (.misplacedDirective word)
          · exact h.expression line

/-- At an at sign they look at the byte before it, too. It is the same but for the first byte of the
text, before which neither has an identifier. -/
theorem atSign (h : r.Below n top r') : r.atSign.Below n top r'.atSign := by
  have hm := h.moveTo (h.cursor.advance 1)
  unfold Reader.atSign
  dsimp only
  rw [h.cursor.peek, h.cursor.line, h.cursor.before, h.cursor.rest]
  split
  · exact (h.moveTo (h.cursor.advance 2)).addText _
  · split
    · exact h.comment _
    · split
      · exact hm.addText _
      · split
        · exact h.groupExpression _
        · split
          · exact h.keyword _ _
          · exact hm.addText _

/-! ## The walk -/

/-- **One step of the walk is the same step further down.** -/
theorem step (h : r.Below n top r') : r.step.Below n top r'.step := by
  unfold Reader.step
  dsimp only
  rw [h.cursor.peek, h.cursor.peek, h.inBlock_eq]
  split
  · exact h.closingTag
  · split
    · exact h.openTag
    · split
      · exact h.closeBrace
      · split
        · exact h.atSign
        · exact (h.addText _).moveTo (h.cursor.advance 1)

/-- So is the whole walk, since both end together. -/
theorem run (h : r.Below n top r') : r.run.Below n top r'.run := by
  fun_induction Reader.run r generalizing r' with
  | case1 r hend =>
    rw [Reader.run, dif_pos (by rw [h.cursor.rest, hend])]
    exact h
  | case2 r hend ih =>
    rw [Reader.run.eq_def r', dif_neg (by rw [h.cursor.rest]; exact hend)]
    exact ih h.step

/-- At the end, what is open is left in both states, inner constructs first. -/
theorem leaveAll (h : r.Below n top r') : r.leaveAll.Below n top r'.leaveAll := by
  -- leaving a level changes the one around it, but not how many are left
  induction hlen : r.levels.length generalizing r r' with
  | zero =>
    have hr : r.levels = [] := List.length_eq_zero_iff.1 hlen
    have hr' : r'.levels = [] := List.length_eq_zero_iff.1 (h.levels.length_eq.symm.trans hlen)
    rw [Reader.leaveAll_nil hr, Reader.leaveAll_nil hr']
    exact h
  | succ k ih =>
    obtain ⟨l, outer, hr⟩ := List.exists_cons_of_length_eq_add_one hlen
    have hlevels := h.levels
    rw [hr] at hlevels
    obtain ⟨l', outer', hl, ho, hr'⟩ := List.forall₂_cons_left_iff.1 hlevels
    rw [Reader.leaveAll_cons hr, Reader.leaveAll_cons hr']
    refine ih (h.leaveUnfinished hl ho) ?_
    rw [Reader.leaveUnfinished_levels_length]
    rw [hr] at hlen
    exact Nat.succ.inj hlen

end Reader.Below

/-! ## The directive in front -/

namespace SourceUnit

/-- The directive takes one line, whatever the route. -/
theorem newlines_routeDirective (route : Bytes) : newlines (routeDirective route) = 1 := by
  have hquote : newlines (Quoted.quote route) = 0 :=
    List.count_eq_zero.2 (Quoted.newline_not_mem_quote route)
  have hword : newlines "@page " = 0 := by decide
  unfold routeDirective newlines at *
  rw [List.count_append, List.count_append, hword, hquote]
  rfl

/-- Only the root has a line in front. -/
theorem injectedLines_root : injectedLines .root = 1 := newlines_routeDirective _

end SourceUnit

/-- The word of a page directive at the start of a source is read in one go. -/
theorem Reader.step_start_page (s : Bytes) :
    (Reader.start ("@page " ++ s)).step =
      ((Reader.start ("@page " ++ s)).moveTo ⟨ch ' ' :: s, 1, ch 'e'⟩).directive .page 1 :=
  rfl

/-- The rest of a line that a line feed ends. -/
theorem Cursor.restOfLine_append {s : Bytes} (hs : newline ∉ s) (t : Bytes) (line : Nat)
    (before : UInt8) :
    Cursor.restOfLine ⟨s ++ newline :: t, line, before⟩ = (s, ⟨t, line + 1, newline⟩) := by
  have hline : (s ++ newline :: t).takeWhile (· ≠ newline) = s := by
    rw [List.takeWhile_append_of_pos, List.takeWhile_cons_of_neg, List.append_nil]
    · decide
    · intro b hb
      exact decide_eq_true fun heq => hs (heq ▸ hb)
  have htake : (s ++ newline :: t).take (s.length + 1) = s ++ [newline] := by
    rw [List.take_length_add_append]
    rfl
  unfold Cursor.restOfLine Cursor.advance
  dsimp only
  rw [hline, htake]
  refine Prod.ext rfl ?_
  show Cursor.mk _ _ _ = _
  rw [List.drop_length_add_append, newlines, List.count_append, List.count_eq_zero.2 hs,
    List.getLastD_concat]
  rfl

/-- **Reading starts with the directive**: after one step it is all read, its route is
the page's, and the text behind it comes next. -/
theorem Reader.step_start_routeDirective {route : Bytes} (hroute : route ≠ []) (t : Bytes) :
    (Reader.start (SourceUnit.routeDirective route ++ t)).step =
      { Reader.start t with
        cursor := ⟨t, 2, newline⟩
        document := { page := some ⟨route, 1⟩ } } := by
  have hline : newline ∉ ch ' ' :: Quoted.quote route := by
    rw [List.mem_cons, not_or]
    exact ⟨by decide, Quoted.newline_not_mem_quote route⟩
  have hrest : Cursor.restOfLine ⟨ch ' ' :: (Quoted.quote route ++ newline :: t), 1, ch 'e'⟩
      = (ch ' ' :: Quoted.quote route, ⟨t, 2, newline⟩) :=
    Cursor.restOfLine_append hline t 1 (ch 'e')
  have htrim : trim (ch ' ' :: Quoted.quote route) = Quoted.quote route := by
    rw [trim_space_cons]
    exact trim_eq_self (by decide) (by decide) (by decide) (by decide) _
  have hadd : ({} : Document).addPage 1 (Quoted.quote route)
      = .ok { page := some ⟨route, 1⟩ } := by
    rw [Document.addPage, Quoted.unquote?_quote]
    exact if_neg (by simpa using hroute)
  have hsrc : SourceUnit.routeDirective route ++ t
      = "@page " ++ (Quoted.quote route ++ newline :: t) := by
    simp [SourceUnit.routeDirective]
  rw [hsrc, Reader.step_start_page]
  unfold Reader.directive
  dsimp only [Reader.moveTo, Reader.start]
  rw [hrest]
  dsimp only
  rw [htrim, hadd]

/-- The diagnostic of a finding further down differs in the lines it names, and in
nothing else. -/
theorem Finding.diagnostic_shift (file : Bytes) (n : Nat) (f : Finding) :
    (f.shift n).diagnostic file =
      { f.diagnostic file with line := f.line + n, message := (f.fault.shift n).message } := by
  obtain ⟨line, fault⟩ := f
  cases fault <;> rfl

/-- Reading a source below the injected directive, in one equation for the document and
one for the findings. -/
theorem Document.read_routeDirective {route : Bytes} (hroute : route ≠ []) (t : Bytes) :
    Document.read (SourceUnit.routeDirective route ++ t) =
      ((Document.read t).1.shiftBelow 1 ⟨route, 1⟩, (Document.read t).2.map (Finding.shift 1)) := by
  have hstart : (Reader.start t).Below 1 ⟨route, 1⟩
      (Reader.start (SourceUnit.routeDirective route ++ t)).step := by
    rw [Reader.step_start_routeDirective hroute]
    exact ⟨⟨rfl, rfl, rfl, Nat.one_pos⟩, .empty, .nil, rfl, rfl⟩
  have hrun : (Reader.start (SourceUnit.routeDirective route ++ t)).run
      = (Reader.start (SourceUnit.routeDirective route ++ t)).step.run := by
    rw [Reader.run, dif_neg]
    exact List.cons_ne_nil _ _
  have hread := hstart.run.leaveAll
  unfold Document.read
  rw [hrun]
  dsimp only
  rw [hread.document, hread.base.body, hread.findings, List.map_reverse]
  rfl

/-- **Injecting the route is transparent up to the lines it takes.** A source below the
injected page directive is read as it is read alone: the imports, the parameters, the
declarations, the markup and the diagnostics are the same, further down by the injected
lines, also where a message quotes a line. Its page is the one it has alone, moved
likewise, and the injected route if it has none. -/
theorem read_below_injected_route (file route t : Bytes) (hroute : route ≠ []) :
    let n := SourceUnit.injectedLines .root
    let alone := Document.read t
    let below := Document.read (SourceUnit.routeDirective route ++ t)
    below.1.page = (match alone.1.page with
      | some page => some (page.shift n)
      | none => some ⟨route, 1⟩)
    ∧ below.1.imports = alone.1.imports.map (ImportDirective.shift n)
    ∧ below.1.params = alone.1.params.map (ParamDirective.shift n)
    ∧ below.1.code = alone.1.code.map (CodeBlock.shift n)
    ∧ below.1.body = alone.1.body.map (Node.shift n)
    ∧ below.2.map (Finding.diagnostic file) = alone.2.map fun f =>
        { f.diagnostic file with line := f.line + n, message := (f.fault.shift n).message } := by
  intro n alone below
  have hn : n = 1 := SourceUnit.injectedLines_root
  have hbelow : below = (alone.1.shiftBelow n ⟨route, 1⟩, alone.2.map (Finding.shift n)) := by
    rw [hn]
    exact Document.read_routeDirective hroute t
  rw [hbelow]
  refine ⟨?_, rfl, rfl, rfl, rfl, ?_⟩
  · show some ((alone.1.page.map (PageDirective.shift n)).getD ⟨route, 1⟩) = _
    cases alone.1.page <;> rfl
  · rw [List.map_map]
    refine List.map_congr_left fun f _ => ?_
    exact f.diagnostic_shift file n

/-- A page directive of the source itself wins over the injected route, and what is
wrong behind it is found one line further down. -/
theorem read_below_injected_route_own_page :
    let t := SourceUnit.routeDirective "/b" ++ "@else"
    (Document.read (SourceUnit.routeDirective "/a" ++ t)).1.page = some ⟨"/b", 2⟩
    ∧ (Document.read (SourceUnit.routeDirective "/a" ++ t)).2.map (Finding.diagnostic "/p.tmpl")
      = [(⟨3, .strayElse⟩ : Finding).diagnostic "/p.tmpl"] := by
  intro t
  obtain ⟨hpage, -, -, -, -, hfound⟩ := read_below_injected_route "/p.tmpl" "/a" t (by decide)
  have hrun : (Reader.start "@else").run = (Reader.start "@else").step := by
    rw [Reader.run, dif_neg (by decide), Reader.run]
    exact dif_pos rfl
  have helse : (Document.read "@else").1.page = none
      ∧ (Document.read "@else").2 = [⟨1, .strayElse⟩] := by
    rw [Document.read, hrun, Reader.leaveAll_nil rfl]
    exact ⟨rfl, rfl⟩
  have halone : (Document.read t).1.page = some ⟨"/b", 1⟩
      ∧ (Document.read t).2 = [⟨2, .strayElse⟩] := by
    rw [Document.read_routeDirective (by decide), Document.shiftBelow, helse.1, helse.2]
    exact ⟨rfl, rfl⟩
  rw [hpage, hfound, halone.1, halone.2, SourceUnit.injectedLines_root]
  exact ⟨rfl, rfl⟩

end Stencil
