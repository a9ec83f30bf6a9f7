import Stencil.Template.Directive
import Stencil.Template.Tag

/-!
# Reading a component source

The reader walks a source once, from front to back, with the constructs that are
open around the position on a stack. Each construct that is entered – an element,
a loop, a branch of a conditional – puts a `Level` on the stack, which collects the
nodes read inside it; when the construct ends, its node joins the level below.

What a byte means depends on the innermost level and on little else:

* `</` closes the innermost level if that is an element, and is reported otherwise;
* `}` closes the innermost block, if any block is open at all. Elements that were
  opened inside it and are still open are reported and closed first, one step each,
  without moving on;
* `@` starts a directive, a control construct, an expression or a comment, or is
  just an at sign;
* any other byte is text. Text is collected byte by byte, each byte read as the
  character of that number.

Every step moves the position forward, or leaves it and closes a level; that is
`step_decreases`, and why `Reader.run` ends on every source.
-/

namespace Stencil

open Bytes

/-- What opened a level. -/
inductive Opener where
  /-- An element that waits for its closing tag. -/
  | element (tag : Bytes) (attrs : List Attr) (line : Nat)
  /-- A loop. -/
  | loop (clause : Bytes) (line : Nat)
  /-- A branch with a condition, after the branches `done`. -/
  | branch (done : List Branch) (what : Construct) (cond : Bytes) (line : Nat)
  /-- The branch without a condition, after the branches `done`. -/
  | otherwise (done : List Branch) (line : Nat)

/-- What was read so far inside a construct, or outside of all. -/
structure Content where
  /-- The nodes, last first. -/
  nodes : List Node := []
  /-- The text that has not become a node yet, last byte first. -/
  text : Bytes := []
  /-- The line that text started on. -/
  textLine : Nat := 0

namespace Content

/-- Text that was collected becomes a node. -/
def flush (k : Content) : Content :=
  if k.text.isEmpty then k
  else { k with nodes := .text k.text.reverse k.textLine :: k.nodes, text := [] }

/-- More text, found on the given line. -/
def addText (line : Nat) (s : Bytes) (k : Content) : Content where
  nodes := k.nodes
  text := s.reverse ++ k.text
  textLine := if k.text.isEmpty then line else k.textLine

/-- A node behind whatever was read so far. -/
def addNode (n : Node) (k : Content) : Content :=
  let k := k.flush
  { k with nodes := n :: k.nodes }

/-- Everything read, in order. -/
def body (k : Content) : List Node := k.flush.nodes.reverse

end Content

/-- **An open construct and what was read inside it.** -/
structure Level where
  /-- What opened the level. -/
  opener : Opener
  /-- Whether a brace closes something here. -/
  inBlock : Bool
  /-- Whether element names go unchecked here. -/
  foreign : Bool
  /-- What was read inside. -/
  content : Content := {}

/-- **The state of reading**: the position, the open constructs, and what was
found. -/
structure Reader where
  /-- The position. -/
  cursor : Cursor
  /-- What was read outside of all constructs. -/
  base : Content
  /-- The open constructs, innermost first. -/
  levels : List Level
  /-- The directives read so far. -/
  document : Document
  /-- What was wrong so far, last first. -/
  findings : List Finding

namespace Reader

/-- The state before the first byte. -/
def start (src : Bytes) : Reader where
  cursor := .ofSource src
  base := {}
  levels := []
  document := {}
  findings := []

/-- Whether element names go unchecked at the position. -/
def foreign (r : Reader) : Bool := (r.levels.head?.map Level.foreign).getD false

/-- Whether a brace closes something at the position. -/
def inBlock (r : Reader) : Bool := (r.levels.head?.map Level.inBlock).getD false

/-! ## Small moves -/

/-- A fault found on a line. -/
def report (line : Nat) (fault : Fault) (r : Reader) : Reader :=
  { r with findings := ⟨line, fault⟩ :: r.findings }

/-- A different position. -/
def moveTo (c : Cursor) (r : Reader) : Reader := { r with cursor := c }

/-- A change of what was read at the innermost level. -/
def mapContent (f : Content → Content) (r : Reader) : Reader :=
  match r.levels with
  | [] => { r with base := f r.base }
  | l :: ls => { r with levels := { l with content := f l.content } :: ls }

/-- A node at the innermost level. -/
def addNode (n : Node) (r : Reader) : Reader := r.mapContent (Content.addNode n)

/-- Text at the innermost level. -/
def addText (s : Bytes) (r : Reader) : Reader := r.mapContent (Content.addText r.cursor.line s)

/-- A construct is entered. -/
def enter (opener : Opener) (inBlock foreign : Bool) (r : Reader) : Reader :=
  let r := r.mapContent Content.flush
  { r with levels := { opener, inBlock, foreign } :: r.levels }

/-- The constructs around the innermost are all that is left, with its node among
them. -/
def leave (outer : List Level) (node : Node) (r : Reader) : Reader :=
  { r with levels := outer }.addNode node

/-- A failed scan that started `skipped` bytes ahead of the position: its fault is
reported and what it passed is skipped. -/
def failedScan (constructLine skipped : Nat) (scan : Fragment.Scan) (r : Reader) : Reader :=
  let c := r.cursor.advance skipped
  let r := r.moveTo (c.advance scan.taken)
  match scan.fault with
  | none => r
  | some (.construct, fault) => r.report constructLine fault
  | some (.at_ n, fault) => r.report (c.advance n).line fault

@[simp] theorem report_cursor (line : Nat) (fault : Fault) (r : Reader) :
    (r.report line fault).cursor = r.cursor := rfl

@[simp] theorem report_levels (line : Nat) (fault : Fault) (r : Reader) :
    (r.report line fault).levels = r.levels := rfl

@[simp] theorem moveTo_cursor (c : Cursor) (r : Reader) : (r.moveTo c).cursor = c := rfl

@[simp] theorem moveTo_levels (c : Cursor) (r : Reader) : (r.moveTo c).levels = r.levels := rfl

@[simp] theorem mapContent_cursor (f : Content → Content) (r : Reader) :
    (r.mapContent f).cursor = r.cursor := by
  unfold mapContent
  split <;> rfl

@[simp] theorem mapContent_levels_length (f : Content → Content) (r : Reader) :
    (r.mapContent f).levels.length = r.levels.length := by
  unfold mapContent
  split <;> simp_all

@[simp] theorem addNode_cursor (n : Node) (r : Reader) : (r.addNode n).cursor = r.cursor :=
  mapContent_cursor ..

@[simp] theorem addText_cursor (s : Bytes) (r : Reader) : (r.addText s).cursor = r.cursor :=
  mapContent_cursor ..

@[simp] theorem enter_cursor (opener : Opener) (b f : Bool) (r : Reader) :
    (r.enter opener b f).cursor = r.cursor :=
  mapContent_cursor ..

@[simp] theorem leave_cursor (outer : List Level) (node : Node) (r : Reader) :
    (r.leave outer node).cursor = r.cursor :=
  mapContent_cursor ..

@[simp] theorem leave_levels_length (outer : List Level) (node : Node) (r : Reader) :
    (r.leave outer node).levels.length = outer.length :=
  mapContent_levels_length ..

@[simp] theorem failedScan_cursor (line skipped : Nat) (scan : Fragment.Scan) (r : Reader) :
    (r.failedScan line skipped scan).cursor = (r.cursor.advance skipped).advance scan.taken := by
  unfold failedScan
  split <;> rfl

/-! ## Elements -/

/-- The node of a construct that the source leaves open, and the report. An element
counts as ending where it was opened, a block as reaching to the given line. -/
def unfinished (l : Level) (line : Nat) : Node × Finding :=
  let body := l.content.body
  match l.opener with
  | .element tag attrs openLine =>
    (.element tag attrs body false openLine openLine, ⟨openLine, .unclosedElement tag⟩)
  | .loop clause openLine =>
    (.loop clause body openLine line, ⟨openLine, .blockNeverClosed .loop⟩)
  | .branch done what cond openLine =>
    (.choice (done ++ [Branch.mk cond body openLine]) [] 0 line,
      ⟨openLine, .blockNeverClosed what⟩)
  | .otherwise done openLine =>
    (.choice done body openLine line, ⟨openLine, .blockNeverClosed .elseBranch⟩)

/-- The construct `l` is left although nothing closes it. -/
def leaveUnfinished (l : Level) (outer : List Level) (r : Reader) : Reader :=
  let (node, finding) := unfinished l r.cursor.line
  (r.report finding.line finding.fault).leave outer node

/-- An opening tag at the position. An element with content becomes a level. -/
def openTag (r : Reader) : Reader :=
  let line := r.cursor.line
  let tag := (r.cursor.rest.drop 1).takeWhile ElementName.isTagByte
  let unknown := !ElementName.isComponent tag && !r.foreign && !ElementName.isKnown tag
  let rest := tagRest tag (r.cursor.advance (1 + tag.length))
  let warned := if unknown then r.report line (.unknownElement tag) else r
  let r' := { warned with
    findings := rest.findings.reverse ++ warned.findings
    cursor := rest.cursor }
  match rest.ending with
  | .endOfSource =>
    (r'.report line (.unclosedElement tag)).addNode (.element tag rest.attrs [] false line line)
  | .selfClosed => r'.addNode (.element tag rest.attrs [] true line line)
  | .opened =>
    if ElementName.isVoid tag then r'.addNode (.element tag rest.attrs [] false line line)
    else
      r'.enter (.element tag rest.attrs line) r.inBlock (r.foreign || ElementName.isForeign tag)

/-- A closing tag at the position, where no element is open. -/
def strayClose (r : Reader) : Reader :=
  let (name, after) := closeTag r.cursor
  ((r.moveTo after).mapContent Content.flush).report r.cursor.line (.unexpectedClose name)

/-- A closing tag at the position. -/
def closingTag (r : Reader) : Reader :=
  match r.levels with
  | [] => r.strayClose
  | l :: outer =>
    match l.opener with
    | .element tag attrs openLine =>
      let (name, after) := closeTag r.cursor
      let line := r.cursor.line
      let r' := r.moveTo after
      let r' := if name ≠ tag then r'.report line (.mismatchedClose name tag openLine) else r'
      r'.leave outer (.element tag attrs l.content.body false openLine line)
    | _ => r.strayClose

/-! ## Conditionals and loops -/

/-- The condition of a branch starts at the position: the branch is entered, or
the header does not parse and `failed` says what becomes of the construct. -/
def enterBranch (done : List Branch) (what : Construct) (line : Nat)
    (failed : Reader → Reader) (r : Reader) : Reader :=
  let scan := Fragment.header what r.cursor.rest
  match scan.fault with
  | some _ => failed (r.failedScan line 0 scan)
  | none =>
    let cond := trim (r.cursor.rest.take scan.taken)
    let r := if cond.isEmpty && what = .ifBranch then r.report line .noCondition else r
    (r.moveTo (r.cursor.advance (scan.taken + 1))).enter (.branch done what cond line) true
      r.foreign

/-- A conditional after the brace that closed its last branch so far: more branches
follow, or it is complete. -/
def afterBranch (branches : List Branch) (endLine : Nat) (r : Reader) : Reader :=
  let complete := fun (r : Reader) => r.addNode (.choice branches [] 0 endLine)
  let c := r.cursor.skipWhile isSpace
  if !startsWith c.rest "else" || isIdentChar (c.peek 4) then complete r
  else
    let line := c.line
    let c := (c.advance 4).skipWhile isSpace
    if startsWith c.rest "if" && !isIdentChar (c.peek 2) then
      (r.moveTo (c.advance 2)).enterBranch branches .elseIfBranch line complete
    else if c.peek 0 = lbrace then
      (r.moveTo (c.advance 1)).enter (.otherwise branches line) true r.foreign
    else complete ((r.moveTo c).report line (.noBrace .elseBranch))

/-- The brace at the position closes the innermost level, if that is a block. An
element inside a block is left without its closing tag, and the brace stays. -/
def closeBrace (r : Reader) : Reader :=
  let endLine := r.cursor.line
  let r' := r.moveTo (r.cursor.advance 1)
  match r.levels with
  | [] => r'
  | l :: outer =>
    let body := l.content.body
    match l.opener with
    | .element .. => r.leaveUnfinished l outer
    | .loop clause line => r'.leave outer (.loop clause body line endLine)
    | .otherwise done line => r'.leave outer (.choice done body line endLine)
    | .branch done _ cond line =>
      { r' with levels := outer }.afterBranch (done ++ [Branch.mk cond body line]) endLine

/-! ## What an at sign starts -/

/-- A loop whose clause starts at the position. -/
def openLoop (line : Nat) (r : Reader) : Reader :=
  let scan := Fragment.header .loop r.cursor.rest
  match scan.fault with
  | some _ => (r.failedScan line 0 scan).addNode (.text [] line)
  | none =>
    (r.moveTo (r.cursor.advance (scan.taken + 1))).enter
      (.loop (trim (r.cursor.rest.take scan.taken)) line) true r.foreign

/-- A quoted literal at the position: its value, how much was passed, and whether it
is left open. -/
def quotedAt (s : Bytes) : Option Bytes × Nat × Bool :=
  match s with
  | [] => (none, 0, false)
  | q :: rest =>
    if q = dquote || q = grave then
      let (closed, n) := Fragment.literal q rest
      if closed then (Quoted.unquote? (s.take (1 + n)), 1 + n, false) else (none, 1 + n, true)
    else (none, 0, false)

/-- The unit to splice in, named by the literal at the position. -/
def splice (line : Nat) (r : Reader) : Reader :=
  let c := r.cursor.skipWhile isBlank
  let (path, n, isOpen) := quotedAt c.rest
  let r := if isOpen then r.report c.line .unterminatedString else r
  let r := r.moveTo (c.advance n)
  match path with
  | some path => r.addNode (.splice path line)
  | none => (r.report line .noIncludePath).addNode (.text [] line)

/-- The declarations in braces at the position. The blank rest of the closing line
goes with them. -/
def codeBlock (line : Nat) (r : Reader) : Reader :=
  let c := r.cursor.skipWhile isBlank
  if c.peek 0 ≠ lbrace then (r.moveTo c.restOfLine.2).report line .noCodeBlock
  else
    let scan := Fragment.group .codeBlock c.rest
    match scan.fault with
    | some _ => (r.moveTo c).failedScan c.line 0 scan
    | none =>
      let block : CodeBlock := ⟨lines (Fragment.enclosed c.rest scan), c.line⟩
      let after := c.advance scan.taken
      let blank := after.skipWhile isBlank
      let after := if blank.rest.isEmpty || blank.peek 0 = newline then blank.advance 1 else after
      { r.moveTo after with document := { r.document with code := r.document.code ++ [block] } }

/-- A directive whose word ends at the position. -/
def directive (word : DirectiveWord) (line : Nat) (r : Reader) : Reader :=
  match word with
  | .code => r.codeBlock line
  | word =>
    let (text, after) := r.cursor.restOfLine
    let rest := trim text
    let added := match word with
      | .page => r.document.addPage line rest
      | .import_ => r.document.addImport line rest
      | _ => r.document.addParam line rest
    let r := r.moveTo after
    match added with
    | .ok d => { r with document := d }
    | .error fault => r.report line fault

/-- An expression that starts one byte ahead: a name with its selectors. -/
def expression (line : Nat) (r : Reader) : Reader :=
  let s := r.cursor.rest.drop 1
  let scan := Fragment.chain s
  match scan.fault with
  | some _ => r.failedScan line 1 scan
  | none => (r.moveTo (r.cursor.advance (1 + scan.taken))).addNode (.expr (s.take scan.taken) line)

/-- An expression in parentheses that starts one byte ahead. -/
def groupExpression (line : Nat) (r : Reader) : Reader :=
  let s := r.cursor.rest.drop 1
  let scan := Fragment.group .expression s
  match scan.fault with
  | some _ => r.failedScan line 1 scan
  | none =>
    (r.moveTo (r.cursor.advance (1 + scan.taken))).addNode
      (.expr (trim (Fragment.enclosed s scan)) line)

/-- A comment, whose two opening bytes are at the position. -/
def comment (line : Nat) (r : Reader) : Reader :=
  match indexOf? "*@" (r.cursor.rest.drop 2) with
  | some n => r.moveTo (r.cursor.advance (n + 4))
  | none => (r.moveTo (r.cursor.advance r.cursor.rest.length)).report line .unterminatedComment

/-- The construct that a word behind the at sign starts. -/
def keyword (word : Bytes) (line : Nat) (r : Reader) : Reader :=
  let r' := r.moveTo (r.cursor.advance (1 + word.length))
  if word = "if" then
    r'.enterBranch [] .ifBranch line fun r => r.addNode (.text [] line)
  else if word = "for" then r'.openLoop line
  else if word = "include" then r'.splice line
  else if word = "else" then r'.report line .strayElse
  else
    match DirectiveWord.ofName? word with
    | some d =>
      match r.levels with
      | [] => r'.directive d line
      | _ :: _ => (r'.moveTo r'.cursor.restOfLine.2).report line (.misplacedDirective word)
    | none => r.expression line

/-- The at sign at the position. Behind an identifier character it is just itself,
as in an e-mail address. -/
def atSign (r : Reader) : Reader :=
  let line := r.cursor.line
  let next := r.cursor.peek 1
  if next = ch '@' then (r.moveTo (r.cursor.advance 2)).addText [ch '@']
  else if next = ch '*' then r.comment line
  else if isIdentChar r.cursor.before then (r.moveTo (r.cursor.advance 1)).addText [ch '@']
  else if next = ch '(' then r.groupExpression line
  else if isIdentStart next then
    r.keyword ((r.cursor.rest.drop 1).takeWhile isIdentChar) line
  else (r.moveTo (r.cursor.advance 1)).addText [ch '@']

/-! ## The walk -/

/-- One step of the walk, at a position where something is left. -/
def step (r : Reader) : Reader :=
  let c := r.cursor.peek 0
  if c = ch '<' ∧ r.cursor.peek 1 = slash then r.closingTag
  else if c = ch '<' ∧ isIdentStart (r.cursor.peek 1) then r.openTag
  else if c = rbrace ∧ r.inBlock then r.closeBrace
  else if c = ch '@' then r.atSign
  else (r.addText (Utf8.encode c.toNat)).moveTo (r.cursor.advance 1)

/-! ## Why the walk ends

Every handler moves the position forward. Only leaving an unfinished element in
front of a brace does not, and that takes a construct off the stack. -/

theorem openTag_lt {r : Reader} (h : r.cursor.rest ≠ []) :
    r.openTag.cursor.rest.length < r.cursor.rest.length := by
  have hlt := Nat.lt_of_le_of_lt
    (tagRest_le ((r.cursor.rest.drop 1).takeWhile ElementName.isTagByte)
      (r.cursor.advance (1 + ((r.cursor.rest.drop 1).takeWhile ElementName.isTagByte).length)))
    (Cursor.advance_lt h (by omega))
  unfold openTag
  dsimp only
  split
  · simpa using hlt
  · simpa using hlt
  · split <;> simpa using hlt

theorem strayClose_lt {r : Reader} (h : r.cursor.rest ≠ []) :
    r.strayClose.cursor.rest.length < r.cursor.rest.length := by
  simpa [strayClose] using closeTag_lt h

theorem closingTag_lt {r : Reader} (h : r.cursor.rest ≠ []) :
    r.closingTag.cursor.rest.length < r.cursor.rest.length := by
  unfold closingTag
  split
  · exact strayClose_lt h
  · split
    · dsimp only
      split <;> simpa using closeTag_lt h
    · exact strayClose_lt h

theorem enterBranch_le (done : List Branch) (what : Construct) (line : Nat)
    {failed : Reader → Reader} (hf : ∀ r, (failed r).cursor = r.cursor) (r : Reader) :
    (r.enterBranch done what line failed).cursor.rest.length ≤ r.cursor.rest.length := by
  unfold enterBranch
  dsimp only
  split
  · simp only [hf, failedScan_cursor]
    exact Nat.le_trans (Cursor.advance_le ..) (Cursor.advance_le ..)
  · split <;> simp

theorem afterBranch_le (branches : List Branch) (endLine : Nat) (r : Reader) :
    (r.afterBranch branches endLine).cursor.rest.length ≤ r.cursor.rest.length := by
  have hskip : (((r.cursor.skipWhile isSpace).advance 4).skipWhile isSpace).rest.length
      ≤ r.cursor.rest.length :=
    Nat.le_trans (Cursor.skipWhile_le ..) (Nat.le_trans (Cursor.advance_le ..)
      (Cursor.skipWhile_le ..))
  unfold afterBranch
  dsimp only
  split
  · simp
  · split
    · exact Nat.le_trans (enterBranch_le _ _ _ (fun r => addNode_cursor ..) _)
        (Nat.le_trans (Cursor.advance_le ..) hskip)
    · split
      · rw [enter_cursor, moveTo_cursor]
        exact Nat.le_trans (Cursor.advance_le ..) hskip
      · rw [addNode_cursor, report_cursor, moveTo_cursor]
        exact hskip

theorem closeBrace_decreases {r : Reader} (h : r.cursor.rest ≠ []) :
    r.closeBrace.cursor.rest.length < r.cursor.rest.length
      ∨ r.closeBrace.cursor = r.cursor ∧ r.closeBrace.levels.length < r.levels.length := by
  have hlt : (r.cursor.advance 1).rest.length < r.cursor.rest.length :=
    Cursor.advance_lt h Nat.one_pos
  unfold closeBrace
  dsimp only
  split
  · exact .inl hlt
  · next l outer hl =>
    split
    · exact .inr (by simp [leaveUnfinished, hl])
    · exact .inl (by simpa using hlt)
    · exact .inl (by simpa using hlt)
    · exact .inl (Nat.lt_of_le_of_lt (afterBranch_le ..) hlt)

theorem openLoop_le (line : Nat) (r : Reader) :
    (r.openLoop line).cursor.rest.length ≤ r.cursor.rest.length := by
  unfold openLoop
  dsimp only
  split <;> simp

theorem splice_le (line : Nat) (r : Reader) :
    (r.splice line).cursor.rest.length ≤ r.cursor.rest.length := by
  unfold splice
  dsimp only
  split <;> simp only [addNode_cursor, report_cursor, moveTo_cursor] <;>
    exact Nat.le_trans (Cursor.advance_le ..) (Cursor.skipWhile_le ..)

theorem codeBlock_le (line : Nat) (r : Reader) :
    (r.codeBlock line).cursor.rest.length ≤ r.cursor.rest.length := by
  have hskip := Cursor.skipWhile_le isBlank r.cursor
  unfold codeBlock
  dsimp only
  split
  · exact Nat.le_trans (Cursor.advance_le ..) hskip
  · split
    · simp only [failedScan_cursor, moveTo_cursor]
      exact Nat.le_trans (Cursor.advance_le ..) (Nat.le_trans (Cursor.advance_le ..) hskip)
    · dsimp only [moveTo]
      split
      · exact Nat.le_trans (Cursor.advance_le ..) (Nat.le_trans (Cursor.skipWhile_le ..)
          (Nat.le_trans (Cursor.advance_le ..) hskip))
      · exact Nat.le_trans (Cursor.advance_le ..) hskip

theorem directive_le (word : DirectiveWord) (line : Nat) (r : Reader) :
    (r.directive word line).cursor.rest.length ≤ r.cursor.rest.length := by
  unfold directive
  split
  · exact codeBlock_le ..
  · dsimp only
    split <;> exact Cursor.advance_le ..

theorem expression_lt {line : Nat} {r : Reader} (h : r.cursor.rest ≠ []) :
    (r.expression line).cursor.rest.length < r.cursor.rest.length := by
  unfold expression
  dsimp only
  split
  · rw [failedScan_cursor]
    exact Nat.lt_of_le_of_lt (Cursor.advance_le ..) (Cursor.advance_lt h Nat.one_pos)
  · rw [addNode_cursor, moveTo_cursor]
    exact Cursor.advance_lt h (by omega)

theorem groupExpression_lt {line : Nat} {r : Reader} (h : r.cursor.rest ≠ []) :
    (r.groupExpression line).cursor.rest.length < r.cursor.rest.length := by
  unfold groupExpression
  dsimp only
  split
  · rw [failedScan_cursor]
    exact Nat.lt_of_le_of_lt (Cursor.advance_le ..) (Cursor.advance_lt h Nat.one_pos)
  · rw [addNode_cursor, moveTo_cursor]
    exact Cursor.advance_lt h (by omega)

theorem comment_lt {line : Nat} {r : Reader} (h : r.cursor.rest ≠ []) :
    (r.comment line).cursor.rest.length < r.cursor.rest.length := by
  unfold comment
  split
  · exact Cursor.advance_lt h (by omega)
  · exact Cursor.advance_lt h (List.length_pos_iff.2 h)

theorem keyword_lt {word : Bytes} {line : Nat} {r : Reader} (h : r.cursor.rest ≠ []) :
    (r.keyword word line).cursor.rest.length < r.cursor.rest.length := by
  have hlt : (r.cursor.advance (1 + word.length)).rest.length < r.cursor.rest.length :=
    Cursor.advance_lt h (by omega)
  unfold keyword
  dsimp only
  split
  · exact Nat.lt_of_le_of_lt (enterBranch_le _ _ _ (fun r => addNode_cursor ..) _) hlt
  · split
    · exact Nat.lt_of_le_of_lt (openLoop_le ..) hlt
    · split
      · exact Nat.lt_of_le_of_lt (splice_le ..) hlt
      · split
        · exact hlt
        · split
          · split
            · exact Nat.lt_of_le_of_lt (directive_le ..) hlt
            · exact Nat.lt_of_le_of_lt (Cursor.advance_le ..) hlt
          · exact expression_lt h

theorem atSign_lt {r : Reader} (h : r.cursor.rest ≠ []) :
    r.atSign.cursor.rest.length < r.cursor.rest.length := by
  unfold atSign
  dsimp only
  split
  · simpa using Cursor.advance_lt h (by omega : 0 < 2)
  · split
    · exact comment_lt h
    · split
      · simpa using Cursor.advance_lt h Nat.one_pos
      · split
        · exact groupExpression_lt h
        · split
          · exact keyword_lt h
          · simpa using Cursor.advance_lt h Nat.one_pos

/-- **Every step makes progress**: it moves the position on, or stays and leaves an
open construct. -/
theorem step_decreases {r : Reader} (h : r.cursor.rest ≠ []) :
    r.step.cursor.rest.length < r.cursor.rest.length
      ∨ r.step.cursor = r.cursor ∧ r.step.levels.length < r.levels.length := by
  unfold step
  dsimp only
  split
  · exact .inl (closingTag_lt h)
  · split
    · exact .inl (openTag_lt h)
    · split
      · exact closeBrace_decreases h
      · split
        · exact .inl (atSign_lt h)
        · exact .inl (Cursor.advance_lt h Nat.one_pos)

/-- The walk to the end of the source. -/
def run (r : Reader) : Reader :=
  if _h : r.cursor.rest = [] then r else run r.step
termination_by (r.cursor.rest.length, r.levels.length)
decreasing_by
  rcases step_decreases _h with hlt | ⟨heq, hlt⟩
  · exact Prod.Lex.left _ _ hlt
  · rw [heq]
    exact Prod.Lex.right _ hlt

@[simp] theorem leaveUnfinished_levels_length (l : Level) (outer : List Level) (r : Reader) :
    (r.leaveUnfinished l outer).levels.length = outer.length :=
  leave_levels_length ..

/-- The constructs still open at the end of the source are left, inner ones first. -/
def leaveAll (r : Reader) : Reader :=
  match _h : r.levels with
  | [] => r
  | l :: outer => leaveAll (r.leaveUnfinished l outer)
termination_by r.levels.length
decreasing_by simp [_h]

theorem leaveAll_nil {r : Reader} (h : r.levels = []) : r.leaveAll = r := by
  rw [leaveAll]
  split <;> simp_all

theorem leaveAll_cons {r : Reader} {l : Level} {outer : List Level}
    (h : r.levels = l :: outer) : r.leaveAll = (r.leaveUnfinished l outer).leaveAll := by
  rw [leaveAll]
  split <;> simp_all

end Reader

/-- **The document a component source says**, and what is wrong with it, in the
order it was found. There is always a document. -/
def Document.read (src : Bytes) : Document × List Finding :=
  let r := (Reader.start src).run.leaveAll
  ({ r.document with body := r.base.body }, r.findings.reverse)

end Stencil
