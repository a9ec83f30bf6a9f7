import Stencil.Proofs.Template.DescentScan
import Stencil.Proofs.Template.PrintedStep

/-!
# The descent and the walk

A walk keeps the constructs that are open on a stack, a descent has them in the calls that have
not returned. A `Frame` is what the stack says of those calls, so that a state of the descent
together with its frame is a state of the walk (`Frame.reader`), and what the descent reads, the
walk reads.

Two states of a walk are compared by what the walk comes to from them: `Reader.finish` is that,
with the constructs that stay open left as well, and no step changes it.

The directives and the splices, which hold no markup, are compared here.
-/

namespace Stencil

open Bytes Fragment

/-- Blanks in front are trimmed. -/
theorem Bytes.trim_blank_append {b : Bytes} (h : ∀ c ∈ b, isBlank c = true) (s : Bytes) :
    trim (b ++ s) = trim s := by
  induction b with
  | nil => rfl
  | cons c b ih =>
    obtain ⟨hc, hb⟩ := List.forall_mem_cons.1 h
    have hcons : trim (c :: (b ++ s)) = trim (b ++ s) := by
      have hcases : c = ch ' ' ∨ c = 0x09 := by simpa [isBlank] using hc
      unfold trim
      rcases hcases with rfl | rfl
      · rw [Utf8.runes_ascii_cons (by decide)]
        rfl
      · rw [Utf8.runes_ascii_cons (by decide)]
        rfl
    rw [List.cons_append, hcons, ih hb]

namespace Reader

/-- **What a walk comes to** from a state on. -/
def finish (r : Reader) : Reader := r.run.leaveAll

/-- A step does not change where the reader ends up. -/
theorem finish_step {r : Reader} (h : r.cursor.rest ≠ []) : r.finish = r.step.finish := by
  rw [finish, run, dif_neg h]
  rfl

/-- At the end of the source, everything that is open is left. -/
theorem finish_end {r : Reader} (h : r.cursor.rest = []) : r.finish = r.leaveAll := by
  rw [finish, run, dif_pos h]

/-- At the end of the source a construct that is still open is left. -/
theorem finish_unfinished {r : Reader} {l : Level} {outer : List Level} (h : r.cursor.rest = [])
    (hl : r.levels = l :: outer) : r.finish = (r.leaveUnfinished l outer).finish := by
  have hend : (r.leaveUnfinished l outer).cursor.rest = [] := by
    rw [leaveUnfinished, leave_cursor]
    exact h
  rw [finish_end h, finish_end hend, leaveAll_cons hl]

end Reader

namespace Descent

/-- **What is open around a run of markup**: nothing, or the construct `opener` with all that
was read around it. -/
inductive Frame where
  /-- The markup is that of the whole source. -/
  | outside
  /-- The markup stands inside a construct. -/
  | inside (opener : Opener) (inBlock foreign : Bool) (outer : List Level) (base : Content)

namespace Frame

/-- Whether directives are allowed. -/
def top : Frame → Bool
  | .outside => true
  | .inside .. => false

/-- Whether a brace ends the run. -/
def inBlock : Frame → Bool
  | .outside => false
  | .inside _ inBlock _ _ _ => inBlock

/-- Whether a closing tag ends the run. -/
def inElement : Frame → Bool
  | .inside (.element ..) _ _ _ _ => true
  | _ => false

/-- Whether element names go unchecked. -/
def foreign : Frame → Bool
  | .outside => false
  | .inside _ _ foreign _ _ => foreign

/-- The open constructs, when `k` was read in the run. -/
def levels (k : Content) : Frame → List Level
  | .outside => []
  | .inside opener inBlock foreign outer _ => ⟨opener, inBlock, foreign, k⟩ :: outer

/-- What was read outside of all constructs, when `k` was read in the run. -/
def base (k : Content) : Frame → Content
  | .outside => k
  | .inside _ _ _ _ base => base

/-- **The reader that is where the descent is**, after `k` was read in the run. -/
def reader (f : Frame) (k : Content) (s : State) : Reader where
  cursor := s.cursor
  base := f.base k
  levels := f.levels k
  document := s.document
  findings := s.findings

/-- A construct is open inside, after `k`. -/
def within (f : Frame) (k : Content) (opener : Opener) (inBlock foreign : Bool) : Frame :=
  .inside opener inBlock foreign (f.levels k.flush) (f.base k.flush)

variable {s t : State}

@[simp] theorem reader_cursor (f : Frame) (k : Content) (s : State) :
    (f.reader k s).cursor = s.cursor :=
  rfl

theorem reader_foreign (f : Frame) (k : Content) (s : State) :
    (f.reader k s).foreign = f.foreign := by
  cases f <;> rfl

theorem reader_inBlock (f : Frame) (k : Content) (s : State) :
    (f.reader k s).inBlock = f.inBlock := by
  cases f <;> rfl

@[simp] theorem reader_mapContent (f : Frame) (g : Content → Content) (k : Content)
    (s : State) : (f.reader k s).mapContent g = f.reader (g k) s := by
  cases f <;> rfl

/-- A node is put into the content, whichever frame it is in. -/
@[simp] theorem reader_addNode (f : Frame) (n : Node) (k : Content) (s : State) :
    (f.reader k s).addNode n = f.reader (k.addNode n) s :=
  f.reader_mapContent ..

@[simp] theorem reader_addText (f : Frame) (text : Bytes) (k : Content) (s : State) :
    (f.reader k s).addText text = f.reader (k.addText s.line text) s :=
  f.reader_mapContent ..

/-- A finding is the business of the cursor, not of the frame. -/
@[simp] theorem reader_report (f : Frame) (line : Nat) (fault : Fault) (k : Content)
    (s : State) : (f.reader k s).report line fault = f.reader k (s.report line fault) :=
  rfl

/-- Reading on moves the reader and adds to what is wrong. -/
theorem reader_reads (f : Frame) (k : Content) {c : Cursor} {found : List Finding}
    (h : s.Reads t c found) :
    { f.reader k s with cursor := c, findings := found.reverse ++ s.findings } = f.reader k t := by
  rw [← h.cursor, ← h.findings]
  exact congrArg (fun d => Reader.mk t.cursor (f.base k) (f.levels k) d t.findings) h.document.symm

theorem reader_moveTo (f : Frame) (k : Content) {c : Cursor} (h : s.Reads t c []) :
    (f.reader k s).moveTo c = f.reader k t :=
  f.reader_reads k h

theorem reader_forward (f : Frame) (k : Content) (n : Nat) (s : State) :
    (f.reader k s).moveTo (s.cursor.advance n) = f.reader k (s.forward n) := by
  rw [Reader.moveTo, reader, reader, s.cursor_forward, s.document_forward, s.findings_forward]

/-- Entering a level is going over to the frame within, which begins with no content. -/
@[simp] theorem reader_enter (f : Frame) (k : Content) (opener : Opener) (b g : Bool)
    (s : State) :
    (f.reader k s).enter opener b g = (f.within k opener b g).reader {} s := by
  cases f <;> rfl

/-- Leaving it goes back to the frame around, with one node more. -/
@[simp] theorem reader_leave (f : Frame) (k k' : Content) (opener : Opener) (b g : Bool) (n : Node)
    (s : State) : ((f.within k opener b g).reader k' s).leave (f.levels k.flush) n
      = f.reader (k.addNode n) s := by
  rw [← k.flush_addNode, ← reader_addNode]
  cases f <;> rfl

/-- A scan leaves the reader and the walk at one place, with the same finding if it failed. -/
theorem reader_failedScan (f : Frame) (k : Content) (line n : Nat) (scan : Scan)
    (s : State) :
    (f.reader k s).failedScan line n scan = f.reader k ((s.forward n).scanned line scan) := by
  obtain ⟨taken, fault⟩ := scan
  have hmoved : (f.reader k s).moveTo ((s.cursor.advance n).advance taken)
      = f.reader k ((s.forward n).forward taken) := by
    rw [Cursor.advance_advance, reader_forward, State.forward_forward]
  rcases fault with - | ⟨- | m, fault⟩
  · exact hmoved
  · exact congrArg (Reader.report line fault) hmoved
  · have hline : ((s.cursor.advance n).advance m).line = ((s.forward n).forward m).line := by
      rw [← s.cursor_forward, ← State.cursor_forward]
      rfl
    exact congrArg₂ (fun line r => Reader.report line fault r) hline hmoved

end Frame

variable {s t u : State} {c : UInt8} {r : Bytes}

/-! ## Directives -/

/-- The rest of a line without the blanks in front of it. -/
theorem restOfLine_skip (s : State) : ∃ blank, (∀ c ∈ blank, isBlank c = true)
    ∧ s.cursor.restOfLine.1 = blank ++ (s.skip isBlank).cursor.restOfLine.1
    ∧ (s.skip isBlank).forward ((s.skip isBlank).cursor.restOfLine.1.length + 1)
      = s.forward (s.cursor.restOfLine.1.length + 1) := by
  have hblank : ∀ c ∈ s.rest.takeWhile isBlank, isBlank c = true := fun c hc =>
    List.mem_takeWhile_imp hc
  have hline : ∀ c ∈ s.rest.takeWhile isBlank, (decide (c ≠ newline)) = true := by
    intro c hc
    refine decide_eq_true fun heq => ?_
    rw [heq] at hc
    exact absurd (hblank newline hc) (by decide)
  have hrest : (s.skip isBlank).rest = s.rest.dropWhile isBlank := by
    have hsplit := List.takeWhile_append_dropWhile (p := isBlank) (l := s.rest)
    exact (s.rest_skip isBlank).trans ((congrArg (List.drop _) hsplit.symm).trans List.drop_left)
  have htext : s.cursor.restOfLine.1
      = s.rest.takeWhile isBlank ++ (s.skip isBlank).cursor.restOfLine.1 := by
    show s.rest.takeWhile (· ≠ newline)
      = s.rest.takeWhile isBlank ++ (s.skip isBlank).rest.takeWhile (· ≠ newline)
    rw [hrest, ← List.takeWhile_append_of_pos hline, List.takeWhile_append_dropWhile]
  refine ⟨_, hblank, htext, ?_⟩
  rw [htext, List.length_append, State.skip, State.forward_forward, Nat.add_assoc]

/-- What a directive of one line adds to the document, or reports. -/
theorem declare_line_eq (hs : s.Sound) (line : Nat)
    (add : Bytes → Document → Except Fault Document) :
    ∃ t, (do
        skipWhile isBlank
        let rest := trim (← restOfLine)
        declare line (add rest) : Descent Unit) s = some ((), t) ∧ s.Precedes t
      ∧ ∀ (f : Frame) (k : Content), (match add (trim s.cursor.restOfLine.1) s.document with
        | .ok d => { (f.reader k s).moveTo s.cursor.restOfLine.2 with document := d }
        | .error fault =>
          ((f.reader k s).moveTo s.cursor.restOfLine.2).report line fault) = f.reader k t := by
  obtain ⟨blank, hblank, htext, hend⟩ := restOfLine_skip s
  have hafter : ∀ (f : Frame) (k : Content), (f.reader k s).moveTo s.cursor.restOfLine.2
      = f.reader k (s.forward (s.cursor.restOfLine.1.length + 1)) := fun f k => f.reader_forward ..
  have hprecedes := hs.precedes_forward (s.cursor.restOfLine.1.length + 1)
  have htrim : trim (s.skip isBlank).cursor.restOfLine.1 = trim s.cursor.restOfLine.1 := by
    rw [htext, trim_blank_append hblank]
  have hadd : add (trim s.cursor.restOfLine.1)
      (s.forward (s.cursor.restOfLine.1.length + 1)).document
        = add (trim s.cursor.restOfLine.1) s.document := by rw [State.document_forward]
  rw [bind_eq (skipWhile_eq _ s), bind_eq (restOfLine_eq (hs.skip isBlank)), hend, htrim, declare,
    hadd]
  cases add (trim s.cursor.restOfLine.1) s.document with
  | ok d =>
    -- only the document is another one, and that has no part in whether a state is sound
    refine ⟨_, rfl, ⟨hprecedes.src, hprecedes.pos, hprecedes.trail,
      ⟨hprecedes.sound.here, hprecedes.sound.trail⟩⟩, fun f k => ?_⟩
    rw [hafter]
    rfl
  | error fault => exact ⟨_, rfl, hprecedes.report _ _, fun f k => by rw [hafter]; rfl⟩

/-- The blank rest of a line. -/
theorem blankRestOfLine_eq (hs : s.Sound) : ∃ t, blankRestOfLine s = some ((), t)
    ∧ s.Reads t (if (s.skip isBlank).rest.isEmpty || (s.skip isBlank).cursor.peek 0 = newline then
        (s.skip isBlank).cursor.advance 1 else s.cursor) [] := by
  have hskip := hs.reads_skip isBlank
  have hs₁ := hskip.precedes.sound
  rw [blankRestOfLine, bind_eq (position_eq s), bind_eq (currentLine_eq s),
    bind_eq (skipWhile_eq _ s)]
  generalize s.skip isBlank = s₁ at *
  have hend : ∀ {text : Bytes}, s₁.rest.takeWhile (· ≠ newline) = text →
      restOfLine s₁ = some (text, s₁.forward (text.length + 1)) := fun htext =>
    htext ▸ restOfLine_eq hs₁
  cases hrest : s₁.rest with
  | nil =>
    rw [ifAtEnd_nil hrest, bind_eq (hend (congrArg _ hrest))]
    exact ⟨_, rfl, hskip.trans (hs₁.reads_forward 1)⟩
  | cons c r =>
    rw [ifAtEnd_cons hrest, bind_eq (byte_eq hrest),
      Cursor.peek_zero (c := s₁.cursor) hrest]
    by_cases hc : c = newline
    · rw [if_pos hc, bind_eq (hend (congrArg _ (hc ▸ hrest))), if_pos (by simp [hc])]
      exact ⟨_, rfl, hskip.trans (hs₁.reads_forward 1)⟩
    · rw [if_neg hc, goTo_eq, if_neg (by simp [hc])]
      exact ⟨_, rfl, hskip.goBack hs⟩

/-- **The declarations in braces.** -/
theorem codeBlock_eq (hs : s.Sound) (line : Nat) : ∃ t, codeBlock line s = some ((), t)
    ∧ s.Precedes t ∧ ∀ (f : Frame) (k : Content),
      (f.reader k s).codeBlock line = f.reader k t := by
  have hskip := hs.reads_skip isBlank
  have hs₁ := hskip.precedes.sound
  rw [codeBlock, bind_eq (skipWhile_eq _ s), bind_eq (peek_eq 0 _)]
  unfold Reader.codeBlock
  simp only [Frame.reader_cursor, ← s.cursor_skip]
  generalize s.skip isBlank = s₁ at *
  by_cases hbrace : s₁.cursor.peek 0 = lbrace
  · obtain ⟨r, hrest⟩ := rest_of_peek (by decide) hbrace
    have hgroup := group_eq hrest hs₁ .codeBlock
    rw [if_neg (not_not.2 hbrace), bind_eq (currentLine_eq _), State.rest_cursor, hrest]
    generalize Fragment.group .codeBlock (lbrace :: r) = scan at *
    cases hfault : scan.fault with
    | some fault =>
      rw [bind_eq (hgroup.trans (outcome_some _ _ hfault _))]
      refine ⟨_, rfl, hskip.precedes.trans (hs₁.precedes_scanned _ _), fun f k => ?_⟩
      rw [if_neg (not_not.2 hbrace)]
      exact (congrArg (Reader.failedScan s₁.line 0 scan) (f.reader_moveTo k hskip)).trans
        (f.reader_failedScan k s₁.line 0 scan s₁)
    | none =>
      have hbehind := hskip.trans (hs₁.reads_forward scan.taken)
      rw [bind_eq (hgroup.trans (outcome_none _ _ hfault _)), ← s₁.cursor_forward]
      dsimp only
      generalize s₁.forward scan.taken = s₂ at *
      obtain ⟨hprecedes, -, hdocument, hfindings⟩ := hbehind
      have hs₂ := hprecedes.sound
      let s₃ : State := { s₂ with document := { s.document with
        code := s.document.code ++ [⟨lines (enclosed (lbrace :: r) scan), s₁.line⟩] } }
      have hs₃ : s₃.Sound := ⟨hs₂.here, hs₂.trail⟩
      obtain ⟨t, ht, hreads⟩ := blankRestOfLine_eq hs₃
      have hdeclare : declare s₁.line (fun d => .ok { d with
          code := d.code ++ [⟨lines (enclosed (lbrace :: r) scan), s₁.line⟩] }) s₂
            = some ((), s₃) := by
        rw [declare, hdocument]
      rw [bind_eq hdeclare, ht]
      refine ⟨t, rfl, hprecedes.trans ⟨hreads.precedes.src, hreads.precedes.pos,
        hreads.precedes.trail, hreads.precedes.sound⟩, fun f k => ?_⟩
      rw [← f.reader_moveTo k hreads, if_neg (not_not.2 hbrace), ← State.rest_cursor,
        State.cursor_skip]
      unfold Reader.moveTo Frame.reader
      rw [show s₃.findings = s.findings from hfindings]
      rfl
  · have hline := (hskip.trans (hs₁.reads_forward (s₁.cursor.restOfLine.1.length + 1)))
    rw [if_pos hbrace, bind_eq (report_eq ..), bind_eq (restOfLine_eq (hs₁.report ..)),
      State.forward_report]
    refine ⟨_, rfl, (hline.report _ _).precedes, fun f k => ?_⟩
    rw [if_pos hbrace]
    exact congrArg (Reader.report line .noCodeBlock) (f.reader_moveTo k hline)

/-- **A directive.** -/
theorem directive_eq (hs : s.Sound) (word : DirectiveWord) (line : Nat) :
    ∃ t, directive word line s = some ((), t) ∧ s.Precedes t ∧ ∀ (f : Frame) (k : Content),
      (f.reader k s).directive word line = f.reader k t := by
  cases word with
  | page => exact declare_line_eq hs line fun rest d => d.addPage line rest
  | import_ => exact declare_line_eq hs line fun rest d => d.addImport line rest
  | param => exact declare_line_eq hs line fun rest d => d.addParam line rest
  | code => exact codeBlock_eq hs line

/-- The literal at the position, as it is passed. -/
theorem quoted_eq (hs : s.Sound) : quoted s = some ((Reader.quotedAt s.rest).1,
    if (Reader.quotedAt s.rest).2.2 then
      (s.forward (Reader.quotedAt s.rest).2.1).report s.line .unterminatedString
    else s.forward (Reader.quotedAt s.rest).2.1) := by
  rw [quoted]
  cases hrest : s.rest with
  | nil =>
    rw [ifAtEnd_nil hrest]
    rfl
  | cons c r =>
    rw [ifAtEnd_cons hrest, bind_eq (byte_eq hrest), Reader.quotedAt]
    by_cases hc : c = dquote ∨ c = grave
    · have hquote : (decide (c = dquote) || decide (c = grave)) = true := by simpa using hc
      rw [if_pos hc, hquote, if_pos rfl, bind_eq (position_eq s)]
      rcases hscan : Fragment.literal c r with ⟨closed, n⟩
      cases closed with
      | false =>
        rw [bind_eq (literal_false hrest hscan)]
        rfl
      | true =>
        rw [bind_eq (literal_true hrest hscan), if_pos rfl, bind_eq (position_eq _),
          bind_eq (slice_forward hs _), hrest]
        rfl
    · have hquote : (decide (c = dquote) || decide (c = grave)) = false := by simpa using hc
      rw [if_neg hc, hquote, if_neg Bool.false_ne_true]
      rfl

/-- **A unit that is spliced in.** -/
theorem splice_eq (hs : s.Sound) (line : Nat) : ∃ n t, splice line s = some (n, t)
    ∧ s.Precedes t ∧ ∀ (f : Frame) (k : Content),
      (f.reader k s).splice line = f.reader (k.addNode n) t := by
  have hskip := hs.reads_skip isBlank
  have hs₁ := hskip.precedes.sound
  rw [splice, bind_eq (skipWhile_eq _ s)]
  unfold Reader.splice
  simp only [Frame.reader_cursor, ← s.cursor_skip]
  generalize s.skip isBlank = s₁ at *
  rw [bind_eq (quoted_eq hs₁), State.rest_cursor]
  obtain ⟨path, n, isOpen⟩ := Reader.quotedAt s₁.rest
  have hread : ∃ found, s.Reads (if isOpen = true then
        (s₁.forward n).report s₁.line .unterminatedString else s₁.forward n)
        (s₁.cursor.advance n) found
      ∧ ∀ (f : Frame) (k : Content), (if isOpen = true then
          (f.reader k s).report s₁.cursor.line .unterminatedString else f.reader k s).moveTo
            (s₁.cursor.advance n) = f.reader k (if isOpen = true then
              (s₁.forward n).report s₁.line .unterminatedString else s₁.forward n) := by
    have hforward := hskip.trans (hs₁.reads_forward n)
    cases isOpen with
    | false => exact ⟨_, hforward, fun f k => f.reader_moveTo k hforward⟩
    | true => exact ⟨_, hforward.report _ _, fun f k =>
        congrArg (Reader.report s₁.line .unterminatedString) (f.reader_moveTo k hforward)⟩
  obtain ⟨found, hreads, hreader⟩ := hread
  dsimp only
  generalize (if isOpen = true then (s₁.forward n).report s₁.line .unterminatedString
    else s₁.forward n) = s₂ at *
  cases path with
  | some path =>
    refine ⟨_, _, rfl, hreads.precedes, fun f k => ?_⟩
    dsimp only
    rw [hreader, f.reader_addNode]
  | none =>
    refine ⟨.text [] line, s₂.report line .noIncludePath, rfl, hreads.precedes.report _ _,
      fun f k => ?_⟩
    dsimp only
    rw [hreader, f.reader_report, f.reader_addNode]

end Descent

end Stencil
