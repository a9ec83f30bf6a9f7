import Stencil.Generated.Code
import Stencil.Proofs.Template.WellFormed

/-!
# Generating code with a writer

Render code is defined by what it is: the lines of a piece are the lines of its parts, each
at its place. It can also be produced the way a program would, by a `Writer` that appends
line after line to a text, counts the lines, notes for each the input line it was made
for, and changes its indentation, the pin and the stack of units being spliced as it goes
along. This module defines that writer and shows that it produces the same lines.

That is more than a matter of taste, because a writer has to undo what it did: every
construct that indents must take the indentation back, and every include must restore
the pin and the stack. `Writer.wrote` is the writer after an output, with everything else
as it was; that writing a tree gives `Writer.wrote` of its lines says at once that the
lines are right and that all is restored. The writer also remembers the lowest
indentation it ever had, so that it can be said to never have been negative.
-/

namespace Stencil

open Bytes

/-! ## The text being written -/

/-- **The text a writer has produced so far**, with its own account of it. -/
structure Buffer where
  /-- The text. -/
  text : Bytes := []
  /-- The number of the next line, by the writer's count. -/
  line : Nat := 1
  /-- The zero-based input line noted for each line that has one. -/
  origins : List (Nat × Nat) := []
  /-- For each line that was asked for, the line of the text it really starts on, and the
  zero-based input line it was made for, if any. -/
  calls : List (Nat × Option Nat) := []

/-- The text after one more line of code, made for the one-based input line `src`, zero
for none. -/
def Buffer.put (indent src : Nat) (code : Bytes) (b : Buffer) : Buffer where
  text := b.text ++ (if code.isEmpty then [] else List.replicate indent 0x09 ++ code) ++ [newline]
  line := b.line + 1
  origins := if 0 < src then b.origins ++ [(b.line, src - 1)] else b.origins
  calls := b.calls ++ [(1 + newlines b.text, if 0 < src then some (src - 1) else none)]

/-- The text after a line. -/
def Buffer.push (b : Buffer) (l : Line) : Buffer :=
  b.put l.indent ((l.origin.map (· + 1)).getD 0) l.code

/-- A line is put behind the text, with its line feed. -/
theorem Buffer.push_text (b : Buffer) (l : Line) : (b.push l).text = b.text ++ l.text := by
  show b.text ++ _ ++ [newline] = b.text ++ l.text
  unfold Line.text
  split
  · rw [List.append_nil]
  · rw [List.append_assoc]

/-- Lines written one after another make up the text of a file. -/
theorem Buffer.foldl_push_text (ls : List Line) (b : Buffer) :
    (ls.foldl Buffer.push b).text = b.text ++ Line.textOf ls := by
  induction ls generalizing b with
  | nil => exact (List.append_nil _).symm
  | cons l ls ih =>
    rw [List.foldl_cons, ih, Buffer.push_text, List.append_assoc]
    rfl

/-! ## The writer -/

/-- **A writer of generated code.** -/
structure Writer where
  /-- What it has written. -/
  buffer : Buffer := {}
  /-- The indentation. -/
  indent : Int := 0
  /-- The lowest indentation so far. -/
  lowest : Int := 0
  /-- The one-based line of the outermost include being spliced, zero for none. -/
  pin : Nat := 0
  /-- The units being spliced, outermost first. -/
  including : List Bytes := []
  /-- What was found so far, in order. -/
  findings : List Finding := []

namespace Writer

/-- The line that something on the input line `src` counts for. -/
def lineFor (src : Nat) (w : Writer) : Nat := if 0 < w.pin then w.pin else src

/-- Writes a line of code made for the one-based input line `src`, zero for none. -/
def emit (src : Nat) (code : Bytes) (w : Writer) : Writer :=
  { w with buffer := w.buffer.put w.indent.toNat (w.lineFor src) code }

/-- Changes the indentation. -/
def indentTo (k : Int) (w : Writer) : Writer := { w with indent := k, lowest := min w.lowest k }

/-- One level deeper. -/
def deeper (w : Writer) : Writer := w.indentTo (w.indent + 1)

/-- One level less deep. -/
def shallower (w : Writer) : Writer := w.indentTo (w.indent - 1)

/-- Notes something wrong. -/
def report (line : Nat) (fault : Fault) (w : Writer) : Writer :=
  { w with findings := w.findings ++ [⟨line, fault⟩] }

/-- Writes text, one call per input line. -/
def writeText : List Bytes → Nat → Writer → Writer
  | [], _, w => w
  | seg :: segs, line, w => writeText segs (line + 1) (w.emit line (rawCall seg))

/-- Writes an attribute of a plain element. -/
def writeAttr (w : Writer) (a : Attr) : Writer :=
  w.emit a.line <|
    match a.value with
    | .literal text =>
      rawCall (" " ++ a.name ++ "=\"" ++ replaceByte dquote "&#34;" text ++ "\"")
    | .expr code => "w.Attr(" ++ Quoted.quote a.name ++ ", " ++ code ++ ")"
    | .bare => rawCall (" " ++ a.name)

/-- Writes an attribute of a component tag. -/
def writeArgument (tag : Bytes) (c : Component) (w : Writer) (a : Attr) : Writer :=
  match c.param? a.name with
  | none => w.report a.line (.unknownParam tag a.name)
  | some param => w.emit a.line (a.name ++ ": " ++ argument param a.value ++ ",")

/-- Writes a plain element with the given content. -/
def writeElement (tag : Bytes) (attrs : List Attr) (selfClosing : Bool) (line endLine : Nat)
    (content : Writer → Writer) (w : Writer) : Writer :=
  let w := attrs.foldl writeAttr (w.emit line (rawCall ("<" ++ tag)))
  if ElementName.isVoid tag then w.emit line "w.Raw(\">\")"
  else if selfClosing then w.emit line (rawCall ("></" ++ tag ++ ">"))
  else (content (w.emit line "w.Raw(\">\")")).emit endLine (rawCall ("</" ++ tag ++ ">"))

/-- Writes a component tag with the given content, if it has any. -/
def writeComponent (tag : Bytes) (attrs : List Attr) (line endLine : Nat) (c : Component)
    (qualifier : Bytes) (hasContent : Bool) (content : Writer → Writer) (w : Writer) : Writer :=
  let type := if qualifier.isEmpty then c.name else qualifier ++ "." ++ c.name
  let w := (w.emit line ("w.Component(&" ++ type ++ "\x7b")).deeper
  let w := attrs.foldl (writeArgument tag c) w
  let w :=
    if !hasContent then w
    else if (c.param? "Children").isNone then w.report line (.noChildContent tag)
    else
      let w := (w.emit line
        "Children: []runtime.Component\x7bruntime.Func(func(w *runtime.Buffer) error \x7b").deeper
      ((content w).emit endLine "return nil").shallower.emit endLine "\x7d)\x7d,"
  w.shallower.emit endLine "\x7d)"

end Writer

/-- Whether a node is more than blank text. -/
def Node.isContent : Node → Bool
  | .text value _ => !(trim value).isEmpty
  | _ => true

mutual

/-- **Writes a node**; `splice` writes an include, given its path and line. -/
def Node.write (ctx : RenderContext) (splice : Bytes → Nat → Writer → Writer) :
    Node → Writer → Writer
  | .text value line => Writer.writeText (textSegments value) line
  | .expr code line => Writer.emit line ("w.Text(" ++ code ++ ")")
  | .splice path line => splice path line
  | .loop clause body line endLine => fun w =>
    let w := Node.writeAll ctx splice body (w.emit line ("for " ++ clause ++ " \x7b")).deeper
    w.shallower.emit endLine "\x7d"
  | .choice branches otherwise elseLine endLine => fun w =>
    let w := Branch.writeAll ctx splice true branches w
    let w :=
      if otherwise.isEmpty then w
      else Node.writeAll ctx splice otherwise
        (w.shallower.emit elseLine "\x7d else \x7b").deeper
    w.shallower.emit endLine "\x7d"
  | .element tag attrs children selfClosing line endLine => fun w =>
    let content := Node.writeAll ctx splice children
    if ElementName.isComponent tag then
      match ctx.component tag with
      | .ok (c, qualifier) =>
        w.writeComponent tag attrs line endLine c qualifier (children.any Node.isContent) content
      | .error fault =>
        (w.report line fault).writeElement tag attrs selfClosing line endLine content
    else w.writeElement tag attrs selfClosing line endLine content

/-- Writes nodes. -/
def Node.writeAll (ctx : RenderContext) (splice : Bytes → Nat → Writer → Writer) :
    List Node → Writer → Writer
  | [] => fun w => w
  | n :: ns => fun w => Node.writeAll ctx splice ns (Node.write ctx splice n w)

/-- Writes the branches of a conditional. Every branch but the first ends the one
before. -/
def Branch.writeAll (ctx : RenderContext) (splice : Bytes → Nat → Writer → Writer)
    (first : Bool) : List Branch → Writer → Writer
  | [] => fun w => w
  | b :: bs => fun w =>
    Branch.writeAll ctx splice false bs (Branch.write ctx splice first b w)

/-- Writes a branch. -/
def Branch.write (ctx : RenderContext) (splice : Bytes → Nat → Writer → Writer)
    (first : Bool) : Branch → Writer → Writer
  | .mk cond body line => fun w =>
    let w :=
      if first then w.emit line ("if " ++ cond ++ " \x7b")
      else w.shallower.emit line ("\x7d else if " ++ cond ++ " \x7b")
    Node.writeAll ctx splice body w.deeper

end

namespace Writer

/-- **Writes an include**, following chains of at most `depth` further targets: the body of
the unit it names, with the pin set and the unit on the stack meanwhile. -/
def splice (ctx : RenderContext) (ix : UnitIndex) (self : Bytes) :
    Nat → Bytes → Nat → Writer → Writer
  | 0, _, line, w => w.report (w.lineFor line) (.includeCycle w.including)
  | depth + 1, path, line, w =>
    let target := includeTarget (Splice.currentDir (Path.dir self) w.including) path
    match ix.component? target with
    | none => w.report (w.lineFor line) (.includeNotFound target)
    | some u =>
      if target = self then w.report (w.lineFor line) (.includesItself target)
      else if w.including.contains target then
        w.report (w.lineFor line) (.includeCycle (w.including ++ [target]))
      else
        let outer := w.pin
        let inner := { w with pin := w.lineFor line, including := w.including ++ [target] }
        let after :=
          Node.writeAll ctx (splice ctx ix self depth) (Document.read u.text).1.body inner
        { after with pin := outer, including := after.including.dropLast }

/-! ## What was written -/

/-- Where the writer is. -/
def place (w : Writer) : Place where
  indent := w.indent.toNat
  pin := if 0 < w.pin then some w.pin else none

/-- **The writer after an output**, with everything else as it was. -/
def wrote (o : Output) (w : Writer) : Writer :=
  { w with
    buffer := o.lines.foldl Buffer.push w.buffer
    findings := w.findings ++ o.findings }

/-- The indentation was never negative, nor lower than it was noted. -/
structure Sound (w : Writer) : Prop where
  lowest : 0 ≤ w.lowest
  indent : w.lowest ≤ w.indent

variable {w : Writer}

/-- Outputs that follow one another may be put together in any order. -/
theorem output_append_assoc (a b c : Output) : a ++ b ++ c = a ++ (b ++ c) := by
  show Output.mk _ _ = Output.mk _ _
  rw [Output.append_lines, Output.append_findings, List.append_assoc, List.append_assoc]
  rfl

@[simp] theorem output_append_empty (a : Output) : a ++ {} = a := by
  show Output.mk _ _ = _
  rw [List.append_nil, List.append_nil]

@[simp] theorem wrote_empty : w.wrote {} = w := by
  unfold wrote
  rw [List.append_nil]
  rfl

@[simp] theorem wrote_wrote (a b : Output) : (w.wrote a).wrote b = w.wrote (a ++ b) := by
  unfold wrote
  rw [Output.append_lines, Output.append_findings, List.foldl_append, List.append_assoc]

theorem buffer_wrote (o : Output) : (w.wrote o).buffer = o.lines.foldl Buffer.push w.buffer := rfl

@[simp] theorem place_wrote (o : Output) : (w.wrote o).place = w.place := rfl

@[simp] theorem including_wrote (o : Output) : (w.wrote o).including = w.including := rfl

@[simp] theorem deeper_wrote (o : Output) : (w.wrote o).deeper = w.deeper.wrote o := rfl

@[simp] theorem shallower_wrote (o : Output) : (w.wrote o).shallower = w.shallower.wrote o := rfl

@[simp] theorem including_deeper : w.deeper.including = w.including := rfl

/-- Writing lines leaves the indentation, and how low it ever was, as they are. -/
theorem Sound.wrote (h : w.Sound) (o : Output) : (w.wrote o).Sound := ⟨h.lowest, h.indent⟩

/-- Going deeper cannot make the indentation negative. -/
theorem Sound.deeper (h : w.Sound) : w.deeper.Sound := by
  obtain ⟨hlowest, hindent⟩ := h
  constructor
  · show 0 ≤ min w.lowest (w.indent + 1)
    omega
  · exact Int.min_le_right ..

/-- Going deeper and back changes nothing. -/
theorem Sound.shallower_deeper (h : w.Sound) : w.deeper.shallower = w := by
  obtain ⟨hlowest, hindent⟩ := h
  have hback : w.indent + 1 - 1 = w.indent := Int.add_sub_cancel ..
  have hnoted : min (min w.lowest (w.indent + 1)) w.indent = w.lowest := by omega
  unfold Writer.shallower Writer.deeper indentTo
  dsimp only
  rw [hback, hnoted]

/-- A place further in is indented once more. For the indentation of a writer, which is a number of
any sign, this takes one that is not negative. -/
theorem Sound.place_deeper (h : w.Sound) : w.deeper.place = w.place.deeper := by
  have := h.lowest
  have := h.indent
  have hindent : (w.indent + 1).toNat = w.indent.toNat + 1 := by omega
  unfold Writer.place Place.deeper Writer.deeper indentTo
  dsimp only
  rw [hindent]

/-- The line that is noted for a line of code: the one that is pinned, if any, and otherwise its
own. -/
theorem lineFor_eq (src : Nat) : w.lineFor src = w.place.pin.getD src := by
  unfold lineFor place
  dsimp only
  split <;> rfl

/-- **Writing a line is an output of one line.** -/
theorem emit_eq (src : Nat) (code : Bytes) : w.emit src code = w.wrote (w.place.emit src code) := by
  have hsrc : ((w.place.line src code).origin.map (· + 1)).getD 0 = w.lineFor src := by
    unfold Place.line place lineFor
    dsimp only
    by_cases hpin : 0 < w.pin
    · rw [if_pos hpin, if_pos hpin]
      exact Nat.sub_add_cancel hpin
    · rw [if_neg hpin, if_neg hpin]
      dsimp only
      by_cases hzero : src = 0
      · rw [if_pos hzero, hzero]
        rfl
      · rw [if_neg hzero]
        exact Nat.sub_add_cancel (Nat.pos_of_ne_zero hzero)
  unfold emit wrote Place.emit
  dsimp only [List.foldl_cons, List.foldl_nil]
  rw [Buffer.push, hsrc, List.append_nil]
  rfl

theorem report_eq (line : Nat) (fault : Fault) :
    w.report line fault = w.wrote (.found line fault) := rfl

/-- A loop that writes an output for each element writes them all. -/
theorem foldl_eq {α : Type} {step : Writer → α → Writer} (out : Place → α → Output)
    (hstep : ∀ w a, step w a = w.wrote (out w.place a)) (l : List α) (w : Writer) :
    l.foldl step w = w.wrote (Output.concat (l.map (out w.place))) := by
  induction l generalizing w with
  | nil => exact wrote_empty.symm
  | cons a l ih =>
    rw [List.foldl_cons, ih, hstep, place_wrote, wrote_wrote]
    rfl

/-- **A text is written segment by segment**, one line below the other, with the lines of the input
that it spans. -/
theorem writeText_eq (segs : List Bytes) (line k : Nat) (w : Writer) :
    w.writeText segs (line + k) =
      w.wrote
        { lines := (segs.zipIdx k).map fun (seg, i) => w.place.line (line + i) (rawCall seg) } := by
  induction segs generalizing k w with
  | nil => exact wrote_empty.symm
  | cons seg segs ih =>
    rw [writeText, emit_eq, Nat.add_assoc, ih, wrote_wrote]
    rfl

/-- An attribute is written as a line of its own. -/
theorem writeAttr_eq (w : Writer) (a : Attr) :
    w.writeAttr a = w.wrote (renderAttr w.place a) := emit_eq ..

/-- So is an argument, or nothing is written and the reason is reported. -/
theorem writeArgument_eq (tag : Bytes) (c : Component) (w : Writer) (a : Attr) :
    w.writeArgument tag c a = w.wrote (renderArgument w.place tag c a) := by
  unfold writeArgument renderArgument
  cases c.param? a.name with
  | none => exact report_eq ..
  | some param => exact emit_eq ..

/-- **An element is written from its tag to its end.** What it holds is written in between by
`content`, of which it is only known that it writes some output at this place and restores the
writer; the element does so as well then. -/
theorem writeElement_eq (tag : Bytes) (attrs : List Attr) (selfClosing : Bool)
    (line endLine : Nat) {content : Writer → Writer} {out : Output} (hw : w.Sound)
    (hcontent : ∀ v : Writer, v.Sound → v.place = w.place → v.including = w.including →
      content v = v.wrote out) :
    w.writeElement tag attrs selfClosing line endLine content =
      w.wrote (w.place.emit line (rawCall ("<" ++ tag))
        ++ Output.concat (attrs.map (renderAttr w.place))
        ++ if ElementName.isVoid tag then w.place.emit line "w.Raw(\">\")"
          else if selfClosing then w.place.emit line (rawCall ("></" ++ tag ++ ">"))
          else w.place.emit line "w.Raw(\">\")" ++ out
            ++ w.place.emit endLine (rawCall ("</" ++ tag ++ ">"))) := by
  unfold writeElement
  simp only [foldl_eq renderAttr writeAttr_eq, emit_eq, place_wrote, wrote_wrote]
  split
  · rfl
  · split
    · rfl
    · rw [hcontent _ (hw.wrote _) rfl rfl]
      simp only [place_wrote, wrote_wrote, output_append_assoc]

/-- The lines of a component tag with the given content. -/
theorem writeComponent_eq (tag : Bytes) (attrs : List Attr) (line endLine : Nat) (c : Component)
    (qualifier : Bytes) (hasContent : Bool) {content : Writer → Writer} {out : Output}
    (hw : w.Sound)
    (hcontent : ∀ v : Writer, v.Sound → v.place = w.place.deeper.deeper →
      v.including = w.including → content v = v.wrote out) :
    w.writeComponent tag attrs line endLine c qualifier hasContent content =
      w.wrote (w.place.emit line ("w.Component(&"
          ++ (if qualifier.isEmpty then c.name else qualifier ++ "." ++ c.name) ++ "\x7b")
        ++ Output.concat (attrs.map (renderArgument w.place.deeper tag c))
        ++ (if !hasContent then {}
          else if (c.param? "Children").isNone then .found line (.noChildContent tag)
          else
            w.place.deeper.emit line
                "Children: []runtime.Component\x7bruntime.Func(func(w *runtime.Buffer) error \x7b"
              ++ out
              ++ w.place.deeper.deeper.emit endLine "return nil"
              ++ w.place.deeper.emit endLine "\x7d)\x7d,")
        ++ w.place.emit endLine "\x7d)") := by
  have hplace := hw.place_deeper
  have hplace' := hw.deeper.place_deeper
  rw [hplace] at hplace'
  have hargs : ∀ v : Writer, attrs.foldl (writeArgument tag c) v
      = v.wrote (Output.concat (attrs.map (renderArgument v.place tag c))) :=
    foldl_eq (fun p => renderArgument p tag c) (writeArgument_eq tag c) attrs
  unfold writeComponent
  simp only [hargs, emit_eq, deeper_wrote, place_wrote, wrote_wrote,
    hplace]
  cases hasContent with
  | false =>
    simp only [Bool.not_false, if_true, shallower_wrote, hw.shallower_deeper, place_wrote,
      wrote_wrote, output_append_empty]
  | true =>
    simp only [Bool.not_true, Bool.false_eq_true, if_false]
    split
    · simp only [report_eq, wrote_wrote, shallower_wrote, hw.shallower_deeper, place_wrote]
    · rw [hcontent _ (hw.deeper.deeper.wrote _) hplace' rfl]
      simp only [wrote_wrote, shallower_wrote, hw.shallower_deeper, hw.deeper.shallower_deeper,
        place_wrote, hplace, hplace', output_append_assoc]

end Writer

/-! ## Writing trees -/

section Trees

variable {ctx : RenderContext} {splice : Bytes → Nat → Writer → Writer}
  {f : List Bytes → Bytes → Nat → Piece}

/-- An include is never blank text, so it counts as content. -/
theorem Node.isContent_pieces {g : Bytes → Nat → Piece}
    (hg : ∀ path line, (g path line).isContent = true) (n : Node) :
    (n.pieces g).isContent = n.isContent := by
  cases n with
  | splice path line => exact hg path line
  | text | expr | loop | choice | element => rfl

/-- Whether there is anything to show inside a component can be told from the nodes or from the
pieces. -/
theorem Node.any_isContent_piecesAll {g : Bytes → Nat → Piece}
    (hg : ∀ path line, (g path line).isContent = true) (ns : List Node) :
    (Node.piecesAll g ns).any Piece.isContent = ns.any Node.isContent := by
  induction ns with
  | nil => rfl
  | cons n ns ih => rw [Node.piecesAll, List.any_cons, List.any_cons, ih, n.isContent_pieces hg]

/-- Nodes become pieces one by one. -/
theorem Node.isEmpty_piecesAll (g : Bytes → Nat → Piece) (ns : List Node) :
    (Node.piecesAll g ns).isEmpty = ns.isEmpty := by
  cases ns <;> rfl

/-- **Writing an include gives the lines of the piece it becomes**, which depends on the
units being spliced, and restores everything else. -/
structure Writer.Splices (ctx : RenderContext) (splice : Bytes → Nat → Writer → Writer)
    (f : List Bytes → Bytes → Nat → Piece) : Prop where
  write : ∀ (path : Bytes) (line : Nat) (w : Writer), 0 < line → w.Sound →
    splice path line w = w.wrote ((f w.including path line).render ctx w.place)
  content : ∀ chain path line, (f chain path line).isContent = true

mutual

/-- **Writing a node gives the lines of its piece** and restores everything else, as long
as writing an include does. -/
theorem Node.write_eq (hs : Writer.Splices ctx splice f) :
    ∀ (n : Node) (w : Writer), n.WellFormed → w.Sound →
      n.write ctx splice w = w.wrote ((n.pieces (f w.including)).render ctx w.place)
  | .text value line, w, _, _ => by
    rw [Node.write, Node.pieces, Piece.render]
    exact w.writeText_eq (textSegments value) line 0
  | .expr code line, w, _, _ => Writer.emit_eq ..
  | .splice path line, w, hn, hw => hs.write path line w hn hw
  | .loop clause body line endLine, w, hn, hw => by
    rw [Node.write, Node.pieces, Piece.render]
    simp only [Writer.emit_eq, Writer.deeper_wrote]
    rw [Node.writeAll_eq hs body _ hn (hw.deeper.wrote _)]
    simp only [Writer.place_wrote, Writer.wrote_wrote, Writer.including_wrote,
      Writer.including_deeper, hw.place_deeper, Writer.shallower_wrote, hw.shallower_deeper]
  | .choice branches otherwise elseLine endLine, w, hn, hw => by
    obtain ⟨hne, hbranches, hotherwise⟩ := hn
    rw [Node.write, Node.pieces, Piece.render, Node.isEmpty_piecesAll]
    simp only [Branch.writeAll_eq hs branches w hne hbranches hw, Writer.emit_eq]
    cases otherwise with
    | nil =>
      simp only [List.isEmpty_nil, if_true, Writer.shallower_wrote, hw.shallower_deeper,
        Writer.place_wrote, Writer.wrote_wrote, Node.piecesAll, Piece.renderAll,
        Writer.output_append_empty]
    | cons n ns =>
      simp only [List.isEmpty_cons, Bool.false_eq_true, if_false, Writer.shallower_wrote,
        hw.shallower_deeper, Writer.deeper_wrote, Writer.place_wrote, Writer.wrote_wrote]
      rw [Node.writeAll_eq hs (n :: ns) _ hotherwise (hw.deeper.wrote _)]
      simp only [Writer.place_wrote, Writer.wrote_wrote, Writer.including_wrote,
        Writer.including_deeper, hw.place_deeper, Writer.shallower_wrote, hw.shallower_deeper]
  | .element tag attrs children selfClosing line endLine, w, hn, hw => by
    have hcontent : ∀ (p : Place) (v : Writer), v.Sound → v.place = p →
        v.including = w.including → Node.writeAll ctx splice children v
          = v.wrote (Piece.renderAll ctx p (Node.piecesAll (f w.including) children)) := by
      intro p v hv hplace hincluding
      rw [Node.writeAll_eq hs children v hn.2.2.1 hv, hplace, hincluding]
    have hplain := fun (v : Writer) (hv : v.Sound) (hplace : v.place = w.place)
        (hincluding : v.including = w.including) =>
      v.writeElement_eq tag attrs selfClosing line endLine hv fun v' hv' hplace' hincluding' =>
        hcontent w.place v' hv' (hplace'.trans hplace) (hincluding'.trans hincluding)
    rw [Node.write, Node.pieces, Piece.render]
    dsimp only
    split
    · cases hc : ctx.component tag with
      | error fault =>
        dsimp only
        rw [Writer.report_eq, hplain _ (hw.wrote _) rfl rfl, Writer.wrote_wrote]
        simp only [Writer.place_wrote, Writer.output_append_assoc]
      | ok found =>
        obtain ⟨c, qualifier⟩ := found
        dsimp only
        rw [w.writeComponent_eq tag attrs line endLine c qualifier _ hw
          (hcontent w.place.deeper.deeper), Node.any_isContent_piecesAll (hs.content w.including)]
    · rw [hplain w hw rfl rfl]
      rfl

/-- Writing nodes gives the lines of their pieces. -/
theorem Node.writeAll_eq (hs : Writer.Splices ctx splice f) :
    ∀ (ns : List Node) (w : Writer), Node.AllWellFormed ns → w.Sound →
      Node.writeAll ctx splice ns w
        = w.wrote (Piece.renderAll ctx w.place (Node.piecesAll (f w.including) ns))
  | [], w, _, _ => Writer.wrote_empty.symm
  | n :: ns, w, hns, hw => by
    rw [Node.writeAll, Node.piecesAll, Piece.renderAll]
    dsimp only
    rw [Node.write_eq hs n w hns.1 hw, Node.writeAll_eq hs ns _ hns.2 (hw.wrote _)]
    exact Writer.wrote_wrote _ _

/-- Writing the branches of a conditional gives their lines, and leaves the last one
open. -/
theorem Branch.writeAll_eq (hs : Writer.Splices ctx splice f) :
    ∀ (bs : List Branch) (w : Writer), bs ≠ [] → Branch.AllWellFormed bs → w.Sound →
      Branch.writeAll ctx splice true bs w = w.deeper.wrote
        (PieceBranch.renderAll ctx w.place "if " (Branch.piecesAll (f w.including) bs))
  | [], _, hne, _, _ => absurd rfl hne
  | .mk cond body line :: bs, w, _, hbs, hw => by
    rw [Branch.writeAll, Branch.piecesAll, PieceBranch.renderAll, Branch.write, Branch.pieces,
      PieceBranch.render]
    simp only [if_true, Writer.emit_eq, Writer.deeper_wrote]
    rw [Node.writeAll_eq hs body _ hbs.1 (hw.deeper.wrote _), Writer.wrote_wrote,
      ← Writer.deeper_wrote, Branch.writeAll_open_eq hs bs _ hbs.2 (hw.wrote _)]
    simp only [Writer.deeper_wrote, Writer.place_wrote, Writer.including_wrote,
      Writer.including_deeper, hw.place_deeper, Writer.wrote_wrote]

/-- Further branches of a conditional, written where the branch before is still open. -/
theorem Branch.writeAll_open_eq (hs : Writer.Splices ctx splice f) :
    ∀ (bs : List Branch) (w : Writer), Branch.AllWellFormed bs → w.Sound →
      Branch.writeAll ctx splice false bs w.deeper = w.deeper.wrote
        (PieceBranch.renderAll ctx w.place "\x7d else if " (Branch.piecesAll (f w.including) bs))
  | [], w, _, _ => Writer.wrote_empty.symm
  | .mk cond body line :: bs, w, hbs, hw => by
    rw [Branch.writeAll, Branch.piecesAll, PieceBranch.renderAll, Branch.write, Branch.pieces,
      PieceBranch.render]
    simp only [Bool.false_eq_true, if_false, hw.shallower_deeper, Writer.emit_eq,
      Writer.deeper_wrote]
    rw [Node.writeAll_eq hs body _ hbs.1 (hw.deeper.wrote _), Writer.wrote_wrote,
      ← Writer.deeper_wrote, Branch.writeAll_open_eq hs bs _ hbs.2 (hw.wrote _)]
    simp only [Writer.deeper_wrote, Writer.place_wrote, Writer.including_wrote,
      Writer.including_deeper, hw.place_deeper, Writer.wrote_wrote]

end

end Trees

/-! ## Includes -/

/-- An include counts as something to show, even one that is not found. -/
theorem Splice.isContent_includePiece (ix : UnitIndex) (self : Bytes) (depth : Nat)
    (chain : List Bytes) (path : Bytes) (line : Nat) :
    (includePiece ix self depth chain path line).isContent = true := by
  cases depth with
  | zero => rfl
  | succ depth =>
    unfold includePiece
    dsimp only
    split <;> rfl

namespace Writer

/-- A fault of an include counts for the pin. -/
theorem report_lineFor (w : Writer) (ctx : RenderContext) (line : Nat) (fault : Fault) :
    w.report (w.lineFor line) fault = w.wrote ((Piece.broken line fault).render ctx w.place) := by
  rw [lineFor_eq]
  rfl

/-- Inside an include everything counts for the pin. -/
theorem place_pinned (w : Writer) {line : Nat} (hline : 0 < line) (chain : List Bytes) :
    place { w with pin := w.lineFor line, including := chain }
      = { w.place with pin := some (w.place.pin.getD line) } := by
  have hpos : 0 < w.lineFor line := by
    unfold lineFor
    split
    · assumption
    · exact hline
  rw [← lineFor_eq]
  unfold place
  dsimp only
  rw [if_pos hpos]

/-- **Writing an include gives the lines of the unit it names, and restores the pin and
the stack.** -/
theorem splices (ctx : RenderContext) (ix : UnitIndex) (self : Bytes) (depth : Nat) :
    Splices ctx (splice ctx ix self depth) (Splice.includePiece ix self depth) := by
  induction depth with
  | zero =>
    refine ⟨fun path line w _ _ => ?_, Splice.isContent_includePiece ix self 0⟩
    exact w.report_lineFor ctx line _
  | succ depth ih =>
    refine ⟨fun path line w hline hw => ?_, Splice.isContent_includePiece ix self (depth + 1)⟩
    unfold splice Splice.includePiece Splice.obstacle?
    dsimp only
    generalize includeTarget (Splice.currentDir (Path.dir self) w.including) path = target
    cases hunit : ix.component? target with
    | none => exact w.report_lineFor ctx line _
    | some u =>
      simp only [Option.isNone_some, Bool.false_eq_true, if_false]
      by_cases hself : target = self
      · rw [if_pos hself, if_pos hself]
        exact w.report_lineFor ctx line _
      · rw [if_neg hself, if_neg hself]
        by_cases hchain : w.including.contains target = true
        · rw [if_pos hchain, if_pos hchain]
          exact w.report_lineFor ctx line _
        · rw [if_neg hchain, if_neg hchain]
          have hbody := Node.allWellFormed_iff.2 (Document.wellFormed_read u.text).body
          have hinner : Sound
              { w with pin := w.lineFor line, including := w.including ++ [target] } :=
            ⟨hw.lowest, hw.indent⟩
          rw [Node.writeAll_eq ih _ _ hbody hinner, w.place_pinned hline, Piece.render]
          dsimp only [wrote]
          rw [List.dropLast_concat]

/-- **Writing a body gives the lines of its pieces**, and restores the indentation, the
pin and the stack. -/
theorem writeAll_expand (ctx : RenderContext) (ix : UnitIndex) (self input : Bytes)
    {body : List Node} (hbody : ∀ n ∈ body, n.WellFormed) {w : Writer} (hw : w.Sound)
    (hincluding : w.including = []) :
    Node.writeAll ctx (splice ctx ix self (Splice.depthBound ix self input)) body w
      = w.wrote (Piece.renderAll ctx w.place (Splice.expand ix self input body)) := by
  rw [Node.writeAll_eq (splices ctx ix self _) body w (Node.allWellFormed_iff.2 hbody) hw,
    hincluding]
  rfl

end Writer

end Stencil
