import Stencil.Proofs.Generated.Writer

/-!
# The two modes of generation

A component is generated twice, first as a declaration and then in full, and the full code
is compiled as if it had the shape of the declaration. That is right because the two files
agree outside the body of `Render`. Here the whole file is written by a `Writer`, in either
mode, and compared with the lines of `Generate.unit`: the writer produces exactly these,
its indentation is never negative on the way, and behind the body its indentation, its pin
and its stack of units are what they were before it.
-/

namespace Stencil

open Bytes

theorem Line.textOf_append (a b : List Line) :
    Line.textOf (a ++ b) = Line.textOf a ++ Line.textOf b := List.flatMap_append

/-- A text of lines ends with a line feed. -/
theorem Line.textOf_ends (ls : List Line) (h : ls ≠ []) :
    ∃ above, Line.textOf ls = above ++ [newline] := by
  have hlast : ∀ l : Line, ∃ s, Line.textOf [l] = s ++ [newline] := by
    intro l
    show ∃ s, l.text ++ [] = _
    rw [List.append_nil, Line.text]
    split
    · exact ⟨[], rfl⟩
    · exact ⟨_, rfl⟩
  obtain ⟨s, hs⟩ := hlast (ls.getLast h)
  refine ⟨Line.textOf ls.dropLast ++ s, ?_⟩
  rw [List.append_assoc, ← hs, ← Line.textOf_append, List.dropLast_append_getLast h]

theorem Output.ext {a b : Output} (hlines : a.lines = b.lines)
    (hfindings : a.findings = b.findings) : a = b := by
  obtain ⟨lines, findings⟩ := a
  rw [Output.mk.injEq]
  exact ⟨hlines, hfindings⟩

namespace Writer

/-! ## Writing a file -/

/-- Writes an empty line. -/
def blank (w : Writer) : Writer := w.emit 0 []

/-- Writes an import, unless it is the runtime, which every file imports. -/
def writeImport (w : Writer) (i : ImportDirective) : Writer :=
  if i.path = runtimePath && i.name = "runtime" then w
  else
    w.emit (if i.inherited then 0 else i.line)
      (if i.localName.isEmpty then Quoted.quote i.path
        else i.localName ++ " " ++ Quoted.quote i.path)

/-- Writes the field of a parameter. -/
def writeField (w : Writer) (p : ParamDirective) : Writer :=
  w.emit p.line (p.name ++ " " ++ p.type)

/-- Writes the route of the component, if it has one. -/
def writeRoute (typeName : Bytes) (page : Option PageDirective) (w : Writer) : Writer :=
  match page with
  | none => w
  | some page =>
    let w := (w.emit page.line ("func (c *" ++ typeName ++ ") Route() string \x7b")).deeper
    let w := (w.emit page.line ("return " ++ Quoted.quote page.route)).shallower
    (w.emit 0 "\x7d").blank

/-- Writes everything up to and including the signature of `Render`. -/
def writePreamble (self package typeName : Bytes) (d : Document) (w : Writer) : Writer :=
  let w := (w.emit 0 ("// Code generated by templc from " ++ self ++ ". DO NOT EDIT.")).blank
  let w := (w.emit 0 ("package " ++ package)).blank
  let w := (w.emit 0 "import (").deeper.emit 0 (Quoted.quote runtimePath)
  let w := (d.imports.foldl writeImport w).shallower
  let w := (w.emit 0 ")").blank
  let w := (w.emit 0 ("type " ++ typeName ++ " struct \x7b")).deeper
  let w := (d.params.foldl writeField w).shallower
  let w := (w.emit 0 "\x7d").blank
  let w := w.writeRoute typeName d.page
  w.emit 0 ("func (c *" ++ typeName ++ ") Render(w *runtime.Buffer) error \x7b")

/-- Writes the local variable of a parameter. -/
def writeParam (w : Writer) (p : ParamDirective) : Writer :=
  (w.emit p.line (p.name ++ " := c." ++ p.name)).emit p.line ("_ = " ++ p.name)

/-- Writes the body of `Render` up to its last line. A declaration only reports what is
wrong with its includes. -/
def writeBody (mode : Mode) (resolver : Resolver) (ix : UnitIndex) (self input : Bytes)
    (d : Document) (w : Writer) : Writer :=
  match mode with
  | .full =>
    Node.writeAll { imports := d.imports, resolver }
      (splice { imports := d.imports, resolver } ix self (Splice.depthBound ix self input)) d.body
      (d.params.foldl writeParam w)
  | .declaration =>
    (Node.includeFindingsAll ix self d.body).foldl (fun w f => w.report f.line f.fault) w

/-- The last line of the body of `Render`. -/
def lastLine : Mode → Bytes
  | .full => "return w.Err()"
  | .declaration => "return nil"

/-- Writes a block of declarations, whose lines keep their own indentation. -/
def writeCode (w : Writer) (block : CodeBlock) : Writer :=
  block.lines.zipIdx.foldl
    (fun w (l, i) => ((w.indentTo 0).emit (block.line + i) l).indentTo w.indent) w.blank

/-- Writes everything behind the body of `Render`. -/
def writePostamble (d : Document) (w : Writer) : Writer :=
  d.code.foldl writeCode (w.emit 0 "\x7d")

end Writer

/-- The document of a unit with the imports it inherits. -/
def SourceUnit.document (u : SourceUnit) (input : Bytes) (ix : UnitIndex) : Document :=
  ((Document.read input).1.inheritImports ix u.path input).1

/-- The name of the package, if none is given. -/
def packageOr (package : Bytes) : Bytes := if package.isEmpty then defaultPackageName else package

namespace Writer

/-- The writer in front of the body of `Render`. -/
def beforeBody (u : SourceUnit) (input : Bytes) (ix : UnitIndex) (package : Bytes) : Writer :=
  (writePreamble u.path (packageOr package) (Naming.typeName u.path)
    (u.document input ix) {}).deeper

/-- The writer behind the body of `Render`, in front of its last line. -/
def afterBody (u : SourceUnit) (input : Bytes) (mode : Mode) (ix : UnitIndex)
    (resolver : Resolver) (package : Bytes) : Writer :=
  (beforeBody u input ix package).writeBody mode resolver ix u.path input (u.document input ix)

/-- **The writer after the whole file of a unit.** -/
def ofUnit (u : SourceUnit) (input : Bytes) (mode : Mode) (ix : UnitIndex)
    (resolver : Resolver) (package : Bytes) : Writer :=
  ((afterBody u input mode ix resolver package).emit 0 (lastLine mode)).shallower.writePostamble
    (u.document input ix)

/-! ## What is written -/

/-- **The writer is indented `k` levels and never was indented less than not at all**, and
no include is being spliced. -/
structure AtLevel (k : Nat) (w : Writer) : Prop where
  lowest : w.lowest = 0
  indent : w.indent = k
  pin : w.pin = 0
  including : w.including = []

variable {w : Writer} {k : Nat}

theorem AtLevel.sound (h : w.AtLevel k) : w.Sound := by
  have hlowest := h.lowest
  have hindent := h.indent
  exact ⟨by omega, by omega⟩

theorem AtLevel.place (h : w.AtLevel k) : w.place = { indent := k } := by
  unfold Writer.place
  rw [h.indent, h.pin]
  rfl

theorem AtLevel.wrote (h : w.AtLevel k) (o : Output) : (w.wrote o).AtLevel k :=
  ⟨h.lowest, h.indent, h.pin, h.including⟩

theorem AtLevel.deeper (h : w.AtLevel k) : w.deeper.AtLevel (k + 1) := by
  have hindent := h.indent
  refine ⟨?_, ?_, h.pin, h.including⟩
  · show min w.lowest (w.indent + 1) = 0
    rw [h.lowest]
    omega
  · show w.indent + 1 = _
    omega

theorem AtLevel.emit (h : w.AtLevel k) (src : Nat) (code : Bytes) :
    w.emit src code = w.wrote { lines := [Generate.line k src code] } := by
  rw [emit_eq, h.place]
  rfl

theorem wrote_lines (a b : List Line) :
    (w.wrote { lines := a }).wrote { lines := b } = w.wrote { lines := a ++ b } :=
  wrote_wrote _ _

/-- A loop that writes lines for each element writes them all. -/
theorem AtLevel.foldl {α : Type} {step : Writer → α → Writer} {out : α → List Line}
    (hstep : ∀ (w : Writer) (a : α), w.AtLevel k → step w a = w.wrote { lines := out a })
    (h : w.AtLevel k) (l : List α) : l.foldl step w = w.wrote { lines := l.flatMap out } := by
  induction l generalizing w with
  | nil => exact wrote_empty.symm
  | cons a l ih => rw [List.foldl_cons, hstep w a h, ih (h.wrote _), wrote_lines, List.flatMap_cons]

/-- Writing line by line what is not left out is writing the lines of the rest. -/
theorem flatMap_unless {α : Type} (p : α → Bool) (g : α → Line) (l : List α) :
    (l.flatMap fun a => if p a then [] else [g a]) = (l.filter fun a => !p a).map g := by
  induction l with
  | nil => rfl
  | cons a l ih =>
    rw [List.flatMap_cons, List.filter_cons, ih]
    cases p a <;> rfl

theorem writePreamble_eq (h : w.AtLevel 0) (self package typeName : Bytes) (d : Document) :
    w.writePreamble self package typeName d
      = w.wrote { lines := Generate.preamble self package typeName d } := by
  have himports : ∀ v : Writer, v.AtLevel 1 → d.imports.foldl writeImport v = v.wrote
      { lines := (d.imports.filter fun (i : ImportDirective) =>
            !(i.path = runtimePath && i.name = "runtime")).map fun i =>
          Generate.line 1 (if i.inherited then 0 else i.line)
            (if i.localName.isEmpty then Quoted.quote i.path
              else i.localName ++ " " ++ Quoted.quote i.path) } := by
    intro v hv
    rw [← flatMap_unless]
    refine hv.foldl (fun u i hu => ?_) d.imports
    unfold writeImport
    split
    · exact wrote_empty.symm
    · exact hu.emit _ _
  have hfields : ∀ v : Writer, v.AtLevel 1 → d.params.foldl writeField v = v.wrote
      { lines := d.params.map fun p => Generate.line 1 p.line (p.name ++ " " ++ p.type) } := by
    intro v hv
    rw [← List.flatMap_singleton' (d.params.map _), List.flatMap_map]
    refine hv.foldl (fun u p hu => ?_) d.params
    exact hu.emit _ _
  have hroute : ∀ v : Writer, v.AtLevel 0 → v.writeRoute typeName d.page = v.wrote
      { lines := Generate.routeLines typeName d.page } := by
    intro v hv
    unfold writeRoute Generate.routeLines
    cases d.page with
    | none => exact wrote_empty.symm
    | some page =>
      simp only [blank, emit_eq, deeper_wrote, shallower_wrote, place_wrote, wrote_wrote,
        hv.sound.shallower_deeper, hv.place, hv.deeper.place]
      rfl
  unfold writePreamble
  simp only [blank, emit_eq, deeper_wrote, shallower_wrote, place_wrote, wrote_wrote,
    himports _ (h.deeper.wrote _), hfields _ (h.deeper.wrote _), hroute _ (h.wrote _),
    h.sound.shallower_deeper, h.place, h.deeper.place]
  refine congrArg (Writer.wrote · w) (Output.ext ?_ ?_)
  · simp [Generate.preamble, Generate.importLines, Generate.typeLines, Generate.line,
      Generate.blank, Place.emit]
  · rfl

/-- What writing the body of `Render` adds, without its last line. -/
def bodyOutput (mode : Mode) (resolver : Resolver) (ix : UnitIndex) (self input : Bytes)
    (d : Document) : Output :=
  match mode with
  | .full =>
    { lines := Generate.paramLines d.params }
      ++ Piece.renderAll { imports := d.imports, resolver } { indent := 1 }
        (Splice.expand ix self input d.body)
  | .declaration => { findings := Node.includeFindingsAll ix self d.body }

/-- **Writing the body restores everything**: the indentation, the pin and the stack of
units are what they were, and the body's output is added. -/
theorem writeBody_eq (h : w.AtLevel 1) (mode : Mode) (resolver : Resolver) (ix : UnitIndex)
    (self input : Bytes) {d : Document} (hd : d.WellFormed) :
    w.writeBody mode resolver ix self input d
      = w.wrote (bodyOutput mode resolver ix self input d) := by
  cases mode with
  | declaration =>
    have hreports : ∀ (fs : List Finding) (v : Writer),
        fs.foldl (fun v f => v.report f.line f.fault) v = v.wrote { findings := fs } := by
      intro fs
      induction fs with
      | nil => exact fun v => wrote_empty.symm
      | cons f fs ih =>
        intro v
        rw [List.foldl_cons, ih, report_eq, wrote_wrote]
        rfl
    exact hreports _ w
  | full =>
    have hparams : d.params.foldl writeParam w
        = w.wrote { lines := Generate.paramLines d.params } := by
      refine h.foldl (fun v p hv => ?_) d.params
      rw [writeParam, hv.emit, (hv.wrote _).emit, wrote_lines]
      rfl
    unfold writeBody bodyOutput
    dsimp only
    rw [hparams, writeAll_expand _ ix self input hd.body (h.sound.wrote _) h.including,
      wrote_wrote, place_wrote, h.place]

/-- The lines behind the body, whose indentation is set and taken back line by line. -/
theorem writePostamble_eq (h : w.AtLevel 0) (d : Document) :
    w.writePostamble d = w.wrote { lines := Generate.postamble d } := by
  have hset : ∀ v : Writer, v.AtLevel 0 → v.indentTo 0 = v := by
    intro v hv
    have hlowest := hv.lowest
    have hindent := hv.indent
    obtain ⟨buffer, indent, lowest, pin, including, findings⟩ := v
    cases hlowest
    cases hindent
    rfl
  have hcode : ∀ (v : Writer) (block : CodeBlock), v.AtLevel 0 → v.writeCode block = v.wrote
      { lines := Generate.blank
          :: block.lines.zipIdx.map fun (l, i) => Generate.line 0 (block.line + i) l } := by
    intro v block hv
    have hblank : v.blank = v.wrote { lines := [Generate.blank] } := hv.emit 0 []
    unfold writeCode
    rw [hblank, (hv.wrote _).foldl (fun u li hu => ?_), wrote_lines, ← List.map_eq_flatMap]
    · rfl
    · show ((u.indentTo 0).emit (block.line + li.2) li.1).indentTo u.indent = _
      rw [hset u hu, hu.emit, hu.indent]
      exact hset _ (hu.wrote _)
  unfold writePostamble
  rw [h.emit, (h.wrote _).foldl hcode, wrote_lines]
  rfl

end Writer

/-! ## The document -/

section Kept

variable {spans taken : List Bytes} {offered : List ImportDirective} {o i : ImportDirective}

/-- An offered import that is kept keeps its name, which is not taken. -/
theorem offerImport_eq_some (h : offerImport spans taken o = some i) :
    i = { o with inherited := true } ∧ o.name ∉ taken
      ∧ (o.name = "_" ∨ ∃ s ∈ spans, refersTo s o.name = true) := by
  unfold offerImport at h
  split_ifs at h with htaken hneeded
  refine ⟨(Option.some.inj h).symm, fun hmem => htaken (List.contains_iff_mem.2 hmem), ?_⟩
  by_cases hblank : o.name = "_"
  · exact .inl hblank
  · refine .inr (List.any_eq_true.1 ?_)
    simpa [hblank] using hneeded

/-- An offered import is left out, or kept in front of what is kept of the rest. -/
theorem keepImports_cons (spans taken : List Bytes) (o : ImportDirective)
    (offered : List ImportDirective) :
    (offerImport spans taken o = none
        ∧ keepImports spans taken (o :: offered) = keepImports spans taken offered)
      ∨ (offerImport spans taken o = some { o with inherited := true }
        ∧ keepImports spans taken (o :: offered)
          = { o with inherited := true } :: keepImports spans (o.name :: taken) offered) := by
  rw [keepImports]
  cases h : offerImport spans taken o with
  | none => exact .inl ⟨rfl, rfl⟩
  | some i =>
    obtain ⟨rfl, -, -⟩ := offerImport_eq_some h
    exact .inr ⟨rfl, rfl⟩

/-- The imports that are kept are offered ones, under the same name. -/
theorem exists_of_mem_keepImports (h : i ∈ keepImports spans taken offered) :
    ∃ o ∈ offered, i.localName = o.localName := by
  induction offered generalizing taken with
  | nil => cases h
  | cons o offered ih =>
    have hlater : ∀ taken, i ∈ keepImports spans taken offered →
        ∃ o' ∈ o :: offered, i.localName = o'.localName := fun taken hi =>
      let ⟨o', ho', hname⟩ := ih hi
      ⟨o', List.mem_cons_of_mem _ ho', hname⟩
    rcases keepImports_cons spans taken o offered with ⟨-, heq⟩ | ⟨-, heq⟩
    · exact hlater _ (heq ▸ h)
    · rcases List.mem_cons.1 (heq ▸ h) with rfl | h
      · exact ⟨o, List.mem_cons_self .., rfl⟩
      · exact hlater _ h

end Kept

theorem SourceUnit.wellFormed_document (u : SourceUnit) (input : Bytes) (ix : UnitIndex) :
    (u.document input ix).WellFormed := by
  have hown := Document.wellFormed_read input
  refine ⟨⟨?_, hown.params, hown.code⟩, hown.body⟩
  refine List.forall_mem_append.2 ⟨fun i hi => ?_, hown.imports⟩
  obtain ⟨o, ho, hname⟩ := exists_of_mem_keepImports hi
  obtain ⟨⟨v, doc, findings⟩, hdoc, ho⟩ := List.mem_flatMap.1 ho
  obtain ⟨v', -, heq⟩ := List.mem_map.1 hdoc
  cases heq
  rw [hname]
  exact (Document.wellFormed_read _).imports o ho

/-! ## The two files -/

@[simp] theorem Generate.code_line (k src : Nat) (code : Bytes) :
    (line k src code).code = code := rfl

@[simp] theorem Generate.code_blank : blank.code = [] := rfl

/-- The lines of a unit, with the last line of the body told apart. -/
theorem Generate.lines_unit (u : SourceUnit) (input : Bytes) (mode : Mode) (ix : UnitIndex)
    (resolver : Resolver) (package : Bytes) :
    (Generate.unit u input mode ix resolver package).lines
      = Generate.preamble u.path (packageOr package) (Naming.typeName u.path)
          (u.document input ix)
        ++ (Writer.bodyOutput mode resolver ix u.path input (u.document input ix)).lines
        ++ [Generate.line 1 0 (Writer.lastLine mode)]
        ++ Generate.postamble (u.document input ix) := by
  unfold Generate.unit
  dsimp only
  cases mode <;>
    simp [Writer.bodyOutput, Generate.body, Writer.lastLine, SourceUnit.document, packageOr]

namespace Writer

theorem beforeBody_eq (u : SourceUnit) (input : Bytes) (ix : UnitIndex) (package : Bytes) :
    (beforeBody u input ix package).AtLevel 1
    ∧ beforeBody u input ix package = (deeper {}).wrote
      { lines := Generate.preamble u.path (packageOr package) (Naming.typeName u.path)
          (u.document input ix) } := by
  have hstart : ({} : Writer).AtLevel 0 := ⟨rfl, rfl, rfl, rfl⟩
  unfold beforeBody
  rw [writePreamble_eq hstart, deeper_wrote]
  exact ⟨hstart.deeper.wrote _, rfl⟩

theorem afterBody_eq (u : SourceUnit) (input : Bytes) (mode : Mode) (ix : UnitIndex)
    (resolver : Resolver) (package : Bytes) :
    afterBody u input mode ix resolver package = (beforeBody u input ix package).wrote
      (bodyOutput mode resolver ix u.path input (u.document input ix)) :=
  writeBody_eq (beforeBody_eq u input ix package).1 mode resolver ix u.path input
    (u.wellFormed_document input ix)

/-- **The writer writes the lines of the unit**, and ends as it started. -/
theorem ofUnit_eq (u : SourceUnit) (input : Bytes) (mode : Mode) (ix : UnitIndex)
    (resolver : Resolver) (package : Bytes) :
    ofUnit u input mode ix resolver package = ({} : Writer).wrote
      { lines := (Generate.unit u input mode ix resolver package).lines
        findings :=
          (bodyOutput mode resolver ix u.path input (u.document input ix)).findings } := by
  have hstart : ({} : Writer).AtLevel 0 := ⟨rfl, rfl, rfl, rfl⟩
  obtain ⟨hlevel, hbefore⟩ := beforeBody_eq u input ix package
  unfold ofUnit
  rw [afterBody_eq, (hlevel.wrote _).emit, hbefore]
  simp only [wrote_wrote, shallower_wrote, hstart.sound.shallower_deeper]
  rw [writePostamble_eq (hstart.wrote _), wrote_wrote]
  refine congrArg (Writer.wrote · {}) (Output.ext ?_ ?_)
  · rw [Generate.lines_unit]
    rfl
  · simp

/-- The writer has written the lines of the unit and nothing else. -/
theorem buffer_ofUnit (u : SourceUnit) (input : Bytes) (mode : Mode) (ix : UnitIndex)
    (resolver : Resolver) (package : Bytes) :
    (ofUnit u input mode ix resolver package).buffer
      = (Generate.unit u input mode ix resolver package).lines.foldl Buffer.push {} := by
  rw [ofUnit_eq, buffer_wrote]

/-- What the writer has written is the code of the unit. -/
theorem text_ofUnit (u : SourceUnit) (input : Bytes) (mode : Mode) (ix : UnitIndex)
    (resolver : Resolver) (package : Bytes) :
    (ofUnit u input mode ix resolver package).buffer.text
      = (Generate.unit u input mode ix resolver package).code := by
  rw [buffer_ofUnit]
  exact Buffer.foldl_push_text _ _

end Writer

/-- The text of the signature of `Render`. -/
theorem textOf_signature (typeName : Bytes) :
    Line.textOf [Generate.line 0 0
        ("func (c *" ++ typeName ++ ") Render(w *runtime.Buffer) error \x7b")]
      = "func (c *" ++ typeName ++ ") Render(w *runtime.Buffer) error \x7b\n" := by
  have hend : ((") Render(w *runtime.Buffer) error \x7b\n" : String) : Bytes)
      = ") Render(w *runtime.Buffer) error \x7b" ++ [newline] := by decide
  rw [hend, ← List.append_assoc]
  exact List.append_nil _

/-- The signature of `Render` is a line of its own, the last in front of the body. -/
theorem textOf_preamble (self package typeName : Bytes) (d : Document) :
    ∃ above : Bytes, Line.textOf (Generate.preamble self package typeName d) = above ++ "\n"
      ++ ("func (c *" ++ typeName ++ ") Render(w *runtime.Buffer) error \x7b\n") := by
  obtain ⟨above, habove⟩ := Line.textOf_ends ([_, Generate.blank, _, Generate.blank]
    ++ Generate.importLines d.imports ++ Generate.typeLines typeName d.params
    ++ Generate.routeLines typeName d.page) (List.cons_ne_nil _ _)
  refine ⟨above, ?_⟩
  unfold Generate.preamble
  rw [Line.textOf_append, habove, textOf_signature]
  rfl

/-- **The two modes agree outside the body of `Render`.** For any two resolvers, the
declaration and the full code of a unit have the same type name, file name and shape, and
their texts differ only between the signature of `Render` and the end of its body.

The writer that produces them, in either mode, never has a negative indentation, and
behind the body its indentation, its pin and its stack of units being spliced are what
they were before. -/
theorem modes_agree_outside_body (u : SourceUnit) (input : Bytes) (ix : UnitIndex)
    (package : Bytes) (resolver resolver' : Resolver) :
    let declared := Generate.unit u input .declaration ix resolver package
    let full := Generate.unit u input .full ix resolver' package
    (declared.typeName = full.typeName ∧ declared.fileName = full.fileName
      ∧ declared.shape = full.shape)
    ∧ (∃ P B S : Bytes,
        declared.code = P ++ "\treturn nil\n" ++ S
        ∧ full.code = P ++ B ++ "\treturn w.Err()\n" ++ S
        ∧ ∃ above : Bytes, P = above ++ "\n"
          ++ ("func (c *" ++ full.typeName ++ ") Render(w *runtime.Buffer) error \x7b\n"))
    ∧ ∀ (mode : Mode) (resolver : Resolver),
        let before := Writer.beforeBody u input ix package
        let after := Writer.afterBody u input mode ix resolver package
        let final := Writer.ofUnit u input mode ix resolver package
        final.buffer.text = (Generate.unit u input mode ix resolver package).code
        ∧ 0 ≤ final.lowest
        ∧ after.indent = before.indent ∧ after.pin = before.pin
        ∧ after.including = before.including := by
  intro declared full
  have hlines := fun mode resolver => Generate.lines_unit u input mode ix resolver package
  refine ⟨⟨rfl, rfl, rfl⟩, ?_, ?_⟩
  · refine ⟨Line.textOf (Generate.preamble u.path (packageOr package) (Naming.typeName u.path)
        (u.document input ix)),
      Line.textOf (Writer.bodyOutput .full resolver' ix u.path input (u.document input ix)).lines,
      Line.textOf (Generate.postamble (u.document input ix)), ?_, ?_, ?_⟩
    · show Line.textOf (Generate.unit u input .declaration ix resolver package).lines = _
      rw [hlines]
      simp only [Line.textOf_append]
      show _ ++ [] ++ _ ++ _ = _
      rw [List.append_nil]
      rfl
    · show Line.textOf (Generate.unit u input .full ix resolver' package).lines = _
      rw [hlines]
      simp only [Line.textOf_append]
      rfl
    · exact textOf_preamble u.path (packageOr package) (Naming.typeName u.path) _
  · intro mode resolver before after final
    have hafter : after = before.wrote _ :=
      Writer.afterBody_eq u input mode ix resolver package
    have hfinal : final = ({} : Writer).wrote _ :=
      Writer.ofUnit_eq u input mode ix resolver package
    refine ⟨Writer.text_ofUnit u input mode ix resolver package, ?_, ?_⟩
    · rw [hfinal]
      exact Int.le_refl 0
    · rw [hafter]
      exact ⟨rfl, rfl, rfl⟩

end Stencil
