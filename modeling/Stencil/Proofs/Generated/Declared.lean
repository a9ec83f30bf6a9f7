import Mathlib.Data.Bool.AllAny
import Stencil.Proofs.Generated.Alignment
import Stencil.Proofs.Generated.Inherited
import Stencil.Proofs.Generated.Readback
import Stencil.Proofs.Template.Balanced
import Stencil.Proofs.Template.Findings
import Stencil.Proofs.Template.Position

/-!
# The declaration of a unit, line by line

The declaration of a unit is compiled before anything is known about other components, and what
the compiler says about it is taken back to the input through the source map. So the lines that
the unit's author wrote must be found there again: imports, parameters and declaration blocks.

They are. Nothing that reaches the declaration can break a line, apart from the path of the
unit and the name of the package, so every line that is written is one line of the file
(`Generate.allSingle_declaration`). `Generate.declarationLayout` gives these lines one by one,
each with the input line that it must be mapped to, and the file with its source map is that
list (`mappedLines_declaration`). What stands on those input lines is `Document.Written`.
-/

namespace Stencil

open Bytes

/-- **The lines of a generated file**, each with the zero-based input line that the source map
has for it. -/
def GeneratedUnit.mappedLines (g : GeneratedUnit) : List (Bytes × Option Nat) :=
  (Bytes.lines g.code).zipIdx.map fun (l, i) => (l, g.sourceMap.lookup (i + 1))

namespace Generate

/-- A line of the file that no line of the input stands behind. -/
def made (s : Bytes) : Bytes × Option Nat := (s, none)

/-- A line of the file for the one-based line `line` of the input. -/
def madeFor (line : Nat) (s : Bytes) : Bytes × Option Nat := (s, some (line - 1))

/-- What the file says of an import. -/
def importSpec (i : ImportDirective) : Bytes :=
  if i.localName.isEmpty then Quoted.quote i.path else i.localName ++ " " ++ Quoted.quote i.path

/-- Whether the file imports a package for the unit, other than the runtime as it always does. -/
def isNeeded (i : ImportDirective) : Bool := !(i.path = runtimePath && i.name = "runtime")

/-- **The lines of the declaration of a unit**, with the input lines they are made for. -/
def declarationLayout (self package typeName : Bytes) (inherited : List ImportDirective)
    (own : Document) : List (Bytes × Option Nat) :=
  [made ("// Code generated by templc from " ++ self ++ ". DO NOT EDIT."), made "",
      made ("package " ++ package), made "", made "import (",
      made ("\t" ++ Quoted.quote runtimePath)]
    ++ (inherited.filter isNeeded).map (fun i => made ("\t" ++ importSpec i))
    ++ (own.imports.filter isNeeded).map (fun i => madeFor i.line ("\t" ++ importSpec i))
    ++ [made ")", made "", made ("type " ++ typeName ++ " struct \x7b")]
    ++ own.params.map (fun p => madeFor p.line ("\t" ++ (p.name ++ " " ++ p.type)))
    ++ [made "\x7d", made ""]
    ++ (own.page.elim [] fun page =>
      [madeFor page.line ("func (c *" ++ typeName ++ ") Route() string \x7b"),
        madeFor page.line ("\treturn " ++ Quoted.quote page.route), made "\x7d", made ""])
    ++ [made ("func (c *" ++ typeName ++ ") Render(w *runtime.Buffer) error \x7b"),
      made "\treturn nil", made "\x7d"]
    ++ own.code.flatMap (fun block =>
      made "" :: block.lines.zipIdx.map fun (l, i) => madeFor (block.line + i) l)
    ++ [made ""]

/-! ## One line each -/

/-- A line of code as the file shows it, with what it was made for. -/
def shownLine (l : Line) : Bytes × Option Nat := (l.shown, l.origin)

/-- **The lines of a file are those that were written**, each mapped to what it was made for,
if none of them breaks. -/
theorem mappedLines_eq {g : GeneratedUnit} (h : Line.AllSingle g.lines) :
    g.mappedLines = g.lines.map shownLine ++ [made ""] := by
  have hlookup : ∀ i, g.sourceMap.lookup (i + 1) = g.lines[i]?.bind Line.origin :=
    SourceMap.lookup_ofLines g.lines
  have hlines : Bytes.lines g.code = g.lines.map Line.shown ++ [[]] := Line.lines_textOf h
  have hlast : g.sourceMap.lookup (g.lines.length + 1) = none := by
    rw [hlookup, List.getElem?_eq_none (Nat.le_refl _)]
    rfl
  rw [GeneratedUnit.mappedLines, hlines, List.zipIdx_append, List.map_append]
  refine congrArg₂ (· ++ ·) (List.ext_getElem (by simp) fun i _ hi => ?_) ?_
  · have hi : i < g.lines.length := by simpa using hi
    simp [shownLine, hlookup, hi]
  · simp [hlast, made]
    rfl

/-- **Nothing breaks the lines of a declaration** but the path of the unit and the name of the
package. -/
theorem allSingle_declaration (u : SourceUnit) (input : Bytes) (ix : UnitIndex)
    (resolver : Resolver) {package : Bytes} (hpath : u.path.OneLine) (hpackage : package.OneLine) :
    Line.AllSingle (unit u input .declaration ix resolver package).lines := by
  have hd := u.wellFormed_document input ix
  have hor : (packageOr package).OneLine := by
    unfold packageOr
    split
    · decide
    · exact hpackage
  have hpre := (allSingle_preamble_iff u.path (packageOr package)
    (Naming.oneLine_typeName u.path) hd).2 ⟨hpath, hor⟩
  have hlast : (line 1 0 (Writer.lastLine .declaration)).code.OneLine := by decide
  rw [lines_unit]
  exact List.forall_mem_append.2 ⟨List.forall_mem_append.2 ⟨List.forall_mem_append.2
    ⟨hpre, List.forall_mem_nil _⟩, List.forall_mem_singleton.2 hlast⟩, allSingle_postamble hd⟩

/-! ## The layout -/

section Shown

variable {src : Nat} {code : Bytes}

theorem shownLine_made : shownLine (line 0 0 code) = made code := by
  cases code <;> rfl

theorem shownLine_madeFor (h : 0 < src) : shownLine (line 0 src code) = madeFor src code := by
  obtain ⟨src, rfl⟩ := Nat.exists_eq_succ_of_ne_zero h.ne'
  cases code <;> rfl

/-- A line that is not blank is shown behind its tab. -/
theorem shownLine_indented (hcode : code ≠ []) :
    shownLine (line 1 0 code) = made ("\t" ++ code) := by
  obtain ⟨b, s, rfl⟩ := List.exists_cons_of_ne_nil hcode
  rfl

theorem shownLine_indentedFor (h : 0 < src) (hcode : code ≠ []) :
    shownLine (line 1 src code) = madeFor src ("\t" ++ code) := by
  obtain ⟨src, rfl⟩ := Nat.exists_eq_succ_of_ne_zero h.ne'
  obtain ⟨b, s, rfl⟩ := List.exists_cons_of_ne_nil hcode
  rfl

end Shown

theorem quote_ne_nil (s : Bytes) : Quoted.quote s ≠ [] := List.cons_ne_nil _ _

/-- An import is no blank line: its path is quoted. -/
theorem importSpec_ne_nil (i : ImportDirective) : importSpec i ≠ [] := by
  unfold importSpec
  split
  · exact quote_ne_nil _
  · exact List.append_ne_nil_of_right_ne_nil _ (quote_ne_nil _)

/-- Inherited imports are mapped to nothing, and the imports of the unit to their own lines. -/
theorem map_shownLine_importLines {inherited own : List ImportDirective}
    (hinherited : ∀ i ∈ inherited, i.inherited = true)
    (hown : ∀ i ∈ own, i.inherited = false ∧ 0 < i.line) :
    (importLines (inherited ++ own)).map shownLine
      = [made "import (", made ("\t" ++ Quoted.quote runtimePath)]
        ++ (inherited.filter isNeeded).map (fun i => made ("\t" ++ importSpec i))
        ++ (own.filter isNeeded).map (fun i => madeFor i.line ("\t" ++ importSpec i))
        ++ [made ")", made ""] := by
  have hlines : importLines (inherited ++ own)
      = [line 0 0 "import (", line 1 0 (Quoted.quote runtimePath)]
        ++ ((inherited ++ own).filter isNeeded).map
          (fun i => line 1 (if i.inherited then 0 else i.line) (importSpec i))
        ++ [line 0 0 ")", line 0 0 []] := rfl
  have hmade : ((inherited.filter isNeeded).map fun i =>
        line 1 (if i.inherited then 0 else i.line) (importSpec i)).map shownLine
      = (inherited.filter isNeeded).map fun i => made ("\t" ++ importSpec i) := by
    rw [List.map_map]
    refine List.map_congr_left fun i hi => ?_
    rw [Function.comp_apply, hinherited i (List.mem_of_mem_filter hi)]
    exact shownLine_indented (importSpec_ne_nil i)
  have hmadeFor : ((own.filter isNeeded).map fun i =>
        line 1 (if i.inherited then 0 else i.line) (importSpec i)).map shownLine
      = (own.filter isNeeded).map fun i => madeFor i.line ("\t" ++ importSpec i) := by
    rw [List.map_map]
    refine List.map_congr_left fun i hi => ?_
    obtain ⟨hi, hline⟩ := hown i (List.mem_of_mem_filter hi)
    rw [Function.comp_apply, hi]
    exact shownLine_indentedFor hline (importSpec_ne_nil i)
  rw [hlines, List.filter_append]
  simp only [List.map_append, hmade, hmadeFor, List.map_cons, List.map_nil, List.append_assoc,
    shownLine_made, shownLine_indented (quote_ne_nil _)]
  rfl

/-- The fields of a type stand one to a line, each made for its parameter. -/
theorem map_shownLine_typeLines (typeName : Bytes) {params : List ParamDirective}
    (h : ∀ p ∈ params, 0 < p.line) :
    (typeLines typeName params).map shownLine
      = [made ("type " ++ typeName ++ " struct \x7b")]
        ++ params.map (fun p => madeFor p.line ("\t" ++ (p.name ++ " " ++ p.type)))
        ++ [made "\x7d", made ""] := by
  have hmadeFor : (params.map fun p => line 1 p.line (p.name ++ " " ++ p.type)).map shownLine
      = params.map fun p => madeFor p.line ("\t" ++ (p.name ++ " " ++ p.type)) := by
    rw [List.map_map]
    exact List.map_congr_left fun p hp => shownLine_indentedFor (h p hp)
      (List.append_ne_nil_of_left_ne_nil
        (List.append_ne_nil_of_right_ne_nil _ (List.cons_ne_nil _ _)) _)
  unfold typeLines
  rw [List.map_append, List.map_cons, hmadeFor, shownLine_made]
  rfl

/-- The route is a method of two lines made for the page, and what closes it. -/
theorem map_shownLine_routeLines (typeName : Bytes) {page : Option PageDirective}
    (h : ∀ p ∈ page, 0 < p.line) :
    (routeLines typeName page).map shownLine = page.elim [] fun page =>
      [madeFor page.line ("func (c *" ++ typeName ++ ") Route() string \x7b"),
        madeFor page.line ("\treturn " ++ Quoted.quote page.route), made "\x7d", made ""] := by
  cases page with
  | none => rfl
  | some page =>
    have hline := h page rfl
    have hreturn : ("return " ++ Quoted.quote page.route : Bytes) ≠ [] := List.cons_ne_nil _ _
    rw [routeLines, List.map_cons, shownLine_madeFor hline, List.map_cons,
      shownLine_indentedFor hline hreturn]
    rfl

/-- The lines of declaration blocks are shown as they are. -/
theorem map_shownLine_postamble {d : Document} (h : ∀ b ∈ d.code, 0 < b.line) :
    (postamble d).map shownLine = made "\x7d" :: d.code.flatMap fun block =>
      made "" :: block.lines.zipIdx.map fun (l, i) => madeFor (block.line + i) l := by
  have hblock : ∀ b ∈ d.code,
      (blank :: b.lines.zipIdx.map fun (l, i) => line 0 (b.line + i) l).map shownLine
        = made "" :: b.lines.zipIdx.map fun (l, i) => madeFor (b.line + i) l := by
    intro b hb
    rw [List.map_cons, List.map_map]
    exact congrArg₂ _ shownLine_made (List.map_congr_left fun li _ =>
      shownLine_madeFor (Nat.add_pos_left (h b hb) li.2))
  rw [postamble, List.map_cons, shownLine_made, List.map_flatMap]
  exact congrArg _ (List.flatMap_congr hblock)

/-- **The declaration of a unit has the lines it should have**, each mapped to the line of the
input that it was made for. -/
theorem mappedLines_declaration (u : SourceUnit) (input : Bytes) (ix : UnitIndex)
    (resolver : Resolver) {package : Bytes} (hpath : u.path.OneLine) (hpackage : package.OneLine) :
    (unit u input .declaration ix resolver package).mappedLines
      = declarationLayout u.path (packageOr package) (Naming.typeName u.path)
          (u.inherited input ix) (Document.read input).1 := by
  have hwithin := (Document.ordered_read input).2.1
  have hown : ∀ i ∈ (Document.read input).1.imports, i.inherited = false ∧ 0 < i.line :=
    fun i hi => ⟨((Document.written_read input).imports i hi).1, (hwithin.imports i hi).1⟩
  have hinherited : ∀ i ∈ u.inherited input ix, i.inherited = true := fun i hi =>
    ((nodup_keepImports _ _ _).2 i hi).1
  have himports := map_shownLine_importLines hinherited hown
  have htype := map_shownLine_typeLines (Naming.typeName u.path) fun p hp =>
    (hwithin.params p hp).1
  have hroute := map_shownLine_routeLines (Naming.typeName u.path) fun p hp =>
    (hwithin.page p hp).1
  have hcode := map_shownLine_postamble (d := u.document input ix)
  rw [u.document_eq] at hcode
  rw [mappedLines_eq (allSingle_declaration u input ix resolver hpath hpackage), lines_unit,
    u.document_eq]
  unfold preamble declarationLayout
  simp only [List.map_append, himports, htype, hroute, hcode fun b hb => (hwithin.code b hb).1]
  have hbody : ∀ d, (Writer.bodyOutput .declaration resolver ix u.path input d).lines = [] :=
    fun _ => rfl
  have hreturn : shownLine (line 1 0 (Writer.lastLine .declaration)) = made "\treturn nil" := rfl
  have hblank : shownLine blank = made "" := rfl
  simp only [hbody, hreturn, hblank, shownLine_made, List.map_cons, List.map_nil,
    List.append_assoc, List.cons_append, List.nil_append]

end Generate

/-- **Every line of a declaration is mapped to the line of the input that says it.** As long as
there is no line feed in the path of the unit and in the name of the package, the writer of the
declaration of a unit writes one line of the file each time it is asked for one, and its
source map says of each line what it was asked for. The lines of the file are those of
`declarationLayout`: imports and parameters of the unit, its route, and the lines of its
declaration blocks are mapped to their lines of the input, and all others to none. And on these
lines of the input they are written. -/
theorem declaration_lines_mapped (u : SourceUnit) (input : Bytes) (ix : UnitIndex)
    (resolver : Resolver) {package : Bytes} (hpath : u.path.OneLine) (hpackage : package.OneLine) :
    let own := (Document.read input).1
    let g := Generate.unit u input .declaration ix resolver package
    let w := Writer.ofUnit u input .declaration ix resolver package
    (w.buffer.text = g.code
      ∧ w.buffer.calls.map Prod.fst = List.range' 1 (newlines g.code)
      ∧ ∀ c ∈ w.buffer.calls, g.sourceMap.lookup c.1 = c.2)
    ∧ g.mappedLines = Generate.declarationLayout u.path (packageOr package)
        (Naming.typeName u.path) (u.inherited input ix) own
    ∧ own.Written input := by
  intro own g w
  have hsingle := Generate.allSingle_declaration u input ix resolver hpath hpackage
  have haligned := (Writer.aligned_ofUnit_iff u input .declaration ix resolver package).2 hsingle
  have hcount := (Line.length_eq_newlines_iff g.lines).2.2 hsingle
  have hcalls := Buffer.foldl_push_calls hsingle (rfl : newlines ({} : Buffer).text = 0)
  refine ⟨⟨Writer.text_ofUnit u input .declaration ix resolver package, ?_, haligned.2⟩,
    Generate.mappedLines_declaration u input ix resolver hpath hpackage,
    Document.written_read input⟩
  -- the calls are counted from one, in the order of the lines
  have hstarts : (g.lines.zipIdx.map fun lj => (lj.2 + 1, lj.1.origin)).map Prod.fst
      = List.range' 1 g.lines.length := calc
    _ = (g.lines.zipIdx.map Prod.snd).map (1 + ·) := by
      rw [List.map_map, List.map_map]
      exact List.map_congr_left fun lj _ => Nat.add_comm ..
    _ = _ := by rw [List.zipIdx_map_snd, List.map_add_range']
  rw [Writer.buffer_ofUnit, hcalls, GeneratedUnit.code, ← hcount]
  exact hstarts

/-- A source that is one declaration block and nothing else. -/
theorem Document.read_codeBlock {code : Bytes} (h : Fragment.Balanced rbrace code) :
    Document.read ("@code " ++ lbrace :: (code ++ [rbrace]))
      = ({ code := [⟨Bytes.lines code, 1⟩] }, []) := by
  have hscan : Fragment.group .codeBlock (lbrace :: (code ++ [rbrace])) = ⟨code.length + 2, none⟩ :=
    Fragment.group_closed (c := lbrace) h _ []
  have hinner : Fragment.enclosed (lbrace :: (code ++ [rbrace])) ⟨code.length + 2, none⟩ = code :=
    Fragment.enclosed_enclosing lbrace rbrace code []
  have hstep : (Reader.start ("@code " ++ lbrace :: (code ++ [rbrace]))).step
      = ((Reader.start ("@code " ++ lbrace :: (code ++ [rbrace]))).moveTo
          ⟨ch ' ' :: lbrace :: (code ++ [rbrace]), 1, ch 'e'⟩).codeBlock 1 :=
    rfl
  have hblank : Cursor.skipWhile isBlank ⟨ch ' ' :: lbrace :: (code ++ [rbrace]), 1, ch 'e'⟩
      = ⟨lbrace :: (code ++ [rbrace]), 1, ch ' '⟩ :=
    rfl
  have hend : ∀ n, code.length + 2 ≤ n → (lbrace :: (code ++ [rbrace])).drop n = [] :=
    fun n hn => List.drop_of_length_le (by
      rw [List.length_cons, List.length_append, List.length_singleton]
      exact hn)
  -- nothing is left behind the block
  obtain ⟨c, hc, hblock⟩ : ∃ c : Cursor, c.rest = []
      ∧ (Reader.start ("@code " ++ lbrace :: (code ++ [rbrace]))).step
        = { Reader.start [] with
            cursor := c, document := { code := [⟨Bytes.lines code, 1⟩] } } := by
    rw [hstep, Reader.codeBlock, Reader.moveTo_cursor, hblank]
    dsimp only
    rw [hscan, hinner]
    refine ⟨_, ?_, rfl⟩
    simp [Cursor.skipWhile, hend]
  rw [Document.read, Reader.run_of_rest_ne_nil (List.cons_ne_nil _ _), hblock,
    Reader.run_of_rest_eq_nil hc, Reader.leaveAll_nil rfl]
  rfl

/-- A block of three lines is mapped to the three lines that it is on. -/
theorem declaration_lines_of_codeBlock :
    let u : SourceUnit := { path := "/p.tmpl", text := [], kind := .component }
    let g := Generate.unit u "@code \x7b\nvar x int\n\x7d" .declaration .empty (fun _ _ => none) []
    g.mappedLines = Generate.declarationLayout "/p.tmpl" "app" (Naming.typeName "/p.tmpl") []
      { code := [⟨["", "var x int", ""], 1⟩] } := by
  intro u g
  have hcode : Fragment.Balanced rbrace "\nvar x int\n" :=
    .of_forall lbrace (List.all_iff_forall_prop.1 rfl)
  have hpackage : Bytes.OneLine [] := by decide
  have hmapped := (declaration_lines_mapped u "@code \x7b\nvar x int\n\x7d" .empty
    (fun _ _ => none) (by decide) hpackage).2.1
  have hread : Document.read "@code \x7b\nvar x int\n\x7d"
      = ({ code := [⟨["", "var x int", ""], 1⟩] }, []) := Document.read_codeBlock hcode
  have hnone : ∀ p, UnitIndex.empty.resolve p = none := fun _ => rfl
  have hoffered : u.offered .empty = [] := by
    simp [SourceUnit.offered, UnitIndex.importsChain, hnone]
  have hinherited : ∀ input, u.inherited input .empty = [] := fun input => by
    rw [SourceUnit.inherited, hoffered]
    rfl
  have hpackage : packageOr [] = "app" := by decide
  rw [hread, hinherited, hpackage] at hmapped
  exact hmapped

end Stencil
