import Stencil.Proofs.Generated.Modes

/-!
# What lines of code are made of

Most of a line of generated code is the same in every line of its kind. In between stand names,
quoted texts, and fragments of code that are copied from the input. This module takes lines
apart into such `Token`s: `Piece.tokens` for the lines of a piece, `Generate.tokens` for a whole
file. The lines of the generator are these and no others (`Generate.map_code_unit`), so what is
said about fragments that are copied can be said about tokens.
-/

namespace Stencil

open Bytes

/-- **A part of a line of code.** -/
inductive Token where
  /-- What every line of its kind has. -/
  | fixed (text : Bytes)
  /-- A name: of a unit, a package, a type, a parameter or an attribute. -/
  | name (text : Bytes)
  /-- A text as a literal. -/
  | quoted (text : Bytes)
  /-- A fragment of code, copied from the input. -/
  | copied (fragment : Bytes)

namespace Token

/-- The text of a token. -/
def text : Token → Bytes
  | fixed text | name text | copied text => text
  | quoted text => Quoted.quote text

/-- The fragment that a token copies. -/
def fragment? : Token → Option Bytes
  | fixed _ | name _ | quoted _ => none
  | copied fragment => some fragment

/-- The code of a line. -/
def lineOf (ts : List Token) : Bytes := ts.flatMap text

@[simp] theorem text_fixed (s : Bytes) : (fixed s).text = s := rfl

@[simp] theorem text_name (s : Bytes) : (name s).text = s := rfl

@[simp] theorem text_quoted (s : Bytes) : (quoted s).text = Quoted.quote s := rfl

@[simp] theorem text_copied (s : Bytes) : (copied s).text = s := rfl

@[simp] theorem lineOf_nil : lineOf [] = [] := rfl

@[simp] theorem lineOf_cons (t : Token) (ts : List Token) :
    lineOf (t :: ts) = t.text ++ lineOf ts := List.flatMap_cons

/-- **The fragments that lines copy**, in order. -/
def fragments (ls : List (List Token)) : List Bytes := ls.flatMap fun ts => ts.filterMap fragment?

/-- A fragment is copied into some lines if it is a token of one of them. -/
theorem mem_fragments {ls : List (List Token)} {s : Bytes} :
    s ∈ fragments ls ↔ ∃ ts ∈ ls, copied s ∈ ts := by
  simp only [fragments, List.mem_flatMap, List.mem_filterMap]
  refine exists_congr fun ts => and_congr_right fun _ => ⟨?_, fun h => ⟨_, h, rfl⟩⟩
  rintro ⟨t, ht, hs⟩
  cases t <;> cases hs
  exact ht

end Token

/-! ## Markup -/

/-- A call that writes markup as it is. -/
def rawTokens (s : Bytes) : List Token := [.fixed "w.Raw(", .quoted s, .fixed ")"]

/-- The line of an attribute of a plain element. -/
def attrTokens (a : Attr) : List Token :=
  match a.value with
  | .literal text => rawTokens (" " ++ a.name ++ "=\"" ++ replaceByte dquote "&#34;" text ++ "\"")
  | .expr code => [.fixed "w.Attr(", .quoted a.name, .fixed ", ", .copied code, .fixed ")"]
  | .bare => rawTokens (" " ++ a.name)

/-- The value of an argument. A literal is code unless the parameter takes text. -/
def argumentToken (param : Param) : AttrValue → Token
  | .literal text =>
    if param.text || (trim text).isEmpty then .quoted text else .copied (trim text)
  | .expr code => .copied code
  | .bare => .fixed "true"

/-- The line of an attribute of a component tag, if the component has such a parameter. -/
def argumentTokens (c : Component) (a : Attr) : List (List Token) :=
  match c.param? a.name with
  | none => []
  | some param => [[.name a.name, .fixed ": ", argumentToken param a.value, .fixed ","]]

/-- The type of a component that a tag was resolved to. -/
def Component.typeIn (c : Component) (qualifier : Bytes) : Bytes :=
  if qualifier.isEmpty then c.name else qualifier ++ "." ++ c.name

/-- The lines of a plain element with the given content. -/
def plainTokens (tag : Bytes) (attrs : List Attr) (selfClosing : Bool)
    (content : List (List Token)) : List (List Token) :=
  rawTokens ("<" ++ tag) :: attrs.map attrTokens
    ++ if ElementName.isVoid tag then [[Token.fixed "w.Raw(\">\")"]]
      else if selfClosing then [rawTokens ("></" ++ tag ++ ">")]
      else [Token.fixed "w.Raw(\">\")"] :: content ++ [rawTokens ("</" ++ tag ++ ">")]

/-- The lines of a component tag with the given content. -/
def componentTokens (c : Component) (qualifier : Bytes) (attrs : List Attr) (shown : Bool)
    (content : List (List Token)) : List (List Token) :=
  [Token.fixed "w.Component(&", .copied (c.typeIn qualifier), .fixed "\x7b"]
    :: attrs.flatMap (argumentTokens c)
    ++ (if shown && (c.param? "Children").isSome then
        [Token.fixed
            "Children: []runtime.Component\x7bruntime.Func(func(w *runtime.Buffer) error \x7b"]
          :: content ++ [[Token.fixed "return nil"], [.fixed "\x7d)\x7d,"]]
      else [])
    ++ [[Token.fixed "\x7d)"]]

mutual

/-- **The lines of a piece**, in order. -/
def Piece.tokens (ctx : RenderContext) : Piece → List (List Token)
  | .text value _ => (textSegments value).map rawTokens
  | .expr code _ => [[.fixed "w.Text(", .copied code, .fixed ")"]]
  | .spliced _ body => Piece.tokensAll ctx body
  | .broken .. => []
  | .loop clause body _ _ =>
    [.fixed "for ", .copied clause, .fixed " \x7b"] :: Piece.tokensAll ctx body ++ [[.fixed "\x7d"]]
  | .choice branches otherwise _ _ =>
    PieceBranch.tokensAll ctx "if " branches
      ++ (if otherwise.isEmpty then [] else [[.fixed "\x7d else \x7b"]])
      ++ Piece.tokensAll ctx otherwise ++ [[.fixed "\x7d"]]
  | .element tag attrs children selfClosing _ _ =>
    let plain := plainTokens tag attrs selfClosing (Piece.tokensAll ctx children)
    if ElementName.isComponent tag then
      match ctx.component tag with
      | .error _ => plain
      | .ok (c, qualifier) =>
        componentTokens c qualifier attrs (children.any Piece.isContent)
          (Piece.tokensAll ctx children)
    else plain

/-- The lines of a branch, opened by `if` or by `else if`. -/
def PieceBranch.tokens (ctx : RenderContext) (opening : Bytes) :
    PieceBranch → List (List Token)
  | .mk cond body _ => [.fixed opening, .copied cond, .fixed " \x7b"] :: Piece.tokensAll ctx body

/-- The lines of a list of pieces. -/
def Piece.tokensAll (ctx : RenderContext) : List Piece → List (List Token)
  | [] => []
  | x :: xs => x.tokens ctx ++ Piece.tokensAll ctx xs

/-- The lines of the branches of a conditional, the first opened as given. -/
def PieceBranch.tokensAll (ctx : RenderContext) (opening : Bytes) :
    List PieceBranch → List (List Token)
  | [] => []
  | b :: bs => b.tokens ctx opening ++ PieceBranch.tokensAll ctx "\x7d else if " bs

end

/-! ## Files -/

namespace Generate

/-- **The imports that the file makes**: the runtime, and what the unit needs besides. -/
def importBlock (imports : List ImportDirective) : List ImportDirective :=
  { localName := [], path := runtimePath, line := 0 }
    :: imports.filter fun i => !(i.path = runtimePath && i.name = "runtime")

/-- The line of an import. -/
def importTokens (i : ImportDirective) : List Token :=
  if i.localName.isEmpty then [.quoted i.path] else [.name i.localName, .fixed " ", .quoted i.path]

/-- The lines of the route. -/
def routeTokens (typeName : Bytes) : Option PageDirective → List (List Token)
  | none => []
  | some page =>
    [[.fixed "func (c *", .name typeName, .fixed ") Route() string \x7b"],
      [.fixed "return ", .quoted page.route], [.fixed "\x7d"], []]

/-- The lines up to the imports. -/
def headTokens (self package : Bytes) (imports : List ImportDirective) : List (List Token) :=
  [[Token.fixed "// Code generated by templc from ", .name self, .fixed ". DO NOT EDIT."], [],
      [.fixed "package ", .name package], [], [.fixed "import ("]]
    ++ (importBlock imports).map importTokens ++ [[Token.fixed ")"], []]

/-- **The lines behind the imports**, with the given body. -/
def restTokens (typeName : Bytes) (d : Document) (body : List (List Token)) :
    List (List Token) :=
  [Token.fixed "type ", .name typeName, .fixed " struct \x7b"]
    :: (d.params.map fun p => [Token.name p.name, .fixed " ", .copied p.type])
    ++ [[Token.fixed "\x7d"], []] ++ routeTokens typeName d.page
    ++ [[Token.fixed "func (c *", .name typeName, .fixed ") Render(w *runtime.Buffer) error \x7b"]]
    ++ (d.params.flatMap fun p => [[Token.name p.name, .fixed " := c.", .name p.name],
      [.fixed "_ = ", .name p.name]])
    ++ body ++ [[Token.fixed "return w.Err()"], [.fixed "\x7d"]]
    ++ d.code.flatMap fun block => [] :: block.lines.map fun l => [Token.copied l]

/-- The lines behind the imports of the full code of a unit. -/
def unitTokens (u : SourceUnit) (input : Bytes) (ix : UnitIndex) (resolver : Resolver) :
    List (List Token) :=
  let d := u.document input ix
  restTokens (Naming.typeName u.path) d
    (Piece.tokensAll { imports := d.imports, resolver } (Splice.expand ix u.path input d.body))

end Generate

/-! ## Lines and tokens -/

/-- The code of the lines of an output. -/
def Output.codes (o : Output) : List Bytes := o.lines.map Line.code

namespace Output

@[simp] theorem codes_empty : codes {} = [] := rfl

@[simp] theorem codes_append (a b : Output) : (a ++ b).codes = a.codes ++ b.codes :=
  List.map_append

@[simp] theorem codes_found (line : Nat) (fault : Fault) : (found line fault).codes = [] := rfl

@[simp] theorem codes_emit (p : Place) (src : Nat) (code : Bytes) :
    (p.emit src code).codes = [code] := rfl

/-- The lines of outputs behind one another are the lines of each. -/
theorem codes_concat (os : List Output) : (concat os).codes = os.flatMap codes := by
  induction os with
  | nil => rfl
  | cons o os ih =>
    rw [List.flatMap_cons, ← ih]
    exact codes_append o (concat os)

end Output

theorem lineOf_rawTokens (s : Bytes) : Token.lineOf (rawTokens s) = rawCall s := by
  simp [rawTokens, rawCall]

/-- Text is written in segments, each of which is quoted on a line of its own. -/
theorem codes_renderText (p : Place) (value : Bytes) (line : Nat) :
    (renderText p value line).codes = ((textSegments value).map rawTokens).map Token.lineOf := by
  unfold renderText Output.codes
  conv_rhs => rw [← List.zipIdx_map_fst 0 (textSegments value)]
  rw [List.map_map, List.map_map, List.map_map]
  exact List.map_congr_left fun seg _ => (lineOf_rawTokens seg.1).symm

/-- An attribute is one line, which copies its code unless its value is a literal. -/
theorem codes_renderAttr (p : Place) (a : Attr) :
    (renderAttr p a).codes = [Token.lineOf (attrTokens a)] := by
  unfold renderAttr attrTokens
  rw [Output.codes_emit]
  cases a.value with
  | literal text | bare => exact congrArg (fun s => [s]) (lineOf_rawTokens _).symm
  | expr code => simp

/-- Code is copied. A literal is quoted if it is blank or the parameter takes text, and copied
otherwise. A bare attribute is `true`. -/
theorem text_argumentToken (param : Param) (value : AttrValue) :
    (argumentToken param value).text = argument param value := by
  cases value with
  | literal text =>
    unfold argumentToken argument
    dsimp only
    split <;> rfl
  | expr code | bare => rfl

/-- An argument is a line if the component has such a parameter, and no line otherwise. -/
theorem codes_renderArgument (p : Place) (tag : Bytes) (c : Component) (a : Attr) :
    (renderArgument p tag c a).codes = (argumentTokens c a).map Token.lineOf := by
  unfold renderArgument argumentTokens
  cases c.param? a.name with
  | none => rfl
  | some param => simp [text_argumentToken]

/-- The lines of a plain element. -/
theorem codes_plainElement (p : Place) (tag : Bytes) (attrs : List Attr) (selfClosing : Bool)
    (line endLine : Nat) {complaint content : Output} {inner : List (List Token)}
    (hcomplaint : complaint.codes = []) (hcontent : content.codes = inner.map Token.lineOf) :
    (complaint ++ p.emit line (rawCall ("<" ++ tag))
        ++ Output.concat (attrs.map (renderAttr p))
        ++ if ElementName.isVoid tag then p.emit line "w.Raw(\">\")"
          else if selfClosing then p.emit line (rawCall ("></" ++ tag ++ ">"))
          else p.emit line "w.Raw(\">\")" ++ content
            ++ p.emit endLine (rawCall ("</" ++ tag ++ ">"))).codes
      = (plainTokens tag attrs selfClosing inner).map Token.lineOf := by
  have hattrs : (Output.concat (attrs.map (renderAttr p))).codes
      = (attrs.map attrTokens).map Token.lineOf := by
    rw [Output.codes_concat, List.flatMap_map, List.map_map]
    simp only [codes_renderAttr]
    exact List.flatMap_pure_eq_map _ _
  unfold plainTokens
  simp only [Output.codes_append, hcomplaint, hattrs, Output.codes_emit, List.map_cons,
    List.map_append, lineOf_rawTokens]
  cases ElementName.isVoid tag <;> cases selfClosing <;>
    simp [hcontent, lineOf_rawTokens]

/-- The lines of a component tag. -/
theorem codes_componentTag (p : Place) (tag : Bytes) (attrs : List Attr) (line endLine : Nat)
    (c : Component) (qualifier : Bytes) (shown : Bool) {content : Output}
    {inner : List (List Token)} (hcontent : content.codes = inner.map Token.lineOf) :
    (p.emit line ("w.Component(&"
          ++ (if qualifier.isEmpty then c.name else qualifier ++ "." ++ c.name) ++ "\x7b")
        ++ Output.concat (attrs.map (renderArgument p.deeper tag c))
        ++ (if !shown then {}
          else if (c.param? "Children").isNone then .found line (.noChildContent tag)
          else p.deeper.emit line
              "Children: []runtime.Component\x7bruntime.Func(func(w *runtime.Buffer) error \x7b"
            ++ content ++ p.deeper.deeper.emit endLine "return nil"
            ++ p.deeper.emit endLine "\x7d)\x7d,")
        ++ p.emit endLine "\x7d)").codes
      = (componentTokens c qualifier attrs shown inner).map Token.lineOf := by
  have hargs : (Output.concat (attrs.map (renderArgument p.deeper tag c))).codes
      = (attrs.flatMap (argumentTokens c)).map Token.lineOf := by
    rw [Output.codes_concat, List.flatMap_map, List.map_flatMap]
    exact List.flatMap_congr fun a _ => codes_renderArgument _ _ _ a
  unfold componentTokens
  simp only [Output.codes_append, hargs, Output.codes_emit, List.map_cons, List.map_append]
  cases shown <;> cases hc : c.param? "Children" <;>
    simp [hcontent, Component.typeIn]

section Rendered

variable (ctx : RenderContext)

mutual

/-- **The lines of a piece are made of its tokens.** -/
theorem Piece.codes_render : ∀ (x : Piece) (p : Place),
    (x.render ctx p).codes = (x.tokens ctx).map Token.lineOf
  | .text value line, p => codes_renderText p value line
  | .broken .., _ => rfl
  | .expr code line, p => by
    rw [Piece.render, Piece.tokens, Output.codes_emit]
    simp
  | .spliced _ body, _ => Piece.codes_renderAll body _
  | .loop clause body _ _, p => by
    rw [Piece.render, Piece.tokens]
    simp [Piece.codes_renderAll body p.deeper]
  | .choice branches otherwise elseLine endLine, p => by
    rw [Piece.render, Piece.tokens]
    have helse : (if otherwise.isEmpty then {} else p.emit elseLine "\x7d else \x7b").codes
        = (if otherwise.isEmpty then [] else [[.fixed "\x7d else \x7b"]]).map Token.lineOf := by
      split
      · rfl
      · exact congrArg (fun s => [s]) (List.append_nil _).symm
    simp only [Output.codes_append, PieceBranch.codes_renderAll branches p "if ", helse,
      Piece.codes_renderAll otherwise p.deeper, Output.codes_emit, List.map_append, List.map_cons,
      List.map_nil, Token.lineOf_cons, Token.lineOf_nil, Token.text_fixed, List.append_nil]
  | .element tag attrs children selfClosing line endLine, p => by
    have hchildren := fun p => Piece.codes_renderAll children p
    rw [Piece.render, Piece.tokens]
    dsimp only
    split
    · cases ctx.component tag with
      | error fault =>
        exact codes_plainElement p tag attrs selfClosing line endLine rfl (hchildren p)
      | ok found =>
        exact codes_componentTag p tag attrs line endLine found.1 found.2 _ (hchildren _)
    · exact codes_plainElement p tag attrs selfClosing line endLine rfl (hchildren p)

/-- **The lines of pieces**, by induction along with `Piece.codes_render`: a place decides about the
indentation of a line and about where it comes from, and about nothing that the tokens say. -/
theorem Piece.codes_renderAll : ∀ (xs : List Piece) (p : Place),
    (Piece.renderAll ctx p xs).codes = (Piece.tokensAll ctx xs).map Token.lineOf
  | [], _ => rfl
  | x :: xs, p => by
    rw [Piece.renderAll, Piece.tokensAll, Output.codes_append, List.map_append,
      Piece.codes_render x p, Piece.codes_renderAll xs p]

/-- The lines of branches: each begins with its condition, behind what opens it. -/
theorem PieceBranch.codes_renderAll : ∀ (bs : List PieceBranch) (p : Place) (opening : Bytes),
    (PieceBranch.renderAll ctx p opening bs).codes
      = (PieceBranch.tokensAll ctx opening bs).map Token.lineOf
  | [], _, _ => rfl
  | .mk cond body line :: bs, p, opening => by
    rw [PieceBranch.renderAll, PieceBranch.tokensAll, PieceBranch.render, PieceBranch.tokens]
    simp [Piece.codes_renderAll body p.deeper, PieceBranch.codes_renderAll bs p "\x7d else if "]

end

end Rendered

namespace Generate

/-- An import is its name, if it has one, and its path as a literal. -/
theorem lineOf_importTokens (i : ImportDirective) :
    Token.lineOf (importTokens i)
      = if i.localName.isEmpty then Quoted.quote i.path
        else i.localName ++ " " ++ Quoted.quote i.path := by
  unfold importTokens
  split <;> simp

/-- The imports stand one to a line between two brackets, the runtime first. -/
theorem map_code_importLines (imports : List ImportDirective) :
    (importLines imports).map Line.code
      = ("import (" : Bytes) :: ((importBlock imports).map importTokens).map Token.lineOf
        ++ [(")" : Bytes), []] := by
  unfold importLines importBlock
  simp only [List.map_cons, List.map_append, List.map_map, Function.comp_def, lineOf_importTokens,
    code_line, code_blank, List.cons_append, List.map_nil]
  rfl

/-- The route is quoted on a line of its own, and without one there are no lines. -/
theorem map_code_routeLines (typeName : Bytes) (page : Option PageDirective) :
    (routeLines typeName page).map Line.code = (routeTokens typeName page).map Token.lineOf := by
  cases page with
  | none => rfl
  | some page => simp [routeLines, routeTokens]

/-- Behind the code of the body, the blocks of declarations are copied line by line. -/
theorem map_code_postamble (d : Document) :
    (postamble d).map Line.code
      = ("\x7d" : Bytes) :: (d.code.flatMap fun block =>
          [] :: block.lines.map fun l => [Token.copied l]).map Token.lineOf := by
  have hblock : ∀ block : CodeBlock,
      (blank :: block.lines.zipIdx.map fun li => line 0 (block.line + li.2) li.1).map Line.code
        = ([] :: block.lines.map fun l => [Token.copied l]).map Token.lineOf := fun block => by
    conv_rhs => rw [← List.zipIdx_map_fst 0 block.lines]
    simp [Function.comp_def]
  unfold postamble
  rw [List.map_cons, List.map_flatMap, List.map_flatMap, code_line]
  exact congrArg _ (List.flatMap_congr fun block _ => hblock block)

/-- **The lines of the full code of a unit are made of its tokens.** -/
theorem map_code_unit (u : SourceUnit) (input : Bytes) (ix : UnitIndex) (resolver : Resolver)
    (package : Bytes) :
    (Generate.unit u input .full ix resolver package).lines.map Line.code
      = (headTokens u.path (packageOr package) (u.document input ix).imports
          ++ unitTokens u input ix resolver).map Token.lineOf := by
  have hbody : List.map Line.code
      (Piece.renderAll { imports := (u.document input ix).imports, resolver }
        { indent := 1 } (Splice.expand ix u.path input (u.document input ix).body)).lines = _ :=
    Piece.codes_renderAll _ _ _
  rw [lines_unit]
  simp only [preamble, typeLines, paramLines, Writer.bodyOutput, Writer.lastLine,
    Output.append_lines, List.map_append, List.map_cons, List.map_nil, List.map_map,
    List.map_flatMap, map_code_importLines, map_code_routeLines, map_code_postamble, hbody,
    headTokens, unitTokens, restTokens, code_line, code_blank, Function.comp_def]
  simp

end Generate

end Stencil
