import Stencil.Component
import Stencil.Generated.Line
import Stencil.Generated.Spans

/-!
# Render code

Markup becomes calls on the writer `w`: literal text and tags are written raw, shown
values go through `Text` and `Attr`, and a component tag becomes a value of the
component's type handed to `Component`. Control constructs become the statements they
are.

Every line is made for the input line of the markup it renders. Inside an included
unit that line is of no use to the reader of the including one, so while a unit is
spliced in, every line is made for the line of the outermost include: that is the
`pin`.
-/

namespace Stencil

open Bytes

/-- **Generated lines together with what was found while generating them.** -/
structure Output where
  /-- The lines, in order. -/
  lines : List Line := []
  /-- The findings, in order. -/
  findings : List Finding := []

namespace Output

/-- One output after another. -/
def append (a b : Output) : Output := ⟨a.lines ++ b.lines, a.findings ++ b.findings⟩

instance : Append Output := ⟨append⟩

/-- The outputs of a list, in order. -/
def concat (os : List Output) : Output := os.foldr append {}

@[simp] theorem append_lines (a b : Output) : (a ++ b).lines = a.lines ++ b.lines := rfl

@[simp] theorem append_findings (a b : Output) :
    (a ++ b).findings = a.findings ++ b.findings := rfl

end Output

/-- Where lines are being generated: how deep, and for which include. -/
structure Place where
  /-- The indentation. -/
  indent : Nat
  /-- The one-based line of the outermost include being spliced. -/
  pin : Option Nat := none

namespace Place

/-- One level deeper. -/
def deeper (p : Place) : Place := { p with indent := p.indent + 1 }

/-- A line made for the one-based input line `src`, zero for none, unless an include
is being spliced. -/
def line (p : Place) (src : Nat) (code : Bytes) : Line where
  origin := match p.pin with
    | some pin => some (pin - 1)
    | none => if src = 0 then none else some (src - 1)
  indent := p.indent
  code := code

/-- An output of one line. -/
def emit (p : Place) (src : Nat) (code : Bytes) : Output := { lines := [p.line src code] }

end Place

/-- An output of one finding. -/
def Output.found (line : Nat) (fault : Fault) : Output := { findings := [⟨line, fault⟩] }

/-- What component tags are resolved with. -/
structure RenderContext where
  /-- The imports of the unit. -/
  imports : List ImportDirective
  /-- What is known about components. -/
  resolver : Resolver

/-- A call that writes markup as it is. -/
def rawCall (s : Bytes) : Bytes := "w.Raw(" ++ Quoted.quote s ++ ")"

/-- The pieces of a text that end with a line feed, and what is left behind the
last one. -/
def textSegments : Bytes → List Bytes
  | [] => []
  | c :: s =>
    if c = newline then [c] :: textSegments s
    else
      match textSegments s with
      | [] => [[c]]
      | seg :: segs => (c :: seg) :: segs

/-- Text is written one call per input line. -/
def renderText (p : Place) (value : Bytes) (line : Nat) : Output :=
  { lines := (textSegments value).zipIdx.map fun (seg, i) => p.line (line + i) (rawCall seg) }

/-- An attribute of a plain element. -/
def renderAttr (p : Place) (a : Attr) : Output :=
  p.emit a.line <|
    match a.value with
    | .literal text =>
      rawCall (" " ++ a.name ++ "=\"" ++ replaceByte dquote "&#34;" text ++ "\"")
    | .expr code => "w.Attr(" ++ Quoted.quote a.name ++ ", " ++ code ++ ")"
    | .bare => rawCall (" " ++ a.name)

/-- The component a tag names, with the import name its type is qualified by, or why
the tag is rendered as a plain element. -/
def RenderContext.component (ctx : RenderContext) (tag : Bytes) :
    Except Fault (Component × Bytes) :=
  let find (pkg qualifier name : Bytes) : Except Fault (Component × Bytes) :=
    match ctx.resolver pkg name with
    | some c => .ok (c, qualifier)
    | none => .error (.unknownComponent tag)
  match cutLast? (ch '.') tag with
  | none => find [] [] tag
  | some (qualifier, name) =>
    match ctx.imports.find? fun i => i.name = qualifier with
    | some i => find i.path qualifier name
    | none => .error (.unimportedComponent tag qualifier)

/-- The value an attribute passes to a parameter: text parameters take literals as
text, others as code; an attribute without a value switches its parameter on. -/
def argument (param : Param) : AttrValue → Bytes
  | .literal text =>
    if param.text || (trim text).isEmpty then Quoted.quote text else trim text
  | .expr code => code
  | .bare => "true"

/-- An attribute of a component tag. -/
def renderArgument (p : Place) (tag : Bytes) (c : Component) (a : Attr) : Output :=
  match c.param? a.name with
  | none => .found a.line (.unknownParam tag a.name)
  | some param => p.emit a.line (a.name ++ ": " ++ argument param a.value ++ ",")

/-- Whether a piece is more than blank text. -/
def Piece.isContent : Piece → Bool
  | .text value _ => !(trim value).isEmpty
  | _ => true

mutual

/-- **The code that renders a piece.** -/
def Piece.render (ctx : RenderContext) (p : Place) : Piece → Output
  | .text value line => renderText p value line
  | .expr code line => p.emit line ("w.Text(" ++ code ++ ")")
  | .spliced line body =>
    Piece.renderAll ctx { p with pin := some (p.pin.getD line) } body
  | .broken line fault => .found (p.pin.getD line) fault
  | .loop clause body line endLine =>
    p.emit line ("for " ++ clause ++ " \x7b") ++ Piece.renderAll ctx p.deeper body
      ++ p.emit endLine "\x7d"
  | .choice branches otherwise elseLine endLine =>
    PieceBranch.renderAll ctx p "if " branches
      ++ (if otherwise.isEmpty then {} else p.emit elseLine "\x7d else \x7b")
      ++ Piece.renderAll ctx p.deeper otherwise
      ++ p.emit endLine "\x7d"
  | .element tag attrs children selfClosing line endLine =>
    let plain (complaint : Output) (content : Output) : Output :=
      complaint ++ p.emit line (rawCall ("<" ++ tag))
        ++ Output.concat (attrs.map (renderAttr p))
        ++ if ElementName.isVoid tag then p.emit line "w.Raw(\">\")"
          else if selfClosing then p.emit line (rawCall ("></" ++ tag ++ ">"))
          else p.emit line "w.Raw(\">\")" ++ content
            ++ p.emit endLine (rawCall ("</" ++ tag ++ ">"))
    if ElementName.isComponent tag then
      match ctx.component tag with
      | .error fault => plain (.found line fault) (Piece.renderAll ctx p children)
      | .ok (c, qualifier) =>
        let type := if qualifier.isEmpty then c.name else qualifier ++ "." ++ c.name
        let inner := p.deeper
        let content :=
          if !children.any Piece.isContent then {}
          else if (c.param? "Children").isNone then .found line (.noChildContent tag)
          else
            inner.emit line
                "Children: []runtime.Component\x7bruntime.Func(func(w *runtime.Buffer) error \x7b"
              ++ Piece.renderAll ctx inner.deeper children
              ++ inner.deeper.emit endLine "return nil"
              ++ inner.emit endLine "\x7d)\x7d,"
        p.emit line ("w.Component(&" ++ type ++ "\x7b")
          ++ Output.concat (attrs.map (renderArgument inner tag c)) ++ content
          ++ p.emit endLine "\x7d)"
    else plain {} (Piece.renderAll ctx p children)

/-- The code of a branch, opened by `if` or by `else if`. -/
def PieceBranch.render (ctx : RenderContext) (p : Place) (opening : Bytes) :
    PieceBranch → Output
  | .mk cond body line =>
    p.emit line (opening ++ cond ++ " \x7b") ++ Piece.renderAll ctx p.deeper body

/-- The code of a list of pieces. -/
def Piece.renderAll (ctx : RenderContext) (p : Place) : List Piece → Output
  | [] => {}
  | x :: xs => x.render ctx p ++ Piece.renderAll ctx p xs

/-- The code of the branches of a conditional, the first opened as given. -/
def PieceBranch.renderAll (ctx : RenderContext) (p : Place) (opening : Bytes) :
    List PieceBranch → Output
  | [] => {}
  | b :: bs => b.render ctx p opening ++ PieceBranch.renderAll ctx p "\x7d else if " bs

end

end Stencil
