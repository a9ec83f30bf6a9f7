import Stencil.Generated.Naming
import Stencil.Generated.Render

/-!
# The code of a unit

A component unit is generated twice. The declaration of a component is its type, its
route and a `Render` method that does nothing, and needs to know nothing about other
components; from the declarations of a batch its shapes are found. The full code has
the real `Render` body, with component tags resolved through those shapes.

Both are the same lines around the body of `Render`: the preamble with the package
clause and the imports, the type with one field per parameter, the route, and at the
end the declaration blocks, copied as they are.
-/

namespace Stencil

open Bytes

/-- How much code is generated. -/
inductive Mode where
  /-- The shape of the component only. -/
  | declaration
  /-- The render body too. -/
  | full
  deriving DecidableEq, Repr

/-- The name of a mode. -/
def Mode.name : Mode → Bytes
  | .declaration => "declaration"
  | .full => "full"

/-- The import path of the package every component renders through. -/
def runtimePath : Bytes := "templc/runtime"

/-- The package name used when none is given. -/
def defaultPackageName : Bytes := "app"

/-- **The code generated for a unit.** -/
structure GeneratedUnit where
  /-- The unit. -/
  unit : SourceUnit
  /-- How much was generated. -/
  mode : Mode
  /-- The name of the component's type. -/
  typeName : Bytes
  /-- The name of the generated file. -/
  fileName : Bytes
  /-- The generated lines. -/
  lines : List Line
  /-- What is wrong with the unit. -/
  diagnostics : List Diagnostic
  /-- The component as its directives declare it. -/
  shape : Component

namespace GeneratedUnit

/-- The text of the generated file. -/
def code (g : GeneratedUnit) : Bytes := Line.textOf g.lines

/-- The source map of the generated file. -/
def sourceMap (g : GeneratedUnit) : SourceMap := .ofLines g.lines

end GeneratedUnit

/-- The shape a document declares for the type `typeName`. A parameter takes literals
as text when its type is written `string`. -/
def Document.shape (typeName : Bytes) (d : Document) : Component where
  name := typeName
  route := (d.page.map PageDirective.route).getD []
  params := d.params.map fun (p : ParamDirective) =>
    { name := p.name, type := p.type, text := p.type = "string" }

/-- The document with the imports it inherits in front of its own, and what is wrong
with the imports units they come from. -/
def Document.inheritImports (ix : UnitIndex) (self input : Bytes) (d : Document) :
    Document × List Diagnostic :=
  let spans := d.codeSpans ix self input
  let chain := (ix.importsChain self).map fun u => (u, Document.read u.text)
  let offered := chain.flatMap fun (_, doc, _) => doc.imports
  let inherited := keepImports spans (d.imports.map ImportDirective.name) offered
  ({ d with imports := inherited ++ d.imports },
    chain.flatMap fun (u, _, findings) => findings.map (Finding.diagnostic u.path))

namespace Generate

/-- A line made for the one-based input line `src`, zero for none. -/
def line (indent src : Nat) (code : Bytes) : Line := ({ indent : Place }).line src code

/-- An empty line. -/
def blank : Line := line 0 0 []

/-- The imports of the file. The runtime comes first and is not repeated. -/
def importLines (imports : List ImportDirective) : List Line :=
  let needed := imports.filter fun (i : ImportDirective) =>
    !(i.path = runtimePath && i.name = "runtime")
  line 0 0 "import (" :: line 1 0 (Quoted.quote runtimePath)
    :: (needed.map fun i =>
      line 1 (if i.inherited then 0 else i.line)
        (if i.localName.isEmpty then Quoted.quote i.path
          else i.localName ++ " " ++ Quoted.quote i.path))
    ++ [line 0 0 ")", blank]

/-- The type of the component. -/
def typeLines (typeName : Bytes) (params : List ParamDirective) : List Line :=
  line 0 0 ("type " ++ typeName ++ " struct \x7b")
    :: (params.map fun p => line 1 p.line (p.name ++ " " ++ p.type))
    ++ [line 0 0 "\x7d", blank]

/-- The route of the component, if it has one. -/
def routeLines (typeName : Bytes) : Option PageDirective → List Line
  | none => []
  | some page =>
    [line 0 page.line ("func (c *" ++ typeName ++ ") Route() string \x7b"),
      line 1 page.line ("return " ++ Quoted.quote page.route), line 0 0 "\x7d", blank]

/-- Everything up to and including the signature of `Render`. -/
def preamble (self package typeName : Bytes) (d : Document) : List Line :=
  [line 0 0 ("// Code generated by templc from " ++ self ++ ". DO NOT EDIT."), blank,
      line 0 0 ("package " ++ package), blank]
    ++ importLines d.imports ++ typeLines typeName d.params ++ routeLines typeName d.page
    ++ [line 0 0 ("func (c *" ++ typeName ++ ") Render(w *runtime.Buffer) error \x7b")]

/-- A local variable for each parameter, used at least once. -/
def paramLines (params : List ParamDirective) : List Line :=
  params.flatMap fun p =>
    [line 1 p.line (p.name ++ " := c." ++ p.name), line 1 p.line ("_ = " ++ p.name)]

/-- Everything behind the body of `Render`: its end, and the declaration blocks. -/
def postamble (d : Document) : List Line :=
  line 0 0 "\x7d" :: d.code.flatMap fun block =>
    blank :: block.lines.zipIdx.map fun (l, i) => line 0 (block.line + i) l

/-- The body of `Render`, without the lines for its parameters. -/
def body (mode : Mode) (resolver : Resolver) (ix : UnitIndex) (self input : Bytes)
    (d : Document) : Output :=
  match mode with
  | .full =>
    Piece.renderAll { imports := d.imports, resolver } { indent := 1 }
        (Splice.expand ix self input d.body)
      ++ { lines := [line 1 0 "return w.Err()"] }
  | .declaration =>
    { lines := [line 1 0 "return nil"], findings := Node.includeFindingsAll ix self d.body }

/-- **The code of a unit** read from `input`, which is its text and whatever the
batch puts in front of it. -/
def unit (u : SourceUnit) (input : Bytes) (mode : Mode) (ix : UnitIndex) (resolver : Resolver)
    (package : Bytes) : GeneratedUnit :=
  let package := if package.isEmpty then defaultPackageName else package
  let typeName := Naming.typeName u.path
  let (own, findings) := Document.read input
  let (d, importDiags) := own.inheritImports ix u.path input
  let out := body mode resolver ix u.path input d
  { unit := u
    mode
    typeName
    fileName := Naming.fileName u.path
    lines := preamble u.path package typeName d
      ++ (if mode = .full then paramLines d.params else [])
      ++ out.lines ++ postamble d
    diagnostics := findings.map (Finding.diagnostic u.path) ++ importDiags
      ++ out.findings.map (Finding.diagnostic u.path)
    shape := d.shape typeName }

end Generate

end Stencil
