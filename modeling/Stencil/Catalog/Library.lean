import Stencil.Text.Bytes

/-!
# The bundled library

The packages that come with the compiler, as sources: a small standard library, the
runtime that components render through, and a library of widgets.
-/

namespace Stencil.Library

/-- Lines as a text. -/
def text (lines : List String) : Bytes := lines.flatMap fun l => Bytes.ofString l ++ [Bytes.newline]

/-- The minimal standard library. -/
def std : Bytes := text [
  "// Package std is the minimal standard library available to components.",
  "package std",
  "",
  "// Itoa formats i in base 10.",
  "func Itoa(i int) string \x7b",
  "\tif i == 0 \x7b",
  "\t\treturn \"0\"",
  "\t\x7d",
  "\tneg := i < 0",
  "\tu := uint64(i)",
  "\tif neg \x7b",
  "\t\tu = uint64(-i)",
  "\t\x7d",
  "\tvar buf [24]byte",
  "\tn := len(buf)",
  "\tfor u > 0 \x7b",
  "\t\tn--",
  "\t\tbuf[n] = byte('0' + u%10)",
  "\t\tu /= 10",
  "\t\x7d",
  "\tif neg \x7b",
  "\t\tn--",
  "\t\tbuf[n] = '-'",
  "\t\x7d",
  "\treturn string(buf[n:])",
  "\x7d",
  "",
  "// FormatBool returns \"true\" or \"false\".",
  "func FormatBool(b bool) string \x7b",
  "\tif b \x7b",
  "\t\treturn \"true\"",
  "\t\x7d",
  "\treturn \"false\"",
  "\x7d",
  "",
  "// FormatFloat formats f with two decimals.",
  "func FormatFloat(f float64) string \x7b",
  "\tneg := f < 0",
  "\tif neg \x7b",
  "\t\tf = -f",
  "\t\x7d",
  "\tcents := int(f*100 + 0.5)",
  "\ts := Itoa(cents/100) + \".\" + pad2(cents%100)",
  "\tif neg \x7b",
  "\t\treturn \"-\" + s",
  "\t\x7d",
  "\treturn s",
  "\x7d",
  "",
  "func pad2(n int) string \x7b",
  "\tif n < 10 \x7b",
  "\t\treturn \"0\" + Itoa(n)",
  "\t\x7d",
  "\treturn Itoa(n)",
  "\x7d",
  "",
  "// Join concatenates parts separated by sep.",
  "func Join(parts []string, sep string) string \x7b",
  "\tout := \"\"",
  "\tfor i, p := range parts \x7b",
  "\t\tif i > 0 \x7b",
  "\t\t\tout += sep",
  "\t\t\x7d",
  "\t\tout += p",
  "\t\x7d",
  "\treturn out",
  "\x7d",
  "",
  "// Repeat returns s repeated n times.",
  "func Repeat(s string, n int) string \x7b",
  "\tout := \"\"",
  "\tfor i := 0; i < n; i++ \x7b",
  "\t\tout += s",
  "\t\x7d",
  "\treturn out",
  "\x7d",
  "",
  "// EscapeHTML escapes the five characters that are special in HTML.",
  "func EscapeHTML(s string) string \x7b",
  "\tout := make([]byte, 0, len(s))",
  "\tfor i := 0; i < len(s); i++ \x7b",
  "\t\tswitch c := s[i]; c \x7b",
  "\t\tcase '<':",
  "\t\t\tout = append(out, \"&lt;\"...)",
  "\t\tcase '>':",
  "\t\t\tout = append(out, \"&gt;\"...)",
  "\t\tcase '&':",
  "\t\t\tout = append(out, \"&amp;\"...)",
  "\t\tcase '\"':",
  "\t\t\tout = append(out, \"&#34;\"...)",
  "\t\tcase '\\'':",
  "\t\t\tout = append(out, \"&#39;\"...)",
  "\t\tdefault:",
  "\t\t\tout = append(out, c)",
  "\t\t\x7d",
  "\t\x7d",
  "\treturn string(out)",
  "\x7d"]

/-- The runtime of components. -/
def runtime : Bytes := text [
  "// Package runtime is the templating runtime generated components render",
  "// through.",
  "package runtime",
  "",
  "import \"templc/std\"",
  "",
  "// Component is implemented by every generated component.",
  "type Component interface \x7b",
  "\tRender(w *Buffer) error",
  "\x7d",
  "",
  "// Func adapts a render function to Component. Generated code uses it for",
  "// the child content of component tags.",
  "type Func func(w *Buffer) error",
  "",
  "func (f Func) Render(w *Buffer) error \x7b",
  "\treturn f(w)",
  "\x7d",
  "",
  "// Routable is implemented by components declared with @page.",
  "type Routable interface \x7b",
  "\tRoute() string",
  "\x7d",
  "",
  "// Stringer is implemented by values that format themselves.",
  "type Stringer interface \x7b",
  "\tString() string",
  "\x7d",
  "",
  "// Buffer collects rendered markup. The first error sticks.",
  "type Buffer struct \x7b",
  "\tparts []string",
  "\terr   error",
  "\x7d",
  "",
  "// NewBuffer returns an empty buffer.",
  "func NewBuffer() *Buffer \x7b",
  "\treturn &Buffer\x7b\x7d",
  "\x7d",
  "",
  "// Raw appends markup verbatim.",
  "func (b *Buffer) Raw(s string) \x7b",
  "\tif b.err != nil \x7b",
  "\t\treturn",
  "\t\x7d",
  "\tb.parts = append(b.parts, s)",
  "\x7d",
  "",
  "// Text appends the escaped string form of v.",
  "func (b *Buffer) Text(v any) \x7b",
  "\tb.Raw(std.EscapeHTML(Stringify(v)))",
  "\x7d",
  "",
  "// Attr appends ` name=\"value\"`, dropping false booleans and writing true",
  "// booleans as bare attributes.",
  "func (b *Buffer) Attr(name string, v any) \x7b",
  "\tif flag, ok := v.(bool); ok \x7b",
  "\t\tif flag \x7b",
  "\t\t\tb.Raw(\" \" + name)",
  "\t\t\x7d",
  "\t\treturn",
  "\t\x7d",
  "\tb.Raw(\" \" + name + \"=\\\"\" + std.EscapeHTML(Stringify(v)) + \"\\\"\")",
  "\x7d",
  "",
  "// Component renders a child component into the buffer.",
  "func (b *Buffer) Component(c Component) \x7b",
  "\tif b.err != nil || c == nil \x7b",
  "\t\treturn",
  "\t\x7d",
  "\tif err := c.Render(b); err != nil \x7b",
  "\t\tb.Fail(err)",
  "\t\x7d",
  "\x7d",
  "",
  "// Fail records err unless an error is already recorded.",
  "func (b *Buffer) Fail(err error) \x7b",
  "\tif b.err == nil \x7b",
  "\t\tb.err = err",
  "\t\x7d",
  "\x7d",
  "",
  "// Err returns the first recorded error.",
  "func (b *Buffer) Err() error \x7b",
  "\treturn b.err",
  "\x7d",
  "",
  "// String returns everything rendered so far.",
  "func (b *Buffer) String() string \x7b",
  "\treturn std.Join(b.parts, \"\")",
  "\x7d",
  "",
  "// Stringify converts a value to the text a template shows for it.",
  "func Stringify(v any) string \x7b",
  "\tswitch x := v.(type) \x7b",
  "\tcase nil:",
  "\t\treturn \"\"",
  "\tcase string:",
  "\t\treturn x",
  "\tcase int:",
  "\t\treturn std.Itoa(x)",
  "\tcase int64:",
  "\t\treturn std.Itoa(int(x))",
  "\tcase int32:",
  "\t\treturn std.Itoa(int(x))",
  "\tcase float64:",
  "\t\treturn std.FormatFloat(x)",
  "\tcase bool:",
  "\t\treturn std.FormatBool(x)",
  "\tcase Stringer:",
  "\t\treturn x.String()",
  "\tcase error:",
  "\t\treturn x.Error()",
  "\t\x7d",
  "\treturn \"?\"",
  "\x7d",
  "",
  "// Render renders c into a fresh buffer and returns the markup.",
  "func Render(c Component) (string, error) \x7b",
  "\tb := NewBuffer()",
  "\tb.Component(c)",
  "\treturn b.String(), b.Err()",
  "\x7d"]

/-- The widgets. -/
def ui : Bytes := text [
  "// Package ui is the widget library components can instantiate.",
  "package ui",
  "",
  "import (",
  "\t\"templc/runtime\"",
  "\t\"templc/std\"",
  ")",
  "",
  "// Button renders a <button>.",
  "type Button struct \x7b",
  "\tLabel    string",
  "\tKind     string",
  "\tDisabled bool",
  "\x7d",
  "",
  "func (c *Button) Render(w *runtime.Buffer) error \x7b",
  "\tkind := c.Kind",
  "\tif kind == \"\" \x7b",
  "\t\tkind = \"primary\"",
  "\t\x7d",
  "\tw.Raw(\"<button\")",
  "\tw.Attr(\"class\", \"btn btn-\"+kind)",
  "\tw.Attr(\"disabled\", c.Disabled)",
  "\tw.Raw(\">\")",
  "\tw.Text(c.Label)",
  "\tw.Raw(\"</button>\")",
  "\treturn w.Err()",
  "\x7d",
  "",
  "// Link renders an anchor.",
  "type Link struct \x7b",
  "\tHref  string",
  "\tLabel string",
  "\x7d",
  "",
  "func (c *Link) Render(w *runtime.Buffer) error \x7b",
  "\tw.Raw(\"<a\")",
  "\tw.Attr(\"href\", c.Href)",
  "\tw.Raw(\">\")",
  "\tw.Text(c.Label)",
  "\tw.Raw(\"</a>\")",
  "\treturn w.Err()",
  "\x7d",
  "",
  "// Badge renders a count next to a label.",
  "type Badge struct \x7b",
  "\tLabel string",
  "\tCount int",
  "\x7d",
  "",
  "func (c *Badge) Render(w *runtime.Buffer) error \x7b",
  "\tw.Raw(\"<span class=\\\"badge\\\">\")",
  "\tw.Text(c.Label)",
  "\tw.Raw(\" <b>\" + std.Itoa(c.Count) + \"</b></span>\")",
  "\treturn w.Err()",
  "\x7d",
  "",
  "// Stack renders its children in a vertical flex box.",
  "type Stack struct \x7b",
  "\tGap      int",
  "\tChildren []runtime.Component",
  "\x7d",
  "",
  "func (c *Stack) Render(w *runtime.Buffer) error \x7b",
  "\tw.Raw(\"<div\")",
  "\tw.Attr(\"style\", \"display:flex;flex-direction:column;gap:\"+std.Itoa(c.Gap)+\"px\")",
  "\tw.Raw(\">\")",
  "\tfor _, child := range c.Children \x7b",
  "\t\tw.Component(child)",
  "\t\x7d",
  "\tw.Raw(\"</div>\")",
  "\treturn w.Err()",
  "\x7d"]

/-- **The bundled packages**: path, file name and text. -/
def packages : List (Bytes × Bytes × Bytes) :=
  [("templc/runtime", "templc/runtime/runtime.gosrc", runtime),
    ("templc/std", "templc/std/std.gosrc", std),
    ("templc/ui", "templc/ui/ui.gosrc", ui)]

end Stencil.Library
