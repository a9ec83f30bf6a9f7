import Stencil.Generated.Splice

/-!
# Which code a unit contains

An imports unit may offer more packages than a unit needs, and a package that is
imported and not used does not compile. So an inherited import is kept only when some
code fragment of the unit refers to it. The fragments are those that end up in the
generated code: parameter types, declaration blocks, expressions, conditions, loop
clauses, component tags and the values passed to components, of the unit itself and
of every unit it includes, each included unit counted once.
-/

namespace Stencil

open Bytes

/-- Fragments collected so far, last first, with the include targets that were
visited. -/
structure SpanWalk where
  /-- The fragments, last first. -/
  spans : List Bytes := []
  /-- The include targets that were visited or found missing. -/
  seen : List Bytes

/-- One more fragment. -/
def SpanWalk.add (s : Bytes) (w : SpanWalk) : SpanWalk := { w with spans := s :: w.spans }

/-- The fragments of a tag: its name if it is a component, and the values of its
attributes that are code. -/
def tagSpans (tag : Bytes) (attrs : List Attr) : List Bytes :=
  let component := ElementName.isComponent tag
  (if component then [tag] else []) ++ attrs.filterMap fun a =>
    match a.value with
    | .expr code => some code
    | .literal text => if component then some text else none
    | .bare => none

mutual

/-- The fragments of a tree, an include contributing as `f` says. -/
def Node.walkSpans (f : Bytes → SpanWalk → SpanWalk) : Node → SpanWalk → SpanWalk
  | .text .., w => w
  | .expr code _, w => w.add code
  | .splice path _, w => f path w
  | .loop clause body _ _, w => Node.walkSpansAll f body (w.add clause)
  | .choice branches otherwise _ _, w =>
    Node.walkSpansAll f otherwise (Branch.walkSpansAll f branches w)
  | .element tag attrs children _ _ _, w =>
    Node.walkSpansAll f children ((tagSpans tag attrs).foldl (fun w s => w.add s) w)

/-- The fragments of a branch. -/
def Branch.walkSpans (f : Bytes → SpanWalk → SpanWalk) : Branch → SpanWalk → SpanWalk
  | .mk cond body _, w => Node.walkSpansAll f body (w.add cond)

/-- The fragments of a list of trees. -/
def Node.walkSpansAll (f : Bytes → SpanWalk → SpanWalk) : List Node → SpanWalk → SpanWalk
  | [], w => w
  | n :: ns, w => Node.walkSpansAll f ns (n.walkSpans f w)

/-- The fragments of a list of branches. -/
def Branch.walkSpansAll (f : Bytes → SpanWalk → SpanWalk) : List Branch → SpanWalk → SpanWalk
  | [], w => w
  | b :: bs, w => Branch.walkSpansAll f bs (b.walkSpans f w)

end

namespace Document

/-- The fragments of a document, an include contributing as `f` says. -/
def walkSpans (f : Bytes → SpanWalk → SpanWalk) (d : Document) (w : SpanWalk) : SpanWalk :=
  let w := d.params.foldl (fun w p => w.add p.type) w
  let w := d.code.foldl (fun w c => c.lines.foldl (fun w l => w.add l) w) w
  Node.walkSpansAll f d.body w

/-- The fragments an include contributes, in a unit of directory `dir`. -/
def includeSpans (ix : UnitIndex) : Nat → Bytes → Bytes → SpanWalk → SpanWalk
  | 0, _, _, w => w
  | depth + 1, dir, path, w =>
    let target := includeTarget dir path
    if w.seen.contains target then w
    else
      let w := { w with seen := target :: w.seen }
      match ix.component? target with
      | none => w
      | some u =>
        (Document.read u.text).1.walkSpans (includeSpans ix depth (Path.dir target)) w

/-- **The code fragments of a unit's document**, in order. -/
def codeSpans (ix : UnitIndex) (self input : Bytes) (d : Document) : List Bytes :=
  let depth := Splice.depthBound ix self input
  (d.walkSpans (includeSpans ix depth (Path.dir self)) { seen := [self] }).spans.reverse

end Document

/-- The search behind `refersTo`: `before` is the byte ahead of the text. -/
def refersAt (needle : Bytes) (before : UInt8) : Bytes → Bool
  | [] => startsWith [] needle && !isIdentChar before
  | c :: s => (startsWith (c :: s) needle && !isIdentChar before) || refersAt needle c s

/-- **Whether a fragment refers to a package**: its name followed by a dot occurs at
the start of an identifier. -/
def refersTo (text name : Bytes) : Bool := refersAt (name ++ ".") 0 text

/-- The name a unit refers to an import by: the given one, or the last segment of the
path. -/
def ImportDirective.name (d : ImportDirective) : Bytes :=
  if d.localName.isEmpty then Path.base d.path else d.localName

/-- One import offered to a unit: it is kept unless its name is taken or no fragment
refers to it. The blank name is never referred to and always kept. -/
def offerImport (spans taken : List Bytes) (i : ImportDirective) : Option ImportDirective :=
  if taken.contains i.name then none
  else if i.name ≠ "_" && !spans.any fun s => refersTo s i.name then none
  else some { i with inherited := true }

/-- The offered imports that are kept, first come first served. -/
def keepImports (spans : List Bytes) : List Bytes → List ImportDirective → List ImportDirective
  | _, [] => []
  | taken, i :: is =>
    match offerImport spans taken i with
    | some kept => kept :: keepImports spans (i.name :: taken) is
    | none => keepImports spans taken is

end Stencil
