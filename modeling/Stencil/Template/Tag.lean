import Stencil.Fault
import Stencil.Template.Cursor
import Stencil.Template.ElementName
import Stencil.Template.Fragment
import Stencil.Template.Node

/-!
# Tags and their attributes

An opening tag is its name followed by attributes up to `>` or `/>`. An
attribute name is any run of bytes free of white space and of the few marks that
end it; its value is quoted, an expression, or a bare run. What fits none of this
is reported and passed over one byte at a time, so reading a tag always ends.
-/

namespace Stencil

open Bytes

/-- Whether a byte can belong to an attribute name. -/
def isAttrNameByte (c : UInt8) : Bool :=
  !(isSpace c || c = ch '=' || c = ch '>' || c = slash || c = dquote || c = squote || c = ch '<'
    || c = ch '@')

/-- The value behind the equals sign of an attribute, as far as it was understood. -/
structure AttrScan where
  /-- The value; an expression that does not parse gives none. -/
  value : Option AttrValue
  /-- The number of bytes passed. -/
  taken : Nat
  /-- What is wrong, and how many bytes in. -/
  fault : Option (Nat × Fault) := none

/-- The length of a value without quotes: it ends at white space, at `>` and
before `/>`. -/
def bareValueLength : Bytes → Nat
  | [] => 0
  | c :: s =>
    if isSpace c || c = ch '>' || (c = slash && s.head? = some (ch '>')) then 0
    else bareValueLength s + 1

/-- The value of the attribute `name`, read from behind the equals sign. -/
def attrValue (name s : Bytes) : AttrScan :=
  match s with
  | [] => ⟨some (.literal []), 0, none⟩
  | c :: r =>
    if c = dquote || c = squote then
      let text := r.takeWhile (· ≠ c)
      if text.length < r.length then ⟨some (.literal text), text.length + 2, none⟩
      else ⟨some (.literal text), text.length + 1, some (0, .unterminatedValue name)⟩
    else if c = ch '@' then
      let start := r.headD 0
      if start = ch '(' then
        let scan := Fragment.group .expression r
        match scan.fault with
        | none => ⟨some (.expr (Fragment.enclosed r scan)), scan.taken + 1, none⟩
        | some (place, fault) => ⟨none, scan.taken + 1, some (1 + offset place, fault)⟩
      else if isIdentStart start then
        let scan := Fragment.chain r
        match scan.fault with
        | none => ⟨some (.expr (r.take scan.taken)), scan.taken + 1, none⟩
        | some (place, fault) => ⟨none, scan.taken + 1, some (1 + offset place, fault)⟩
      else ⟨none, 1, some (1, .noExpression)⟩
    else
      let n := bareValueLength s
      ⟨some (.literal (s.take n)), n, none⟩
where
  /-- The number of bytes before the place of a fault. -/
  offset : Fragment.Place → Nat
    | .construct => 0
    | .at_ n => n

/-- How a tag ends. -/
inductive TagEnd where
  /-- With `>`: content may follow. -/
  | opened
  /-- With `/>`. -/
  | selfClosed
  /-- Not at all: the source is over. -/
  | endOfSource
  deriving DecidableEq, Repr

/-- **The attributes of a tag**, how it ended and where. -/
structure TagRest where
  /-- The attributes, in order. -/
  attrs : List Attr
  /-- How the tag ended. -/
  ending : TagEnd
  /-- The position behind it. -/
  cursor : Cursor
  /-- What was wrong in it. -/
  findings : List Finding

/-- The tag `tag` from behind its name on. -/
def tagRest (tag : Bytes) (c : Cursor) : TagRest :=
  let c₁ := c.skipWhile isSpace
  match h : c₁.rest with
  | [] => ⟨[], .endOfSource, c₁, []⟩
  | b :: r =>
    if b = ch '>' then ⟨[], .opened, c₁.advance 1, []⟩
    else if b = slash ∧ r.head? = some (ch '>') then ⟨[], .selfClosed, c₁.advance 2, []⟩
    else
      let name := c₁.rest.takeWhile isAttrNameByte
      if hname : name = [] then
        let more := tagRest tag (c₁.advance 1)
        { more with findings := ⟨c₁.line, .malformedAttribute tag⟩ :: more.findings }
      else
        let c₂ := c₁.advance name.length
        if c₂.rest.head? = some (ch '=') then
          let v := attrValue name (c₂.rest.drop 1)
          let found := match v.fault with
            | none => []
            | some (k, fault) => [⟨(c₂.advance (1 + k)).line, fault⟩]
          let attr := match v.value with
            | none => []
            | some value => [⟨name, value, c₁.line⟩]
          let more := tagRest tag (c₁.advance (name.length + 1 + v.taken))
          { more with attrs := attr ++ more.attrs, findings := found ++ more.findings }
        else
          let more := tagRest tag c₂
          { more with attrs := ⟨name, .bare, c₁.line⟩ :: more.attrs }
termination_by c.rest.length
decreasing_by
  all_goals have hrest : c₁.rest ≠ [] := by simp [h]
  · exact Cursor.advance_skipWhile_lt hrest Nat.one_pos
  · exact Cursor.advance_skipWhile_lt hrest (by omega)
  · exact Cursor.advance_skipWhile_lt hrest (List.length_pos_iff.2 hname)

/-- The rest of a tag never moves back. -/
theorem tagRest_le (tag : Bytes) (c : Cursor) :
    (tagRest tag c).cursor.rest.length ≤ c.rest.length := by
  fun_induction tagRest tag c with
  | case1 c c₁ => exact Cursor.skipWhile_le ..
  | case2 c c₁ => exact Nat.le_trans (Cursor.advance_le ..) (Cursor.skipWhile_le ..)
  | case3 c c₁ => exact Nat.le_trans (Cursor.advance_le ..) (Cursor.skipWhile_le ..)
  | case4 c c₁ b r _ _ _ _ _ more ih =>
    exact Nat.le_trans ih (Nat.le_trans (Cursor.advance_le ..) (Cursor.skipWhile_le ..))
  | case5 c c₁ b r _ _ _ _ _ c₂ _ v _ _ more ih =>
    exact Nat.le_trans ih (Nat.le_trans (Cursor.advance_le ..) (Cursor.skipWhile_le ..))
  | case6 c c₁ b r _ _ _ _ _ c₂ _ more ih =>
    exact Nat.le_trans ih (Nat.le_trans (Cursor.advance_le ..) (Cursor.skipWhile_le ..))

/-- The name in a closing tag that starts at the cursor, and the position behind
the tag. A missing `>` is not missed. -/
def closeTag (c : Cursor) : Bytes × Cursor :=
  let name := (c.rest.drop 2).takeWhile ElementName.isTagByte
  let c₁ := (c.advance (2 + name.length)).skipWhile isSpace
  (name, if c₁.peek 0 = ch '>' then c₁.advance 1 else c₁)

/-- A closing tag takes at least the bytes that announce it. -/
theorem closeTag_lt {c : Cursor} (h : c.rest ≠ []) :
    (closeTag c).2.rest.length < c.rest.length := by
  have hlt := Cursor.advance_lt h
    (by omega : 0 < 2 + ((c.rest.drop 2).takeWhile ElementName.isTagByte).length)
  have hle := Cursor.skipWhile_le isSpace
    (c.advance (2 + ((c.rest.drop 2).takeWhile ElementName.isTagByte).length))
  unfold closeTag
  dsimp only
  split
  · exact Nat.lt_of_le_of_lt (Nat.le_trans (Cursor.advance_le ..) hle) hlt
  · exact Nat.lt_of_le_of_lt hle hlt

end Stencil
