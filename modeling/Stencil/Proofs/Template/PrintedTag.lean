import Stencil.Proofs.Template.Print
import Stencil.Proofs.Template.Shift

/-!
# Tags read back

A printed tag is read back byte for byte: each attribute stops exactly where the next one
or the angle bracket begins, and no complaint is made. What the tag is behind does not
matter, and neither does what follows it.
-/

namespace Stencil

open Bytes

namespace Cursor

variable {c : Cursor} {a b : UInt8} {t : Bytes}

theorem peek_zero (h : c.rest = b :: t) : c.peek 0 = b := by
  rw [peek, h]
  rfl

theorem peek_one (h : c.rest = a :: b :: t) : c.peek 1 = b := by
  rw [peek, h]
  rfl

/-- The position behind a text that is next. -/
theorem advance_append {s : Bytes} (h : c.rest = s ++ t) :
    (c.advance s.length).rest = t ∧ (c.advance s.length).before = s.getLastD c.before := by
  unfold advance
  rw [h, List.drop_left, List.take_left]
  exact ⟨rfl, rfl⟩

/-- Nothing is skipped in front of a byte that is not to be skipped. -/
theorem skipWhile_of_head {p : UInt8 → Bool} (h : c.rest = b :: t) (hb : p b = false) :
    c.skipWhile p = c.advance 0 := by
  unfold skipWhile
  rw [h, List.takeWhile_cons_of_neg (by simp [hb])]
  rfl

/-- One blank is skipped. -/
theorem skipWhile_blank (h : c.rest = ch ' ' :: b :: t) (hb : isSpace b = false) :
    c.skipWhile isSpace = c.advance 1 := by
  unfold skipWhile
  rw [h, List.takeWhile_cons_of_pos (by decide), List.takeWhile_cons_of_neg (by simp [hb])]
  rfl

end Cursor

/-! ## Attributes -/

/-- A quoted value is read back. -/
theorem attrValue_literal (name : Bytes) {text : Bytes} (h : dquote ∉ text) (t : Bytes) :
    attrValue name (dquote :: (text ++ dquote :: t))
      = ⟨some (.literal text), text.length + 2, none⟩ := by
  have htake : (text ++ dquote :: t).takeWhile (· ≠ dquote) = text :=
    takeWhile_append_cons (fun c hc => by simpa using ne_of_mem_of_not_mem hc h) (by decide) t
  unfold attrValue
  dsimp only
  rw [if_pos (by decide), htake, if_pos (by simp)]

/-- An expression in parentheses is read back. -/
theorem attrValue_expr (name : Bytes) {code : Bytes} (h : CanonicalCode code) (t : Bytes) :
    attrValue name (ch '@' :: ch '(' :: (code ++ ch ')' :: t))
      = ⟨some (.expr code), code.length + 3, none⟩ := by
  unfold attrValue
  dsimp only
  rw [if_neg (by decide), if_pos rfl, List.headD_cons, if_pos rfl,
    Fragment.group_enclosing h.balanced]
  dsimp only
  rw [Fragment.enclosed_enclosing]

/-- **One attribute is read back**, and the rest of the tag is read behind it. -/
theorem tagRest_attr (tag : Bytes) {a : Attr} (ha : a.Canonical) {c : Cursor} {b : UInt8}
    {t : Bytes} (hc : c.rest = a.print ++ b :: t) (hb : b = ch ' ' ∨ b = ch '>') :
    ∃ (line : Nat) (d : Cursor), d.rest = b :: t ∧ tagRest tag c =
      { tagRest tag d with attrs := { a with line := line } :: (tagRest tag d).attrs } := by
  obtain ⟨name, value, line⟩ := a
  obtain ⟨hne, hname, hvalue⟩ := ha
  obtain ⟨x, name, rfl⟩ := List.exists_cons_of_ne_nil hne
  dsimp only at hname hvalue
  have hx : isAttrNameByte x = true := hname x List.mem_cons_self
  have hxs : x ≠ ch '>' ∧ x ≠ slash ∧ isSpace x = false := by
    unfold isAttrNameByte at hx
    grind
  -- behind the blank the name is next, and its value after it
  have hrest : (c.skipWhile isSpace).rest = x :: (name ++ (value.print ++ b :: t)) := by
    rw [Cursor.skipWhile_rest, hc, Attr.print, List.cons_append,
      List.takeWhile_cons_of_pos (by decide), List.append_assoc, List.cons_append,
      List.takeWhile_cons_of_neg (by simp [hxs.2.2])]
    rfl
  rw [tagRest_eq tag c]
  generalize c.skipWhile isSpace = c₁ at hrest ⊢
  refine ⟨c₁.line, c₁.advance (x :: (name ++ value.print)).length, ?_, ?_⟩
  · exact (Cursor.advance_append (by rw [hrest]; simp)).1
  have hafter : (c₁.advance (x :: name).length).rest = value.print ++ b :: t :=
    (Cursor.advance_append (by rw [hrest]; simp)).1
  have htake : (x :: (name ++ (value.print ++ b :: t))).takeWhile isAttrNameByte = x :: name := by
    cases value with
    | bare => exact takeWhile_append_cons hname (by rcases hb with rfl | rfl <;> rfl) t
    | literal | expr => exact takeWhile_append_cons hname rfl _
  dsimp only
  rw [hrest]
  dsimp only
  rw [if_neg hxs.1, if_neg (fun h => hxs.2.1 h.1), htake, if_neg (List.cons_ne_nil _ _), hafter]
  cases value with
  | bare =>
    have hne : (b :: t).head? ≠ some (ch '=') := by
      rcases hb with rfl | rfl <;> rw [List.head?_cons] <;> decide
    rw [AttrValue.print, List.nil_append, if_neg hne, List.append_nil]
  | literal text =>
    rw [AttrValue.print, List.cons_append, List.head?_cons, if_pos rfl, List.drop_one,
      List.tail_cons, List.cons_append, List.append_assoc, List.singleton_append,
      attrValue_literal _ hvalue]
    dsimp only
    rw [show (x :: name).length + 1 + (text.length + 2)
      = (x :: (name ++ ch '=' :: dquote :: (text ++ [dquote]))).length by simp; omega]
    rfl
  | expr code =>
    rw [AttrValue.print, List.cons_append, List.head?_cons, if_pos rfl, List.drop_one,
      List.tail_cons, List.cons_append, List.cons_append, List.append_assoc,
      List.singleton_append, attrValue_expr _ hvalue]
    dsimp only
    rw [show (x :: name).length + 1 + (code.length + 3)
      = (x :: (name ++ ch '=' :: ch '@' :: ch '(' :: (code ++ [ch ')']))).length by simp; omega]
    rfl

/-- What follows a tag name or an attribute is the blank of the next attribute or the angle
bracket. -/
theorem attrs_print_eq_cons (attrs : List Attr) (t : Bytes) :
    ∃ b u, (b = ch ' ' ∨ b = ch '>') ∧ attrs.flatMap Attr.print ++ ch '>' :: t = b :: u := by
  cases attrs with
  | nil => exact ⟨_, _, .inr rfl, rfl⟩
  | cons a attrs => exact ⟨_, _, .inl rfl, rfl⟩

/-- **A printed tag is read back**: its attributes are those that were printed, and reading
goes on right behind the angle bracket. -/
theorem tagRest_print (tag : Bytes) {attrs : List Attr} (h : ∀ a ∈ attrs, a.Canonical)
    {c : Cursor} {t : Bytes} (hc : c.rest = attrs.flatMap Attr.print ++ ch '>' :: t) :
    ∃ (as : List Attr) (d : Cursor), tagRest tag c = ⟨as, .opened, d, []⟩
      ∧ as.map Attr.erase = attrs.map Attr.erase ∧ d.rest = t ∧ d.before = ch '>' := by
  induction attrs generalizing c with
  | nil =>
    have hskip := Cursor.skipWhile_of_head (p := isSpace) hc (by decide)
    have hrest : (c.skipWhile isSpace).rest = ch '>' :: t := by rw [hskip]; exact hc
    obtain ⟨hd, hbefore⟩ :=
      Cursor.advance_append (s := [ch '>']) (t := t) (c := c.skipWhile isSpace) hrest
    refine ⟨[], _, ?_, rfl, hd, hbefore⟩
    rw [tagRest_eq]
    dsimp only
    rw [hrest]
    rfl
  | cons a attrs ih =>
    rw [List.flatMap_cons, List.append_assoc] at hc
    obtain ⟨b, u, hb, hu⟩ := attrs_print_eq_cons attrs t
    rw [hu] at hc
    obtain ⟨line, d, hd, heq⟩ := tagRest_attr tag (h a List.mem_cons_self) hc hb
    obtain ⟨as, e, hrest, has, he, hbefore⟩ :=
      ih (fun a' ha' => h a' (List.mem_cons_of_mem _ ha')) (hd.trans hu.symm)
    refine ⟨{ a with line := line } :: as, e, ?_, ?_, he, hbefore⟩
    · rw [heq, hrest]
    · rw [List.map_cons, has, List.map_cons]
      rfl

/-- **A printed closing tag is read back.** -/
theorem closeTag_print {tag : Bytes} (h : ∀ c ∈ tag, ElementName.isTagByte c = true)
    {c : Cursor} {t : Bytes} (hc : c.rest = printClose tag ++ t) :
    (closeTag c).1 = tag ∧ (closeTag c).2.rest = t ∧ (closeTag c).2.before = ch '>' := by
  have hc : c.rest = (ch '<' :: slash :: tag) ++ ch '>' :: t := by
    rw [hc, printClose]
    simp
  have hname : (c.rest.drop 2).takeWhile ElementName.isTagByte = tag := by
    rw [hc]
    exact takeWhile_append_cons h (by decide) t
  obtain ⟨hrest, -⟩ := Cursor.advance_append hc
  have hlen : (ch '<' :: slash :: tag).length = 2 + tag.length := by simp; omega
  rw [hlen] at hrest
  unfold closeTag
  dsimp only
  rw [hname]
  refine ⟨rfl, ?_⟩
  have hskip := Cursor.skipWhile_of_head (p := isSpace) hrest (by decide)
  generalize c.advance (2 + tag.length) = d at hrest hskip ⊢
  have hrest : (d.skipWhile isSpace).rest = [ch '>'] ++ t := by rw [hskip]; exact hrest
  rw [if_pos (by rw [Cursor.peek, hrest]; rfl)]
  exact Cursor.advance_append hrest

end Stencil
