import Stencil.Proofs.Generated.Inherited
import Stencil.Proofs.Generated.Remarks

/-!
# Lines that name a package

Generated code names a package if one of its lines refers to it. Fragments that are copied into
a line are named by it, since none is put directly behind an identifier (`refersTo_lineOf`). A
literal attribute value of a component tag is collected as if it were code. It may be code,
but it may as well be quoted, and with escapes a text need not refer to what it referred to
without them. Most literals are not changed by quoting (`Verbatim`).

The walk that collects the fragments of a tree and the rendering of the tree are followed side
by side (`Node.names_of_refers`). If no complaint of rendering is an error, everything that the
walk comes upon is rendered as well: the arguments of component tags have parameters, and
content that is not shown has no fragments. That is said for the fragments that are `due`,
because literals and declarations of included units are to be left out of account.
-/

namespace Stencil

open Bytes

/-! ## Names in lines -/

/-- **A line names a package**: its code refers to it. -/
def Names (name : Bytes) (ls : List (List Token)) : Prop :=
  ∃ ts ∈ ls, refersTo (Token.lineOf ts) name = true

section Names

variable {name : Bytes} {a b : List (List Token)} {ts : List Token}

theorem Names.mono (h : Names name a) (hsub : a ⊆ b) : Names name b :=
  let ⟨ts, hts, hrefers⟩ := h
  ⟨ts, hsub hts, hrefers⟩

theorem names_append : Names name (a ++ b) ↔ Names name a ∨ Names name b := by
  simp only [Names, List.mem_append, or_and_right, exists_or]

/-- **A fragment is named by the line that copies it** behind a fixed text, if that does not end
like an identifier. -/
theorem refersTo_lineOf (front : List Token) {before s : Bytes}
    (hbefore : ∀ d, isIdentChar (before.getLastD d) = false) (back : List Token)
    (hrefers : refersTo s name = true) :
    refersTo (Token.lineOf (front ++ .fixed before :: .copied s :: back)) name = true := by
  have hline : Token.lineOf (front ++ .fixed before :: .copied s :: back)
      = (Token.lineOf front ++ before) ++ s ++ Token.lineOf back := by
    simp [Token.lineOf]
  rw [hline]
  refine refersTo_between ?_ hrefers
  rw [getLastD_append]
  exact hbefore _

end Names

/-! ## Tags -/

theorem plain_of_isTagByte {tag : Bytes} (h : ∀ b ∈ tag, ElementName.isTagByte b = true) :
    Quoted.Plain tag := by
  intro b hb
  have hb := h b hb
  have hrange : 45 ≤ b.toNat ∧ b.toNat ≤ 122 := by
    simp only [ElementName.isTagByte, Bool.or_eq_true, decide_eq_true_eq] at hb
    rcases hb with ((hb | rfl) | rfl) | rfl
    · exact (isIdentChar_range hb).imp_left (Nat.le_trans (by decide))
    all_goals decide
  exact ⟨by omega, by omega, fun heq => absurd (heq ▸ hb) (by decide),
    fun heq => absurd (heq ▸ hb) (by decide)⟩

/-- A tag that refers to a package is named by the line that opens its element. -/
theorem refersTo_openTag {tag name : Bytes} (htag : ∀ b ∈ tag, ElementName.isTagByte b = true)
    (h : refersTo tag name = true) :
    refersTo (Token.lineOf (rawTokens ("<" ++ tag))) name = true := by
  have hplain : Quoted.Plain ("<" ++ tag) :=
    List.forall_mem_append.2 ⟨List.forall_mem_singleton.2 (by decide), plain_of_isTagByte htag⟩
  have hopen : ("w.Raw(\"<" : Bytes) = ("w.Raw(" : Bytes) ++ dquote :: ("<" : Bytes) := rfl
  have hclose : ("\")" : Bytes) = [dquote] ++ (")" : Bytes) := rfl
  have hline : rawCall ("<" ++ tag) = ("w.Raw(\"<" : Bytes) ++ tag ++ "\")" := by
    rw [rawCall, Quoted.quote_of_plain hplain, hopen, hclose]
    simp only [List.cons_append, List.append_assoc]
  rw [lineOf_rawTokens, hline]
  exact refersTo_between (by decide) h

/-- If a resolved tag refers to a package, the type of the component does. -/
theorem RenderContext.refersTo_typeIn {ctx : RenderContext} {tag name : Bytes} {c : Component}
    {qualifier : Bytes} (hc : ctx.component tag = .ok (c, qualifier))
    (h : refersTo tag name = true) : refersTo (c.typeIn qualifier) name = true := by
  obtain ⟨front, back, htag, hfront⟩ := refersTo_iff.1 h
  obtain ⟨pkg, n, -, hn, ⟨-, hname⟩ | ⟨hq, hname⟩⟩ := component_eq_ok hc
  · -- a name without a dot refers to nothing
    refine absurd ?_ hn
    rw [← hname, htag]
    exact List.mem_append_left _ (List.mem_append_right _ (List.mem_append_right _ (by decide)))
  · rw [hname, List.append_cons] at htag
    -- the dot behind the package is the last one, or one in front of it
    obtain ⟨d, hd⟩ : ∃ d, qualifier ++ [ch '.'] = front ++ (name ++ ".") ++ d := by
      rcases List.append_eq_append_iff.1 htag with ⟨d, hd, hnd⟩ | ⟨d, hd, -⟩
      · rcases d.eq_nil_or_concat' with rfl | ⟨d, b, rfl⟩
        · exact ⟨[], by rw [List.append_nil, hd, List.append_nil]⟩
        · have hlast : (front ++ name) ++ [ch '.'] = (qualifier ++ [ch '.'] ++ d) ++ [b] := by
            rw [List.append_assoc _ d, ← hd, List.append_assoc front]
            rfl
          obtain rfl := List.singleton_inj.1 (List.append_inj' hlast rfl).2
          exact absurd (hnd ▸ by simp) hn
      · exact ⟨d, hd⟩
    refine refersTo_iff.2 ⟨front, d ++ c.name, ?_, hfront⟩
    rw [Component.typeIn, if_neg (mt List.isEmpty_iff.1 hq), ← List.append_assoc, ← hd]
    rfl

/-! ## Fragments of a tag -/

/-- **A literal that code holds as it is**: neither quoting nor trimming changes it. -/
def Verbatim (s : Bytes) : Prop := Quoted.Plain s ∧ trim s = s

/-- The literal attribute values of a tag, if it is a component tag. -/
def tagLiterals (tag : Bytes) (attrs : List Attr) : List Bytes :=
  if ElementName.isComponent tag then
    attrs.filterMap fun a =>
      match a.value with
      | .literal text => some text
      | .expr _ | .bare => none
  else []

/-- **A fragment that the lines of a tag show**: the tag, an attribute value that is code, or a
literal that is held as it is. -/
def ShownIn (tag : Bytes) (attrs : List Attr) (s : Bytes) : Prop :=
  s = tag ∨ ∃ a ∈ attrs, a.value = .expr s ∨ (a.value = .literal s ∧ Verbatim s)

/-- The fragments of a tag are shown, if the literals are held as they are. -/
theorem shownIn_of_mem_tagSpans {tag s : Bytes} {attrs : List Attr} (h : s ∈ tagSpans tag attrs)
    (hlit : s ∈ tagLiterals tag attrs → Verbatim s) : ShownIn tag attrs s := by
  rcases List.mem_append.1 h with h | h
  · split at h
    · exact .inl (List.mem_singleton.1 h)
    · exact absurd h List.not_mem_nil
  · obtain ⟨a, ha, hs⟩ := List.mem_filterMap.1 h
    cases hvalue : a.value with
    | expr code =>
      rw [hvalue] at hs
      exact .inr ⟨a, ha, .inl (by rw [hvalue, Option.some.inj hs])⟩
    | bare =>
      rw [hvalue] at hs
      cases hs
    | literal text =>
      rw [hvalue] at hs
      dsimp only at hs
      split at hs
      · next htag =>
        refine .inr ⟨a, ha, .inr ⟨by rw [hvalue, Option.some.inj hs], hlit ?_⟩⟩
        rw [tagLiterals, if_pos htag]
        exact List.mem_filterMap.2 ⟨a, ha, by rw [hvalue]; exact hs⟩
      · cases hs

section Tags

variable {tag name s : Bytes} {attrs : List Attr}

/-- An attribute of a plain element names what its value refers to. -/
theorem refersTo_attrTokens {a : Attr}
    (h : a.value = .expr s ∨ (a.value = .literal s ∧ Verbatim s))
    (hrefers : refersTo s name = true) : refersTo (Token.lineOf (attrTokens a)) name = true := by
  rcases h with hvalue | ⟨hvalue, hplain, -⟩
  · unfold attrTokens
    rw [hvalue]
    exact refersTo_lineOf [.fixed "w.Attr(", .quoted a.name] (fun _ => rfl) [.fixed ")"] hrefers
  · have hquotes : dquote ∉ s := fun h => (hplain _ h).2.2.1 rfl
    have hline : Token.lineOf (attrTokens a)
        = "w.Raw(" ++ Quoted.quote ((" " ++ a.name ++ "=") ++ dquote :: (s ++ [dquote]))
          ++ ")" := by
      unfold attrTokens
      rw [hvalue]
      dsimp only
      rw [lineOf_rawTokens, rawCall, replaceByte_of_not_mem hquotes]
      refine congrArg (fun q => ("w.Raw(" : Bytes) ++ Quoted.quote q ++ ")") ?_
      simp only [List.append_assoc]
      rfl
    rw [hline, Quoted.quote_append_plain _ hplain]
    refine refersTo_between (by decide) (refersTo_between ?_ hrefers)
    rw [getLastD_append]
    rfl

/-- The lines of a plain element name what its fragments refer to. -/
theorem names_plainTokens (htag : ∀ b ∈ tag, ElementName.isTagByte b = true)
    (hs : ShownIn tag attrs s) (hrefers : refersTo s name = true)
    (selfClosing : Bool) (content : List (List Token)) :
    Names name (plainTokens tag attrs selfClosing content) := by
  rcases hs with rfl | ⟨a, ha, hvalue⟩
  · exact ⟨_, List.mem_cons_self .., refersTo_openTag htag hrefers⟩
  · exact ⟨attrTokens a, List.mem_cons_of_mem _ (List.mem_append_left _
      (List.mem_map_of_mem ha)), refersTo_attrTokens hvalue hrefers⟩

/-- An argument names what its value refers to. -/
theorem refersTo_argumentToken (param : Param) {value : AttrValue}
    (h : value = .expr s ∨ (value = .literal s ∧ Verbatim s)) (hrefers : refersTo s name = true)
    (front back : List Token) :
    refersTo (Token.lineOf (front ++ .fixed ": " :: argumentToken param value :: back)) name
      = true := by
  rcases h with rfl | ⟨rfl, hplain, htrim⟩
  · exact refersTo_lineOf front (fun _ => rfl) back hrefers
  · rw [argumentToken, htrim]
    split
    · have hline : Token.lineOf (front ++ .fixed ": " :: .quoted s :: back)
          = (Token.lineOf front ++ ": " ++ [dquote]) ++ s ++ ([dquote] ++ Token.lineOf back) := by
        simp [Token.lineOf, Quoted.quote_of_plain hplain]
      rw [hline]
      refine refersTo_between ?_ hrefers
      rw [getLastD_append]
      rfl
    · exact refersTo_lineOf front (fun _ => rfl) back hrefers

/-- The lines of a component tag name what its fragments refer to, if the component has the
parameters that the tag sets. -/
theorem names_componentTokens {ctx : RenderContext} {c : Component} {qualifier : Bytes}
    (hc : ctx.component tag = .ok (c, qualifier)) (hparams : ∀ a ∈ attrs, (c.param? a.name).isSome)
    (hs : ShownIn tag attrs s) (hrefers : refersTo s name = true)
    (shown : Bool) (content : List (List Token)) :
    Names name (componentTokens c qualifier attrs shown content) := by
  rcases hs with rfl | ⟨a, ha, hvalue⟩
  · refine ⟨_, List.mem_cons_self .., ?_⟩
    exact refersTo_lineOf [] (fun _ => rfl) _ (ctx.refersTo_typeIn hc hrefers)
  · obtain ⟨param, hparam⟩ := Option.isSome_iff_exists.1 (hparams a ha)
    refine ⟨_, ?_, refersTo_argumentToken param hvalue hrefers [.name a.name] [.fixed ","]⟩
    refine List.mem_append_left _ (List.mem_cons_of_mem _ (List.mem_append_left _ ?_))
    refine List.mem_flatMap.2 ⟨a, ha, ?_⟩
    rw [argumentTokens, hparam]
    exact List.mem_singleton_self _

/-- The content of an element that has an end tag is part of its lines. -/
theorem subset_plainTokens {selfClosing : Bool}
    (h : (ElementName.isVoid tag || selfClosing) = false) (content : List (List Token)) :
    content ⊆ plainTokens tag attrs selfClosing content := by
  obtain ⟨hvoid, hself⟩ := Bool.or_eq_false_iff.1 h
  unfold plainTokens
  rw [hvoid, hself, if_neg Bool.false_ne_true, if_neg Bool.false_ne_true]
  exact fun ts hts => List.mem_append_right _ (List.mem_append_left _ (List.mem_cons_of_mem _ hts))

/-- The content of a component tag is part of its lines, if it is shown. -/
theorem subset_componentTokens {c : Component} (hc : (c.param? "Children").isSome)
    (qualifier : Bytes) (content : List (List Token)) :
    content ⊆ componentTokens c qualifier attrs true content := by
  unfold componentTokens
  rw [hc, if_pos (by decide)]
  exact fun ts hts => List.mem_append_left _ (List.mem_append_right _
    (List.mem_append_left _ (List.mem_cons_of_mem _ hts)))

end Tags

/-! ## Walking and rendering a tree -/

/-- **A fragment that was collected refers to a package**, one of those that are `due`. -/
def SpanWalk.Refers (due : Bytes → Prop) (name : Bytes) (w : SpanWalk) : Prop :=
  ∃ s ∈ w.spans, due s ∧ refersTo s name = true

section Walks

variable {due : Bytes → Prop} {name s : Bytes} {w : SpanWalk}

theorem SpanWalk.refers_add :
    (w.add s).Refers due name ↔ (due s ∧ refersTo s name = true) ∨ w.Refers due name :=
  List.exists_mem_cons_iff ..

theorem SpanWalk.refers_addAll (l : List Bytes) :
    (l.foldl (fun w s => w.add s) w).Refers due name
      ↔ (∃ s ∈ l, due s ∧ refersTo s name = true) ∨ w.Refers due name := by
  induction l generalizing w with
  | nil => simp
  | cons s l ih =>
    rw [List.foldl_cons, ih, SpanWalk.refers_add, List.exists_mem_cons_iff, or_left_comm, or_assoc]

end Walks

mutual

/-- The literal attribute values of the component tags in a tree. -/
def Node.literals : Node → List Bytes
  | .text .. | .expr .. | .splice .. => []
  | .loop _ body _ _ => Node.literalsAll body
  | .choice branches otherwise _ _ => Branch.literalsAll branches ++ Node.literalsAll otherwise
  | .element tag attrs children _ _ _ => tagLiterals tag attrs ++ Node.literalsAll children

/-- The literal attribute values of the component tags in a branch. -/
def Branch.literals : Branch → List Bytes
  | .mk _ body _ => Node.literalsAll body

/-- The literal attribute values of the component tags in a list of trees. -/
def Node.literalsAll : List Node → List Bytes
  | [] => []
  | n :: ns => n.literals ++ Node.literalsAll ns

/-- The literal attribute values of the component tags in a list of branches. -/
def Branch.literalsAll : List Branch → List Bytes
  | [] => []
  | b :: bs => b.literals ++ Branch.literalsAll bs

end

/-- No complaint is an error. -/
def Remark.AllFine (rs : List Remark) : Prop := ∀ r ∈ rs, r.fault.severity ≠ .error

section Trees

variable {ctx : RenderContext} {due : Bytes → Prop} {name : Bytes} {f : Bytes → Nat → Piece}
  {g : Bytes → SpanWalk → SpanWalk}

/-- Content that is not shown has no fragments. -/
theorem Node.walkSpansAll_of_blank (hcontent : ∀ p line, (f p line).isContent = true)
    {ns : List Node} (h : (Node.piecesAll f ns).any Piece.isContent = false) (w : SpanWalk) :
    Node.walkSpansAll g ns w = w := by
  induction ns generalizing w with
  | nil => rfl
  | cons n ns ih =>
    rw [Node.piecesAll, List.any_cons, Bool.or_eq_false_iff] at h
    rw [Node.walkSpansAll, ih h.2]
    cases n with
    | text value line => rfl
    | splice path line => exact absurd (h.1.symm.trans (hcontent path line)) Bool.false_ne_true
    | expr code line => cases h.1
    | loop clause body line endLine => cases h.1
    | choice branches otherwise elseLine endLine => cases h.1
    | element tag attrs children selfClosing line endLine => cases h.1

/-- What an include contributes to a walk is named by the lines that it is rendered as. -/
def IncludeNamed (ctx : RenderContext) (due : Bytes → Prop) (name : Bytes)
    (f : Bytes → Nat → Piece) (g : Bytes → SpanWalk → SpanWalk) (p : Bytes) : Prop :=
  ∀ line pin w, Remark.AllFine ((f p line).remarks ctx pin) → (g p w).Refers due name →
    Names name ((f p line).tokens ctx) ∨ w.Refers due name

/-- If no argument of a component tag is an error, the component has the parameters it sets. -/
theorem param?_of_allFine {pin : Option Nat} {tag : Bytes} {c : Component} {attrs : List Attr}
    (h : Remark.AllFine (attrRemarks pin tag c attrs)) : ∀ a ∈ attrs, (c.param? a.name).isSome := by
  intro a ha
  rw [Option.isSome_iff_ne_none]
  intro hnone
  refine h ⟨pin, a.line, .unknownParam tag a.name, true⟩ (List.mem_flatMap.2 ⟨a, ha, ?_⟩) rfl
  rw [hnone]
  exact List.mem_singleton_self _

section Elements

variable {tag : Bytes} {attrs : List Attr} {children : List Node} {pin : Option Nat}
  {own w : SpanWalk}

/-- What the fragments of a plain element refer to is named by its lines, if that is so for its
tag and for its content. -/
theorem names_plainElement {selfClosing : Bool}
    (hclosed : (ElementName.isVoid tag || selfClosing) = true → children = [])
    (hfine : Remark.AllFine (if ElementName.isVoid tag || selfClosing then []
      else Piece.remarksAll ctx pin (Node.piecesAll f children)))
    (htag : ∀ content, own.Refers due name →
      Names name (plainTokens tag attrs selfClosing content) ∨ w.Refers due name)
    (hcontent : Remark.AllFine (Piece.remarksAll ctx pin (Node.piecesAll f children)) →
      (Node.walkSpansAll g children own).Refers due name →
        Names name (Piece.tokensAll ctx (Node.piecesAll f children)) ∨ own.Refers due name)
    (h : (Node.walkSpansAll g children own).Refers due name) :
    Names name (plainTokens tag attrs selfClosing
      (Piece.tokensAll ctx (Node.piecesAll f children))) ∨ w.Refers due name := by
  cases hend : ElementName.isVoid tag || selfClosing with
  | true =>
    obtain rfl := hclosed hend
    exact htag _ h
  | false =>
    rw [hend, if_neg Bool.false_ne_true] at hfine
    rcases hcontent hfine h with h | h
    · exact .inl (h.mono (subset_plainTokens hend _))
    · exact htag _ h

/-- What the fragments of a component tag refer to is named by its lines, if that is so for the
tag itself and for its content. Content that is blank is not rendered, and has no fragments. -/
theorem names_componentTag (hpieces : ∀ p line, (f p line).isContent = true) {c : Component}
    {qualifier : Bytes} {line : Nat}
    (hfine : Remark.AllFine (if !(Node.piecesAll f children).any Piece.isContent then []
      else if (c.param? "Children").isNone then [⟨pin, line, .noChildContent tag, true⟩]
      else Piece.remarksAll ctx pin (Node.piecesAll f children)))
    (htag : ∀ shown content, own.Refers due name →
      Names name (componentTokens c qualifier attrs shown content) ∨ w.Refers due name)
    (hcontent : Remark.AllFine (Piece.remarksAll ctx pin (Node.piecesAll f children)) →
      (Node.walkSpansAll g children own).Refers due name →
        Names name (Piece.tokensAll ctx (Node.piecesAll f children)) ∨ own.Refers due name)
    (h : (Node.walkSpansAll g children own).Refers due name) :
    Names name (componentTokens c qualifier attrs ((Node.piecesAll f children).any Piece.isContent)
      (Piece.tokensAll ctx (Node.piecesAll f children))) ∨ w.Refers due name := by
  cases hshown : (Node.piecesAll f children).any Piece.isContent with
  | false =>
    rw [Node.walkSpansAll_of_blank hpieces hshown] at h
    exact htag _ _ h
  | true =>
    rw [hshown, if_neg (by decide)] at hfine
    cases hparam : c.param? "Children" with
    | none =>
      rw [hparam] at hfine
      exact absurd rfl (hfine _ (List.mem_singleton_self _))
    | some param =>
      rw [hparam, if_neg (by simp)] at hfine
      rcases hcontent hfine h with h | h
      · exact .inl (h.mono (subset_componentTokens (by rw [hparam]; rfl) _ _))
      · exact htag _ _ h

/-- **What the fragments of an element refer to** is named by its lines, if that is so for its
content. -/
theorem names_element (hpieces : ∀ p line, (f p line).isContent = true)
    (htag : ∀ b ∈ tag, ElementName.isTagByte b = true) {selfClosing : Bool}
    (hclosed : (ElementName.isVoid tag || selfClosing) = true → children = [])
    (hlit : ∀ s ∈ tagLiterals tag attrs, due s → Verbatim s) {line endLine : Nat}
    (hfine : Remark.AllFine
      (((Node.element tag attrs children selfClosing line endLine).pieces f).remarks ctx pin))
    (hcontent : Remark.AllFine (Piece.remarksAll ctx pin (Node.piecesAll f children)) →
      (Node.walkSpansAll g children ((tagSpans tag attrs).foldl (fun w s => w.add s) w)).Refers
          due name →
        Names name (Piece.tokensAll ctx (Node.piecesAll f children))
          ∨ ((tagSpans tag attrs).foldl (fun w s => w.add s) w).Refers due name)
    (h : (Node.walkSpansAll g children
      ((tagSpans tag attrs).foldl (fun w s => w.add s) w)).Refers due name) :
    Names name (((Node.element tag attrs children selfClosing line endLine).pieces f).tokens ctx)
      ∨ w.Refers due name := by
  have hown : ((tagSpans tag attrs).foldl (fun w s => w.add s) w).Refers due name →
      (∃ s, ShownIn tag attrs s ∧ refersTo s name = true) ∨ w.Refers due name := fun h =>
    ((SpanWalk.refers_addAll _).1 h).imp_left fun ⟨s, hs, hdue, hrefers⟩ =>
      ⟨s, shownIn_of_mem_tagSpans hs fun hs => hlit s hs hdue, hrefers⟩
  have hplain := fun content h => (hown h).imp_left fun ⟨_, hs, hrefers⟩ =>
    names_plainTokens htag hs hrefers selfClosing content
  rw [Node.pieces, Piece.tokens]
  rw [Node.pieces, Piece.remarks] at hfine
  split
  · next hcomponent =>
    rw [if_pos hcomponent] at hfine
    cases hc : ctx.component tag with
    | error fault =>
      -- an unknown component is rendered as a plain element
      rw [hc] at hfine
      exact names_plainElement hclosed (List.forall_mem_cons.1 hfine).2 hplain hcontent h
    | ok found =>
      obtain ⟨c, qualifier⟩ := found
      rw [hc] at hfine
      obtain ⟨hargs, hfine⟩ := List.forall_mem_append.1 hfine
      exact names_componentTag hpieces hfine (fun shown content h => (hown h).imp_left
        fun ⟨_, hs, hrefers⟩ =>
          names_componentTokens hc (param?_of_allFine hargs) hs hrefers shown content) hcontent h
  · next hcomponent =>
    rw [if_neg hcomponent] at hfine
    exact names_plainElement hclosed hfine hplain hcontent h

end Elements

mutual

/-- **The lines of a piece name what the fragments of its tree refer to**, if rendering it has
no errors and all literals that are due are held as they are. -/
theorem Node.names_of_refers (hcontent : ∀ p line, (f p line).isContent = true) :
    ∀ (n : Node) (pin : Option Nat) (w : SpanWalk), n.WellFormed →
      (∀ s ∈ n.literals, due s → Verbatim s) →
        (∀ p ∈ n.includes, IncludeNamed ctx due name f g p) →
          Remark.AllFine ((n.pieces f).remarks ctx pin) → (n.walkSpans g w).Refers due name →
            Names name ((n.pieces f).tokens ctx) ∨ w.Refers due name
  | .text .., _, _, _, _, _, _, h => .inr h
  | .expr code _, _, _, _, _, _, _, h =>
    (SpanWalk.refers_add.1 h).imp_left fun h =>
      ⟨_, List.mem_singleton_self _, refersTo_lineOf [] (fun _ => rfl) _ h.2⟩
  | .splice path line, pin, w, _, _, hg, hfine, h =>
    hg path (List.mem_singleton_self _) line pin w hfine h
  | .loop clause body _ _, pin, w, hn, hlit, hg, hfine, h => by
    rw [Node.pieces, Piece.tokens]
    rcases Node.names_of_refersAll hcontent body pin _ hn hlit hg hfine h with h | h
    · exact .inl (h.mono fun ts hts => List.mem_append_left _ (List.mem_cons_of_mem _ hts))
    · exact (SpanWalk.refers_add.1 h).imp_left fun h =>
        ⟨_, List.mem_cons_self .., refersTo_lineOf [] (fun _ => rfl) _ h.2⟩
  | .choice branches otherwise _ _, pin, w, hn, hlit, hg, hfine, h => by
    obtain ⟨hlitBranches, hlitOtherwise⟩ := List.forall_mem_append.1 hlit
    obtain ⟨hgBranches, hgOtherwise⟩ := List.forall_mem_append.1 hg
    obtain ⟨hfineBranches, hfineOtherwise⟩ := List.forall_mem_append.1 hfine
    rw [Node.pieces, Piece.tokens]
    rcases Node.names_of_refersAll hcontent otherwise pin _ hn.2.2 hlitOtherwise hgOtherwise
      hfineOtherwise h with h | h
    · exact .inl (h.mono fun ts hts => List.mem_append_left _ (List.mem_append_right _ hts))
    · refine (Branch.names_of_refersAll hcontent branches pin w "if " (fun _ => rfl) hn.2.1
        hlitBranches hgBranches hfineBranches h).imp_left fun h => h.mono fun ts hts => ?_
      exact List.mem_append_left _ (List.mem_append_left _ (List.mem_append_left _ hts))
  | .element tag attrs children selfClosing line endLine, pin, w, hn, hlit, hg, hfine, h => by
    obtain ⟨htag, -, hchildren, hclosed⟩ := hn
    obtain ⟨hlitTag, hlitChildren⟩ := List.forall_mem_append.1 hlit
    exact names_element hcontent htag hclosed hlitTag hfine
      (Node.names_of_refersAll hcontent children pin _ hchildren hlitChildren hg) h

theorem Node.names_of_refersAll (hcontent : ∀ p line, (f p line).isContent = true) :
    ∀ (ns : List Node) (pin : Option Nat) (w : SpanWalk), Node.AllWellFormed ns →
      (∀ s ∈ Node.literalsAll ns, due s → Verbatim s) →
        (∀ p ∈ Node.includesAll ns, IncludeNamed ctx due name f g p) →
          Remark.AllFine (Piece.remarksAll ctx pin (Node.piecesAll f ns)) →
            (Node.walkSpansAll g ns w).Refers due name →
              Names name (Piece.tokensAll ctx (Node.piecesAll f ns)) ∨ w.Refers due name
  | [], _, _, _, _, _, _, h => .inr h
  | n :: ns, pin, w, hn, hlit, hg, hfine, h => by
    obtain ⟨hlitNode, hlitRest⟩ := List.forall_mem_append.1 hlit
    obtain ⟨hgNode, hgRest⟩ := List.forall_mem_append.1 hg
    obtain ⟨hfineNode, hfineRest⟩ := List.forall_mem_append.1 hfine
    rw [Node.piecesAll, Piece.tokensAll, names_append]
    rcases Node.names_of_refersAll hcontent ns pin _ hn.2 hlitRest hgRest hfineRest h with h | h
    · exact .inl (.inr h)
    · exact (Node.names_of_refers hcontent n pin w hn.1 hlitNode hgNode hfineNode h).imp_left .inl

theorem Branch.names_of_refersAll (hcontent : ∀ p line, (f p line).isContent = true) :
    ∀ (bs : List Branch) (pin : Option Nat) (w : SpanWalk) (opening : Bytes),
      (∀ d, isIdentChar (opening.getLastD d) = false) → Branch.AllWellFormed bs →
      (∀ s ∈ Branch.literalsAll bs, due s → Verbatim s) →
        (∀ p ∈ Branch.includesAll bs, IncludeNamed ctx due name f g p) →
          Remark.AllFine (PieceBranch.remarksAll ctx pin (Branch.piecesAll f bs)) →
            (Branch.walkSpansAll g bs w).Refers due name →
              Names name (PieceBranch.tokensAll ctx opening (Branch.piecesAll f bs))
                ∨ w.Refers due name
  | [], _, _, _, _, _, _, _, _, h => .inr h
  | .mk cond body _ :: bs, pin, w, opening, ho, hb, hlit, hg, hfine, h => by
    obtain ⟨hlitBranch, hlitRest⟩ := List.forall_mem_append.1 hlit
    obtain ⟨hgBranch, hgRest⟩ := List.forall_mem_append.1 hg
    obtain ⟨hfineBranch, hfineRest⟩ := List.forall_mem_append.1 hfine
    rw [Branch.piecesAll, PieceBranch.tokensAll, names_append]
    rcases Branch.names_of_refersAll hcontent bs pin _ "\x7d else if " (fun _ => rfl) hb.2 hlitRest
      hgRest hfineRest h with h | h
    · exact .inl (.inr h)
    · rcases Node.names_of_refersAll hcontent body pin _ hb.1 hlitBranch hgBranch hfineBranch h
        with h | h
      · exact .inl (.inl (h.mono fun ts hts => List.mem_cons_of_mem _ hts))
      · exact (SpanWalk.refers_add.1 h).imp_left fun h =>
          .inl ⟨_, List.mem_cons_self .., refersTo_lineOf [] ho _ h.2⟩

end

end Trees

end Stencil
