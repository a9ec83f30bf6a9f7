import Stencil.Proofs.Template.Balanced
import Stencil.Template.Reader

/-!
# Writing markup down

Every markup tree can be written as source text, each construct in one way: at signs in
text are doubled, expressions stand in parentheses, the branches of a conditional and the
body of a loop in braces, attribute values in double quotes. `Node.printAll` does that.

Not every tree is read back from its source. Two texts side by side become one; a brace
in the text of a block would close it; behind an identifier character an at sign is
text, as in an e-mail address; and text that begins with the word `else` would continue a
conditional. `Node.CanonicalAll` is what is left once such trees are ruled out, and code
that the scans of the reader would not pass as a whole. What a tree says apart from the
lines it was read from is its `Node.erase`.
-/

namespace Stencil

open Bytes

/-! ## Printing -/

/-- Text as it is written in a source: with every at sign doubled. -/
def printText (s : Bytes) : Bytes := replaceByte (ch '@') [ch '@', ch '@'] s

/-- The value of an attribute with the equals sign in front of it, if there is one. -/
def AttrValue.print : AttrValue → Bytes
  | .bare => []
  | .literal text => ch '=' :: dquote :: (text ++ [dquote])
  | .expr code => ch '=' :: ch '@' :: ch '(' :: (code ++ [ch ')'])

/-- An attribute with the blank in front of it. -/
def Attr.print (a : Attr) : Bytes := ch ' ' :: (a.name ++ a.value.print)

/-- A block: its body in braces, a blank in front. -/
def printBlock (body : Bytes) : Bytes := ch ' ' :: lbrace :: (body ++ [rbrace])

/-- An opening tag. -/
def printTag (tag : Bytes) (attrs : List Attr) : Bytes :=
  ch '<' :: (tag ++ attrs.flatMap Attr.print ++ [ch '>'])

/-- A closing tag. -/
def printClose (tag : Bytes) : Bytes := ch '<' :: slash :: (tag ++ [ch '>'])

mutual

/-- **A node as it is written in a source.** -/
def Node.print : Node → Bytes
  | .text value _ => printText value
  | .expr code _ => ch '@' :: ch '(' :: (code ++ [ch ')'])
  | .splice path _ => ofString "@include " ++ Quoted.quote path
  | .loop clause body _ _ => ofString "@for " ++ clause ++ printBlock (Node.printAll body)
  | .choice branches otherwise _ _ =>
    Branch.printAll "@" branches ++
      if otherwise.isEmpty then [] else ofString " else" ++ printBlock (Node.printAll otherwise)
  | .element tag attrs children _ _ _ =>
    printTag tag attrs ++
      if ElementName.isVoid tag then [] else Node.printAll children ++ printClose tag

/-- The branches of a conditional, the first behind `opening` and each other behind the
word that continues the one before. -/
def Branch.printAll (opening : Bytes) : List Branch → Bytes
  | [] => []
  | .mk cond body _ :: branches =>
    opening ++ ofString "if " ++ cond ++ printBlock (Node.printAll body)
      ++ Branch.printAll " else " branches

/-- **Nodes as they are written in a source.** -/
def Node.printAll : List Node → Bytes
  | [] => []
  | n :: ns => n.print ++ Node.printAll ns

end

/-! ## Trees without lines -/

/-- The attribute without its line. -/
def Attr.erase (a : Attr) : Attr := { a with line := 0 }

mutual

/-- **The node without its lines.** -/
def Node.erase : Node → Node
  | .text value _ => .text value 0
  | .expr code _ => .expr code 0
  | .splice path _ => .splice path 0
  | .loop clause body _ _ => .loop clause (Node.eraseAll body) 0 0
  | .choice branches otherwise _ _ =>
    .choice (Branch.eraseAll branches) (Node.eraseAll otherwise) 0 0
  | .element tag attrs children selfClosing _ _ =>
    .element tag (attrs.map Attr.erase) (Node.eraseAll children) selfClosing 0 0

/-- The branches without their lines. -/
def Branch.eraseAll : List Branch → List Branch
  | [] => []
  | .mk cond body _ :: branches => .mk cond (Node.eraseAll body) 0 :: Branch.eraseAll branches

/-- The nodes without their lines. -/
def Node.eraseAll : List Node → List Node
  | [] => []
  | n :: ns => n.erase :: Node.eraseAll ns

end

@[simp] theorem Node.eraseAll_append (ms ns : List Node) :
    Node.eraseAll (ms ++ ns) = Node.eraseAll ms ++ Node.eraseAll ns := by
  induction ms with
  | nil => rfl
  | cons m ms ih => rw [List.cons_append, Node.eraseAll, ih, Node.eraseAll, List.cons_append]

@[simp] theorem Branch.eraseAll_append (bs cs : List Branch) :
    Branch.eraseAll (bs ++ cs) = Branch.eraseAll bs ++ Branch.eraseAll cs := by
  induction bs with
  | nil => rfl
  | cons b bs ih =>
    cases b
    rw [List.cons_append, Branch.eraseAll, ih, Branch.eraseAll, List.cons_append]

/-! ## Trees that can be read back -/

/-- Code that is trimmed and whose brackets match. -/
structure CanonicalCode (code : Bytes) : Prop where
  trimmed : trim code = code
  balanced : Fragment.Balanced (ch ')') code

/-- A condition or clause that is trimmed, not empty, and ends at the brace of its block. -/
structure CanonicalHeader (s : Bytes) : Prop where
  nonempty : s ≠ []
  trimmed : trim s = s
  header : Fragment.Header s

/-- A tag: the start of an identifier, then bytes that tags are made of. -/
structure CanonicalTag (tag : Bytes) : Prop where
  head : ∃ c s, tag = c :: s ∧ isIdentStart c = true
  bytes : ∀ c ∈ tag, ElementName.isTagByte c = true

/-- The value can be written behind an equals sign, or is none. -/
def AttrValue.Canonical : AttrValue → Prop
  | .bare => True
  | .literal text => dquote ∉ text
  | .expr code => CanonicalCode code

/-- An attribute with a name that is not empty and a value that can be written down. -/
structure Attr.Canonical (a : Attr) : Prop where
  nonempty : a.name ≠ []
  name : ∀ c ∈ a.name, isAttrNameByte c = true
  value : a.value.Canonical

/-- Text that is not empty, all ASCII, free of angle brackets that open, and in a block
free of the brace that would close it. -/
structure CanonicalText (inBlock : Bool) (s : Bytes) : Prop where
  nonempty : s ≠ []
  ascii : ∀ c ∈ s, c < 0x80
  noTag : ch '<' ∉ s
  noBrace : inBlock = true → rbrace ∉ s

/-- Whether a source that goes on like this continues a conditional. -/
def opensElse (s : Bytes) : Bool :=
  let s := s.dropWhile isSpace
  startsWith s "else" && !isIdentChar ((s.drop 4).headD 0)

/-- Whether a node is text. -/
def Node.isText : Node → Bool
  | .text .. => true
  | _ => false

/-- Whether a node is written with an at sign in front. -/
def Node.startsAt : Node → Bool
  | .expr .. | .splice .. | .loop .. | .choice .. => true
  | _ => false

/-- Whether the source of a node ends in an identifier character. -/
def Node.endsIdent : Node → Bool
  | .text value _ => isIdentChar (value.getLastD 0)
  | _ => false

/-- Whether a node is a conditional without a last branch that has no condition. -/
def Node.lacksElse : Node → Bool
  | .choice _ otherwise _ _ => otherwise.isEmpty
  | _ => false

/-- **What may stand behind a node.** -/
structure Node.Before (n m : Node) : Prop where
  /-- Two texts are one. -/
  text : n.isText = true → m.isText = false
  /-- An at sign behind an identifier character is text. -/
  ident : n.endsIdent = true → m.startsAt = false
  /-- The word `else` behind a conditional continues it. -/
  noElse : n.lacksElse = true → ∀ value line, m = .text value line → opensElse value = false

mutual

/-- **The node can be read back from its source**, in a block or outside of all. -/
def Node.Canonical (inBlock : Bool) : Node → Prop
  | .text value _ => CanonicalText inBlock value
  | .expr code _ => CanonicalCode code
  | .splice .. => False
  | .loop clause body _ _ => CanonicalHeader clause ∧ Node.CanonicalAll true body
  | .choice branches otherwise _ _ =>
    branches ≠ [] ∧ Branch.CanonicalAll branches ∧ Node.CanonicalAll true otherwise
  | .element tag attrs children selfClosing _ _ =>
    CanonicalTag tag ∧ (∀ a ∈ attrs, a.Canonical) ∧ selfClosing = false ∧
      (ElementName.isVoid tag = true → children = []) ∧ Node.CanonicalAll inBlock children

/-- The branches can be read back from their source. -/
def Branch.CanonicalAll : List Branch → Prop
  | [] => True
  | .mk cond body _ :: branches =>
    CanonicalHeader cond ∧ Node.CanonicalAll true body ∧ Branch.CanonicalAll branches

/-- **The nodes can be read back from their source.** -/
def Node.CanonicalAll (inBlock : Bool) : List Node → Prop
  | [] => True
  | n :: ns => n.Canonical inBlock ∧ (∀ m ∈ ns.head?, n.Before m) ∧ Node.CanonicalAll inBlock ns

end

/-! ## Names

The simplest code is a name, and a name is canonical wherever code can stand. -/

/-- A name has no white space to trim. -/
theorem trim_name {s : Bytes} (h : ∀ b ∈ s, isIdentChar b = true) : trim s = s := by
  refine trim_of_forall fun b hb => ?_
  have hrange := isIdentChar_range (h b hb)
  refine ⟨UInt8.lt_iff_toNat_lt.2 (Nat.lt_of_le_of_lt hrange.2 (by decide)), ?_⟩
  simp [Utf8.isSpace]
  omega

/-- The scans of code make nothing of the characters of a name. -/
theorem isIdentChar_plain {b : UInt8} (h : isIdentChar b = true) :
    b ≠ newline ∧ b ≠ slash ∧ b ≠ ch ')' ∧ Fragment.isQuote b = false
      ∧ Fragment.isOpener b = false := by
  refine ⟨?_, ?_, ?_, ?_, ?_⟩
  · rintro rfl; cases h
  · rintro rfl; cases h
  · rintro rfl; cases h
  · rw [Bool.eq_false_iff]
    intro hquote
    simp only [Fragment.isQuote, Bool.or_eq_true, decide_eq_true_eq] at hquote
    obtain (rfl | rfl) | rfl := hquote <;> cases h
  · rw [Bool.eq_false_iff]
    intro hopener
    simp only [Fragment.isOpener, Bool.or_eq_true, decide_eq_true_eq] at hopener
    obtain (rfl | rfl) | rfl := hopener <;> cases h

/-- **A name is canonical code.** -/
theorem CanonicalCode.of_name {s : Bytes} (h : ∀ b ∈ s, isIdentChar b = true) :
    CanonicalCode s where
  trimmed := trim_name h
  balanced := .of_forall (ch '(') fun b hb => by
    obtain ⟨-, hslash, hcloser, hquote, hopener⟩ := isIdentChar_plain (h b hb)
    exact ⟨hquote, hslash, hopener, hcloser⟩

/-- **A name is a canonical header.** -/
theorem CanonicalHeader.of_name {s : Bytes} (hne : s ≠ []) (h : ∀ b ∈ s, isIdentChar b = true) :
    CanonicalHeader s where
  nonempty := hne
  trimmed := trim_name h
  header := by
    clear hne
    induction s with
    | nil => exact .nil
    | cons b s ih =>
      obtain ⟨hline, -, -, hquote, hopener⟩ := isIdentChar_plain (h b List.mem_cons_self)
      exact .byte hline hquote hopener (ih fun b' hb' => h b' (List.mem_cons_of_mem _ hb'))

end Stencil
