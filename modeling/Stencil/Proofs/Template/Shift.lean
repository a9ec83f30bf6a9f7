import Mathlib.Data.List.Forall2
import Stencil.Template.Reader

/-!
# Sources that move down

Text put in front of a source moves everything in it down by some lines. What is read
from the source should then be what was read before, with every line number larger by
that many. This module says what that means for each thing that remembers a line – a
node, an attribute, a directive, a finding – and for a position in a source.

A missing else branch has no line, and the number zero stands for that, so it stays
zero when the source moves (`shiftElse`). Every other number is a line.

Positions are compared by `Cursor.Below`: the same text is still to be read, on a line
so much further down. The byte before the position may differ, as long as it is in
both cases one that can belong to an identifier or in both cases none, which is all
the reader ever asks about it.
-/

namespace Stencil

open Bytes

/-! ## What remembers a line -/

/-- The attribute `n` lines further down. -/
def Attr.shift (n : Nat) (a : Attr) : Attr := { a with line := a.line + n }

/-- The line of an else branch `n` lines further down; without a branch there is none. -/
def shiftElse (n elseLine : Nat) : Nat := if elseLine = 0 then 0 else elseLine + n

mutual

/-- **The node `n` lines further down.** -/
def Node.shift (n : Nat) : Node → Node
  | .text value line => .text value (line + n)
  | .expr code line => .expr code (line + n)
  | .splice path line => .splice path (line + n)
  | .loop clause body line endLine =>
    .loop clause (Node.shiftAll n body) (line + n) (endLine + n)
  | .choice branches otherwise elseLine endLine =>
    .choice (Branch.shiftAll n branches) (Node.shiftAll n otherwise) (shiftElse n elseLine)
      (endLine + n)
  | .element tag attrs children selfClosing line endLine =>
    .element tag (attrs.map (Attr.shift n)) (Node.shiftAll n children) selfClosing (line + n)
      (endLine + n)

/-- The branch `n` lines further down. -/
def Branch.shift (n : Nat) : Branch → Branch
  | .mk cond body line => .mk cond (Node.shiftAll n body) (line + n)

/-- The nodes `n` lines further down. -/
def Node.shiftAll (n : Nat) : List Node → List Node
  | [] => []
  | x :: xs => x.shift n :: Node.shiftAll n xs

/-- The branches `n` lines further down. -/
def Branch.shiftAll (n : Nat) : List Branch → List Branch
  | [] => []
  | b :: bs => b.shift n :: Branch.shiftAll n bs

end

@[simp] theorem Node.shiftAll_eq_map (n : Nat) (xs : List Node) :
    Node.shiftAll n xs = xs.map (Node.shift n) := by
  induction xs with
  | nil => rfl
  | cons x xs ih => rw [Node.shiftAll, ih, List.map_cons]

@[simp] theorem Branch.shiftAll_eq_map (n : Nat) (bs : List Branch) :
    Branch.shiftAll n bs = bs.map (Branch.shift n) := by
  induction bs with
  | nil => rfl
  | cons b bs ih => rw [Branch.shiftAll, ih, List.map_cons]

/-- The page directive `n` lines further down. -/
def PageDirective.shift (n : Nat) (p : PageDirective) : PageDirective :=
  { p with line := p.line + n }

/-- The import `n` lines further down. -/
def ImportDirective.shift (n : Nat) (i : ImportDirective) : ImportDirective :=
  { i with line := i.line + n }

/-- The parameter `n` lines further down. -/
def ParamDirective.shift (n : Nat) (p : ParamDirective) : ParamDirective :=
  { p with line := p.line + n }

/-- The block of declarations `n` lines further down. -/
def CodeBlock.shift (n : Nat) (b : CodeBlock) : CodeBlock := { b with line := b.line + n }

/-- **The document `n` lines further down**, below the page directive `top`, which only
counts as long as the document has none of its own. -/
def Document.shiftBelow (n : Nat) (top : PageDirective) (d : Document) : Document where
  page := some ((d.page.map (PageDirective.shift n)).getD top)
  imports := d.imports.map (ImportDirective.shift n)
  params := d.params.map (ParamDirective.shift n)
  code := d.code.map (CodeBlock.shift n)
  body := d.body.map (Node.shift n)

/-- The finding `n` lines further down: its own line moves, and so do the lines that
its message quotes. -/
def Finding.shift (n : Nat) (f : Finding) : Finding := ⟨f.line + n, f.fault.shift n⟩

/-! ## Positions -/

/-- **The position `d` is the position `c` in a source that lies `n` lines further
down.** -/
structure Cursor.Below (n : Nat) (c d : Cursor) : Prop where
  /-- The same text is still to be read. -/
  rest : d.rest = c.rest
  /-- It starts so many lines further down. -/
  line : d.line = c.line + n
  /-- The bytes before the positions agree on whether an identifier could go on. -/
  before : isIdentChar d.before = isIdentChar c.before
  /-- Lines count from one. -/
  pos : 0 < c.line

namespace Cursor.Below

variable {n : Nat} {c d : Cursor}

theorem peek (h : c.Below n d) (k : Nat) : d.peek k = c.peek k := by
  unfold Cursor.peek
  rw [h.rest]

/-- Positions in step stay in step when both move by the same number of bytes. -/
theorem advance (h : c.Below n d) (k : Nat) : (c.advance k).Below n (d.advance k) where
  rest := by rw [advance_rest, advance_rest, h.rest]
  line := by
    show d.line + newlines (d.rest.take k) = c.line + newlines (c.rest.take k) + n
    rw [h.rest, h.line]
    omega
  before := by
    show isIdentChar ((d.rest.take k).getLastD d.before)
      = isIdentChar ((c.rest.take k).getLastD c.before)
    rw [h.rest]
    cases hl : c.rest.take k with
    | nil => exact h.before
    | cons b s => rfl
  pos := Nat.lt_of_lt_of_le h.pos (Nat.le_add_right ..)

theorem skipWhile (h : c.Below n d) (p : UInt8 → Bool) :
    (c.skipWhile p).Below n (d.skipWhile p) := by
  unfold Cursor.skipWhile
  rw [h.rest]
  exact h.advance _

/-- The rest of a line does not depend on how many lines are above. -/
theorem restOfLine (h : c.Below n d) :
    d.restOfLine.1 = c.restOfLine.1 ∧ c.restOfLine.2.Below n d.restOfLine.2 := by
  unfold Cursor.restOfLine
  rw [h.rest]
  exact ⟨rfl, h.advance _⟩

end Cursor.Below

/-! ## Scans

A scan works on the text alone, and what it finds wrong names no line. So a scan is the
same wherever its source lies, and only the places it reports move. -/

namespace Fragment

/-- The fault of a scan quotes no line, so it stays the same when the source moves. -/
def Scan.Steady (s : Scan) : Prop :=
  ∀ place fault, s.fault = some (place, fault) → ∀ n, fault.shift n = fault

theorem Scan.Steady.after {s : Scan} (h : s.Steady) (n : Nat) : (s.after n).Steady := by
  intro place fault hf
  obtain ⟨⟨place', fault'⟩, hs, heq⟩ := Option.map_eq_some_iff.1 hf
  cases heq
  exact h place' _ hs

/-- What is wrong with a bracketed fragment quotes no line, wherever the scan breaks off. -/
theorem groupTail_steady (what : Construct) (closer : UInt8) (outer : List UInt8) (s : Bytes) :
    (groupTail what closer outer s).Steady := by
  fun_induction groupTail what closer outer s
  case case1 | case3 | case5 => rintro _ _ ⟨⟩ n; rfl
  case case8 => rintro _ _ ⟨⟩
  case case2 ih | case4 ih | case6 ih | case7 ih | case9 ih | case10 ih => exact ih.after _

theorem group_steady (what : Construct) (s : Bytes) : (group what s).Steady := by
  cases s with
  | nil => rintro _ _ ⟨⟩ n; rfl
  | cons c r =>
    intro place fault hf
    obtain ⟨⟨place', fault'⟩, hs, heq⟩ := Option.map_eq_some_iff.1 hf
    cases heq
    exact groupTail_steady what _ _ r place' _ hs

theorem header_steady (what : Construct) (s : Bytes) : (header what s).Steady := by
  fun_induction header what s
  case case1 | case4 | case7 => rintro _ _ ⟨⟩ n; rfl
  case case2 => rintro _ _ ⟨⟩
  case case6 => exact group_steady _ _
  case case3 ih | case5 ih | case8 ih => exact ih.after _

theorem chain_steady (s : Bytes) : (chain s).Steady := by
  suffices htail : ∀ s, (chainTail s).Steady from (htail _).after _
  intro s
  fun_induction chainTail s
  case case1 | case5 => rintro _ _ ⟨⟩
  case case4 => exact group_steady _ _
  case case2 ih | case3 ih => exact ih.after _

end Fragment

/-- Nor does what is wrong with the value of an attribute quote a line. -/
theorem attrValue_steady {name s : Bytes} {k : Nat} {fault : Fault} (n : Nat) :
    (attrValue name s).fault = some (k, fault) → fault.shift n = fault := by
  fun_cases attrValue name s
  case case1 | case2 | case4 | case6 | case9 => rintro ⟨⟩
  case case3 | case8 => rintro ⟨⟩; rfl
  case case5 hf _ =>
    rintro ⟨⟩
    exact Fragment.group_steady _ _ _ _ hf n
  case case7 hf _ =>
    rintro ⟨⟩
    exact Fragment.chain_steady _ _ _ hf n

/-! ## Tags -/

/-- **The tag `b` was read like the tag `a`, `n` lines further down.** -/
structure TagRest.Below (n : Nat) (a b : TagRest) : Prop where
  attrs : b.attrs = a.attrs.map (Attr.shift n)
  ending : b.ending = a.ending
  cursor : a.cursor.Below n b.cursor
  findings : b.findings = a.findings.map (Finding.shift n)

/-- One attribute of a tag, then the rest of it. -/
theorem tagRest_eq (tag : Bytes) (c : Cursor) :
    tagRest tag c =
      let c₁ := c.skipWhile isSpace
      match c₁.rest with
      | [] => ⟨[], .endOfSource, c₁, []⟩
      | b :: r =>
        if b = ch '>' then ⟨[], .opened, c₁.advance 1, []⟩
        else if b = slash ∧ r.head? = some (ch '>') then ⟨[], .selfClosed, c₁.advance 2, []⟩
        else
          let name := c₁.rest.takeWhile isAttrNameByte
          if name = [] then
            let more := tagRest tag (c₁.advance 1)
            { more with findings := ⟨c₁.line, .malformedAttribute tag⟩ :: more.findings }
          else
            let c₂ := c₁.advance name.length
            if c₂.rest.head? = some (ch '=') then
              let v := attrValue name (c₂.rest.drop 1)
              let found := match v.fault with
                | none => []
                | some (k, fault) => [⟨(c₂.advance (1 + k)).line, fault⟩]
              let attr := match v.value with
                | none => []
                | some value => [⟨name, value, c₁.line⟩]
              let more := tagRest tag (c₁.advance (name.length + 1 + v.taken))
              { more with attrs := attr ++ more.attrs, findings := found ++ more.findings }
            else
              let more := tagRest tag c₂
              { more with attrs := ⟨name, .bare, c₁.line⟩ :: more.attrs } := by
  rw [tagRest]
  dsimp only
  split
  · next h => rw [h]
  · next h => rw [h]; rfl

/-- **The rest of a tag is read alike further down.** -/
theorem tagRest_below (tag : Bytes) {n : Nat} {c d : Cursor} (h : c.Below n d) :
    (tagRest tag c).Below n (tagRest tag d) := by
  induction hlen : c.rest.length using Nat.strongRecOn generalizing c d with
  | ind len ih =>
    have h₁ := h.skipWhile isSpace
    rw [tagRest_eq tag c, tagRest_eq tag d]
    dsimp only
    rw [h₁.rest]
    generalize hrest : (c.skipWhile isSpace).rest = rest at *
    cases rest with
    | nil => exact ⟨rfl, rfl, h₁, rfl⟩
    | cons b r =>
      -- behind the blanks something is left, so every further step is shorter
      have hmore : ∀ k, 0 < k → (tagRest tag ((c.skipWhile isSpace).advance k)).Below n
          (tagRest tag ((d.skipWhile isSpace).advance k)) := by
        intro k hk
        refine ih _ ?_ (h₁.advance k) rfl
        rw [← hlen]
        exact Cursor.advance_skipWhile_lt (by rw [hrest]; exact List.cons_ne_nil _ _) hk
      dsimp only
      split
      · exact ⟨rfl, rfl, h₁.advance 1, rfl⟩
      · split
        · exact ⟨rfl, rfl, h₁.advance 2, rfl⟩
        · split
          · have hm := hmore 1 Nat.one_pos
            refine ⟨hm.attrs, hm.ending, hm.cursor, ?_⟩
            dsimp only
            rw [hm.findings, h₁.line]
            rfl
          · next hname =>
            have h₂ := h₁.advance ((b :: r).takeWhile isAttrNameByte).length
            rw [h₂.rest]
            split
            · have hm := hmore _ (by omega : 0 < ((b :: r).takeWhile isAttrNameByte).length + 1
                + (attrValue ((b :: r).takeWhile isAttrNameByte) ((((c.skipWhile isSpace).advance
                  ((b :: r).takeWhile isAttrNameByte).length)).rest.drop 1)).taken)
              refine ⟨?_, hm.ending, hm.cursor, ?_⟩
              · dsimp only
                rw [hm.attrs, List.map_append, h₁.line]
                congr 1
                split <;> rfl
              · dsimp only
                rw [hm.findings, List.map_append]
                congr 1
                split
                · rfl
                · next k fault hk =>
                  rw [(h₂.advance (1 + k)).line, List.map_singleton, Finding.shift,
                    attrValue_steady n hk]
            · have hm := hmore _ (List.length_pos_iff.2 hname)
              refine ⟨?_, hm.ending, hm.cursor, hm.findings⟩
              dsimp only
              rw [hm.attrs, h₁.line]
              rfl

/-- A closing tag is read alike further down. -/
theorem closeTag_below {n : Nat} {c d : Cursor} (h : c.Below n d) :
    (closeTag d).1 = (closeTag c).1 ∧ (closeTag c).2.Below n (closeTag d).2 := by
  unfold closeTag
  rw [h.rest]
  have h₁ := (h.advance (2 + ((c.rest.drop 2).takeWhile ElementName.isTagByte).length)).skipWhile
    isSpace
  refine ⟨rfl, ?_⟩
  dsimp only
  rw [h₁.peek]
  split
  · exact h₁.advance 1
  · exact h₁

end Stencil
