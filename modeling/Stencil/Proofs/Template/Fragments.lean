import Mathlib
import Stencil.Proofs.Template.Enclosed

/-!
# Which fragments are cut out

What an expression or a header may be made of can be said without any scan: of bytes that mean
nothing, of literals and comments, and of such code between brackets that match (`Code`,
`HeaderCode`). Whether a slash means something depends on the byte behind it, so code is always
code in front of something.

A scan that starts at a bracket stops behind the one that matches it, and a scan of a header in
front of the brace (`fragments_cut_out`). A slash means nothing in a header: there are no comments
outside of brackets.
-/

namespace Stencil

namespace Bytes

/-- A mark of two different bytes is found behind a text that does not hold it. -/
theorem indexOf?_append_mark {a b : UInt8} (hab : a ≠ b) {s : Bytes} (h : ¬ [a, b] <:+: s) :
    indexOf? [a, b] (s ++ [a, b]) = some s.length := by
  obtain ⟨n, hn⟩ := indexOf?_of_isInfix (List.suffix_append s [a, b]).isInfix
  obtain ⟨front, back, hsplit, rfl, -⟩ := exists_of_indexOf? (List.cons_ne_nil _ _) hn
  rcases back.eq_nil_or_concat' with rfl | ⟨back, c, rfl⟩
  · rw [List.append_nil] at hsplit
    rw [hn, (List.append_inj' hsplit rfl).1]
  · -- the last byte of the mark is not its first one, so it was found in the text
    have hsplit : (s ++ [a]) ++ [b] = (front ++ [a, b] ++ back) ++ [c] := by simpa using hsplit
    obtain ⟨hsplit, -⟩ := List.append_inj' hsplit rfl
    rcases back.eq_nil_or_concat' with rfl | ⟨back, d, rfl⟩
    · have hsplit : s ++ [a] = (front ++ [a]) ++ [b] := by simpa using hsplit
      exact absurd (List.cons.inj (List.append_inj' hsplit rfl).2).1 hab
    · rw [← List.append_assoc] at hsplit
      exact absurd ⟨front, back, (List.append_inj' hsplit rfl).1.symm⟩ h

end Bytes

namespace Fragment

open Bytes

/-! ## Code -/

/-- **What can stand between two quotes**: a quote of the same kind only behind a backslash, and no
line feed, except that a raw literal holds anything but its quote. -/
inductive LiteralBody (q : UInt8) : Bytes → Prop where
  /-- Nothing. -/
  | nil : LiteralBody q []
  /-- A backslash and the byte that it escapes. -/
  | escape {b : UInt8} {s : Bytes} (hraw : q ≠ grave) (hs : LiteralBody q s) :
    LiteralBody q (backslash :: b :: s)
  /-- Any other byte. -/
  | byte {b : UInt8} {s : Bytes} (hquote : b ≠ q) (hb : q = grave ∨ b ≠ backslash ∧ b ≠ newline)
    (hs : LiteralBody q s) : LiteralBody q (b :: s)

/-- **A literal**: its body between two quotes of one kind. -/
inductive IsLiteral : Bytes → Prop where
  | intro {q : UInt8} {body : Bytes} (hquote : isQuote q = true) (hbody : LiteralBody q body) :
    IsLiteral (q :: (body ++ [q]))

/-- **Code in front of `next`.** -/
inductive Code : Bytes → Bytes → Prop where
  /-- Nothing. -/
  | nil {next : Bytes} : Code next []
  /-- A byte that means nothing. -/
  | byte {next : Bytes} {c : UInt8} (hquote : isQuote c = false) (hopener : isOpener c = false)
    (hcloser : isCloser c = false)
    (hslash : c = slash → next.head? ≠ some slash ∧ next.head? ≠ some (ch '*')) : Code next [c]
  /-- A literal. -/
  | literal {next p : Bytes} (hp : IsLiteral p) : Code next p
  /-- A comment between its marks. -/
  | block {next body : Bytes} (hbody : ¬ [ch '*', slash] <:+: body) :
    Code next (slash :: ch '*' :: (body ++ [ch '*', slash]))
  /-- A line comment with its line feed. -/
  | line {next body : Bytes} (hbody : newline ∉ body) :
    Code next (slash :: slash :: (body ++ [newline]))
  /-- Code between brackets that match. -/
  | group {next code : Bytes} {c : UInt8} (hc : isOpener c = true)
    (hcode : Code (closerOf c :: next) code) : Code next (c :: (code ++ [closerOf c]))
  /-- Code behind code. -/
  | append {next code code' : Bytes} (hcode : Code (code' ++ next) code)
    (hcode' : Code next code') : Code next (code ++ code')

/-- **What can stand in front of the brace of a block.** -/
inductive HeaderCode : Bytes → Prop where
  /-- Nothing. -/
  | nil : HeaderCode []
  /-- A byte that is no line feed and opens nothing. -/
  | byte {c : UInt8} (hline : c ≠ newline) (hquote : isQuote c = false)
    (hopener : isOpener c = false) : HeaderCode [c]
  /-- A literal. -/
  | literal {p : Bytes} (hp : IsLiteral p) : HeaderCode p
  /-- Code in parentheses or in square brackets. -/
  | group {c : UInt8} {code : Bytes} (hc : c = ch '(' ∨ c = ch '[') (hcode : Code [] code) :
    HeaderCode (c :: (code ++ [closerOf c]))
  /-- One behind the other. -/
  | append {s t : Bytes} (hs : HeaderCode s) (ht : HeaderCode t) : HeaderCode (s ++ t)

/-! ## Scans of code -/

/-- **A literal is passed up to its second quote.** -/
theorem literal_of_body {q : UInt8} {body : Bytes} (hquote : isQuote q = true)
    (hbody : LiteralBody q body) : literal q (body ++ [q]) = (true, body.length + 1) := by
  induction hbody with
  | nil =>
    have hq : q = dquote ∨ q = squote ∨ q = grave := by
      simpa only [isQuote, Bool.or_eq_true, decide_eq_true_eq, or_assoc] using hquote
    rcases hq with rfl | rfl | rfl <;> rfl
  | @escape b s hraw _ ih =>
    rw [List.cons_append, List.cons_append, literal.eq_def]
    dsimp only
    rw [if_pos ⟨rfl, hraw⟩, ih]
    rfl
  | @byte b s hne hb _ ih =>
    rw [List.cons_append, literal.eq_def]
    dsimp only
    rw [if_neg, if_neg, if_neg hne, ih]
    · rfl
    · rintro ⟨rfl, hraw⟩
      exact (hb.resolve_left hraw).2 rfl
    · rintro ⟨rfl, hraw⟩
      exact (hb.resolve_left hraw).1 rfl

theorem IsLiteral.inert {p : Bytes} (h : IsLiteral p) : Inert p := by
  obtain ⟨hquote, hbody⟩ := h
  exact .literal hquote (literal_of_body hquote hbody)

variable {final closer : UInt8} {outer : List UInt8} {s code : Bytes}

/-- **Code can be put in front of enclosed code.** -/
theorem Enclosed.append_code (hcode : Code s code) (hcloser : isCloser closer = true)
    (h : Enclosed final closer outer s) : Enclosed final closer outer (code ++ s) := by
  induction hcode generalizing closer outer with
  | nil => exact h
  | @byte next c hquote hopener hnot hslash =>
    have hne : c ≠ closer := by
      rintro rfl
      rw [hcloser] at hnot
      cases hnot
    refine .byte ⟨hquote, fun hc => ?_, fun hc => ?_⟩ hopener hne h
    · exact (hslash hc.1).1 hc.2
    · exact (hslash hc.1).2 hc.2
  | literal hp => exact .inert hp.inert h
  | block hbody =>
    have hmark : ofString "*/" = [ch '*', slash] := by decide
    have hfound := indexOf?_append_mark (by decide) hbody
    rw [← hmark] at hfound ⊢
    exact .inert (.block hfound) h
  | line hbody => exact .inert (.line hbody) h
  | @group next code c hc _ ih =>
    rw [List.cons_append, List.append_assoc]
    exact .opener hc (ih (isCloser_closerOf c) (.closer h))
  | append _ _ ih ih' =>
    rw [List.append_assoc]
    exact ih hcloser (ih' hcloser h)

/-- **Brackets match in code.** -/
theorem Code.balanced (h : Code [] code) (c : UInt8) : Balanced (closerOf c) code := by
  have hcloser := isCloser_closerOf c
  rw [balanced_iff_enclosed hcloser, ← List.append_nil code]
  exact .append_code h hcloser .nil

/-- What can stand in front of a block is a header. -/
theorem HeaderCode.header (h : HeaderCode s) : Header s := by
  induction h with
  | nil => exact .nil
  | byte hline hquote hopener => exact .byte hline hquote hopener .nil
  | literal hp =>
    cases hp with
    | @intro q body hquote hbody =>
      have hclosed : Fragment.literal q (body ++ [q]) = (true, (body ++ [q]).length) := by
        rw [literal_of_body hquote hbody, List.length_append, List.length_singleton]
      rw [← List.append_nil (q :: (body ++ [q]))]
      exact .literal hquote hclosed .nil
  | group hc hcode => exact .group hc (hcode.balanced _) .nil
  | append _ _ ih ih' => exact ih.append ih'

end Fragment

open Bytes Fragment

/-- **Fragments are cut out exactly.**

* At code between two brackets that match, a scan passes the brackets and the code, whatever comes
  next.
* At what can stand in front of a block, a scan stops in front of the brace.
* And whatever a scan from a bracket on has passed, it is that bracket, what it gives, and the
  bracket that closes it. -/
theorem fragments_cut_out (what : Construct) :
    (∀ c code rest, isOpener c = true → Code [] code →
        let s := c :: (code ++ closerOf c :: rest)
        (group what s).fault = none ∧ enclosed s (group what s) = code
          ∧ s.drop (group what s).taken = rest)
      ∧ (∀ h rest, HeaderCode h →
        let s := h ++ lbrace :: rest
        (header what s).fault = none ∧ trim (s.take (header what s).taken) = trim h
          ∧ s.drop (header what s).taken = lbrace :: rest)
      ∧ ∀ s, (group what s).fault = none → ∃ c rest,
        s = c :: (enclosed s (group what s) ++ closerOf c :: rest)
          ∧ s.drop (group what s).taken = rest := by
  refine ⟨fun c code rest _ hcode => ?_, fun h rest hh => ?_, fun s hs => ?_⟩
  · intro s
    have hgroup : group what s = ⟨code.length + 2, none⟩ :=
      group_closed (hcode.balanced c) what rest
    rw [hgroup]
    exact ⟨rfl, enclosed_enclosing .., by simp [s]⟩
  · intro s
    have hheader : header what s = ⟨h.length, none⟩ := header_block hh.header what rest
    rw [hheader]
    exact ⟨rfl, by rw [List.take_left], List.drop_left⟩
  · cases s with
    | nil => cases hs
    | cons c r =>
      obtain ⟨code, rest, rfl, htaken, henclosed, -⟩ := exists_of_group hs
      refine ⟨c, rest, by rw [henclosed], ?_⟩
      rw [htaken]
      simp

/-- A bracket in a literal or in a comment closes nothing, and a brace in a literal opens no
block. -/
theorem fragments_cut_out_literals :
    let code : Bytes := "[\")\"]" ++ "/* ) */"
    let s : Bytes := ch '(' :: (code ++ ch ')' :: "x")
    let h : Bytes := "f" ++ "(\"\x7b\")" ++ " "
    let t : Bytes := h ++ lbrace :: "x"
    Code [] code ∧ HeaderCode h
      ∧ enclosed s (group .expression s) = code ∧ s.drop (group .expression s).taken = "x"
      ∧ trim (t.take (header .expression t).taken) = trim h
      ∧ t.drop (header .expression t).taken = lbrace :: "x" := by
  intro code s h t
  have hindex : Code "/* ) */" "[\")\"]" :=
    .group (by decide) (.literal (.intro (by decide) (.byte (by decide) (by decide) .nil)))
  have hcomment : Code [] "/* ) */" := .block (by decide : ¬ [ch '*', slash] <:+: " ) ")
  have hcode : Code [] code := .append hindex hcomment
  have hcall : HeaderCode "(\"\x7b\")" :=
    .group (.inl rfl) (.literal (.intro (by decide) (.byte (by decide) (by decide) .nil)))
  have hh : HeaderCode h := .append
    (.append (.byte (c := ch 'f') (by decide) (by decide) (by decide)) hcall)
    (.byte (c := ch ' ') (by decide) (by decide) (by decide))
  obtain ⟨hgroup, hheader, -⟩ := fragments_cut_out .expression
  obtain ⟨-, henclosed, hbehind⟩ := hgroup (ch '(') code "x" (by decide) hcode
  obtain ⟨-, htrimmed, hbrace⟩ := hheader h "x" hh
  exact ⟨hcode, hh, henclosed, hbehind, htrimmed, hbrace⟩

end Stencil
