import Mathlib
import Stencil.Proofs.Template.Enclosed
import Stencil.Proofs.Template.WellFormed

/-!
# Expressions put back into parentheses

The code of an expression is written into a call, `w.Text(…)`, and the parenthesis behind it has
to be the one that closes the call. What was cut out of a source stood in front of such a
parenthesis, or it is a chain, which is enclosed anyway (`Reader.Cut.enclosed_iff`). But
the code is trimmed, and the white space at its end may have been the line feed of a line comment.
Without it the comment goes on over the parenthesis.

So the parenthesis closes the call exactly if the code does not end in a line comment
(`expression_closed_iff`), and code that does can be read (`expression_not_closed`).
-/

namespace Stencil

open Bytes Fragment

/-! ## The expressions of a tree -/

mutual

/-- **The code of the expressions in a tree**, in order. -/
def Node.expressions : Node → List Bytes
  | .text .. | .splice .. => []
  | .expr code _ => [code]
  | .loop _ body _ _ => Node.expressionsAll body
  | .choice branches otherwise _ _ =>
    Branch.expressionsAll branches ++ Node.expressionsAll otherwise
  | .element _ _ children _ _ _ => Node.expressionsAll children

/-- The code of the expressions in a branch. -/
def Branch.expressions : Branch → List Bytes
  | .mk _ body _ => Node.expressionsAll body

/-- The code of the expressions in a list of trees. -/
def Node.expressionsAll : List Node → List Bytes
  | [] => []
  | n :: ns => n.expressions ++ Node.expressionsAll ns

/-- The code of the expressions in a list of branches. -/
def Branch.expressionsAll : List Branch → List Bytes
  | [] => []
  | b :: bs => b.expressions ++ Branch.expressionsAll bs

end

theorem Node.mem_expressionsAll {ns : List Node} {code : Bytes} :
    code ∈ Node.expressionsAll ns ↔ ∃ n ∈ ns, code ∈ n.expressions := by
  induction ns with
  | nil => simp [Node.expressionsAll]
  | cons n ns ih => rw [Node.expressionsAll, List.mem_append, ih, List.exists_mem_cons_iff]

theorem Branch.mem_expressionsAll {bs : List Branch} {code : Bytes} :
    code ∈ Branch.expressionsAll bs ↔ ∃ b ∈ bs, code ∈ b.expressions := by
  induction bs with
  | nil => simp [Branch.expressionsAll]
  | cons b bs ih => rw [Branch.expressionsAll, List.mem_append, ih, List.exists_mem_cons_iff]

/-- What the reader makes has expressions that were cut out of the source. -/
theorem Node.makes_expressions (size : Nat) :
    Reader.Makes size (fun n => ∀ code ∈ n.expressions, Reader.Cut code)
      (fun b => ∀ code ∈ b.expressions, Reader.Cut code) := by
  have hall : ∀ {ns : List Node}, (∀ n ∈ ns, ∀ code ∈ n.expressions, Reader.Cut code) →
      ∀ code ∈ Node.expressionsAll ns, Reader.Cut code := fun h code hcode => by
    obtain ⟨n, hn, hcode⟩ := Node.mem_expressionsAll.1 hcode
    exact h n hn code hcode
  constructor
  case text => exact fun code hcode => absurd hcode List.not_mem_nil
  case splice => exact fun _ _ _ code hcode => absurd hcode List.not_mem_nil
  case expr => exact fun hcut => List.forall_mem_singleton.2 hcut
  case loop | branch => exact hall
  case choice =>
    intro branches otherwise _ _ _ _ hbranches hotherwise code hcode
    rcases List.mem_append.1 hcode with hcode | hcode
    · obtain ⟨b, hb, hcode⟩ := Branch.mem_expressionsAll.1 hcode
      exact hbranches b hb code hcode
    · exact hall hotherwise code hcode
  case element => exact fun _ _ hchildren _ => hall hchildren

/-- **The expressions of every document that was read** were cut out of its source. -/
theorem Document.cut_of_mem_expressions {src code : Bytes}
    (h : code ∈ Node.expressionsAll (Document.read src).1.body) : Reader.Cut code := by
  obtain ⟨n, hn, hcode⟩ := Node.mem_expressionsAll.1 h
  exact (Document.made_read (Node.makes_expressions src.length)).2 n hn code hcode

/-! ## Parentheses -/

/-- **Code that was cut out of a source** is enclosed exactly if it does not end in a line
comment. -/
theorem Reader.Cut.enclosed_iff {code : Bytes} (h : Reader.Cut code) :
    Enclosed (ch ')') (ch ')') [] code ↔ endsInComment code = false := by
  have hclosers : ∀ c ∈ [ch ')'], isCloser c = true := List.forall_mem_singleton.2 (by decide)
  cases h with
  | chain h =>
    have hcode := enclosed_chain (hclosers _ (List.mem_singleton_self _)) h
    exact iff_of_true hcode (hcode.endsInComment_eq hclosers)
  | group h =>
    obtain ⟨code, rest, -, -, henclosed, hcode⟩ := exists_of_group h
    rw [henclosed]
    exact hcode.trim_iff hclosers

/-- A closing parenthesis behind code is the one that is found exactly if the code is enclosed,
whatever comes next. -/
theorem Fragment.group_eq_iff {code rest : Bytes} :
    group .expression (ch '(' :: (code ++ ch ')' :: rest)) = ⟨code.length + 2, none⟩
      ↔ Enclosed (ch ')') (ch ')') [] code := by
  constructor
  · intro h
    obtain ⟨code', rest', hsplit, htaken, -, hcode⟩ :=
      @exists_of_group .expression (ch '(') _ (congrArg Scan.fault h)
    rw [h] at htaken
    obtain ⟨rfl, -⟩ := List.append_inj hsplit (Nat.add_right_cancel htaken)
    exact hcode
  · exact fun h => group_enclosing ((balanced_iff_enclosed (by decide)).2 h) .expression rest

/-- **The parenthesis behind an expression closes the call** that its code is written into, whatever
follows, exactly if the code does not end in a line comment. -/
theorem expression_closed_iff {src code : Bytes}
    (h : code ∈ Node.expressionsAll (Document.read src).1.body) (rest : Bytes) :
    let s := ch '(' :: (code ++ ch ')' :: rest)
    group .expression s = ⟨code.length + 2, none⟩
        ∧ enclosed s (group .expression s) = code
      ↔ endsInComment code = false := by
  intro s
  rw [← (Document.cut_of_mem_expressions h).enclosed_iff]
  refine Iff.trans (and_iff_left_of_imp fun hgroup => ?_) group_eq_iff
  rw [hgroup]
  exact enclosed_enclosing ..

/-- A comment that is closed does no harm, even at the end. -/
theorem expression_closed_comment :
    ofString "a /* b */" ∈ Node.expressionsAll (Document.read "@(a /* b */ )").1.body
    ∧ group .expression "(a /* b */), c" = ⟨11, none⟩ := by
  have hread : (Document.read "@(a /* b */ )").1.body = [.expr "a /* b */" 1] := by cbv
  have hmem : ofString "a /* b */"
      ∈ Node.expressionsAll (Document.read "@(a /* b */ )").1.body := by
    rw [hread]
    exact List.mem_singleton_self _
  have hcomment : endsInComment "a /* b */" = false := by cbv
  exact ⟨hmem, ((expression_closed_iff hmem ", c").2 hcomment).1⟩

/-- **The parenthesis behind an expression need not close the call**: what was read of
`@(1 // one` and a closing parenthesis on the next line is `1 // one`. -/
theorem expression_not_closed :
    ¬ ∀ src code : Bytes, code ∈ Node.expressionsAll (Document.read src).1.body →
      let s := ch '(' :: (code ++ [ch ')'])
      group .expression s = ⟨s.length, none⟩ ∧ enclosed s (group .expression s) = code := by
  intro h
  have hread : (Document.read "@(1 // one\n)").1.body = [.expr "1 // one" 1] := by cbv
  have hmem : ofString "1 // one" ∈ Node.expressionsAll (Document.read "@(1 // one\n)").1.body := by
    rw [hread]
    exact List.mem_singleton_self _
  have hcode : Enclosed (ch ')') (ch ')') [] "1 // one" := group_eq_iff.1 (h _ _ hmem).1
  have hcomment : endsInComment "1 // one" = true := by cbv
  rw [hcode.endsInComment_eq (List.forall_mem_singleton.2 (by decide))] at hcomment
  cases hcomment

end Stencil
