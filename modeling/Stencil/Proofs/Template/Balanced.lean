import Stencil.Proofs.Text.Search
import Stencil.Proofs.Text.Utf8
import Stencil.Template.Fragment

/-!
# Where code fragments end

A scan that succeeds has seen all it needs: the literal is closed, the brackets are
matched. What stands behind it cannot change that any more, and this module says so for
literals, for bracketed fragments and for headers.

So a fragment can be judged on its own. Code is `Balanced` when its closing bracket, put
behind it, is found to be the one that closes it – which a line comment at the end of the
code would prevent, and so would a closing bracket too many. A `Header` is what can stand
between a keyword and the brace of its block. The scans then stop exactly behind such a
fragment, whatever comes next (`group_enclosing`, `header_block`).
-/

namespace Stencil.Fragment

open Bytes

/-! ## What follows a scan does not matter -/

/-- A closed literal is closed whatever follows it. -/
theorem literal_append {q : UInt8} {s : Bytes} {n : Nat} (h : literal q s = (true, n))
    (t : Bytes) : literal q (s ++ t) = (true, n) ∧ n ≤ s.length := by
  fun_induction literal q s generalizing n with
  | case1 | case2 | case4 => cases h
  | case3 c hc b s closed m hs ih =>
    cases h
    obtain ⟨ha, hle⟩ := ih hs
    rw [List.cons_append, List.cons_append, literal.eq_def]
    dsimp only
    rw [if_pos hc, ha]
    exact ⟨rfl, Nat.add_le_add_right hle 2⟩
  | case5 s h₁ h₂ =>
    cases h
    rw [List.cons_append, literal.eq_def]
    dsimp only
    rw [if_neg h₁, if_neg h₂, if_pos rfl]
    exact ⟨rfl, Nat.le_add_left ..⟩
  | case6 c s h₁ h₂ h₃ closed m hs ih =>
    cases h
    obtain ⟨ha, hle⟩ := ih hs
    rw [List.cons_append, literal.eq_def]
    dsimp only
    rw [if_neg h₁, if_neg h₂, if_neg h₃, ha]
    exact ⟨rfl, Nat.add_le_add_right hle 1⟩

/-- A continued scan succeeds when the scan it continues with does. -/
theorem Scan.after_eq_ok {s : Scan} {k n : Nat} :
    s.after k = ⟨n, none⟩ ↔ ∃ m, s = ⟨m, none⟩ ∧ n = k + m := by
  obtain ⟨m, f⟩ := s
  constructor
  · intro h
    cases f with
    | none =>
      cases h
      exact ⟨m, rfl, rfl⟩
    | some f => cases h
  · rintro ⟨_, ⟨⟩, rfl⟩
    rfl

/-- No bracket is closed by a slash. -/
theorem closerOf_ne_slash (c : UInt8) : closerOf c ≠ slash := by
  unfold closerOf
  split
  · decide
  · split <;> decide

/-- The byte opens neither a literal nor, with what is behind it, a comment. -/
structure Plain (c : UInt8) (r : Bytes) : Prop where
  quote : isQuote c = false
  line : ¬ (c = slash ∧ r.head? = some slash)
  block : ¬ (c = slash ∧ r.head? = some (ch '*'))

/-- A byte that is no slash needs nothing behind it to be plain. -/
theorem Plain.of_ne_slash {c : UInt8} (hquote : isQuote c = false) (hslash : c ≠ slash)
    (r : Bytes) : Plain c r :=
  ⟨hquote, fun h => hslash h.1, fun h => hslash h.1⟩

/-- Whether a slash starts a comment is decided by the byte behind it. -/
theorem slash_head?_append {c : UInt8} {r : Bytes} (h : c = slash → r ≠ []) (b : UInt8)
    (t : Bytes) : (c = slash ∧ (r ++ t).head? = some b) ↔ (c = slash ∧ r.head? = some b) := by
  refine and_congr_right fun hc => ?_
  rw [List.head?_append_of_ne_nil _ (h hc)]

theorem Plain.append {c : UInt8} {r : Bytes} (h : Plain c r) (hslash : c = slash → r ≠ [])
    (t : Bytes) : Plain c (r ++ t) where
  quote := h.quote
  line := mt (slash_head?_append hslash _ _).1 h.line
  block := mt (slash_head?_append hslash _ _).1 h.block

/-- **A plain byte counts for the brackets only.** -/
theorem groupTail_plain {c : UInt8} {r : Bytes} (h : Plain c r) (what : Construct)
    (closer : UInt8) (outer : List UInt8) :
    groupTail what closer outer (c :: r) =
      if isOpener c then (groupTail what (closerOf c) (closer :: outer) r).after 1
      else if c = closer then
        match outer with
        | [] => ⟨1, none⟩
        | next :: outer' => (groupTail what next outer' r).after 1
      else (groupTail what closer outer r).after 1 := by
  rw [groupTail.eq_def]
  exact (if_neg (by simp [h.quote])).trans ((if_neg h.line).trans (if_neg h.block))

/-- **A matched fragment is matched whatever follows it**, and whatever it is part of. -/
theorem groupTail_append {what : Construct} {closer : UInt8} {outer : List UInt8} {s : Bytes}
    {n : Nat} (hslash : slash ∉ closer :: outer)
    (h : groupTail what closer outer s = ⟨n, none⟩) (what' : Construct) (t : Bytes) :
    groupTail what' closer outer (s ++ t) = ⟨n, none⟩ ∧ n ≤ s.length := by
  fun_induction groupTail what closer outer s generalizing n with
  | case1 | case3 | case5 => cases h
  | case2 closer outer c r hq m hl ih =>
    obtain ⟨k, hk, rfl⟩ := Scan.after_eq_ok.1 h
    obtain ⟨ha, hle⟩ := ih hslash hk
    obtain ⟨hla, hlle⟩ := literal_append hl t
    rw [List.length_drop] at hle
    rw [List.cons_append, groupTail.eq_def]
    dsimp only
    rw [if_pos hq, hla]
    dsimp only
    rw [if_pos rfl, List.drop_append_of_le_length hlle, ha]
    exact ⟨rfl, by rw [List.length_cons]; omega⟩
  | case4 closer outer c r hq hc m =>
    rename_i ih
    obtain ⟨k, hk, rfl⟩ := Scan.after_eq_ok.1 h
    obtain ⟨ha, hle⟩ := ih hslash hk
    have hne : r ≠ [] := by
      rintro rfl
      cases hc.2
    -- a fragment that is matched does not end inside the comment
    have hlt : m < r.length := by
      refine Nat.lt_of_not_le fun hge => ?_
      rw [List.drop_eq_nil_of_le hge, groupTail.eq_def] at hk
      cases hk
    have htake : ((r ++ t).takeWhile (· ≠ newline)).length = m := by
      rw [List.takeWhile_append, if_neg (Nat.ne_of_lt hlt)]
    rw [List.length_drop] at hle
    rw [List.cons_append, groupTail.eq_def]
    dsimp only
    rw [if_neg hq, if_pos ((slash_head?_append (fun _ => hne) _ _).2 hc), htake,
      List.drop_append_of_le_length hlt.le, ha]
    exact ⟨rfl, by rw [List.length_cons]; omega⟩
  | case6 closer outer c r hq hc hs m hm ih =>
    obtain ⟨k, hk, rfl⟩ := Scan.after_eq_ok.1 h
    obtain ⟨ha, hle⟩ := ih hslash hk
    have hne : r ≠ [] := by
      rintro rfl
      cases hs.2
    have hlen : 1 ≤ r.length := List.length_pos_iff.2 hne
    obtain ⟨hma, hmle⟩ := indexOf?_append (by decide) hm t
    have hmle : m + 2 ≤ r.length - 1 := List.length_drop ▸ hmle
    rw [List.length_drop] at hle
    rw [List.cons_append, groupTail.eq_def]
    dsimp only
    rw [if_neg hq, if_neg (mt (slash_head?_append (fun _ => hne) _ _).1 hc),
      if_pos ((slash_head?_append (fun _ => hne) _ _).2 hs),
      List.drop_append_of_le_length hlen, hma]
    dsimp only
    rw [List.drop_append_of_le_length (by omega), ha]
    exact ⟨rfl, by rw [List.length_cons]; omega⟩
  | case7 closer outer c r hq h₁ h₂ ho ih =>
    obtain ⟨k, hk, rfl⟩ := Scan.after_eq_ok.1 h
    obtain ⟨ha, hle⟩ := ih (List.not_mem_cons_of_ne_of_not_mem (closerOf_ne_slash c).symm hslash) hk
    have hplain : Plain c (r ++ t) :=
      .of_ne_slash (by simpa using hq) (by rintro rfl; cases ho) _
    rw [List.cons_append, groupTail_plain hplain, if_pos ho, ha]
    exact ⟨rfl, by rw [List.length_cons]; omega⟩
  | case8 c r hq h₁ h₂ ho =>
    cases h
    have hplain : Plain c (r ++ t) :=
      .of_ne_slash (by simpa using hq) (fun hc => hslash (List.mem_singleton.2 hc.symm)) _
    rw [List.cons_append, groupTail_plain hplain, if_neg ho, if_pos rfl]
    exact ⟨rfl, Nat.le_add_left ..⟩
  | case9 c r hq h₁ h₂ ho next outer ih =>
    obtain ⟨k, hk, rfl⟩ := Scan.after_eq_ok.1 h
    obtain ⟨ha, hle⟩ := ih (List.not_mem_of_not_mem_cons hslash) hk
    have hplain : Plain c (r ++ t) :=
      .of_ne_slash (by simpa using hq) (List.ne_of_not_mem_cons hslash).symm _
    rw [List.cons_append, groupTail_plain hplain, if_neg ho, if_pos rfl]
    dsimp only
    rw [ha]
    exact ⟨rfl, by rw [List.length_cons]; omega⟩
  | case10 closer outer c r hq h₁ h₂ ho hcloser ih =>
    obtain ⟨k, hk, rfl⟩ := Scan.after_eq_ok.1 h
    obtain ⟨ha, hle⟩ := ih hslash hk
    have hne : c = slash → r ≠ [] := by
      rintro - rfl
      rw [groupTail.eq_def] at hk
      cases hk
    have hplain : Plain c r := ⟨by simpa using hq, h₁, h₂⟩
    rw [List.cons_append, groupTail_plain (hplain.append hne t), if_neg ho, if_neg hcloser, ha]
    exact ⟨rfl, by rw [List.length_cons]; omega⟩

/-! ## Code in brackets -/

/-- **Code whose brackets match**: with the closing bracket behind it, that bracket is the
one that closes it. -/
def Balanced (closer : UInt8) (code : Bytes) : Prop :=
  groupTail .expression closer [] (code ++ [closer]) = ⟨code.length + 1, none⟩

instance (closer : UInt8) : DecidablePred (Balanced closer) := fun _ =>
  inferInstanceAs (Decidable (_ = _))

/-- A byte that means nothing to the scan keeps code balanced. -/
theorem Balanced.cons {closer c : UInt8} {code : Bytes} (hquote : isQuote c = false)
    (hslash : c ≠ slash) (hopener : isOpener c = false) (hcloser : c ≠ closer)
    (h : Balanced closer code) : Balanced closer (c :: code) := by
  unfold Balanced at h ⊢
  rw [List.cons_append, groupTail_plain (.of_ne_slash hquote hslash _),
    if_neg (by simp [hopener]), if_neg hcloser, h, List.length_cons]
  exact congrArg (fun n => (⟨n, none⟩ : Scan)) (by dsimp only; omega)

/-- Code of such bytes only is balanced. -/
theorem Balanced.of_forall (opener : UInt8) {code : Bytes}
    (h : ∀ b ∈ code, isQuote b = false ∧ b ≠ slash ∧ isOpener b = false ∧ b ≠ closerOf opener) :
    Balanced (closerOf opener) code := by
  induction code with
  | nil =>
    unfold Balanced closerOf
    rw [List.nil_append, groupTail.eq_def]
    split_ifs <;> rfl
  | cons b code ih =>
    obtain ⟨⟨hquote, hslash, hopener, hcloser⟩, hcode⟩ := List.forall_mem_cons.1 h
    exact .cons hquote hslash hopener hcloser (ih hcode)

/-- The bracket that closes balanced code is found, whatever comes behind it. -/
theorem Balanced.groupTail_eq {closer : UInt8} {code : Bytes} (h : Balanced closer code)
    (hslash : closer ≠ slash) (what : Construct) (rest : Bytes) :
    groupTail what closer [] (code ++ closer :: rest) = ⟨code.length + 1, none⟩ := by
  rw [show code ++ closer :: rest = (code ++ [closer]) ++ rest by simp]
  exact (groupTail_append (fun hmem => hslash (List.mem_singleton.1 hmem).symm) h what rest).1

/-- **Balanced code in brackets is passed as a whole.** -/
theorem group_closed {c : UInt8} {code : Bytes} (h : Balanced (closerOf c) code)
    (what : Construct) (rest : Bytes) :
    group what (c :: (code ++ closerOf c :: rest)) = ⟨code.length + 2, none⟩ := by
  have hslash : closerOf c ≠ slash := by
    unfold closerOf
    split_ifs <;> decide
  rw [group, h.groupTail_eq hslash what rest]
  simp [Scan.after]
  omega

/-- Balanced code in parentheses is passed as a whole. -/
theorem group_enclosing {code : Bytes} (h : Balanced (ch ')') code) (what : Construct)
    (rest : Bytes) :
    group what (ch '(' :: (code ++ ch ')' :: rest)) = ⟨code.length + 2, none⟩ :=
  group_closed (c := ch '(') h what rest

/-- What balanced code in brackets encloses is the code. -/
theorem enclosed_enclosing (c d : UInt8) (code rest : Bytes) :
    enclosed (c :: (code ++ d :: rest)) ⟨code.length + 2, none⟩ = code := by
  simp [enclosed]

/-! ## Headers -/

/-- **What can stand between a keyword and the brace of its block**: bytes that mean
nothing to the scan, closed literals, and balanced code in parentheses or in square
brackets. -/
inductive Header : Bytes → Prop where
  /-- Nothing. -/
  | nil : Header []
  /-- A byte that is no line feed and opens nothing. -/
  | byte {c : UInt8} {s : Bytes} (hline : c ≠ newline) (hquote : isQuote c = false)
      (hopener : isOpener c = false) (hs : Header s) : Header (c :: s)
  /-- A literal that is closed. -/
  | literal {q : UInt8} {body s : Bytes} (hquote : isQuote q = true)
      (hbody : Fragment.literal q body = (true, body.length)) (hs : Header s) :
      Header (q :: (body ++ s))
  /-- Code in parentheses or in square brackets. -/
  | group {c : UInt8} {code s : Bytes} (hopener : c = ch '(' ∨ c = ch '[')
      (hcode : Balanced (closerOf c) code) (hs : Header s) :
      Header (c :: (code ++ closerOf c :: s))

theorem Header.append {s t : Bytes} (hs : Header s) (ht : Header t) : Header (s ++ t) := by
  induction hs with
  | nil => exact ht
  | byte hline hquote hopener _ ih => exact .byte hline hquote hopener ih
  | literal hquote hbody _ ih =>
    rw [List.cons_append, List.append_assoc]
    exact .literal hquote hbody ih
  | group hopener hcode _ ih =>
    rw [List.cons_append, List.append_assoc, List.cons_append]
    exact .group hopener hcode ih

/-- **A header ends at the brace behind it.** -/
theorem header_block {s : Bytes} (h : Header s) (what : Construct) (rest : Bytes) :
    header what (s ++ lbrace :: rest) = ⟨s.length, none⟩ := by
  induction h with
  | nil =>
    rw [List.nil_append, header.eq_def]
    rfl
  | @byte c s hline hquote hopener _ ih =>
    have hc : c ≠ lbrace ∧ ¬ (c = ch '(' ∨ c = ch '[') := by
      constructor
      · rintro rfl; cases hopener
      · rintro (rfl | rfl) <;> cases hopener
    rw [List.cons_append, header.eq_def]
    dsimp only
    rw [if_neg hc.1, if_neg (by simp [hquote]), if_neg hc.2, if_neg hline, ih, List.length_cons,
      Nat.add_comm]
    rfl
  | @literal q body s hquote hbody _ ih =>
    have hne : q ≠ lbrace := by rintro rfl; cases hquote
    obtain ⟨hl, -⟩ := literal_append hbody (s ++ lbrace :: rest)
    rw [List.cons_append, List.append_assoc, header.eq_def]
    dsimp only
    rw [if_neg hne, if_pos hquote, hl]
    dsimp only
    rw [if_pos rfl, List.drop_left, ih, List.length_cons, List.length_append]
    exact congrArg (fun n => (⟨n, none⟩ : Scan)) (by dsimp only; omega)
  | @group c code s hopener hcode _ ih =>
    have hc : c ≠ lbrace ∧ isQuote c = false := by
      rcases hopener with rfl | rfl <;> decide
    rw [List.cons_append, List.append_assoc, List.cons_append, header.eq_def]
    dsimp only
    rw [if_neg hc.1, if_neg (by simp [hc.2]), if_pos hopener,
      hcode.groupTail_eq (closerOf_ne_slash c) what]
    dsimp only
    rw [show code ++ closerOf c :: (s ++ lbrace :: rest)
        = (code ++ [closerOf c]) ++ (s ++ lbrace :: rest) by simp,
      show code.length + 1 = (code ++ [closerOf c]).length by simp, List.drop_left, ih]
    exact congrArg (fun n => (⟨n, none⟩ : Scan)) (by simp; omega)

end Stencil.Fragment
