import Mathlib.Data.List.TakeWhile
import Stencil.Proofs.Template.Balanced

/-!
# What stands between brackets

A scan of a bracketed fragment passes literals and comments as a whole and counts brackets in
everything else. `Enclosed` says the same of the code alone, and the scan stops behind a bracket
exactly if what is in front of it is enclosed (`groupTail_enclosed`, `exists_enclosed`).

The point is white space at the end of the code. A line comment there is ended by a line feed,
which is white space, so code that is trimmed may no longer be enclosed: whatever is put behind it
continues the comment. That is the only way in which trimming matters
(`Enclosed.trim_iff`).
-/

namespace Stencil.Fragment

open Bytes

/-! ## Literals and comments -/

/-- **A piece of code that is passed as a whole**: a literal, or a comment with what ends it. -/
inductive Inert : Bytes → Prop where
  /-- A literal with both of its quotes. -/
  | literal {q : UInt8} {body : Bytes} (hquote : isQuote q = true)
      (hbody : Fragment.literal q (body ++ [q]) = (true, body.length + 1)) :
      Inert (q :: (body ++ [q]))
  /-- A line comment with its line feed. -/
  | line {body : Bytes} (hbody : newline ∉ body) : Inert (slash :: slash :: (body ++ [newline]))
  /-- A comment between its marks. -/
  | block {body : Bytes} (hbody : indexOf? "*/" (body ++ ofString "*/") = some body.length) :
      Inert (slash :: ch '*' :: (body ++ ofString "*/"))

/-- A closed literal ends with its quote. -/
theorem exists_of_literal {q : UInt8} {s : Bytes} {n : Nat} (h : literal q s = (true, n)) :
    ∃ body rest, s = body ++ q :: rest ∧ n = body.length + 1
      ∧ literal q (body ++ [q]) = (true, body.length + 1) := by
  fun_induction literal q s generalizing n with
  | case1 | case2 | case4 => cases h
  | case3 c hc b s closed m hs ih =>
    cases h
    obtain ⟨body, rest, rfl, rfl, hbody⟩ := ih hs
    refine ⟨c :: b :: body, rest, rfl, rfl, ?_⟩
    rw [List.cons_append, List.cons_append, literal.eq_def]
    dsimp only
    rw [if_pos hc, hbody]
    rfl
  | case5 s h₁ h₂ =>
    cases h
    refine ⟨[], s, rfl, rfl, ?_⟩
    rw [List.nil_append, literal.eq_def]
    dsimp only
    rw [if_neg h₁, if_neg h₂, if_pos rfl]
    rfl
  | case6 c s h₁ h₂ h₃ closed m hs ih =>
    cases h
    obtain ⟨body, rest, rfl, rfl, hbody⟩ := ih hs
    refine ⟨c :: body, rest, rfl, rfl, ?_⟩
    rw [List.cons_append, literal.eq_def]
    dsimp only
    rw [if_neg h₁, if_neg h₂, if_neg h₃, hbody]
    rfl

/-- A line comment ends before the next line feed. -/
theorem takeWhile_line {body : Bytes} (h : newline ∉ body) (t : Bytes) :
    (slash :: (body ++ newline :: t)).takeWhile (· ≠ newline) = slash :: body := by
  have hbyte : ∀ c ∈ slash :: body, decide (c ≠ newline) = true := by
    refine List.forall_mem_cons.2 ⟨by decide, fun c hc => decide_eq_true ?_⟩
    rintro rfl
    exact h hc
  exact takeWhile_append_cons hbyte (by simp) t

/-- Without a line feed, it ends with the text. -/
theorem takeWhile_line_of_notMem {body : Bytes} (h : newline ∉ body) :
    (slash :: body).takeWhile (· ≠ newline) = slash :: body := by
  refine List.takeWhile_eq_self_iff.2 (List.forall_mem_cons.2 ⟨by decide, fun c hc => ?_⟩)
  exact decide_eq_true fun heq => h (heq ▸ hc)

/-- A line comment runs to the end or to a line feed. -/
theorem exists_line {r : Bytes} (h : r.head? = some slash) :
    r.drop (r.takeWhile (· ≠ newline)).length = []
    ∨ ∃ body t, newline ∉ body ∧ r = slash :: (body ++ newline :: t)
      ∧ (r.takeWhile (· ≠ newline)).length = body.length + 1
      ∧ r.drop (r.takeWhile (· ≠ newline)).length = newline :: t := by
  cases r with
  | nil => cases h
  | cons c r =>
    obtain rfl : c = slash := Option.some.inj h
    by_cases hmem : newline ∈ r
    · obtain ⟨body, t, rfl, hbody⟩ := List.eq_append_cons_of_mem hmem
      rw [takeWhile_line hbody]
      exact .inr ⟨body, t, hbody, rfl, rfl, by simp⟩
    · rw [takeWhile_line_of_notMem hmem, List.drop_length]
      exact .inl rfl

/-- Whether a byte is a closing bracket. -/
def isCloser (c : UInt8) : Bool := c = ch ')' || c = ch ']' || c = rbrace

/-- What closes a bracket is a closing bracket. -/
theorem isCloser_closerOf (c : UInt8) : isCloser (closerOf c) = true := by
  unfold closerOf
  split_ifs <;> decide

/-- A closing bracket is nothing else. -/
theorem eq_of_isCloser {c : UInt8} (h : isCloser c = true) :
    isQuote c = false ∧ isOpener c = false ∧ c ≠ slash ∧ c ≠ newline ∧ c ≠ ch '*' := by
  have hc : c = ch ')' ∨ c = ch ']' ∨ c = rbrace := by
    simpa only [isCloser, Bool.or_eq_true, decide_eq_true_eq, or_assoc] using h
  rcases hc with rfl | rfl | rfl <;> decide

theorem plain_of_isCloser {c : UInt8} (h : isCloser c = true) (r : Bytes) : Plain c r :=
  .of_ne_slash (eq_of_isCloser h).1 (eq_of_isCloser h).2.2.1 r

theorem plain_of_isOpener {c : UInt8} (h : isOpener c = true) (r : Bytes) : Plain c r := by
  have hc : c = ch '(' ∨ c = ch '[' ∨ c = lbrace := by
    simpa only [isOpener, Bool.or_eq_true, decide_eq_true_eq, or_assoc] using h
  rcases hc with rfl | rfl | rfl <;> exact .of_ne_slash (by decide) (by decide) r

/-- What is plain is so without what comes later. -/
theorem Plain.of_append {c : UInt8} {r t : Bytes} (h : Plain c (r ++ t)) : Plain c r := by
  cases r with
  | nil => exact ⟨h.quote, fun h => (nomatch h.2), fun h => (nomatch h.2)⟩
  | cons b r => exact ⟨h.quote, h.line, h.block⟩

/-- A closing bracket behind a byte keeps it plain. -/
theorem Plain.append_closer {c final : UInt8} {r : Bytes} (h : Plain c r)
    (hfinal : isCloser final = true) (t : Bytes) : Plain c (r ++ final :: t) := by
  cases r with
  | nil =>
    obtain ⟨-, -, hslash, -, hstar⟩ := eq_of_isCloser hfinal
    exact ⟨h.quote, fun h => hslash (Option.some.inj h.2), fun h => hstar (Option.some.inj h.2)⟩
  | cons b r => exact ⟨h.quote, h.line, h.block⟩

theorem Scan.after_ok (k n : Nat) : (⟨n, none⟩ : Scan).after k = ⟨k + n, none⟩ := rfl

theorem Scan.after_after (k l : Nat) (s : Scan) : (s.after k).after l = s.after (l + k) := by
  obtain ⟨n, fault⟩ := s
  rcases fault with - | ⟨place, fault⟩
  · exact congrArg (fun n => (⟨n, none⟩ : Scan)) (Nat.add_assoc l k n).symm
  · cases place <;> simp [Scan.after, Place.after, Nat.add_assoc]

/-- **A piece that is passed as a whole does not count.** -/
theorem groupTail_inert {p : Bytes} (hp : Inert p) (what : Construct) {closer : UInt8}
    (hcloser : closer ≠ newline) (outer : List UInt8) (t : Bytes) :
    groupTail what closer outer (p ++ t) = (groupTail what closer outer t).after p.length := by
  cases hp with
  | @literal q body hquote hbody =>
    rw [List.cons_append, groupTail.eq_def]
    dsimp only
    rw [if_pos hquote, (literal_append hbody t).1]
    dsimp only
    rw [if_pos rfl, List.drop_left' (by simp), List.length_cons, List.length_append,
      List.length_singleton, Nat.add_comm]
  | @line body hbody =>
    rw [List.cons_append, List.cons_append, List.append_assoc, List.singleton_append,
      groupTail.eq_def]
    dsimp only
    rw [if_neg (by decide), if_pos ⟨rfl, rfl⟩, takeWhile_line hbody, List.length_cons,
      List.drop_succ_cons, List.drop_left,
      groupTail_plain (.of_ne_slash (by decide) (by decide) t), if_neg (by decide),
      if_neg hcloser.symm, Scan.after_after]
    exact congrArg (groupTail what closer outer t).after (by simp; omega)
  | @block body hbody =>
    rw [List.cons_append, List.cons_append, groupTail.eq_def]
    dsimp only
    have hstar : ch '*' ≠ slash := by decide
    rw [if_neg (by decide), if_neg (fun h => hstar (Option.some.inj h.2)), if_pos ⟨rfl, rfl⟩,
      List.drop_succ_cons, List.drop_zero, (indexOf?_append (by decide) hbody t).1]
    dsimp only
    rw [List.drop_succ_cons, List.drop_left' (by simp; decide)]
    exact congrArg (groupTail what closer outer t).after (by simp; decide)

/-! ## Enclosed code -/

/-- **Code in front of the bracket `final`**, where `closer` closes the innermost open bracket and
`outer` those around it. -/
inductive Enclosed (final : UInt8) : UInt8 → List UInt8 → Bytes → Prop where
  /-- Nothing, in front of the last bracket to be closed. -/
  | nil : Enclosed final final [] []
  /-- A literal or a comment. -/
  | inert {closer : UInt8} {outer : List UInt8} {p s : Bytes} (hp : Inert p)
      (hs : Enclosed final closer outer s) : Enclosed final closer outer (p ++ s)
  /-- A bracket that opens. -/
  | opener {closer c : UInt8} {outer : List UInt8} {s : Bytes} (hc : isOpener c = true)
      (hs : Enclosed final (closerOf c) (closer :: outer) s) : Enclosed final closer outer (c :: s)
  /-- The bracket that closes the innermost one. -/
  | closer {closer next : UInt8} {outer : List UInt8} {s : Bytes}
      (hs : Enclosed final next outer s) : Enclosed final closer (next :: outer) (closer :: s)
  /-- A byte that means nothing, which may be a closing bracket of another kind. -/
  | byte {closer c : UInt8} {outer : List UInt8} {s : Bytes} (hplain : Plain c s)
      (hopener : isOpener c = false) (hcloser : c ≠ closer)
      (hs : Enclosed final closer outer s) : Enclosed final closer outer (c :: s)

variable {final closer : UInt8} {outer : List UInt8} {s code : Bytes}

/-- The bracket at the end closes the outermost one. -/
theorem Enclosed.getLast?_eq (h : Enclosed final closer outer code) :
    (closer :: outer).getLast? = some final := by
  induction h with
  | nil => rfl
  | inert _ _ ih | byte _ _ _ _ ih => exact ih
  | opener _ _ ih | closer _ ih => simpa using ih

/-! ## Blanks -/

/-- The bytes that a scan looks at. -/
def marks : List UInt8 :=
  [dquote, squote, grave, slash, ch '(', ch '[', lbrace, ch ')', ch ']', rbrace]

/-- A byte that is no mark neither begins a literal or a comment nor opens or closes anything. -/
theorem of_notMem_marks {b : UInt8} (h : b ∉ marks) :
    isQuote b = false ∧ b ≠ slash ∧ isOpener b = false ∧ isCloser b = false := by
  simp only [marks, List.mem_cons, List.not_mem_nil, or_false, not_or] at h
  obtain ⟨hdquote, hsquote, hgrave, hslash, hparen, hbracket, hbrace, hparen', hbracket',
    hbrace'⟩ := h
  refine ⟨?_, hslash, ?_, ?_⟩
  · simp only [isQuote, hdquote, hsquote, hgrave, decide_false, Bool.or_self]
  · simp only [isOpener, hparen, hbracket, hbrace, decide_false, Bool.or_self]
  · simp only [isCloser, hparen', hbracket', hbrace', decide_false, Bool.or_self]

/-- Blanks are no marks. -/
theorem notMem_marks_of_blankByte {b : UInt8} (h : BlankByte b) : b ∉ marks := by
  have hmarks : marks.all (fun c => ¬ BlankByte c) = true := by decide
  exact fun hmem => of_decide_eq_true (List.all_eq_true.1 hmarks b hmem) h

/-- The bytes of a name are no marks. -/
theorem notMem_marks_of_isIdentChar {b : UInt8} (h : isIdentChar b = true) : b ∉ marks := by
  have hmarks : marks.all (fun c => ¬ isIdentChar c = true) = true := by decide
  exact fun hmem => of_decide_eq_true (List.all_eq_true.1 hmarks b hmem) h

theorem of_blankByte {b : UInt8} (h : BlankByte b) :
    isQuote b = false ∧ b ≠ slash ∧ isOpener b = false ∧ isCloser b = false :=
  of_notMem_marks (notMem_marks_of_blankByte h)

/-- Blanks in front of enclosed code do not matter. -/
theorem Enclosed.of_blank_cons {b : UInt8} (hb : BlankByte b)
    (hclosers : ∀ c ∈ closer :: outer, isCloser c = true)
    (h : Enclosed final closer outer (b :: code)) : Enclosed final closer outer code := by
  obtain ⟨hquote, hslash, hopener, hcloser⟩ := of_blankByte hb
  generalize hs : b :: code = s at h
  cases h with
  | nil => cases hs
  | inert hp hs' =>
    cases hp with
    | literal hq =>
      obtain ⟨rfl, -⟩ := List.cons.inj hs
      rw [hq] at hquote
      cases hquote
    | line | block => exact absurd (List.cons.inj hs).1 hslash
  | opener hc =>
    obtain ⟨rfl, -⟩ := List.cons.inj hs
    rw [hc] at hopener
    cases hopener
  | closer =>
    obtain ⟨rfl, -⟩ := List.cons.inj hs
    rw [hclosers _ (List.mem_cons_self ..)] at hcloser
    cases hcloser
  | byte _ _ _ hs' =>
    obtain ⟨rfl, rfl⟩ := List.cons.inj hs
    exact hs'

/-! ## Scans -/

/-- **A scan passes what is enclosed**, and the bracket behind it. -/
theorem groupTail_enclosed (h : Enclosed final closer outer code)
    (hclosers : ∀ c ∈ closer :: outer, isCloser c = true) (what : Construct) (rest : Bytes) :
    groupTail what closer outer (code ++ final :: rest) = ⟨code.length + 1, none⟩ := by
  have hfinal : isCloser final = true := hclosers _ (List.mem_of_getLast? h.getLast?_eq)
  induction h with
  | nil =>
    rw [List.nil_append, groupTail_plain (plain_of_isCloser hfinal _),
      if_neg (by simp [(eq_of_isCloser hfinal).2.1]), if_pos rfl]
    rfl
  | inert hp _ ih =>
    have hcloser := (eq_of_isCloser (hclosers _ (List.mem_cons_self ..))).2.2.2.1
    rw [List.append_assoc, groupTail_inert hp what hcloser, ih hclosers, Scan.after_ok,
      List.length_append, Nat.add_assoc]
  | opener hc _ ih =>
    rw [List.cons_append, groupTail_plain (plain_of_isOpener hc _), if_pos hc,
      ih (List.forall_mem_cons.2 ⟨isCloser_closerOf _, hclosers⟩), Scan.after_ok, List.length_cons,
      Nat.add_comm]
  | closer _ ih =>
    obtain ⟨hcloser, hclosers'⟩ := List.forall_mem_cons.1 hclosers
    rw [List.cons_append, groupTail_plain (plain_of_isCloser hcloser _),
      if_neg (by simp [(eq_of_isCloser hcloser).2.1]), if_pos rfl]
    dsimp only
    rw [ih hclosers', Scan.after_ok, List.length_cons, Nat.add_comm]
  | byte hplain hopener hne _ ih =>
    rw [List.cons_append, groupTail_plain (hplain.append_closer hfinal _),
      if_neg (by simp [hopener]), if_neg hne, ih hclosers, Scan.after_ok, List.length_cons,
      Nat.add_comm]

/-- **What a scan has passed is enclosed.** -/
theorem exists_enclosed {what : Construct} {n : Nat}
    (hclosers : ∀ c ∈ closer :: outer, isCloser c = true)
    (h : groupTail what closer outer s = ⟨n, none⟩) :
    ∃ final code rest, s = code ++ final :: rest ∧ n = code.length + 1
      ∧ Enclosed final closer outer code := by
  fun_induction groupTail what closer outer s generalizing n with
  | case1 | case3 | case5 => cases h
  | case2 closer outer c r hq m hl ih =>
    obtain ⟨k, hk, rfl⟩ := Scan.after_eq_ok.1 h
    obtain ⟨body, r, rfl, rfl, hbody⟩ := exists_of_literal hl
    rw [show body ++ c :: r = (body ++ [c]) ++ r by simp, List.drop_left' (by simp)] at hk ih
    obtain ⟨final, code, rest, rfl, rfl, hcode⟩ := ih hclosers hk
    refine ⟨final, c :: (body ++ [c]) ++ code, rest, by simp, by simp; omega, ?_⟩
    exact .inert (.literal hq hbody) hcode
  | case4 closer outer c r hq hc m =>
    rename_i ih
    obtain ⟨k, hk, rfl⟩ := Scan.after_eq_ok.1 h
    obtain ⟨rfl, hslash⟩ := hc
    obtain ⟨final, code, rest, hrest, rfl, hcode⟩ := ih hclosers hk
    have hfinal := hclosers _ (List.mem_of_getLast? hcode.getLast?_eq)
    rcases exists_line hslash with hnil | ⟨body, t, hbody, rfl, hm, hdrop⟩
    · rw [hrest] at hnil
      cases code <;> cases hnil
    · rw [hdrop] at hrest
      cases code with
      | nil => exact absurd (List.cons.inj hrest).1.symm (eq_of_isCloser hfinal).2.2.2.1
      | cons b code =>
        obtain ⟨rfl, rfl⟩ := List.cons.inj hrest
        refine ⟨final, slash :: slash :: (body ++ [newline]) ++ code, rest, by simp, ?_,
          .inert (.line hbody) (hcode.of_blank_cons (by decide) hclosers)⟩
        have hm : m = body.length + 1 := hm
        simp [hm]
        omega
  | case6 closer outer c r hq hc hs m hm ih =>
    obtain ⟨k, hk, rfl⟩ := Scan.after_eq_ok.1 h
    obtain ⟨rfl, hstar⟩ := hs
    cases r with
    | nil => cases hstar
    | cons d r =>
      obtain rfl : d = ch '*' := Option.some.inj hstar
      rw [List.drop_succ_cons, List.drop_zero] at hm
      obtain ⟨body, r, rfl, rfl, hbody⟩ := exists_of_indexOf? (by decide) hm
      rw [List.drop_succ_cons, List.drop_left' (by simp; decide)] at hk ih
      obtain ⟨final, code, rest, rfl, rfl, hcode⟩ := ih hclosers hk
      have hmark : (ofString "*/").length = 2 := by decide
      exact ⟨final, slash :: ch '*' :: (body ++ ofString "*/") ++ code, rest, by simp,
        by simp [hmark]; omega, .inert (.block hbody) hcode⟩
  | case7 closer outer c r hq h₁ h₂ ho ih =>
    obtain ⟨k, hk, rfl⟩ := Scan.after_eq_ok.1 h
    obtain ⟨final, code, rest, rfl, rfl, hcode⟩ :=
      ih (List.forall_mem_cons.2 ⟨isCloser_closerOf _, hclosers⟩) hk
    exact ⟨final, c :: code, rest, rfl, by rw [List.length_cons]; omega, .opener ho hcode⟩
  | case8 c r hq h₁ h₂ ho =>
    cases h
    exact ⟨c, [], r, rfl, rfl, .nil⟩
  | case9 c r hq h₁ h₂ ho next outer ih =>
    obtain ⟨k, hk, rfl⟩ := Scan.after_eq_ok.1 h
    obtain ⟨final, code, rest, rfl, rfl, hcode⟩ := ih (List.forall_mem_cons.1 hclosers).2 hk
    exact ⟨final, c :: code, rest, rfl, by rw [List.length_cons]; omega, .closer hcode⟩
  | case10 closer outer c r hq h₁ h₂ ho hcloser ih =>
    obtain ⟨k, hk, rfl⟩ := Scan.after_eq_ok.1 h
    obtain ⟨final, code, rest, rfl, rfl, hcode⟩ := ih hclosers hk
    have hplain : Plain c (code ++ final :: rest) := ⟨by simpa using hq, h₁, h₂⟩
    exact ⟨final, c :: code, rest, rfl, by rw [List.length_cons]; omega,
      .byte hplain.of_append (by simpa using ho) hcloser hcode⟩

/-- Brackets match in code exactly if it is enclosed. -/
theorem balanced_iff_enclosed (hcloser : isCloser closer = true) :
    Balanced closer code ↔ Enclosed closer closer [] code := by
  have hclosers : ∀ c ∈ [closer], isCloser c = true := List.forall_mem_singleton.2 hcloser
  refine ⟨fun h => ?_, fun h => groupTail_enclosed h hclosers .expression []⟩
  obtain ⟨final, code', rest, hsplit, hlength, hcode⟩ := exists_enclosed hclosers h
  obtain rfl : closer = final := Option.some.inj hcode.getLast?_eq
  obtain ⟨rfl, -⟩ := List.append_inj hsplit (Nat.succ.inj hlength)
  exact hcode

/-- What was passed up to a bracket, and the bracket. -/
theorem exists_of_groupTail {what : Construct} {c : UInt8} {r : Bytes}
    (h : (groupTail what (closerOf c) [] r).fault = none) :
    ∃ code rest, r = code ++ closerOf c :: rest
      ∧ (groupTail what (closerOf c) [] r).taken = code.length + 1
      ∧ Enclosed (closerOf c) (closerOf c) [] code := by
  obtain ⟨final, code, rest, hsplit, htaken, hcode⟩ :=
    exists_enclosed (List.forall_mem_singleton.2 (isCloser_closerOf c))
      (show groupTail what (closerOf c) [] r = ⟨_, none⟩ by rw [← h])
  obtain rfl : closerOf c = final := Option.some.inj hcode.getLast?_eq
  exact ⟨code, rest, hsplit, htaken, hcode⟩

/-- **What a bracketed fragment is that was passed**: a bracket, enclosed code, and the bracket that
closes it. -/
theorem exists_of_group {what : Construct} {c : UInt8} {r : Bytes}
    (h : (group what (c :: r)).fault = none) :
    ∃ code rest, r = code ++ closerOf c :: rest ∧ (group what (c :: r)).taken = code.length + 2
      ∧ enclosed (c :: r) (group what (c :: r)) = code
      ∧ Enclosed (closerOf c) (closerOf c) [] code := by
  obtain ⟨code, rest, hsplit, htaken, hcode⟩ :=
    @exists_of_groupTail what c r (Option.map_eq_none_iff.1 h)
  have hgroup : (group what (c :: r)).taken = code.length + 2 := by
    rw [group_taken_cons, htaken]
    omega
  refine ⟨code, rest, hsplit, hgroup, ?_, hcode⟩
  unfold enclosed
  rw [hgroup, hsplit]
  simp

/-! ## Line comments at the end -/

/-- **Whether a line comment is still open at the end of code.** -/
def endsInComment (s : Bytes) : Bool :=
  match s with
  | [] => false
  | c :: r =>
    if isQuote c then
      let (closed, n) := literal c r
      closed && endsInComment (r.drop n)
    else if c = slash ∧ r.head? = some slash then
      let n := (r.takeWhile (· ≠ newline)).length
      n = r.length || endsInComment (r.drop n)
    else if c = slash ∧ r.head? = some (ch '*') then
      match indexOf? "*/" (r.drop 1) with
      | none => false
      | some n => endsInComment (r.drop (n + 3))
    else endsInComment r
termination_by s.length

/-- A byte that begins nothing does not matter for how the code ends. -/
theorem endsInComment_plain {c : UInt8} {r : Bytes} (h : Plain c r) :
    endsInComment (c :: r) = endsInComment r := by
  rw [endsInComment]
  exact (if_neg (by simp [h.quote])).trans ((if_neg h.line).trans (if_neg h.block))

/-- A literal, and a comment that is closed, do not matter either. -/
theorem endsInComment_inert {p : Bytes} (hp : Inert p) (t : Bytes) :
    endsInComment (p ++ t) = endsInComment t := by
  cases hp with
  | @literal q body hquote hbody =>
    rw [List.cons_append, endsInComment]
    dsimp only
    rw [if_pos hquote, (literal_append hbody t).1]
    dsimp only
    rw [Bool.true_and, List.drop_left' (by simp)]
  | @line body hbody =>
    rw [List.cons_append, List.cons_append, List.append_assoc, List.singleton_append,
      endsInComment]
    dsimp only
    rw [if_neg (by decide), if_pos ⟨rfl, rfl⟩, takeWhile_line hbody, List.length_cons,
      List.drop_succ_cons, List.drop_left, endsInComment_plain
        (.of_ne_slash (by decide) (by decide) t), decide_eq_false (by simp), Bool.false_or]
  | @block body hbody =>
    have hstar : ch '*' ≠ slash := by decide
    rw [List.cons_append, List.cons_append, endsInComment]
    dsimp only
    rw [if_neg (by decide), if_neg (fun h => hstar (Option.some.inj h.2)), if_pos ⟨rfl, rfl⟩,
      List.drop_succ_cons, List.drop_zero, (indexOf?_append (by decide) hbody t).1]
    dsimp only
    rw [List.drop_succ_cons, List.drop_left' (by simp; decide)]

/-- A line comment without a line feed is open. -/
theorem endsInComment_line {body : Bytes} (h : newline ∉ body) :
    endsInComment (slash :: slash :: body) = true := by
  rw [endsInComment]
  dsimp only
  rw [if_neg (by decide), if_pos ⟨rfl, rfl⟩, takeWhile_line_of_notMem h, decide_eq_true rfl,
    Bool.true_or]

/-- Behind enclosed code no line comment is open: it would go on over the closing bracket. -/
theorem Enclosed.endsInComment_eq (h : Enclosed final closer outer code)
    (hclosers : ∀ c ∈ closer :: outer, isCloser c = true) : endsInComment code = false := by
  induction h with
  | nil => rw [endsInComment]
  | inert hp _ ih => rw [endsInComment_inert hp, ih hclosers]
  | opener hc _ ih =>
    rw [endsInComment_plain (plain_of_isOpener hc _)]
    exact ih (List.forall_mem_cons.2 ⟨isCloser_closerOf _, hclosers⟩)
  | closer _ ih =>
    obtain ⟨hcloser, hclosers'⟩ := List.forall_mem_cons.1 hclosers
    rw [endsInComment_plain (plain_of_isCloser hcloser _), ih hclosers']
  | byte hplain _ _ _ ih => rw [endsInComment_plain hplain, ih hclosers]

/-- A piece that is cut in its blanks is a line comment. -/
theorem Inert.endsInComment_of_append {p back : Bytes} (h : Inert (p ++ back)) (hne : back ≠ [])
    (hback : ∀ b ∈ back, BlankByte b) : endsInComment p = true := by
  have hlast : ∀ x q, p ++ back = q ++ [x] → BlankByte x := by
    intro x q heq
    have hx := congrArg List.getLast? heq
    rw [List.getLast?_append_of_ne_nil _ hne, List.getLast?_concat] at hx
    exact hback x (List.mem_of_getLast? hx)
  have hslash : ¬ BlankByte slash := by decide
  generalize hq : p ++ back = q at h
  cases h with
  | @literal q body hquote =>
    have hblank := hlast q (q :: body) hq
    rw [(of_blankByte hblank).1] at hquote
    cases hquote
  | @block body =>
    have hmark : ofString "*/" = [ch '*', slash] := by decide
    refine absurd (hlast slash (slash :: ch '*' :: (body ++ [ch '*'])) ?_) hslash
    rw [hq, hmark]
    simp
  | @line body hbody =>
    match p, hq with
    | [], hq => exact absurd (hback slash (by rw [List.nil_append] at hq; simp [hq])) hslash
    | [c], hq =>
      simp only [List.cons_append, List.nil_append, List.cons.injEq] at hq
      exact absurd (hback slash (by simp [hq.2])) hslash
    | c :: d :: p, hq =>
      simp only [List.cons_append, List.cons.injEq] at hq
      obtain ⟨rfl, rfl, hq⟩ := hq
      -- the line feed is cut off, for it is the last byte
      obtain ⟨back, x, rfl⟩ := back.eq_nil_or_concat'.resolve_left hne
      rw [← List.append_assoc] at hq
      obtain ⟨rfl, -⟩ := List.append_inj' hq rfl
      exact endsInComment_line fun hmem => hbody (List.mem_append_left _ hmem)

/-- **Blanks behind enclosed code matter only to a line comment.** -/
theorem Enclosed.of_append_blank {back : Bytes} (hback : ∀ b ∈ back, BlankByte b)
    (hclosers : ∀ c ∈ closer :: outer, isCloser c = true)
    (h : Enclosed final closer outer (code ++ back)) (hcomment : endsInComment code = false) :
    Enclosed final closer outer code := by
  generalize hs : code ++ back = s at h
  induction h generalizing code back with
  | nil =>
    obtain ⟨rfl, -⟩ := List.append_eq_nil_iff.1 hs
    exact .nil
  | @inert closer outer p s hp hs' ih =>
    have hwhole : ∀ a, code = p ++ a → s = a ++ back → Enclosed final closer outer code := by
      rintro a rfl rfl
      rw [endsInComment_inert hp] at hcomment
      exact .inert hp (ih hback hclosers hcomment rfl)
    rcases List.append_eq_append_iff.1 hs with ⟨c, hp', hback'⟩ | ⟨a, hcode, hs⟩
    · by_cases hc : c = []
      · subst hc
        exact hwhole [] (by simpa using hp'.symm) (by simpa using hback'.symm)
      · -- the piece reaches into the blanks, so it is a line comment, which is now open
        subst hp'
        rw [hp.endsInComment_of_append hc fun b hb => hback b (by simp [hback', hb])] at hcomment
        cases hcomment
    · exact hwhole a hcode hs
  | @opener closer c outer s hc hs' ih =>
    rcases List.append_eq_cons_iff.1 hs with ⟨-, rfl⟩ | ⟨code, rfl, rfl⟩
    · have hblank := of_blankByte (hback c (List.mem_cons_self ..))
      rw [hblank.2.2.1] at hc
      cases hc
    · rw [endsInComment_plain (plain_of_isOpener hc _)] at hcomment
      exact .opener hc (ih hback (List.forall_mem_cons.2 ⟨isCloser_closerOf _, hclosers⟩)
        hcomment rfl)
  | @closer closer next outer s hs' ih =>
    obtain ⟨hcloser, hclosers'⟩ := List.forall_mem_cons.1 hclosers
    rcases List.append_eq_cons_iff.1 hs with ⟨-, rfl⟩ | ⟨code, rfl, rfl⟩
    · have hblank := of_blankByte (hback closer (List.mem_cons_self ..))
      rw [hblank.2.2.2] at hcloser
      cases hcloser
    · rw [endsInComment_plain (plain_of_isCloser hcloser _)] at hcomment
      exact .closer (ih hback hclosers' hcomment rfl)
  | @byte closer c outer s hplain hopener hne hs' ih =>
    rcases List.append_eq_cons_iff.1 hs with ⟨rfl, rfl⟩ | ⟨code, rfl, rfl⟩
    · -- the byte is a blank, with nothing in front of it
      exact ih (List.forall_mem_cons.1 hback).2 hclosers hcomment rfl
    · rw [endsInComment_plain hplain.of_append] at hcomment
      exact .byte hplain.of_append hopener hne (ih hback hclosers hcomment rfl)

/-- Blanks in front of enclosed code do not matter. -/
theorem Enclosed.of_blank_append {front : Bytes} (hfront : ∀ b ∈ front, BlankByte b)
    (hclosers : ∀ c ∈ closer :: outer, isCloser c = true)
    (h : Enclosed final closer outer (front ++ code)) : Enclosed final closer outer code := by
  induction front with
  | nil => exact h
  | cons b front ih =>
    obtain ⟨hb, hfront⟩ := List.forall_mem_cons.1 hfront
    exact ih hfront (h.of_blank_cons hb hclosers)

/-- **Enclosed code that is trimmed** is still enclosed exactly if it does not end in a line
comment. -/
theorem Enclosed.trim_iff (h : Enclosed final closer outer code)
    (hclosers : ∀ c ∈ closer :: outer, isCloser c = true) :
    Enclosed final closer outer (trim code) ↔ endsInComment (trim code) = false := by
  obtain ⟨front, back, hsplit, hfront, hback⟩ := exists_trim code
  refine ⟨fun h => h.endsInComment_eq hclosers, fun hcomment => ?_⟩
  rw [hsplit, List.append_assoc] at h
  exact (h.of_blank_append hfront hclosers).of_append_blank hback hclosers hcomment

/-! ## Chains -/

/-- Bytes that a scan does not look at can be put in front of enclosed code. -/
theorem Enclosed.append_front {front : Bytes} (hfront : ∀ b ∈ front, b ∉ marks)
    (hcloser : isCloser closer = true) (h : Enclosed final closer outer code) :
    Enclosed final closer outer (front ++ code) := by
  induction front with
  | nil => exact h
  | cons b front ih =>
    obtain ⟨hb, hfront⟩ := List.forall_mem_cons.1 hfront
    obtain ⟨hquote, hslash, hopener, hnot⟩ := of_notMem_marks hb
    have hne : b ≠ closer := by
      rintro rfl
      rw [hcloser] at hnot
      cases hnot
    exact .byte (.of_ne_slash hquote hslash _) hopener hne (ih hfront)

/-- Enclosed code with the bracket behind it is part of what is enclosed. -/
theorem Enclosed.nest {final' next : UInt8} {stack : List UInt8} {t : Bytes}
    (h : Enclosed final closer outer code) (hfinal : isCloser final = true)
    (ht : Enclosed final' next stack t) :
    Enclosed final' closer (outer ++ next :: stack) (code ++ final :: t) := by
  induction h with
  | nil => exact .closer ht
  | inert hp _ ih =>
    rw [List.append_assoc]
    exact .inert hp ih
  | opener hc _ ih => exact .opener hc ih
  | closer _ ih => exact .closer ih
  | byte hplain hopener hne _ ih => exact .byte (hplain.append_closer hfinal _) hopener hne ih

/-- A bracketed fragment can be put in front of enclosed code. -/
theorem Enclosed.append_group {c : UInt8} {inner : Bytes} (hc : isOpener c = true)
    (hinner : Enclosed (closerOf c) (closerOf c) [] inner) (h : Enclosed final closer outer code) :
    Enclosed final closer outer (c :: (inner ++ closerOf c :: code)) :=
  .opener hc (hinner.nest (isCloser_closerOf c) h)

/-- A prefix that is longer than a run is the run and a prefix of the rest. -/
theorem take_takeWhile_add (p : UInt8 → Bool) (s : Bytes) (k : Nat) :
    s.take ((s.takeWhile p).length + k)
      = s.takeWhile p ++ (s.drop (s.takeWhile p).length).take k := by
  rw [List.take_add, ← List.prefix_iff_eq_take.1 (List.takeWhile_prefix p)]

theorem notMem_marks_of_mem_takeWhile {s : Bytes} :
    ∀ b ∈ s.takeWhile isIdentChar, b ∉ marks := fun b hb =>
  notMem_marks_of_isIdentChar (List.all_eq_true.1 List.all_takeWhile b hb)

/-- **The tail of a chain is enclosed code**: dots with names behind them and bracketed groups are
put in front of one another, by induction on the steps of the scan. -/
theorem enclosed_chainTail (hcloser : isCloser closer = true) (h : (chainTail s).fault = none) :
    Enclosed closer closer [] (s.take (chainTail s).taken) := by
  fun_induction chainTail s with
  | case1 | case5 => exact .nil
  | case2 c r hc n ih =>
    have hdot : c ∉ marks := by
      rw [hc.1]
      decide
    rw [Scan.after_taken, Nat.add_assoc, Nat.add_comm 1, List.take_succ_cons, take_takeWhile_add]
    exact ((ih (Option.map_eq_none_iff.1 h)).append_front notMem_marks_of_mem_takeWhile hcloser)
      |>.append_front (List.forall_mem_singleton.2 hdot) hcloser
  | case3 c r hc hopen inner hinner ih =>
    obtain ⟨code, rest, hsplit, htaken, hcode⟩ := exists_of_groupTail hinner
    have hopener : isOpener c = true := by
      rcases hopen with rfl | rfl <;> decide
    have hdrop : r.drop inner.taken = rest := by
      rw [show inner.taken = _ from htaken, hsplit]
      simp
    rw [hdrop] at h ih ⊢
    have htake : (c :: r).take (1 + inner.taken + (chainTail rest).taken)
        = c :: (code ++ closerOf c :: rest.take (chainTail rest).taken) := by
      have hfront := @List.take_length_add_append _ (c :: (code ++ [closerOf c])) rest
        (chainTail rest).taken
      have hlength : 1 + inner.taken = (c :: (code ++ [closerOf c])).length := by
        rw [show inner.taken = _ from htaken]
        simp
        omega
      rw [← hlength] at hfront
      simpa [hsplit] using hfront
    rw [Scan.after_taken, htake]
    exact .append_group hopener hcode (ih (Option.map_eq_none_iff.1 h))
  | case4 c r hc hopen inner place hinner =>
    have hnone : (groupTail .expression (closerOf c) [] r).fault = none :=
      Option.map_eq_none_iff.1 h
    rw [show inner.fault = none from hnone] at hinner
    cases hinner

/-- **A chain is enclosed**, in brackets of any kind. -/
theorem enclosed_chain (hcloser : isCloser closer = true) (h : (chain s).fault = none) :
    Enclosed closer closer [] (s.take (chain s).taken) := by
  rw [chain, Scan.after_taken, take_takeWhile_add]
  exact (enclosed_chainTail hcloser (Option.map_eq_none_iff.1 h)).append_front
    notMem_marks_of_mem_takeWhile hcloser

end Stencil.Fragment
