import Mathlib.Data.Bool.AllAny
import Stencil.Proofs.Template.PrintedStep

/-!
# Markup read back

Reading undoes printing: the source that `Node.printAll` writes for a canonical tree is read
as that tree, and nothing is wrong with it (`Document.read_print`). Only the lines differ,
since a tree may say any lines and a source has those it has; and an element that the
markup language does not know is warned of.

The walk over a printed node starts in an arbitrary state, in front of that node and
whatever follows, and ends behind it, in a state that differs only in what was read at the
innermost level, in the position, and in warnings. `Reader.Reads` says which nodes joined.
A construct with a body is entered, its body is walked over by the same statement, one level
further in, and its end is found where the body's walk stopped. So the induction is on the
tree, with the state and the rest of the source left open.

Where the walk stops depends on what comes next, and a conditional even looks ahead. So the
statement about a list of nodes asks that it be followed by a mark (`AtMark`): a closing
tag, a closing brace, or nothing.
-/

namespace Stencil

open Bytes

/-! ## What a source goes on with -/

/-- **The source goes on with a mark**, or not at all: with nothing that could be taken for
more of a text or of a conditional. -/
def AtMark (s : Bytes) : Prop := ∀ b ∈ s.head?, b = ch '<' ∨ b = ch '@' ∨ b = rbrace

theorem atMark_cons {b : UInt8} (hb : b = ch '<' ∨ b = ch '@' ∨ b = rbrace) (s : Bytes) :
    AtMark (b :: s) := by
  intro b' hb'
  cases hb'
  exact hb

theorem printText_cons (b : UInt8) (v : Bytes) :
    printText (b :: v) = (if b = ch '@' then [ch '@', ch '@'] else [b]) ++ printText v := by
  unfold printText replaceByte
  rw [List.flatMap_cons]

/-- A byte that is no mark in front of a mark comes from the text before. -/
theorem AtMark.eq_cons {s : Bytes} (hs : AtMark s) {v t : Bytes} {b : UInt8}
    (hb : b ≠ ch '<' ∧ b ≠ ch '@' ∧ b ≠ rbrace) (h : printText v ++ s = b :: t) :
    ∃ v', v = b :: v' ∧ printText v' ++ s = t := by
  cases v with
  | nil =>
    obtain rfl | rfl | rfl := hs b (by rw [show s = b :: t from h]; rfl)
    · exact absurd rfl hb.1
    · exact absurd rfl hb.2.1
    · exact absurd rfl hb.2.2
  | cons b' v =>
    rw [printText_cons] at h
    split at h
    · cases h
      exact absurd rfl hb.2.1
    · cases h
      exact ⟨v, rfl, rfl⟩

/-- White space in front does not decide whether a conditional goes on. -/
theorem opensElse_cons {b : UInt8} (hb : isSpace b = true) (s : Bytes) :
    opensElse (b :: s) = opensElse s := by
  unfold opensElse
  rw [List.dropWhile_cons_of_pos hb]

/-- **What continues a conditional**: the word behind white space, whole. -/
theorem opensElse_iff {s : Bytes} : opensElse s = true
    ↔ ∃ w, s.dropWhile isSpace = ofString "else" ++ w ∧ isIdentChar (w.headD 0) = false := by
  unfold opensElse
  rw [Bool.and_eq_true, startsWith_iff, Bool.not_eq_true']
  constructor
  · rintro ⟨⟨w, hw⟩, hb⟩
    rw [← hw] at hb
    exact ⟨w, hw.symm, hb⟩
  · rintro ⟨w, hw, hb⟩
    rw [hw]
    exact ⟨⟨w, rfl⟩, hb⟩

/-- A conditional does not go on with a mark. -/
theorem AtMark.opensElse {s : Bytes} (hs : AtMark s) : opensElse s = false := by
  cases s with
  | nil => rfl
  | cons b s =>
    have hb : isSpace b = false ∧ b ≠ ch 'e' := by
      obtain rfl | rfl | rfl := hs b rfl <;> decide
    rw [Bool.eq_false_iff]
    intro h
    obtain ⟨w, hw, -⟩ := opensElse_iff.1 h
    rw [List.dropWhile_cons_of_neg (by simp [hb.1])] at hw
    cases hw
    exact hb.2 rfl

/-- **Printed text continues a conditional only if the text does.** -/
theorem opensElse_printText {v s : Bytes} (hv : opensElse v = false) (hs : AtMark s) :
    opensElse (printText v ++ s) = false := by
  induction v with
  | nil => exact hs.opensElse
  | cons b v ih =>
    by_cases hb : isSpace b = true
    · have hat : b ≠ ch '@' := by
        rintro rfl
        cases hb
      rw [opensElse_cons hb] at hv
      rw [printText_cons, if_neg hat]
      exact (opensElse_cons hb _).trans (ih hv)
    · rw [Bool.eq_false_iff]
      intro h
      have hspace : ∀ u, (b :: u).dropWhile isSpace = b :: u := fun u =>
        List.dropWhile_cons_of_neg (by simpa using hb)
      have hhead : (printText (b :: v) ++ s).dropWhile isSpace = printText (b :: v) ++ s := by
        rw [printText_cons]
        split
        · next hat => subst hat; rfl
        · exact hspace _
      obtain ⟨w, hw, hident⟩ := opensElse_iff.1 h
      rw [hhead] at hw
      have hw : printText (b :: v) ++ s = ch 'e' :: ch 'l' :: ch 's' :: ch 'e' :: w := hw
      -- the four bytes of the word come from the text, one after the other
      obtain ⟨v₁, h₁, hw₁⟩ := hs.eq_cons (by decide) hw
      obtain ⟨v₂, h₂, hw₂⟩ := hs.eq_cons (by decide) hw₁
      obtain ⟨v₃, h₃, hw₃⟩ := hs.eq_cons (by decide) hw₂
      obtain ⟨v₄, h₄, hw₄⟩ := hs.eq_cons (by decide) hw₃
      refine absurd (opensElse_iff.2 ⟨v₄, ?_, ?_⟩) (by rw [hv]; exact Bool.false_ne_true)
      · rw [hspace, h₁, h₂, h₃, h₄]
        rfl
      · cases v₄ with
        | nil => rfl
        | cons b' v₄ =>
          rw [← hw₄, printText_cons] at hident
          split at hident
          · next hat => rw [hat]; rfl
          · exact hident

namespace Reader

/-! ## Walking over a node -/

/-- **The nodes `ns` were read** between the states: they joined what was read at the
innermost level, and nothing else happened but warnings. -/
def Reads (r q : Reader) (ns : List Node) : Prop :=
  ∃ k fs c, q = r.resume k fs c ∧ Node.eraseAll k.body = Node.eraseAll (r.content.body ++ ns)
    ∧ ∀ f ∈ fs, f.fault.severity = .warning

variable {r : Reader}

theorem Reads.trans {q p : Reader} {ms ns : List Node} (h : r.Reads q ms) (h' : q.Reads p ns) :
    r.Reads p (ms ++ ns) := by
  obtain ⟨k, fs, c, rfl, hk, hfs⟩ := h
  obtain ⟨k', fs', c', rfl, hk', hfs'⟩ := h'
  refine ⟨k', fs' ++ fs, c', resume_resume .., ?_, ?_⟩
  · rw [hk', resume_content, Node.eraseAll_append, hk, ← Node.eraseAll_append, List.append_assoc]
  · intro f hf
    obtain hf | hf := List.mem_append.1 hf
    · exact hfs' f hf
    · exact hfs f hf

/-- A single node that joins. -/
theorem Reads.addNode {fs : List Finding} (hfs : ∀ f ∈ fs, f.fault.severity = .warning)
    {c : Cursor} {m n : Node} (h : m.erase = n.erase) :
    r.Reads (r.resume (r.content.addNode m) fs c) [n] := by
  refine ⟨_, fs, c, rfl, ?_, hfs⟩
  rw [Content.addNode_body, Node.eraseAll_append, Node.eraseAll_append]
  simp only [Node.eraseAll, h]

/-- **The node can be read here**: text does not join text before it, and an at sign is not
taken for text. -/
structure Admits (r : Reader) (n : Node) : Prop where
  /-- No text waits to become a node. -/
  text : n.isText = true → r.content.text = []
  /-- No identifier character is in front. -/
  ident : n.startsAt = true → isIdentChar r.cursor.before = false

theorem admits_of_text_nil (htext : r.content.text = [])
    (hbefore : isIdentChar r.cursor.before = false) (n : Node) : r.Admits n :=
  ⟨fun _ => htext, fun _ => hbefore⟩

end Reader

/-- **The walk passes over the printed node**, wherever it stands, and the node is read. -/
def Node.Walks (inBlock : Bool) (n : Node) : Prop :=
  ∀ (r : Reader) (rest : Bytes), r.inBlock = inBlock → r.Admits n →
    r.cursor.rest = n.print ++ rest → (n.lacksElse = true → opensElse rest = false) →
    ∃ q, r.run = q.run ∧ r.Reads q [n] ∧ q.cursor.rest = rest ∧ ∀ m, n.Before m → q.Admits m

/-- **The walk passes over the printed nodes**, up to a mark, and they are read. -/
def Node.WalksAll (inBlock : Bool) (ns : List Node) : Prop :=
  ∀ (r : Reader) (rest : Bytes), r.inBlock = inBlock → (∀ n ∈ ns.head?, r.Admits n) →
    r.cursor.rest = Node.printAll ns ++ rest → AtMark rest →
    ∃ q, r.run = q.run ∧ r.Reads q ns ∧ q.cursor.rest = rest

/-- Text is walked over. -/
theorem Node.walks_text {b : Bool} {v : Bytes} (h : CanonicalText b v) (line : Nat) :
    (Node.text v line).Walks b := by
  rintro r rest rfl hadmits hrest -
  obtain ⟨k, c, hrun, hc, hbefore, hnodes, htext⟩ :=
    Reader.walk_text v h.ascii h.noTag h.noBrace hrest
  rw [hadmits.text rfl, List.append_nil] at htext
  have hbody : k.body = r.content.body ++ [.text v k.textLine] := by
    have hold : r.content.body = r.content.nodes.reverse := by
      rw [Content.body, Content.flush, if_pos (by rw [hadmits.text rfl]; rfl)]
    rw [Content.body, Content.flush, if_neg (by simpa [htext] using h.nonempty), htext, hold,
      hnodes, List.reverse_reverse]
    simp
  refine ⟨r.resume k [] c, hrun, ⟨k, [], c, rfl, ?_, List.forall_mem_nil _⟩, hc, ?_⟩
  · rw [hbody, Node.eraseAll_append, Node.eraseAll_append]
    rfl
  · intro m hm
    refine ⟨fun htext => ?_, fun hat => ?_⟩
    · rw [hm.text rfl] at htext
      cases htext
    · rw [Reader.resume_cursor, hbefore, Bool.eq_false_iff]
      intro hident
      have hlast : (Node.text v line).endsIdent = true := by
        obtain ⟨x, v, rfl⟩ := List.exists_cons_of_ne_nil h.nonempty
        rw [List.getLastD_cons] at hident
        rw [Node.endsIdent, List.getLastD_cons]
        exact hident
      rw [hm.ident hlast] at hat
      cases hat

/-- A walk that ends with a node at the innermost level, behind a byte that belongs to no
identifier, has read that node, and anything may follow. -/
theorem Reader.walked_of_addNode {r : Reader} {m n : Node} {fs : List Finding} {d : Cursor}
    {rest : Bytes} (hrun : r.run = (r.resume (r.content.addNode m) fs d).run)
    (herase : m.erase = n.erase) (hfs : ∀ f ∈ fs, f.fault.severity = .warning)
    (hd : d.rest = rest) (hbefore : isIdentChar d.before = false) :
    ∃ q, r.run = q.run ∧ r.Reads q [n] ∧ q.cursor.rest = rest ∧ ∀ m, n.Before m → q.Admits m :=
  ⟨_, hrun, .addNode hfs herase, hd, fun m _ =>
    Reader.admits_of_text_nil (by simp) (by rw [Reader.resume_cursor, hbefore]) m⟩

/-- An expression is walked over. -/
theorem Node.walks_expr {b : Bool} {code : Bytes} (h : CanonicalCode code) (line : Nat) :
    (Node.expr code line).Walks b := by
  rintro r rest rfl hadmits hrest -
  have hrest : r.cursor.rest = ch '@' :: ch '(' :: (code ++ ch ')' :: rest) := by
    rw [hrest, Node.print]
    simp
  obtain ⟨d, hd, hbefore, hstep⟩ := Reader.step_expr h (hadmits.ident rfl) hrest
  refine Reader.walked_of_addNode (m := .expr code r.cursor.line) ?_ rfl (List.forall_mem_nil _) hd
    (by rw [hbefore]; rfl)
  rw [Reader.run_of_rest_ne_nil (by rw [hrest]; exact List.cons_ne_nil _ _), hstep]

namespace Reader

variable {r : Reader}

/-- **The body of a construct that was entered** is walked over, up to the mark that ends
it. -/
theorem walk_entered {b : Bool} {body : List Node} (h : Node.WalksAll b body) (opener : Opener)
    (f : Bool) (hbefore : isIdentChar r.cursor.before = false) {rest : Bytes}
    (hrest : r.cursor.rest = Node.printAll body ++ rest) (hmark : AtMark rest) :
    ∃ k fs c, (r.enter opener b f).run = ((r.enter opener b f).resume k fs c).run
      ∧ Node.eraseAll k.body = Node.eraseAll body ∧ c.rest = rest
      ∧ ∀ f ∈ fs, f.fault.severity = .warning := by
  obtain ⟨q, hrun, ⟨k, fs, c, rfl, hbody, hfs⟩, hc⟩ :=
    h (r.enter opener b f) rest rfl
      (fun n _ => admits_of_text_nil rfl (by rw [enter_cursor]; exact hbefore) n)
      (by rw [enter_cursor]; exact hrest) hmark
  exact ⟨k, fs, c, hrun, hbody, hc, hfs⟩

/-- **A block that was entered** is walked over up to its closing brace. -/
theorem walk_block {body : List Node} (h : Node.WalksAll true body) (opener : Opener)
    (f : Bool) (hbefore : r.cursor.before = lbrace) {rest : Bytes}
    (hrest : r.cursor.rest = Node.printAll body ++ rbrace :: rest) :
    ∃ k fs c, (r.enter opener true f).run = ((r.enter opener true f).resume k fs c).closeBrace.run
      ∧ Node.eraseAll k.body = Node.eraseAll body ∧ (c.advance 1).rest = rest
      ∧ isIdentChar (c.advance 1).before = false ∧ ∀ f ∈ fs, f.fault.severity = .warning := by
  obtain ⟨k, fs, c, hrun, hbody, hc, hfs⟩ :=
    walk_entered h opener f (by rw [hbefore]; rfl) hrest (atMark_cons (.inr (.inr rfl)) _)
  obtain ⟨hend, hlast⟩ := Cursor.advance_append (s := [rbrace]) hc
  refine ⟨k, fs, c, ?_, hbody, hend, congrArg isIdentChar hlast, hfs⟩
  rw [hrun, run_of_rest_ne_nil (by rw [resume_cursor, hc]; exact List.cons_ne_nil _ _),
    step_closeBrace hc rfl]

end Reader

/-- **An element is walked over** when what is in it is. -/
theorem Node.walks_element {b : Bool} {tag : Bytes} {attrs : List Attr} {children : List Node}
    (htag : CanonicalTag tag) (hattrs : ∀ a ∈ attrs, a.Canonical)
    (hvoid : ElementName.isVoid tag = true → children = []) (h : Node.WalksAll b children)
    (line endLine : Nat) : (Node.element tag attrs children false line endLine).Walks b := by
  rintro r rest rfl hadmits hrest -
  rw [Node.print, List.append_assoc] at hrest
  obtain ⟨as, fs, d, has, hd, hbefore, hfs, -, hopen⟩ := Reader.openTag_print htag hattrs hrest
  have hident : isIdentChar d.before = false := by rw [hbefore]; rfl
  have hrun := Reader.run_openTag htag hrest
  by_cases hv : ElementName.isVoid tag = true
  · rw [if_pos hv] at hd hopen
    refine Reader.walked_of_addNode (by rw [hrun, hopen]) ?_ hfs hd hident
    rw [hvoid hv]
    simp only [Node.erase, has]
  · rw [if_neg hv] at hd hopen
    rw [List.append_assoc] at hd
    obtain ⟨k, fs', c, hbody, hk, hc, hfs'⟩ :=
      Reader.walk_entered (r := r.resume r.content fs d) h (.element tag as r.cursor.line)
        (r.foreign || ElementName.isForeign tag) hident hd (atMark_cons (.inl rfl) _)
    obtain ⟨e, he, hclosed, hclose⟩ := Reader.closingTag_print (r := r.resume r.content fs d)
      (k := k) htag.bytes as r.cursor.line r.inBlock (r.foreign || ElementName.isForeign tag)
      fs' hc
    rw [Reader.resume_content, Reader.resume_resume] at hclose
    have hboth : ∀ f ∈ fs' ++ fs, f.fault.severity = .warning := fun f hf =>
      (List.mem_append.1 hf).elim (hfs' f) (hfs f)
    refine Reader.walked_of_addNode (m := .element tag as k.body false r.cursor.line c.line) ?_ ?_
      hboth he (by rw [hclosed]; rfl)
    · rw [hrun, hopen, hbody, Reader.run_of_rest_ne_nil (by
        rw [Reader.resume_cursor, hc]; exact List.cons_ne_nil _ _), Reader.step_closingTag hc,
        hclose]
    · simp only [Node.erase, has, hk]

/-- **A loop is walked over** when its body is. -/
theorem Node.walks_loop {b : Bool} {clause : Bytes} {body : List Node}
    (hclause : CanonicalHeader clause) (h : Node.WalksAll true body) (line endLine : Nat) :
    (Node.loop clause body line endLine).Walks b := by
  rintro r rest rfl hadmits hrest -
  have hrest : r.cursor.rest = ch '@' :: (ofString "for" ++ ch ' ' ::
      (clause ++ ch ' ' :: lbrace :: (Node.printAll body ++ rbrace :: rest))) := by
    rw [hrest, Node.print, printBlock]
    simp only [List.append_assoc, List.cons_append, List.nil_append]
    rfl
  obtain ⟨d, hd, hstep⟩ := Reader.step_for (hadmits.ident rfl) hrest
  obtain ⟨e, he, hbefore, hopen⟩ :=
    Reader.openLoop_print (r := r.moveTo d) hclause r.cursor.line hd
  obtain ⟨k, fs, c, hbody, hk, hc, hlast, hfs⟩ :=
    Reader.walk_block (r := r.moveTo e) h (.loop clause r.cursor.line) r.foreign hbefore he
  refine Reader.walked_of_addNode (m := .loop clause k.body r.cursor.line c.line) ?_ ?_ hfs hc
    hlast
  · rw [Reader.run_of_rest_ne_nil (by rw [hrest]; exact List.cons_ne_nil _ _), hstep, hopen]
    refine hbody.trans ?_
    rw [Reader.closeBrace_loop, Reader.moveTo_resume]
    rfl
  · simp only [Node.erase, hk]

/-! ## Walking over a conditional -/

/-- **A branch is walked over** when its body is: the conditional goes on behind it. -/
theorem Reader.walk_branch {r : Reader} {cond : Bytes} {body : List Node}
    (hcond : CanonicalHeader cond) (h : Node.WalksAll true body) (done : List Branch)
    (what : Construct) (line : Nat) (failed : Reader → Reader) {rest : Bytes}
    (hrest : r.cursor.rest
      = ch ' ' :: (cond ++ ch ' ' :: lbrace :: (Node.printAll body ++ rbrace :: rest))) :
    ∃ body' fs c endLine, (r.enterBranch done what line failed).run
        = ((r.resume r.content.flush fs c).afterBranch (done ++ [.mk cond body' line]) endLine).run
      ∧ Node.eraseAll body' = Node.eraseAll body ∧ c.rest = rest
      ∧ isIdentChar c.before = false ∧ ∀ f ∈ fs, f.fault.severity = .warning := by
  obtain ⟨e, he, hbefore, hopen⟩ := Reader.enterBranch_print hcond done what line failed hrest
  obtain ⟨k, fs, c, hbody, hk, hc, hlast, hfs⟩ :=
    Reader.walk_block (r := r.moveTo e) h (.branch done what cond line) r.foreign hbefore he
  refine ⟨k.body, fs, c.advance 1, c.line, ?_, hk, hc, hlast, hfs⟩
  rw [hopen, hbody, Reader.closeBrace_branch, Reader.moveTo_resume]
  rfl

/-- **The walk passes over the branches printed behind a branch**: the conditional goes on
behind them. -/
def Branch.WalksAll (bs : List Branch) : Prop :=
  ∀ (r : Reader) (rest : Bytes) (done : List Branch) (endLine : Nat), r.content.text = [] →
    isIdentChar r.cursor.before = false →
    r.cursor.rest = Branch.printAll (ofString " else ") bs ++ rest →
    ∃ bs' fs c endLine', (r.afterBranch done endLine).run
        = ((r.resume r.content fs c).afterBranch (done ++ bs') endLine').run
      ∧ Branch.eraseAll bs' = Branch.eraseAll bs ∧ c.rest = rest
      ∧ isIdentChar c.before = false ∧ ∀ f ∈ fs, f.fault.severity = .warning

theorem Branch.walksAll_nil : Branch.WalksAll [] := by
  intro r rest done endLine htext hbefore hrest
  refine ⟨[], [], r.cursor, endLine, ?_, rfl, hrest, hbefore, List.forall_mem_nil _⟩
  rw [List.append_nil, Reader.resume_self]

/-- A printed branch, and what follows it. -/
theorem Branch.printAll_cons (opening cond : Bytes) (body : List Node) (line : Nat)
    (bs : List Branch) (rest : Bytes) :
    Branch.printAll opening (.mk cond body line :: bs) ++ rest
      = opening ++ (ofString "if" ++ ch ' ' :: (cond ++ ch ' ' :: lbrace ::
          (Node.printAll body ++ rbrace :: (Branch.printAll (ofString " else ") bs ++ rest)))) := by
  rw [Branch.printAll, printBlock, show ofString "if " = ofString "if" ++ [ch ' '] from rfl]
  simp only [List.append_assoc, List.cons_append, List.nil_append]

/-- One branch, then the others. -/
theorem Branch.walksAll_cons {cond : Bytes} {body : List Node} {bs : List Branch}
    (hcond : CanonicalHeader cond) (hbody : Node.WalksAll true body) (hbs : Branch.WalksAll bs)
    (line : Nat) : Branch.WalksAll (.mk cond body line :: bs) := by
  intro r rest done endLine htext hbefore hrest
  rw [Branch.printAll_cons] at hrest
  obtain ⟨d, line', failed, hd, hafter⟩ := Reader.afterBranch_elseIf hrest done endLine
  obtain ⟨body', fs, c, e, hrun, herase, hc, hlast, hfs⟩ :=
    Reader.walk_branch (r := r.moveTo d) hcond hbody done .elseIfBranch line' failed hd
  rw [Reader.moveTo_resume, Reader.moveTo_content, Content.flush_of_text_nil htext] at hrun
  obtain ⟨bs', fs', c', e', hrun', herase', hc', hlast', hfs'⟩ :=
    hbs (r.resume r.content fs c) rest _ e (by simpa using htext) hlast hc
  refine ⟨.mk cond body' line' :: bs', fs' ++ fs, c', e', ?_, ?_, hc', hlast', fun f hf =>
    (List.mem_append.1 hf).elim (hfs' f) (hfs f)⟩
  · rw [hafter, hrun, hrun', Reader.resume_content, Reader.resume_resume, List.append_assoc]
    rfl
  · rw [Branch.eraseAll, herase, herase', Branch.eraseAll]

/-- **A conditional is walked over** when its branches are. -/
theorem Node.walks_choice {b : Bool} {cond : Bytes} {body otherwise : List Node}
    {bs : List Branch} (hcond : CanonicalHeader cond) (hbody : Node.WalksAll true body)
    (hbs : Branch.WalksAll bs) (hotherwise : Node.WalksAll true otherwise)
    (line elseLine endLine : Nat) :
    (Node.choice (.mk cond body line :: bs) otherwise elseLine endLine).Walks b := by
  rintro r rest rfl hadmits hrest helse
  rw [Node.print, List.append_assoc, Branch.printAll_cons] at hrest
  obtain ⟨d, failed, hd, hstep⟩ := Reader.step_if (hadmits.ident rfl) hrest
  obtain ⟨body', fs, c, e, hrun, herase, hc, hlast, hfs⟩ :=
    Reader.walk_branch (r := r.moveTo d) hcond hbody [] .ifBranch r.cursor.line failed hd
  rw [Reader.moveTo_resume, Reader.moveTo_content] at hrun
  obtain ⟨bs', fs', c', e', hrun', herase', hc', hlast', hfs'⟩ :=
    hbs (r.resume r.content.flush fs c) _ _ e (by simp [Content.flush_text]) hlast hc
  rw [Reader.resume_content, Reader.resume_resume] at hrun'
  have hbranches : r.run = ((r.resume r.content.flush (fs' ++ fs) c').afterBranch
      (.mk cond body' r.cursor.line :: bs') e').run := by
    rw [Reader.run_of_rest_ne_nil (by rw [hrest]; exact List.cons_ne_nil _ _), hstep, hrun, hrun']
    rfl
  have hboth : ∀ f ∈ fs' ++ fs, f.fault.severity = .warning := fun f hf =>
    (List.mem_append.1 hf).elim (hfs' f) (hfs f)
  cases otherwise with
  | nil =>
    refine Reader.walked_of_addNode (m := .choice (.mk cond body' r.cursor.line :: bs') [] 0 e')
      ?_ ?_ hboth hc' hlast'
    · rw [hbranches, Reader.afterBranch_complete hc' (helse rfl), Reader.addNode_eq]
      simp
    · simp only [Node.erase, Branch.eraseAll, herase, herase']
  | cons n ns =>
    have hc' : c'.rest
        = ofString " else " ++ lbrace :: (Node.printAll (n :: ns) ++ rbrace :: rest) := by
      rw [hc', if_neg (by simp), printBlock,
        show ofString " else " = ofString " else" ++ [ch ' '] from rfl]
      simp only [List.append_assoc, List.cons_append, List.nil_append]
    obtain ⟨d', line', hd', hbefore', hopen⟩ := Reader.afterBranch_otherwise
      (r := r.resume r.content.flush (fs' ++ fs) c') hc' (.mk cond body' r.cursor.line :: bs') e'
    obtain ⟨k, fs'', c'', hblock, hk, hc'', hlast'', hfs''⟩ :=
      Reader.walk_block (r := (r.resume r.content.flush (fs' ++ fs) c').moveTo d') hotherwise
        (.otherwise (.mk cond body' r.cursor.line :: bs') line') r.foreign hbefore' hd'
    have hall : ∀ f ∈ fs'' ++ (fs' ++ fs), f.fault.severity = .warning := fun f hf =>
      (List.mem_append.1 hf).elim (hfs'' f) (hboth f)
    refine Reader.walked_of_addNode
      (m := .choice (.mk cond body' r.cursor.line :: bs') k.body line' c''.line) ?_ ?_ hall hc''
      hlast''
    · rw [hbranches, hopen, Reader.resume_foreign, hblock, Reader.closeBrace_otherwise]
      simp
    · simp only [Node.erase, Branch.eraseAll, herase, herase', hk]

/-! ## Walking over a tree -/

/-- A node that is no text starts with a mark. -/
theorem Node.Canonical.atMark {b : Bool} {n : Node} (h : n.Canonical b) (hn : n.isText = false)
    (s : Bytes) : AtMark (n.print ++ s) := by
  cases n with
  | text => cases hn
  | splice => exact h.elim
  | expr | loop => exact atMark_cons (.inr (.inl rfl)) _
  | element => exact atMark_cons (.inl rfl) _
  | choice branches otherwise elseLine endLine =>
    obtain ⟨hne, -⟩ := h
    cases branches with
    | nil => exact absurd rfl hne
    | cons b bs => cases b; exact atMark_cons (.inr (.inl rfl)) _

/-- **Behind a conditional** nothing is printed that would continue it. -/
theorem Node.CanonicalAll.opensElse {b : Bool} {n : Node} (hn : n.lacksElse = true)
    {ns : List Node} (h : Node.CanonicalAll b ns) (hbefore : ∀ m ∈ ns.head?, n.Before m)
    {s : Bytes} (hs : AtMark s) : opensElse (Node.printAll ns ++ s) = false := by
  cases ns with
  | nil => exact hs.opensElse
  | cons m ns =>
    obtain ⟨hm, hnext, hns⟩ := h
    rw [Node.printAll, List.append_assoc]
    by_cases htext : m.isText = true
    · obtain ⟨v, line, rfl⟩ : ∃ v line, m = .text v line := by
        cases m with
        | text v line => exact ⟨v, line, rfl⟩
        | _ => cases htext
      refine opensElse_printText ((hbefore _ rfl).noElse hn v line rfl) ?_
      cases ns with
      | nil => exact hs
      | cons m' ns =>
        rw [Node.printAll, List.append_assoc]
        exact hns.1.atMark ((hnext m' rfl).text htext) _
    · exact (hm.atMark (by simpa using htext) _).opensElse

/-- One node, then the others. -/
theorem Node.walksAll_cons {b : Bool} {n : Node} {ns : List Node} (hn : n.Walks b)
    (hbefore : ∀ m ∈ ns.head?, n.Before m) (hcanonical : Node.CanonicalAll b ns)
    (hns : Node.WalksAll b ns) : Node.WalksAll b (n :: ns) := by
  rintro r rest rfl hadmits hrest hmark
  rw [Node.printAll, List.append_assoc] at hrest
  obtain ⟨q, hrun, hreads, hq, hnext⟩ := hn r _ rfl (hadmits n rfl) hrest
    (fun helse => hcanonical.opensElse helse hbefore hmark)
  have hblock : q.inBlock = r.inBlock := by
    obtain ⟨k, fs, c, rfl, -⟩ := hreads
    exact Reader.resume_inBlock ..
  obtain ⟨p, hrun', hreads', hp⟩ :=
    hns q rest hblock (fun m hm => hnext m (hbefore m hm)) hq hmark
  exact ⟨p, hrun.trans hrun', hreads.trans hreads', hp⟩

theorem Node.walksAll_nil (b : Bool) : Node.WalksAll b [] := by
  intro r rest _ _ hrest _
  refine ⟨r, rfl, ⟨r.content, [], r.cursor, by simp, by simp, List.forall_mem_nil _⟩, hrest⟩

mutual

/-- **Every canonical node is walked over.** -/
theorem Node.Canonical.walks : ∀ {n : Node} {b : Bool}, n.Canonical b → n.Walks b
  | .text _ line, _, h => Node.walks_text h line
  | .expr _ line, _, h => Node.walks_expr h line
  | .splice .., _, h => h.elim
  | .loop _ _ line endLine, _, ⟨hclause, hbody⟩ =>
    Node.walks_loop hclause hbody.walksAll line endLine
  | .choice [] .., _, ⟨hne, _⟩ => absurd rfl hne
  | .choice (.mk _ _ line :: _) _ elseLine endLine, _, ⟨_, ⟨hcond, hbody, hbs⟩, hotherwise⟩ =>
    Node.walks_choice hcond hbody.walksAll hbs.walksAll hotherwise.walksAll line elseLine endLine
  | .element _ _ _ false line endLine, _, ⟨htag, hattrs, _, hvoid, hchildren⟩ =>
    Node.walks_element htag hattrs hvoid hchildren.walksAll line endLine

/-- Every list of canonical branches is walked over. -/
theorem Branch.CanonicalAll.walksAll : ∀ {bs : List Branch}, Branch.CanonicalAll bs →
    Branch.WalksAll bs
  | [], _ => Branch.walksAll_nil
  | .mk _ _ line :: _, ⟨hcond, hbody, hbs⟩ =>
    Branch.walksAll_cons hcond hbody.walksAll hbs.walksAll line

/-- **Every list of canonical nodes is walked over.** -/
theorem Node.CanonicalAll.walksAll : ∀ {ns : List Node} {b : Bool}, Node.CanonicalAll b ns →
    Node.WalksAll b ns
  | [], b, _ => Node.walksAll_nil b
  | _ :: _, _, ⟨hn, hbefore, hns⟩ => Node.walksAll_cons hn.walks hbefore hns hns.walksAll

end

/-- The source of a canonical tree is walked over to its end. -/
theorem Node.CanonicalAll.read {ns : List Node} (h : Node.CanonicalAll false ns) :
    ∃ body findings, Document.read (Node.printAll ns) = ({ body := body }, findings)
      ∧ Node.eraseAll body = Node.eraseAll ns ∧ ∀ f ∈ findings, f.fault.severity = .warning := by
  obtain ⟨q, hrun, ⟨k, fs, c, rfl, hbody, hfs⟩, hend⟩ :=
    h.walksAll (Reader.start (Node.printAll ns)) [] rfl
      (fun n _ => Reader.admits_of_text_nil rfl rfl n) (List.append_nil _).symm (by simp [AtMark])
  have hleave : (Reader.start (Node.printAll ns)).run.leaveAll
      = (Reader.start (Node.printAll ns)).resume k fs c := by
    rw [hrun, Reader.run_of_rest_eq_nil hend]
    exact Reader.leaveAll_nil rfl
  refine ⟨k.body, (fs ++ []).reverse, ?_, hbody, by simpa using hfs⟩
  unfold Document.read
  rw [hleave]
  rfl

/-- **Reading undoes printing**: the source of a canonical tree is read as that tree, lines
apart, without any directive, and nothing is worse than a warning. -/
theorem Document.read_print {ns : List Node} (h : Node.CanonicalAll false ns) :
    ∃ body, (Document.read (Node.printAll ns)).1 = { body := body }
      ∧ Node.eraseAll body = Node.eraseAll ns
      ∧ ∀ f ∈ (Document.read (Node.printAll ns)).2, f.fault.severity = .warning := by
  obtain ⟨body, findings, hread, hbody, hfindings⟩ := h.read
  rw [hread]
  exact ⟨body, rfl, hbody, hfindings⟩

/-- An attribute of each kind. -/
def sampleAttrs : List Attr :=
  [⟨"id", .literal "a b", 1⟩, ⟨"hidden", .bare, 1⟩, ⟨"href", .expr "url", 1⟩]

theorem sampleAttrs_canonical : ∀ a ∈ sampleAttrs, a.Canonical := by
  unfold sampleAttrs
  simp only [List.forall_mem_cons]
  exact ⟨⟨by decide, List.all_eq_true.1 rfl, by show dquote ∉ _; decide⟩,
    ⟨by decide, List.all_eq_true.1 rfl, trivial⟩,
    ⟨by decide, List.all_eq_true.1 rfl, .of_name (List.all_eq_true.1 rfl)⟩, List.forall_mem_nil _⟩

/-- A paragraph takes content. -/
theorem isVoid_p : ElementName.isVoid "p" = false := by
  rw [ElementName.isVoid, ElementName.occursIn, lowerText_of_ascii (List.all_iff_forall_prop.1 rfl)]
  decide

/-- A tree with something of everything: a mail address and an expression in an element, a
conditional whose second branch holds a loop, and text that begins almost like a branch. -/
def sampleTree : List Node :=
  [.element "p" sampleAttrs [.text "mail me@home " 1, .expr "name" 1] false 1 1,
    .choice
      [.mk "ready" [.text "yes" 1] 1, .mk "late" [.loop "items" [.expr "item" 1] 1 1] 1]
      [] 0 1,
    .text " elsewhere" 1]

theorem Document.read_print_sample : Node.CanonicalAll false sampleTree ∧
    ∃ body, (Document.read (Node.printAll sampleTree)).1 = { body := body }
      ∧ Node.eraseAll body = Node.eraseAll sampleTree
      ∧ ∀ f ∈ (Document.read (Node.printAll sampleTree)).2, f.fault.severity = .warning := by
  have hchildren : Node.CanonicalAll false [.text "mail me@home " 1, .expr "name" 1] := by
    refine ⟨⟨by decide, List.all_iff_forall_prop.1 rfl, by decide, by decide⟩, ?_,
      .of_name (List.all_eq_true.1 rfl), ?_, trivial⟩
    · rintro _ ⟨⟩
      exact ⟨fun _ => rfl, by decide, nofun⟩
    · rintro _ ⟨⟩
  have hbranches : Branch.CanonicalAll [.mk "ready" [.text "yes" 1] 1,
      .mk "late" [.loop "items" [.expr "item" 1] 1 1] 1] := by
    refine ⟨.of_name (by decide) (List.all_eq_true.1 rfl), ?_,
      .of_name (by decide) (List.all_eq_true.1 rfl), ?_, trivial⟩
    · exact ⟨⟨by decide, List.all_iff_forall_prop.1 rfl, by decide, by decide⟩, by rintro _ ⟨⟩,
        trivial⟩
    · exact ⟨⟨.of_name (by decide) (List.all_eq_true.1 rfl), .of_name (List.all_eq_true.1 rfl),
        by rintro _ ⟨⟩, trivial⟩, by rintro _ ⟨⟩, trivial⟩
  have h : Node.CanonicalAll false sampleTree := by
    refine ⟨⟨⟨⟨ch 'p', [], rfl, rfl⟩, List.all_eq_true.1 rfl⟩, sampleAttrs_canonical, rfl, ?_,
        hchildren⟩, ?_,
      ⟨List.cons_ne_nil _ _, hbranches, trivial⟩, ?_,
      ⟨by decide, List.all_iff_forall_prop.1 rfl, by decide, by decide⟩, ?_, trivial⟩
    · rw [isVoid_p]
      exact nofun
    · rintro _ ⟨⟩
      exact ⟨nofun, nofun, nofun⟩
    · rintro _ ⟨⟩
      refine ⟨nofun, nofun, ?_⟩
      rintro - _ _ ⟨⟩
      decide
    · rintro _ ⟨⟩
  exact ⟨h, Document.read_print h⟩

end Stencil
