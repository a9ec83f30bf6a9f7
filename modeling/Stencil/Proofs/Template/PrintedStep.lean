import Stencil.Proofs.Template.Findings
import Stencil.Proofs.Template.PrintedTag

/-!
# The reader in front of printed markup

What the reader does in a state where a piece of printed markup is next: text is collected,
tags and at signs are taken for what they are, a block is entered behind its header, and its
closing brace leaves it. Each statement leaves open what was read before, what follows, and
what constructs are open around; the state afterwards is `Reader.resume` of the state
before, with more content at the innermost level and a later position.
-/

namespace Stencil

open Bytes

/-- **A printed header is scanned up to its brace**, and the header is what was scanned. -/
theorem CanonicalHeader.scan {s : Bytes} (h : CanonicalHeader s) (what : Construct)
    {c : Cursor} {rest : Bytes} (hc : c.rest = ch ' ' :: (s ++ ch ' ' :: lbrace :: rest)) :
    ∃ n, Fragment.header what c.rest = ⟨n, none⟩ ∧ trim (c.rest.take n) = s
      ∧ (c.advance (n + 1)).rest = rest ∧ (c.advance (n + 1)).before = lbrace := by
  have hpadded : Fragment.Header (ch ' ' :: (s ++ [ch ' '])) :=
    .byte (by decide) rfl rfl (h.header.append (.byte (by decide) rfl rfl .nil))
  have hrest : c.rest = (ch ' ' :: (s ++ [ch ' '])) ++ lbrace :: rest := by
    rw [hc]
    simp
  have hbrace : c.rest = (ch ' ' :: (s ++ [ch ' ']) ++ [lbrace]) ++ rest := by
    rw [hrest]
    simp
  obtain ⟨hd, hbefore⟩ := Cursor.advance_append hbrace
  rw [List.length_append, List.length_singleton, List.getLastD_concat] at hbefore
  rw [List.length_append, List.length_singleton] at hd
  refine ⟨_, ?_, ?_, hd, hbefore⟩
  · rw [hrest]
    exact Fragment.header_block hpadded what rest
  · rw [hrest, List.take_left, trim_space_cons, trim_append_space, h.trimmed]

namespace Content

theorem flush_of_text_nil {k : Content} (h : k.text = []) : k.flush = k :=
  if_pos (by rw [h]; rfl)

/-- Text that was made a node once is not made one again. -/
@[simp] theorem flush_flush (k : Content) : k.flush.flush = k.flush := by
  unfold flush
  split <;> rfl

/-- A node is put behind the text in front of it in any case. -/
@[simp] theorem flush_addNode (n : Node) (k : Content) : k.flush.addNode n = k.addNode n := by
  unfold addNode
  rw [flush_flush]

theorem flush_text (k : Content) : k.flush.text = [] := by
  unfold flush
  split
  · next h => exact List.isEmpty_iff.1 h
  · rfl

@[simp] theorem addNode_text (n : Node) (k : Content) : (k.addNode n).text = [] := k.flush_text

/-- A node is put behind everything that was read before, the text that was not yet a node included.
-/
@[simp] theorem addNode_body (n : Node) (k : Content) : (k.addNode n).body = k.body ++ [n] := by
  unfold body
  rw [flush, if_pos (by simp)]
  simp [addNode]

end Content

namespace Reader

/-! ## The state behind something that was read -/

/-- What was read so far at the innermost level. -/
def content (r : Reader) : Content :=
  match r.levels with
  | [] => r.base
  | l :: _ => l.content

/-- **The state at a later position**: with `k` read at the innermost level and `fs` found
since. -/
def resume (k : Content) (fs : List Finding) (c : Cursor) (r : Reader) : Reader :=
  { r.mapContent (fun _ => k) with findings := fs ++ r.findings, cursor := c }

variable (r : Reader) (k : Content) (fs : List Finding) (c : Cursor)

@[simp] theorem resume_cursor : (r.resume k fs c).cursor = c := rfl

@[simp] theorem resume_content : (r.resume k fs c).content = k := by
  obtain ⟨_, _, _ | _, _, _⟩ := r <;> rfl

@[simp] theorem resume_inBlock : (r.resume k fs c).inBlock = r.inBlock := by
  obtain ⟨_, _, _ | _, _, _⟩ := r <;> rfl

@[simp] theorem resume_foreign : (r.resume k fs c).foreign = r.foreign := by
  obtain ⟨_, _, _ | _, _, _⟩ := r <;> rfl

/-- Of two places to go on from, the later one counts, and the findings of both are kept. -/
@[simp] theorem resume_resume (k' : Content) (fs' : List Finding) (c' : Cursor) :
    (r.resume k fs c).resume k' fs' c' = r.resume k' (fs' ++ fs) c' := by
  obtain ⟨_, _, _ | _, _, _⟩ := r <;> simp [resume, mapContent]

@[simp] theorem resume_self : r.resume r.content [] r.cursor = r := by
  obtain ⟨_, _, _ | _, _, _⟩ := r <;> rfl

theorem moveTo_eq : r.moveTo c = r.resume r.content [] c := by
  obtain ⟨_, _, _ | _, _, _⟩ := r <;> rfl

@[simp] theorem moveTo_content : (r.moveTo c).content = r.content := rfl

@[simp] theorem moveTo_resume (c' : Cursor) :
    (r.moveTo c').resume k fs c = r.resume k fs c := by
  obtain ⟨_, _, _ | _, _, _⟩ := r <;> rfl

theorem addNode_eq (n : Node) : r.addNode n = r.resume (r.content.addNode n) [] r.cursor := by
  obtain ⟨_, _, _ | _, _, _⟩ := r <;> rfl

theorem addText_eq (s : Bytes) :
    r.addText s = r.resume (r.content.addText r.cursor.line s) [] r.cursor := by
  obtain ⟨_, _, _ | _, _, _⟩ := r <;> rfl

/-- Inside a construct that was entered, the levels around it are those before. -/
theorem enter_resume_levels (opener : Opener) (b f : Bool) :
    ((r.enter opener b f).resume k fs c).levels
      = ⟨opener, b, f, k⟩ :: (r.mapContent Content.flush).levels := rfl

/-- **A construct that is left** leaves its node at the level it was entered from. -/
theorem leave_enter (opener : Opener) (b f : Bool) (n : Node) :
    ((r.enter opener b f).resume k fs c).leave (r.mapContent Content.flush).levels n
      = r.resume (r.content.addNode n) fs c := by
  obtain ⟨_, _, _ | _, _, _⟩ := r <;> simp [resume, mapContent, enter, leave, addNode, content]

variable {r k fs c}

/-! ## What the next byte starts -/

/-- A slash behind `<` begins the end of an element. -/
theorem step_closingTag {t : Bytes} (h : r.cursor.rest = ch '<' :: slash :: t) :
    r.step = r.closingTag := by
  unfold step
  dsimp only
  rw [Cursor.peek_zero h, Cursor.peek_one h]
  exact if_pos ⟨rfl, rfl⟩

/-- A name behind `<` begins a tag. -/
theorem step_openTag {b : UInt8} {t : Bytes} (h : r.cursor.rest = ch '<' :: b :: t)
    (hb : isIdentStart b = true) : r.step = r.openTag := by
  have hslash : b ≠ slash := by
    rintro rfl
    cases hb
  unfold step
  dsimp only
  rw [Cursor.peek_zero h, Cursor.peek_one h, if_neg fun hc => hslash hc.2]
  exact if_pos ⟨rfl, hb⟩

/-- In a block, a closing brace ends it. Elsewhere it is text. -/
theorem step_closeBrace {t : Bytes} (h : r.cursor.rest = rbrace :: t) (hb : r.inBlock = true) :
    r.step = r.closeBrace := by
  have htag : rbrace ≠ ch '<' := by decide
  unfold step
  dsimp only
  rw [Cursor.peek_zero h, if_neg fun hc => htag hc.1, if_neg fun hc => htag hc.1]
  exact if_pos ⟨rfl, hb⟩

/-- An at sign begins an expression or a keyword. -/
theorem step_atSign {t : Bytes} (h : r.cursor.rest = ch '@' :: t) : r.step = r.atSign := by
  have htag : ch '@' ≠ ch '<' := by decide
  have hbrace : ch '@' ≠ rbrace := by decide
  unfold step
  dsimp only
  rw [Cursor.peek_zero h, if_neg fun hc => htag hc.1, if_neg fun hc => htag hc.1,
    if_neg fun hc => hbrace hc.1, if_pos rfl]

/-- A byte that starts nothing is text, as the character of that number. -/
theorem step_byte {b : UInt8} {t : Bytes} (h : r.cursor.rest = b :: t) (htag : b ≠ ch '<')
    (hat : b ≠ ch '@') (hbrace : r.inBlock = true → b ≠ rbrace) :
    r.step = r.resume (r.content.addText r.cursor.line (Utf8.encode b.toNat)) []
      (r.cursor.advance 1) := by
  unfold step
  dsimp only
  rw [Cursor.peek_zero h, if_neg fun hc => htag hc.1, if_neg fun hc => htag hc.1,
    if_neg fun hc => hbrace hc.2 hc.1, if_neg hat, addText_eq, moveTo_eq]
  simp

/-- An ASCII byte that starts nothing is text as it is. -/
theorem step_text {b : UInt8} {t : Bytes} (h : r.cursor.rest = b :: t) (hascii : b < 0x80)
    (htag : b ≠ ch '<') (hat : b ≠ ch '@') (hbrace : r.inBlock = true → b ≠ rbrace) :
    r.step = r.resume (r.content.addText r.cursor.line [b]) [] (r.cursor.advance 1) := by
  have hencode : Utf8.encode b.toNat = [b] := by
    have hlt : b.toNat < 0x80 := UInt8.lt_iff_toNat_lt.1 hascii
    simp [Utf8.encode, hlt]
  rw [step_byte h htag hat hbrace, hencode]

/-- Two at signs are one in text. -/
theorem step_atAt {t : Bytes} (h : r.cursor.rest = ch '@' :: ch '@' :: t) :
    r.step = r.resume (r.content.addText (r.cursor.advance 2).line [ch '@']) []
      (r.cursor.advance 2) := by
  rw [step_atSign h]
  unfold atSign
  dsimp only
  rw [Cursor.peek_one h, if_pos rfl, addText_eq, moveTo_eq]
  simp

/-! ## Text -/

/-- **Printed text is collected** byte by byte. -/
theorem walk_text (v : Bytes) (hascii : ∀ b ∈ v, b < 0x80) (htag : ch '<' ∉ v)
    (hbrace : r.inBlock = true → rbrace ∉ v) {rest : Bytes}
    (hrest : r.cursor.rest = printText v ++ rest) :
    ∃ k c, r.run = (r.resume k [] c).run ∧ c.rest = rest ∧ c.before = v.getLastD r.cursor.before
      ∧ k.nodes = r.content.nodes ∧ k.text = v.reverse ++ r.content.text := by
  induction v generalizing r with
  | nil => exact ⟨r.content, r.cursor, by rw [resume_self], hrest, rfl, rfl, rfl⟩
  | cons b v ih =>
    -- either way one step collects the byte, and the walk goes on over the rest
    have hnext : ∃ n s line, r.cursor.rest = s ++ (printText v ++ rest) ∧ s.length = n
        ∧ s.getLastD r.cursor.before = b
        ∧ r.step = r.resume (r.content.addText line [b]) [] (r.cursor.advance n) := by
      by_cases hat : b = ch '@'
      · subst hat
        have hrest : r.cursor.rest = ch '@' :: ch '@' :: (printText v ++ rest) := hrest
        exact ⟨2, [ch '@', ch '@'], _, hrest, rfl, rfl, step_atAt hrest⟩
      · have hrest : r.cursor.rest = b :: (printText v ++ rest) := by
          rw [hrest, printText, replaceByte, List.flatMap_cons, if_neg hat]
          rfl
        exact ⟨1, [b], _, hrest, rfl, rfl, step_text hrest (hascii b List.mem_cons_self)
          (List.ne_of_not_mem_cons htag).symm hat
          fun hb => (List.ne_of_not_mem_cons (hbrace hb)).symm⟩
    obtain ⟨n, s, line, hs, rfl, hlast, hstep⟩ := hnext
    obtain ⟨hrest', hbefore⟩ := Cursor.advance_append hs
    obtain ⟨k, c, hrun, hc, hcb, hnodes, htext⟩ :=
      ih (r := r.resume (r.content.addText line [b]) [] (r.cursor.advance s.length))
        (fun b' hb' => hascii b' (List.mem_cons_of_mem _ hb'))
        (List.not_mem_of_not_mem_cons htag)
        (fun hb => List.not_mem_of_not_mem_cons (hbrace (by simpa using hb))) hrest'
    have hne : r.cursor.rest ≠ [] := by
      rw [hrest, printText, replaceByte, List.flatMap_cons]
      split <;> exact List.cons_ne_nil _ _
    refine ⟨k, c, ?_, hc, ?_, ?_, ?_⟩
    · rw [run_of_rest_ne_nil hne, hstep, hrun, resume_resume, List.append_nil]
    · rw [hcb, resume_cursor, hbefore, hlast, List.getLastD_cons]
    · rw [hnodes, resume_content]
      rfl
    · rw [htext, resume_content, List.reverse_cons, List.append_assoc]
      rfl

/-! ## Tags -/

/-- The first step over an opening tag. -/
theorem run_openTag {tag : Bytes} {attrs : List Attr} (htag : CanonicalTag tag) {rest : Bytes}
    (hrest : r.cursor.rest = printTag tag attrs ++ rest) : r.run = r.openTag.run := by
  obtain ⟨x, s, rfl, hx⟩ := htag.head
  rw [run_of_rest_ne_nil (by rw [hrest]; exact List.cons_ne_nil _ _),
    step_openTag (b := x) hrest hx]

/-- The first step over a closing tag. -/
theorem run_closingTag {tag rest : Bytes} (hrest : r.cursor.rest = printClose tag ++ rest) :
    r.run = r.closingTag.run := by
  rw [run_of_rest_ne_nil (by rw [hrest]; exact List.cons_ne_nil _ _), step_closingTag hrest]

/-- **A printed opening tag** is entered, or is a node if the element takes no content. -/
theorem openTag_print {tag : Bytes} {attrs : List Attr} (htag : CanonicalTag tag)
    (hattrs : ∀ a ∈ attrs, a.Canonical) {rest : Bytes}
    (hrest : r.cursor.rest = printTag tag attrs ++ rest) :
    ∃ as fs d, as.map Attr.erase = attrs.map Attr.erase ∧ d.rest = rest ∧ d.before = ch '>'
      ∧ (∀ f ∈ fs, f.fault.severity = .warning) ∧ (ElementName.isComponent tag = true → fs = [])
      ∧ r.openTag =
        if ElementName.isVoid tag then
          r.resume (r.content.addNode (.element tag as [] false r.cursor.line r.cursor.line)) fs d
        else
          (r.resume r.content fs d).enter (.element tag as r.cursor.line) r.inBlock
            (r.foreign || ElementName.isForeign tag) := by
  have hrest : r.cursor.rest = (ch '<' :: tag) ++ (attrs.flatMap Attr.print ++ ch '>' :: rest) := by
    rw [hrest, printTag]
    simp
  have hname : (r.cursor.rest.drop 1).takeWhile ElementName.isTagByte = tag := by
    obtain ⟨b, u, hb, hu⟩ := attrs_print_eq_cons attrs rest
    rw [hrest, hu]
    exact takeWhile_append_cons htag.bytes (by rcases hb with rfl | rfl <;> rfl) u
  have hbehind := (Cursor.advance_append hrest).1
  rw [List.length_cons, Nat.add_comm] at hbehind
  obtain ⟨as, d, htagRest, has, hd, hbefore⟩ := tagRest_print tag hattrs hbehind
  -- at most the name of the element is complained of
  obtain ⟨fs, hfs, hcomponent, hwarned⟩ : ∃ fs : List Finding,
      (∀ f ∈ fs, f.fault.severity = .warning) ∧ (ElementName.isComponent tag = true → fs = []) ∧
      (if (!ElementName.isComponent tag && !r.foreign && !ElementName.isKnown tag) = true
        then r.report r.cursor.line (.unknownElement tag) else r)
        = { r with findings := fs ++ r.findings } := by
    split
    · next h =>
      exact ⟨[⟨_, .unknownElement tag⟩], fun f hf => List.mem_singleton.1 hf ▸ rfl,
        fun hcomponent => by simp [hcomponent] at h, rfl⟩
    · exact ⟨[], List.forall_mem_nil _, fun _ => rfl, rfl⟩
  have hresume : { r with findings := fs ++ r.findings, cursor := d }
      = r.resume r.content fs d := by
    obtain ⟨_, _, _ | _, _, _⟩ := r <;> rfl
  refine ⟨as, fs, d, has, hd, hbefore, hfs, hcomponent, ?_⟩
  unfold openTag
  dsimp only
  rw [hname, htagRest, hwarned]
  dsimp only
  rw [List.reverse_nil, List.nil_append, hresume, addNode_eq, resume_content, resume_resume]
  rfl

/-- **A printed closing tag** ends the element that was entered. -/
theorem closingTag_print {tag : Bytes} (htag : ∀ b ∈ tag, ElementName.isTagByte b = true)
    (attrs : List Attr) (line : Nat) (b f : Bool) (fs : List Finding) {rest : Bytes}
    (hrest : c.rest = printClose tag ++ rest) :
    ∃ d, d.rest = rest ∧ d.before = ch '>' ∧
      ((r.enter (.element tag attrs line) b f).resume k fs c).closingTag
        = r.resume (r.content.addNode (.element tag attrs k.body false line c.line)) fs d := by
  obtain ⟨hname, hd, hbefore⟩ := closeTag_print htag hrest
  refine ⟨_, hd, hbefore, ?_⟩
  unfold closingTag
  rw [enter_resume_levels]
  dsimp only
  rw [resume_cursor, hname, if_neg (not_not_intro rfl)]
  exact leave_enter ..

/-- **A closing brace** ends the loop that was entered. -/
theorem closeBrace_loop (clause : Bytes) (line : Nat) (b f : Bool) :
    ((r.enter (.loop clause line) b f).resume k fs c).closeBrace
      = r.resume (r.content.addNode (.loop clause k.body line c.line)) fs (c.advance 1) := by
  unfold closeBrace
  dsimp only
  rw [enter_resume_levels]
  exact leave_enter ..

/-- **A closing brace** ends the branch without a condition that was entered. -/
theorem closeBrace_otherwise (done : List Branch) (line : Nat) (b f : Bool) :
    ((r.enter (.otherwise done line) b f).resume k fs c).closeBrace
      = r.resume (r.content.addNode (.choice done k.body line c.line)) fs (c.advance 1) := by
  unfold closeBrace
  dsimp only
  rw [enter_resume_levels]
  exact leave_enter ..

/-- **A closing brace** ends the branch that was entered, and more of the conditional may
follow. -/
theorem closeBrace_branch (done : List Branch) (what : Construct) (cond : Bytes) (line : Nat)
    (b f : Bool) :
    ((r.enter (.branch done what cond line) b f).resume k fs c).closeBrace
      = (r.resume r.content.flush fs (c.advance 1)).afterBranch
          (done ++ [Branch.mk cond k.body line]) c.line := by
  unfold closeBrace
  dsimp only
  rw [enter_resume_levels]
  obtain ⟨_, _, _ | _, _, _⟩ := r <;> rfl

/-! ## Headers -/

/-- **A printed condition** is read up to its brace, and its branch is entered. -/
theorem enterBranch_print {cond : Bytes} (hcond : CanonicalHeader cond) (done : List Branch)
    (what : Construct) (line : Nat) (failed : Reader → Reader) {rest : Bytes}
    (hrest : r.cursor.rest = ch ' ' :: (cond ++ ch ' ' :: lbrace :: rest)) :
    ∃ d, d.rest = rest ∧ d.before = lbrace ∧ r.enterBranch done what line failed
      = (r.moveTo d).enter (.branch done what cond line) true r.foreign := by
  obtain ⟨n, hscan, htrim, hd, hbefore⟩ := hcond.scan what hrest
  refine ⟨_, hd, hbefore, ?_⟩
  have hne : cond.isEmpty = false := by simpa using hcond.nonempty
  unfold enterBranch
  dsimp only
  rw [hscan]
  dsimp only
  rw [htrim, hne, Bool.false_and, if_neg Bool.false_ne_true]

/-- **A printed clause** is read up to its brace, and its loop is entered. -/
theorem openLoop_print {clause : Bytes} (hclause : CanonicalHeader clause) (line : Nat)
    {rest : Bytes} (hrest : r.cursor.rest = ch ' ' :: (clause ++ ch ' ' :: lbrace :: rest)) :
    ∃ d, d.rest = rest ∧ d.before = lbrace ∧ r.openLoop line
      = (r.moveTo d).enter (.loop clause line) true r.foreign := by
  obtain ⟨n, hscan, htrim, hd, hbefore⟩ := hclause.scan .loop hrest
  refine ⟨_, hd, hbefore, ?_⟩
  unfold openLoop
  dsimp only
  rw [hscan]
  dsimp only
  rw [htrim]

/-! ## At signs -/

/-- **A printed expression** is read, unless an identifier character is in front. -/
theorem step_expr {code : Bytes} (hcode : CanonicalCode code)
    (hbefore : isIdentChar r.cursor.before = false) {rest : Bytes}
    (hrest : r.cursor.rest = ch '@' :: ch '(' :: (code ++ ch ')' :: rest)) :
    ∃ d, d.rest = rest ∧ d.before = ch ')'
      ∧ r.step = r.resume (r.content.addNode (.expr code r.cursor.line)) [] d := by
  have hwhole : r.cursor.rest = (ch '@' :: ch '(' :: code ++ [ch ')']) ++ rest := by
    rw [hrest]
    simp
  obtain ⟨hd, hlast⟩ := Cursor.advance_append hwhole
  rw [List.getLastD_concat] at hlast
  have hlen : (ch '@' :: ch '(' :: code ++ [ch ')']).length = 1 + (code.length + 2) := by
    simp
    omega
  rw [hlen] at hd hlast
  refine ⟨_, hd, hlast, ?_⟩
  rw [step_atSign hrest]
  unfold atSign
  dsimp only
  rw [Cursor.peek_one hrest, if_neg (by decide), if_neg (by decide),
    if_neg (by rw [hbefore]; exact Bool.false_ne_true), if_pos rfl]
  unfold groupExpression
  dsimp only
  rw [hrest, List.drop_one, List.tail_cons, Fragment.group_enclosing hcode.balanced]
  dsimp only
  rw [Fragment.enclosed_enclosing, hcode.trimmed, moveTo_eq, addNode_eq, resume_content,
    resume_resume]
  rfl

/-- **A word behind an at sign**, with a blank after it, starts what it is the word for. -/
theorem step_keyword {b : UInt8} (word : Bytes) (hb : isIdentStart b = true)
    (hword : ∀ x ∈ b :: word, isIdentChar x = true)
    (hbefore : isIdentChar r.cursor.before = false) {t : Bytes}
    (hrest : r.cursor.rest = ch '@' :: (b :: word ++ ch ' ' :: t)) :
    r.step = r.keyword (b :: word) r.cursor.line := by
  have hne : b ≠ ch '@' ∧ b ≠ ch '*' ∧ b ≠ ch '(' := by
    refine ⟨?_, ?_, ?_⟩ <;> rintro rfl <;> cases hb
  rw [step_atSign hrest]
  unfold atSign
  dsimp only
  rw [Cursor.peek_one hrest, if_neg hne.1, if_neg hne.2.1,
    if_neg (by rw [hbefore]; exact Bool.false_ne_true), if_neg hne.2.2, if_pos hb, hrest,
    List.drop_one, List.tail_cons, takeWhile_append_cons hword (by decide)]

/-- The word for a conditional starts one. -/
theorem step_if (hbefore : isIdentChar r.cursor.before = false) {t : Bytes}
    (hrest : r.cursor.rest = ch '@' :: (ofString "if" ++ ch ' ' :: t)) :
    ∃ d failed, d.rest = ch ' ' :: t
      ∧ r.step = (r.moveTo d).enterBranch [] .ifBranch r.cursor.line failed := by
  refine ⟨r.cursor.advance 3, fun q => q.addNode (.text [] r.cursor.line), ?_, ?_⟩
  · rw [Cursor.advance_rest, hrest]
    rfl
  · rw [step_keyword (b := ch 'i') [ch 'f'] (by decide) (List.all_eq_true.1 rfl) hbefore hrest]
    unfold keyword
    exact if_pos (by decide)

/-- The word for a loop starts one. -/
theorem step_for (hbefore : isIdentChar r.cursor.before = false) {t : Bytes}
    (hrest : r.cursor.rest = ch '@' :: (ofString "for" ++ ch ' ' :: t)) :
    ∃ d, d.rest = ch ' ' :: t ∧ r.step = (r.moveTo d).openLoop r.cursor.line := by
  refine ⟨r.cursor.advance 4, ?_, ?_⟩
  · rw [Cursor.advance_rest, hrest]
    rfl
  · rw [step_keyword (b := ch 'f') [ch 'o', ch 'r'] (by decide) (List.all_eq_true.1 rfl) hbefore
      hrest]
    unfold keyword
    exact (if_neg (by decide)).trans (if_pos (by decide))

/-! ## Behind a branch -/

/-- **A branch is the last** unless the source continues the conditional. -/
theorem afterBranch_complete {rest : Bytes} (hrest : r.cursor.rest = rest)
    (helse : opensElse rest = false) (done : List Branch) (endLine : Nat) :
    r.afterBranch done endLine = r.addNode (.choice done [] 0 endLine) := by
  have hskip : (r.cursor.skipWhile isSpace).rest = rest.dropWhile isSpace := by
    rw [Cursor.skipWhile_rest, hrest]
    calc rest.drop (rest.takeWhile isSpace).length
        = (rest.takeWhile isSpace ++ rest.dropWhile isSpace).drop
            (rest.takeWhile isSpace).length := by rw [List.takeWhile_append_dropWhile]
      _ = rest.dropWhile isSpace := List.drop_left
  unfold afterBranch
  dsimp only
  refine if_pos ?_
  rw [Cursor.peek, hskip]
  unfold opensElse at helse
  dsimp only at helse
  generalize startsWith (rest.dropWhile isSpace) "else" = a at helse ⊢
  generalize isIdentChar ((rest.dropWhile isSpace).drop 4 |>.headD 0) = b at helse ⊢
  cases a <;> cases b <;> first | rfl | cases helse

/-- Behind the word that continues a conditional, what is next decides how. -/
theorem afterBranch_continued {b : UInt8} (hb : isSpace b = false) {t : Bytes}
    (hrest : r.cursor.rest = ofString " else " ++ b :: t) (done : List Branch) (endLine : Nat) :
    ∃ d line, d.rest = b :: t ∧ r.afterBranch done endLine =
      if startsWith (b :: t) "if" && !isIdentChar (d.peek 2) then
        (r.moveTo (d.advance 2)).enterBranch done .elseIfBranch line
          fun q => q.addNode (.choice done [] 0 endLine)
      else if b = lbrace then (r.moveTo (d.advance 1)).enter (.otherwise done line) true r.foreign
      else ((r.moveTo d).report line (.noBrace .elseBranch)).addNode
        (.choice done [] 0 endLine) := by
  have hskip : r.cursor.skipWhile isSpace = r.cursor.advance 1 :=
    Cursor.skipWhile_blank hrest (by decide)
  have hword : (r.cursor.advance 1).rest = ofString "else" ++ ch ' ' :: b :: t := by
    rw [Cursor.advance_rest, hrest]
    rfl
  have hbehind : ((r.cursor.advance 1).advance 4).rest = ch ' ' :: b :: t := by
    rw [Cursor.advance_rest, hword]
    rfl
  have hd : (((r.cursor.advance 1).advance 4).advance 1).rest = b :: t := by
    rw [Cursor.advance_rest, hbehind]
    rfl
  refine ⟨((r.cursor.advance 1).advance 4).advance 1, (r.cursor.advance 1).line, hd, ?_⟩
  have hpeek : (r.cursor.advance 1).peek 4 = ch ' ' := by
    rw [Cursor.peek, hword]
    rfl
  have hstarts : startsWith (ofString "else" ++ ch ' ' :: b :: t) (ofString "else") = true :=
    startsWith_iff.2 (List.prefix_append _ _)
  unfold afterBranch
  dsimp only
  rw [hskip, Cursor.skipWhile_blank hbehind hb, hword, hpeek, hstarts, if_neg (by decide), hd,
    Cursor.peek_zero hd]

/-- **A printed branch with a condition** continues the conditional. -/
theorem afterBranch_elseIf {t : Bytes}
    (hrest : r.cursor.rest = ofString " else " ++ (ofString "if" ++ ch ' ' :: t))
    (done : List Branch) (endLine : Nat) :
    ∃ d line failed, d.rest = ch ' ' :: t ∧ r.afterBranch done endLine
      = (r.moveTo d).enterBranch done .elseIfBranch line failed := by
  obtain ⟨d, line, hd, heq⟩ :=
    afterBranch_continued (b := ch 'i') (t := ch 'f' :: ch ' ' :: t) (by decide) hrest done endLine
  have hstarts : startsWith (ch 'i' :: ch 'f' :: ch ' ' :: t) (ofString "if") = true :=
    startsWith_iff.2 (List.prefix_append (ofString "if") (ch ' ' :: t))
  have hpeek : d.peek 2 = ch ' ' := by
    rw [Cursor.peek, hd]
    rfl
  refine ⟨d.advance 2, line, fun q => q.addNode (.choice done [] 0 endLine), ?_, ?_⟩
  · rw [Cursor.advance_rest, hd]
    rfl
  · rw [heq, hstarts, hpeek]
    exact if_pos (by decide)

/-- **A printed branch without a condition** ends the conditional. -/
theorem afterBranch_otherwise {t : Bytes}
    (hrest : r.cursor.rest = ofString " else " ++ lbrace :: t) (done : List Branch)
    (endLine : Nat) :
    ∃ d line, d.rest = t ∧ d.before = lbrace ∧ r.afterBranch done endLine
      = (r.moveTo d).enter (.otherwise done line) true r.foreign := by
  obtain ⟨d, line, hd, heq⟩ := afterBranch_continued (by decide) hrest done endLine
  have hstarts : startsWith (lbrace :: t) (ofString "if") = false := by
    rw [Bool.eq_false_iff]
    intro h
    obtain ⟨u, hu⟩ := startsWith_iff.1 h
    cases hu
  obtain ⟨hrest, hbefore⟩ := Cursor.advance_append (s := [lbrace]) hd
  refine ⟨d.advance 1, line, hrest, hbefore, ?_⟩
  rw [heq, hstarts, Bool.false_and, if_neg Bool.false_ne_true, if_pos rfl]

end Reader

end Stencil
