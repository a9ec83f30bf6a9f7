import Mathlib.Data.Bool.AllAny
import Stencil.Proofs.Template.LineOrder
import Stencil.Proofs.Template.PrintedStep
import Stencil.Proofs.Text.Utf8

/-!
# Text between the tags

A source without tags and at signs is text from front to back, and one would expect to find
it in the document as it is. The reader collects text byte by byte, though, and takes each
byte for the character of that number. For an ASCII byte that character is written as the
same byte. Any other byte is one of several that a character is made of, and becomes a
character of two bytes by itself.

So what is read is `asCharacters` of the source, and the text is kept exactly when all of it
is ASCII (`plain_text_kept_iff`). One letter with an accent is enough to lose it
(`plain_text_not_kept`).
-/

namespace Stencil

open Bytes

/-- **The text that bytes are read as**: each byte is the character of that number. -/
def asCharacters (s : Bytes) : Bytes := s.flatMap fun b => Utf8.encode b.toNat

/-- The markup that is nothing but a text from the first line on. -/
def textBody (s : Bytes) : List Node := if s.isEmpty then [] else [.text s 1]

theorem Utf8.encode_ne_nil (n : Nat) : Utf8.encode n ≠ [] := by
  unfold Utf8.encode
  split_ifs <;> exact List.cons_ne_nil _ _

/-- The character of an ASCII byte is that byte. -/
theorem Utf8.encode_toNat_of_ascii {b : UInt8} (hb : b < 0x80) : Utf8.encode b.toNat = [b] := by
  have hlt : b.toNat < 0x80 := UInt8.lt_iff_toNat_lt.1 hb
  simp [Utf8.encode, hlt]

/-- The character of any other byte takes two bytes. -/
theorem Utf8.length_encode_toNat {b : UInt8} (hb : ¬ b < 0x80) :
    (Utf8.encode b.toNat).length = 2 := by
  have hge : ¬ b.toNat < 0x80 := fun h => hb (UInt8.lt_iff_toNat_lt.2 h)
  have hlt : b.toNat < 0x800 := Nat.lt_trans b.toNat_lt (by decide)
  simp [Utf8.encode, hge, hlt]

theorem asCharacters_cons (b : UInt8) (s : Bytes) :
    asCharacters (b :: s) = Utf8.encode b.toNat ++ asCharacters s := rfl

theorem asCharacters_ne_nil {s : Bytes} (hs : s ≠ []) : asCharacters s ≠ [] := by
  obtain ⟨b, t, rfl⟩ := List.exists_cons_of_ne_nil hs
  exact List.append_ne_nil_of_left_ne_nil (Utf8.encode_ne_nil _) _

/-- Text does not get shorter by being read. -/
theorem length_le_asCharacters (s : Bytes) : s.length ≤ (asCharacters s).length := by
  induction s with
  | nil => exact Nat.le_refl _
  | cons b s ih =>
    have hpos : 0 < (Utf8.encode b.toNat).length := List.length_pos_iff.2 (Utf8.encode_ne_nil _)
    rw [asCharacters_cons, List.length_append, List.length_cons]
    omega

/-- **Exactly ASCII text is read as it is.** -/
theorem asCharacters_eq_self_iff (s : Bytes) : asCharacters s = s ↔ ∀ b ∈ s, b < 0x80 := by
  induction s with
  | nil => exact iff_of_true rfl (List.forall_mem_nil _)
  | cons b s ih =>
    rw [asCharacters_cons, List.forall_mem_cons, ← ih]
    by_cases hb : b < 0x80
    · rw [Utf8.encode_toNat_of_ascii hb, List.singleton_append, List.cons_inj_right]
      exact (and_iff_right hb).symm
    · -- two bytes for one make the text longer than it was
      refine iff_of_false (fun heq => ?_) fun h => hb h.1
      have hlength := congrArg List.length heq
      have hle := length_le_asCharacters s
      rw [List.length_append, Utf8.length_encode_toNat hb, List.length_cons] at hlength
      omega

/-- Text behind text is one text, which starts where the first one does. -/
theorem Content.addText_addText {s : Bytes} (hs : s ≠ []) (t : Bytes) (line line' : Nat)
    (k : Content) : (k.addText line s).addText line' t = k.addText line (s ++ t) := by
  have hne : (s.reverse ++ k.text).isEmpty = false := by simp [hs]
  unfold Content.addText
  rw [hne, List.reverse_append, List.append_assoc]
  rfl

/-- **A walk over bytes that start nothing** collects the text they are read as. -/
theorem Reader.walk_plain {s rest : Bytes} (hs : s ≠ []) (htag : ch '<' ∉ s) (hat : ch '@' ∉ s)
    {r : Reader} (hblock : r.inBlock = false) (hrest : r.cursor.rest = s ++ rest) :
    ∃ c, r.cursor.Ahead c ∧ c.rest = rest
      ∧ r.run = (r.resume (r.content.addText r.cursor.line (asCharacters s)) [] c).run := by
  induction s generalizing r with
  | nil => exact absurd rfl hs
  | cons b t ih =>
    have hne : r.cursor.rest ≠ [] := by
      rw [hrest]
      exact List.cons_ne_nil _ _
    have hstep := step_byte (t := t ++ rest) hrest (List.ne_of_not_mem_cons htag).symm
      (List.ne_of_not_mem_cons hat).symm fun h => absurd (hblock ▸ h) Bool.false_ne_true
    have hbehind : (r.cursor.advance 1).rest = t ++ rest := by
      rw [Cursor.advance_rest, hrest]
      rfl
    have hahead := r.cursor.ahead_advance 1
    rw [run_of_rest_ne_nil hne, hstep]
    -- what the next bytes add is joined to what this one did
    obtain rfl | ht := eq_or_ne t []
    · refine ⟨r.cursor.advance 1, hahead, hbehind, ?_⟩
      rw [asCharacters_cons]
      exact congrArg (fun v => (r.resume (r.content.addText _ v) [] _).run)
        (List.append_nil _).symm
    · obtain ⟨c, hlater, hc, hrun⟩ := ih ht (List.not_mem_of_not_mem_cons htag)
        (List.not_mem_of_not_mem_cons hat)
        (r := r.resume (r.content.addText r.cursor.line (Utf8.encode b.toNat)) []
          (r.cursor.advance 1)) (by rw [resume_inBlock, hblock]) hbehind
      refine ⟨c, hahead.trans hlater, hc, ?_⟩
      rw [hrun, resume_content, resume_resume, Content.addText_addText (Utf8.encode_ne_nil _)]
      rfl

/-- **A source without tags and at signs** has nothing wrong with it, and its body is the text
that its bytes are read as. -/
theorem Document.read_plain {s : Bytes} (htag : ch '<' ∉ s) (hat : ch '@' ∉ s) :
    Document.read s = ({ body := textBody (asCharacters s) }, []) := by
  obtain rfl | hs := eq_or_ne s []
  · rw [Document.read, Reader.run_of_rest_eq_nil rfl, Reader.leaveAll_nil rfl]
    rfl
  · obtain ⟨c, -, hc, hrun⟩ := Reader.walk_plain hs htag hat (r := Reader.start s) rfl
      (List.append_nil s).symm
    have hne := asCharacters_ne_nil hs
    rw [Document.read, hrun, Reader.run_of_rest_eq_nil hc, Reader.leaveAll_nil rfl]
    simp [Reader.resume, Reader.mapContent, Reader.start, Reader.content, Cursor.ofSource,
      Content.addText, Content.body, Content.flush, textBody, hne]

/-- Different texts are different markup. -/
theorem textBody_injective : Function.Injective textBody := by
  intro s t h
  cases s <;> cases t <;> simp_all [textBody]

/-- **When text keeps its characters.** A source without tags and at signs is read without
findings as at most one text, and that text is the source itself if and only if the source is
ASCII. -/
theorem plain_text_kept_iff (s : Bytes) (htag : ch '<' ∉ s) (hat : ch '@' ∉ s) :
    Document.read s = ({ body := textBody (asCharacters s) }, [])
    ∧ ((Document.read s).1.body = textBody s ↔ ∀ b ∈ s, b < 0x80) := by
  refine ⟨Document.read_plain htag hat, ?_⟩
  rw [Document.read_plain htag hat, ← asCharacters_eq_self_iff]
  exact textBody_injective.eq_iff

/-- Text of several lines with a brace in it is kept. -/
theorem plain_text_kept_two_lines :
    (Document.read "a \x7d\nb").2 = []
      ∧ (Document.read "a \x7d\nb").1.body = [.text "a \x7d\nb" 1] := by
  obtain ⟨hread, hkept⟩ := plain_text_kept_iff "a \x7d\nb" (by decide) (by decide)
  exact ⟨congrArg Prod.snd hread, hkept.2 (List.all_iff_forall_prop.1 rfl)⟩

/-- **Text does not always keep its characters**: a letter with an accent is taken for two. -/
theorem plain_text_not_kept : ¬ ∀ s : Bytes, Utf8.isValid s = true → ch '<' ∉ s → ch '@' ∉ s →
    (Document.read s).2 = [] ∧ (Document.read s).1.body = textBody s := by
  intro h
  have hvalid : Utf8.isValid "é" = true := by
    have hnext : Utf8.next? "é" = some ⟨0xe9, "é", true⟩ := by decide
    have hend : (ofString "é").drop (ofString "é").length = [] := by decide
    rw [Utf8.isValid, Utf8.runes_eq_cons hnext, hend, Utf8.runes_nil]
    rfl
  have hbody := (h "é" hvalid (by decide) (by decide)).2
  rw [Document.read_plain (by decide) (by decide)] at hbody
  have hkept : asCharacters "é" = "é" := textBody_injective hbody
  exact absurd hkept (by decide)

end Stencil
