import Stencil.Text.Utf8

/-!
# Reading characters back

A character read from a text is one of five things: an ASCII byte, an encoding of
two, three or four bytes, or a byte that starts no encoding. `IsRune` lists them,
with the bounds that `Utf8.next?` checks, so that what is said about characters is
said case by case and not by walking through the reading again.

The main statements are that the bytes of the characters of a text are the text
(`bytes_runes`), that a valid character is read back from its bytes whatever
follows them (`next?_raw_append`), and that its bytes are the encoding of its code
(`encode_code`).
-/

namespace Stencil.Utf8

/-- **What a character read from a text can be.** -/
inductive IsRune : Rune → Prop where
  /-- An ASCII byte. -/
  | ascii {a : UInt8} (ha : a < 0x80) : IsRune ⟨a.toNat, [a], true⟩
  /-- An encoding of two bytes. -/
  | two {a b : UInt8} (ha : 0xc2 ≤ a) (ha' : a < 0xe0) (hb : isTail 0x80 0xbf b) :
      IsRune ⟨(a.toNat - 0xc0) * 64 + (b.toNat - 0x80), [a, b], true⟩
  /-- An encoding of three bytes. -/
  | three {a b c : UInt8} (ha : 0xe0 ≤ a) (ha' : a < 0xf0)
      (hb : isTail (secondBounds a).1 (secondBounds a).2 b) (hc : isTail 0x80 0xbf c) :
      IsRune ⟨(a.toNat - 0xe0) * 4096 + (b.toNat - 0x80) * 64 + (c.toNat - 0x80),
        [a, b, c], true⟩
  /-- An encoding of four bytes. -/
  | four {a b c d : UInt8} (ha : 0xf0 ≤ a) (ha' : a ≤ 0xf4)
      (hb : isTail (secondBounds a).1 (secondBounds a).2 b) (hc : isTail 0x80 0xbf c)
      (hd : isTail 0x80 0xbf d) :
      IsRune ⟨(a.toNat - 0xf0) * 262144 + (b.toNat - 0x80) * 4096
        + (c.toNat - 0x80) * 64 + (d.toNat - 0x80), [a, b, c, d], true⟩
  /-- A byte that starts no encoding. -/
  | stray {a : UInt8} (ha : 0x80 ≤ a) : IsRune ⟨0xfffd, [a], false⟩

/-- The second byte has no narrower bounds after the first byte of two. -/
theorem secondBounds_of_lt {a : UInt8} (ha : a < 0xe0) : secondBounds a = (0x80, 0xbf) := by
  unfold secondBounds
  grind

/-- **What is read from a text that is not empty** is a character, and its bytes stand
at the head of the text. -/
theorem next?_cases (s : Bytes) :
    s = [] ∨ ∃ r t, next? s = some r ∧ IsRune r ∧ s = r.raw ++ t := by
  fun_cases next? s with
  | case1 => exact .inl rfl
  | case2 a s lo hi hb ha => exact .inr ⟨_, s, rfl, .ascii ha, rfl⟩
  | case5 a lo hi hlo ha ha₁ b s hb ha₂ =>
    exact .inr ⟨_, s, rfl, .two (by grind) ha₂ (by grind [secondBounds_of_lt]), rfl⟩
  | case7 a lo hi hlo ha ha₁ b hb ha₂ c s hc ha₃ =>
    exact .inr ⟨_, s, rfl, .three (by grind) ha₃ (by grind) (by grind), rfl⟩
  | case9 a lo hi hlo ha ha₁ b hb ha₂ c hc ha₃ d s hd =>
    exact .inr ⟨_, s, rfl, .four (by grind) (by grind) (by grind) (by grind) (by grind), rfl⟩
  -- everything else is a byte that starts no encoding
  | case3 | case4 | case6 | case8 | case10 | case11 | case12 =>
    exact .inr ⟨_, _, rfl, .stray (by grind), rfl⟩

/-- **A valid character is read back from its bytes**, whatever follows them. -/
theorem next?_raw_append {r : Rune} (h : IsRune r) (hv : r.valid = true) (t : Bytes) :
    next? (r.raw ++ t) = some r := by
  cases h with
  | ascii ha => simp [next?, ha]
  | two ha ha' hb =>
    simp only [List.cons_append, List.nil_append, next?, secondBounds_of_lt ha', hb]
    grind
  | three ha ha' hb hc =>
    simp only [List.cons_append, List.nil_append, next?, hb, hc]
    grind
  | four ha ha' hb hc hd =>
    simp only [List.cons_append, List.nil_append, next?, hb, hc, hd]
    grind
  | stray => cases hv

/-- An ASCII byte is a character of its own. -/
theorem next?_ascii {a : UInt8} (ha : a < 0x80) (t : Bytes) :
    next? (a :: t) = some ⟨a.toNat, [a], true⟩ :=
  next?_raw_append (.ascii ha) rfl t

/-- No byte of an encoding behind its first is ASCII. -/
theorem tail_ge {lo hi b : UInt8} (hlo : 0x80 ≤ lo) (h : isTail lo hi b) : 0x80 ≤ b := by
  unfold isTail at h
  grind

theorem le_secondBounds (a : UInt8) : 0x80 ≤ (secondBounds a).1 := by
  unfold secondBounds
  grind

/-- An ASCII byte does not change how what stands before it is read. -/
theorem next?_append_ascii {s : Bytes} (hs : s ≠ []) {a : UInt8} (ha : a < 0x80) (t : Bytes) :
    next? (s ++ a :: t) = next? s := by
  have htail : ∀ lo hi : UInt8, 0x80 ≤ lo → isTail lo hi a = false := by
    intro lo hi hlo
    rw [Bool.eq_false_iff]
    intro h
    exact absurd (tail_ge hlo h) (UInt8.not_le.2 ha)
  fun_cases next? s with
  | case1 => exact absurd rfl hs
  | case2 | case3 | case4 | case5 | case6 | case7 | case8 | case9 => grind [next?]
  -- an encoding that the end of the text cuts short is cut short by the byte as well
  | case10 | case11 | case12 => grind [next?, le_secondBounds]

/-! ## The characters of a text -/

theorem runes_nil : runes [] = [] := by
  rw [runes]
  rfl

/-- The characters of a text are its first one and those of the rest. -/
theorem runes_eq_cons {s : Bytes} {r : Rune} (h : next? s = some r) :
    runes s = r :: runes (s.drop r.raw.length) := by
  rw [runes]
  split
  · next hnone => rw [h] at hnone; cases hnone
  · next r' hr =>
    rw [h] at hr
    cases hr
    rfl

/-- **A text read character by character**: it is empty, or a character is read from its
head and the rest is read after it. -/
theorem runes_cases (s : Bytes) :
    s = [] ∨ ∃ r t, IsRune r ∧ s = r.raw ++ t ∧ next? s = some r ∧ runes s = r :: runes t := by
  obtain rfl | ⟨r, t, hr, hrune, rfl⟩ := next?_cases s
  · exact .inl rfl
  · refine .inr ⟨r, t, hrune, rfl, hr, ?_⟩
    rw [runes_eq_cons hr, List.drop_left]

/-- What holds of the empty text, and of a text as soon as it holds behind its first
character, holds of every text. -/
theorem runes_induction {motive : Bytes → Prop} (nil : motive [])
    (cons : ∀ r t, IsRune r → next? (r.raw ++ t) = some r →
      runes (r.raw ++ t) = r :: runes t → motive t → motive (r.raw ++ t))
    (s : Bytes) : motive s := by
  induction hn : s.length using Nat.strongRecOn generalizing s with
  | ind n ih =>
    obtain rfl | ⟨r, t, hrune, rfl, hr, hrs⟩ := runes_cases s
    · exact nil
    · have hpos := raw_length_pos hr
      refine cons r t hrune hr hrs (ih t.length ?_ t rfl)
      rw [← hn, List.length_append]
      omega

/-- **The bytes of the characters of a text are the text.** -/
theorem bytes_runes (s : Bytes) : bytes (runes s) = s := by
  induction s using runes_induction with
  | nil => rw [runes_nil]; rfl
  | cons r t _ _ hrs ih =>
    rw [hrs]
    show r.raw ++ bytes (runes t) = r.raw ++ t
    rw [ih]

/-- Every character of a text is one of the five kinds. -/
theorem isRune_of_mem {s : Bytes} {r : Rune} (h : r ∈ runes s) : IsRune r := by
  induction s using runes_induction with
  | nil => rw [runes_nil] at h; cases h
  | cons r' t hrune _ hrs ih =>
    rw [hrs] at h
    cases h with
    | head => exact hrune
    | tail _ h => exact ih h

/-- An ASCII byte in front is a character in front. -/
theorem runes_ascii_cons {a : UInt8} (ha : a < 0x80) (t : Bytes) :
    runes (a :: t) = ⟨a.toNat, [a], true⟩ :: runes t :=
  runes_eq_cons (next?_ascii ha t)

/-- An ASCII byte separates what stands before it from what follows. -/
theorem runes_append_ascii (s : Bytes) {a : UInt8} (ha : a < 0x80) (t : Bytes) :
    runes (s ++ a :: t) = runes s ++ runes (a :: t) := by
  induction s using runes_induction with
  | nil => rw [runes_nil]; rfl
  | cons r u hrune hr hrs ih =>
    have hne : r.raw ++ u ≠ [] := by
      intro hnil
      rw [hnil] at hr
      cases hr
    have hnext : next? (r.raw ++ u ++ a :: t) = some r := by
      rw [next?_append_ascii hne ha, hr]
    rw [runes_eq_cons hnext, hrs, List.append_assoc, List.drop_left, ih, List.cons_append]

theorem IsRune.raw_ne_nil {r : Rune} (h : IsRune r) : r.raw ≠ [] := by
  cases h <;> exact List.cons_ne_nil _ _

/-! ## Codes and bytes -/

theorem isTail_iff {lo hi b : UInt8} :
    isTail lo hi b = true ↔ lo.toNat ≤ b.toNat ∧ b.toNat ≤ hi.toNat := by
  simp [isTail, UInt8.le_iff_toNat_le]

/-- The bounds of the second byte, as numbers: within those of any later byte, and
narrower behind the four first bytes that demand it. -/
theorem second_bounds {a b : UInt8} (h : isTail (secondBounds a).1 (secondBounds a).2 b) :
    (0x80 ≤ b.toNat ∧ b.toNat ≤ 0xbf) ∧ (a.toNat = 0xe0 → 0xa0 ≤ b.toNat)
      ∧ (a.toNat = 0xed → b.toNat ≤ 0x9f) ∧ (a.toNat = 0xf0 → 0x90 ≤ b.toNat)
      ∧ (a.toNat = 0xf4 → b.toNat ≤ 0x8f) := by
  have hnum : ∀ n : UInt8, a = n ↔ a.toNat = n.toNat := fun n => UInt8.toNat_inj.symm
  simp only [isTail_iff, secondBounds, hnum] at h
  split at h
  · simp at *; omega
  · split at h
    · simp at *; omega
    · split at h
      · simp at *; omega
      · split at h <;> simp at * <;> omega

theorem length_encode_le (c : Nat) : (encode c).length ≤ 4 := by
  fun_cases encode c <;> simp

/-- **The bytes of a valid character are the encoding of its code.** -/
theorem encode_code {r : Rune} (h : IsRune r) (hv : r.valid = true) : encode r.code = r.raw := by
  cases h with
  | @ascii a ha =>
    have ha : a.toNat < 0x80 := UInt8.lt_iff_toNat_lt.1 ha
    simp [encode, ha]
  | @two a b ha ha' hb =>
    have ha : 0xc2 ≤ a.toNat := UInt8.le_iff_toNat_le.1 ha
    have ha' : a.toNat < 0xe0 := UInt8.lt_iff_toNat_lt.1 ha'
    have hb : 0x80 ≤ b.toNat ∧ b.toNat ≤ 0xbf := isTail_iff.1 hb
    dsimp only [encode]
    rw [if_neg (by omega), if_pos (by omega),
      show 0xc0 + ((a.toNat - 0xc0) * 64 + (b.toNat - 0x80)) / 64 = a.toNat from by omega,
      show 0x80 + ((a.toNat - 0xc0) * 64 + (b.toNat - 0x80)) % 64 = b.toNat from by omega]
    simp
  | @three a b c ha ha' hb hc =>
    have ha : 0xe0 ≤ a.toNat := UInt8.le_iff_toNat_le.1 ha
    have ha' : a.toNat < 0xf0 := UInt8.lt_iff_toNat_lt.1 ha'
    have hc : 0x80 ≤ c.toNat ∧ c.toNat ≤ 0xbf := isTail_iff.1 hc
    have hb := second_bounds hb
    generalize hn : (a.toNat - 0xe0) * 4096 + (b.toNat - 0x80) * 64 + (c.toNat - 0x80) = n
    dsimp only [encode]
    rw [if_neg (by omega), if_neg (by omega), if_neg (by omega), if_pos (by omega),
      show 0xe0 + n / 4096 = a.toNat from by omega,
      show 0x80 + n / 64 % 64 = b.toNat from by omega,
      show 0x80 + n % 64 = c.toNat from by omega]
    simp
  | @four a b c d ha ha' hb hc hd =>
    have ha : 0xf0 ≤ a.toNat := UInt8.le_iff_toNat_le.1 ha
    have ha' : a.toNat ≤ 0xf4 := UInt8.le_iff_toNat_le.1 ha'
    have hc : 0x80 ≤ c.toNat ∧ c.toNat ≤ 0xbf := isTail_iff.1 hc
    have hd : 0x80 ≤ d.toNat ∧ d.toNat ≤ 0xbf := isTail_iff.1 hd
    have hb := second_bounds hb
    generalize hn : (a.toNat - 0xf0) * 262144 + (b.toNat - 0x80) * 4096
      + (c.toNat - 0x80) * 64 + (d.toNat - 0x80) = n
    dsimp only [encode]
    rw [if_neg (by omega), if_neg (by omega), if_neg (by omega), if_neg (by omega),
      if_pos (by omega), show 0xf0 + n / 262144 = a.toNat from by omega,
      show 0x80 + n / 4096 % 64 = b.toNat from by omega,
      show 0x80 + n / 64 % 64 = c.toNat from by omega,
      show 0x80 + n % 64 = d.toNat from by omega]
    simp
  | stray => cases hv

/-- **A character is an ASCII byte, or it lies beyond ASCII**: its code is a code point
that can be encoded, and none of its bytes is ASCII. -/
theorem IsRune.ascii_or {r : Rune} (h : IsRune r) :
    (∃ a : UInt8, a < 0x80 ∧ r = ⟨a.toNat, [a], true⟩)
      ∨ (0x80 ≤ r.code ∧ r.code < 0x110000 ∧ ¬ (0xd800 ≤ r.code ∧ r.code < 0xe000))
        ∧ ∀ b ∈ r.raw, 0x80 ≤ b := by
  cases h with
  | ascii ha => exact .inl ⟨_, ha, rfl⟩
  | @two a b ha ha' hb =>
    have ha₁ : 0xc2 ≤ a.toNat := UInt8.le_iff_toNat_le.1 ha
    have ha₂ : a.toNat < 0xe0 := UInt8.lt_iff_toNat_lt.1 ha'
    have hb₁ : 0x80 ≤ b.toNat ∧ b.toNat ≤ 0xbf := isTail_iff.1 hb
    have hb := tail_ge (by decide) hb
    refine .inr ⟨?_, by grind⟩
    dsimp only
    omega
  | @three a b c ha ha' hb hc =>
    have ha₁ : 0xe0 ≤ a.toNat := UInt8.le_iff_toNat_le.1 ha
    have ha₂ : a.toNat < 0xf0 := UInt8.lt_iff_toNat_lt.1 ha'
    have hb₁ := second_bounds hb
    have hc₁ : 0x80 ≤ c.toNat ∧ c.toNat ≤ 0xbf := isTail_iff.1 hc
    have hb := tail_ge (le_secondBounds a) hb
    have hc := tail_ge (by decide) hc
    refine .inr ⟨?_, by grind⟩
    dsimp only
    omega
  | @four a b c d ha ha' hb hc hd =>
    have ha₁ : 0xf0 ≤ a.toNat := UInt8.le_iff_toNat_le.1 ha
    have ha₂ : a.toNat ≤ 0xf4 := UInt8.le_iff_toNat_le.1 ha'
    have hb₁ := second_bounds hb
    have hc₁ : 0x80 ≤ c.toNat ∧ c.toNat ≤ 0xbf := isTail_iff.1 hc
    have hd₁ : 0x80 ≤ d.toNat ∧ d.toNat ≤ 0xbf := isTail_iff.1 hd
    have hb := tail_ge (le_secondBounds a) hb
    have hc := tail_ge (by decide) hc
    have hd := tail_ge (by decide) hd
    refine .inr ⟨?_, by grind⟩
    dsimp only
    omega
  | stray ha =>
    refine .inr ⟨?_, by simpa using ha⟩
    dsimp only
    omega

end Stencil.Utf8

namespace Stencil.Bytes

open Utf8

/-! ## Trimming -/

/-- A blank in front is trimmed. -/
theorem trim_space_cons (s : Bytes) : trim (ch ' ' :: s) = trim s := by
  unfold trim
  rw [runes_ascii_cons (by decide : ch ' ' < 0x80)]
  rfl

/-- A blank behind is trimmed. -/
theorem trim_append_space (s : Bytes) : trim (s ++ [ch ' ']) = trim s := by
  have hrunes : runes (s ++ [ch ' ']) = runes s ++ [⟨(ch ' ').toNat, [ch ' '], true⟩] := by
    rw [runes_append_ascii s (by decide), runes_ascii_cons (by decide), runes_nil]
  unfold trim
  rw [hrunes]
  dsimp only
  rw [List.dropWhile_append]
  split
  · next hnil =>
    rw [List.isEmpty_iff.1 hnil]
    rfl
  · rw [List.reverse_append, List.reverse_singleton, List.singleton_append]
    rfl

/-- **A text between two ASCII bytes that are no white space is not trimmed.** -/
theorem trim_eq_self {a b : UInt8} (ha : a < 0x80) (hb : b < 0x80)
    (ha' : Utf8.isSpace a.toNat = false) (hb' : Utf8.isSpace b.toNat = false) (m : Bytes) :
    trim (a :: (m ++ [b])) = a :: (m ++ [b]) := by
  have hrunes : runes (a :: (m ++ [b]))
      = ⟨a.toNat, [a], true⟩ :: (runes m ++ [⟨b.toNat, [b], true⟩]) := by
    rw [runes_ascii_cons ha, runes_append_ascii m hb, runes_ascii_cons hb, runes_nil]
  have hback := bytes_runes (a :: (m ++ [b]))
  unfold trim
  rw [hrunes] at hback ⊢
  rw [List.dropWhile_cons_of_neg (by simpa using ha')]
  dsimp only
  rw [← List.cons_append, List.reverse_append, List.reverse_singleton, List.singleton_append,
    List.dropWhile_cons_of_neg (by simpa using hb'), List.reverse_cons, List.reverse_reverse]
  exact hback

/-- **ASCII text without white space is not trimmed.** -/
theorem trim_of_forall {s : Bytes} (h : ∀ b ∈ s, b < 0x80 ∧ Utf8.isSpace b.toNat = false) :
    trim s = s := by
  cases s with
  | nil => unfold trim; rw [runes_nil]; rfl
  | cons a s =>
    have ha := h a List.mem_cons_self
    obtain rfl | ⟨m, b, rfl⟩ := List.eq_nil_or_concat s
    · unfold trim
      rw [runes_ascii_cons ha.1, runes_nil]
      simp [ha.2, bytes]
    · have hb := h b (by simp)
      rw [List.concat_eq_append]
      exact trim_eq_self ha.1 hb.1 ha.2 hb.2 m

/-- The bytes that white space is written with: ASCII blanks, and bytes of characters beyond
ASCII. -/
def BlankByte (b : UInt8) : Prop := 0x80 ≤ b ∨ Utf8.isSpace b.toNat = true

instance : DecidablePred BlankByte := fun _ => inferInstanceAs (Decidable (_ ∨ _))

theorem isIdentChar_range {b : UInt8} (h : isIdentChar b = true) :
    48 ≤ b.toNat ∧ b.toNat ≤ 122 := by
  have hends : (ch '_').toNat = 95 ∧ (ch 'a').toNat = 97 ∧ (ch 'z').toNat = 122
      ∧ (ch 'A').toNat = 65 ∧ (ch 'Z').toNat = 90 ∧ (ch '0').toNat = 48 ∧ (ch '9').toNat = 57 := by
    decide
  simp only [isIdentChar, isIdentStart, isDigit, Bool.or_eq_true, Bool.and_eq_true,
    decide_eq_true_eq, beq_iff_eq, UInt8.le_iff_toNat_le, ← UInt8.toNat_inj] at h
  omega

/-- No blank continues an identifier. -/
theorem isIdentChar_of_blankByte {b : UInt8} (h : BlankByte b) : isIdentChar b = false := by
  rw [Bool.eq_false_iff]
  intro hident
  obtain ⟨hlow, hhigh⟩ := isIdentChar_range hident
  rcases h with h | h
  · have : 0x80 ≤ b.toNat := UInt8.le_iff_toNat_le.1 h
    omega
  · simp [Utf8.isSpace] at h
    omega

theorem blankByte_of_mem_takeWhile {rs : List Rune} (hrs : ∀ r ∈ rs, IsRune r) :
    ∀ b ∈ bytes (rs.takeWhile fun r => Utf8.isSpace r.code), BlankByte b := by
  intro b hb
  obtain ⟨r, hr, hb⟩ := List.mem_flatMap.1 hb
  have hspace : Utf8.isSpace r.code = true :=
    List.all_eq_true.1 List.all_takeWhile r hr
  obtain ⟨a, -, rfl⟩ | ⟨-, hraw⟩ := (hrs r ((List.takeWhile_sublist _).subset hr)).ascii_or
  · obtain rfl := List.mem_singleton.1 hb
    exact .inr hspace
  · exact .inl (hraw b hb)

/-- **Trimming cuts off blanks at both ends** and nothing else. -/
theorem exists_trim (s : Bytes) : ∃ front back, s = front ++ trim s ++ back
    ∧ (∀ b ∈ front, BlankByte b) ∧ ∀ b ∈ back, BlankByte b := by
  have hsplit : ∀ rs : List Rune, ∀ p : Rune → Bool,
      rs = (rs.reverse.dropWhile p).reverse ++ (rs.reverse.takeWhile p).reverse := fun rs p => by
    rw [← List.reverse_append, List.takeWhile_append_dropWhile, List.reverse_reverse]
  have hbytes : ∀ rs rs' : List Rune, bytes (rs ++ rs') = bytes rs ++ bytes rs' := fun rs rs' =>
    List.flatMap_append
  let p : Rune → Bool := fun r => Utf8.isSpace r.code
  refine ⟨bytes ((runes s).takeWhile p),
    bytes (((runes s).dropWhile p).reverse.takeWhile p).reverse, ?_,
    blankByte_of_mem_takeWhile fun r => isRune_of_mem, fun b hb => ?_⟩
  · show s = bytes _ ++ bytes _ ++ bytes _
    rw [List.append_assoc, ← hbytes, ← hsplit, ← hbytes, List.takeWhile_append_dropWhile,
      bytes_runes]
  · obtain ⟨r, hr, hb⟩ := List.mem_flatMap.1 hb
    have hrunes : ∀ r ∈ ((runes s).dropWhile p).reverse, IsRune r := fun r hr =>
      isRune_of_mem ((List.dropWhile_sublist _).subset (List.mem_reverse.1 hr))
    exact blankByte_of_mem_takeWhile hrunes b (List.mem_flatMap.2 ⟨r, List.mem_reverse.1 hr, hb⟩)

/-- Nothing is in a trimmed text that was not there before. -/
theorem mem_of_mem_trim {s : Bytes} {b : UInt8} (h : b ∈ trim s) : b ∈ s := by
  obtain ⟨r, hr, hb⟩ := List.mem_flatMap.1 h
  have hr := (List.dropWhile_sublist _).subset (List.mem_reverse.1 hr)
  have hr := (List.dropWhile_sublist _).subset (List.mem_reverse.1 hr)
  rw [← bytes_runes s]
  exact List.mem_flatMap.2 ⟨r, hr, hb⟩

/-! ## Lower case -/

/-- ASCII text is put in lower case byte by byte. -/
theorem lowerText_of_ascii {s : Bytes} (h : ∀ b ∈ s, b < 0x80) : lowerText s = lower s := by
  unfold lowerText lower
  induction s with
  | nil => rw [runes_nil]; rfl
  | cons a s ih =>
    have ha : a.toNat < 0x80 := UInt8.lt_iff_toNat_lt.1 (h a List.mem_cons_self)
    rw [runes_ascii_cons (h a List.mem_cons_self), List.flatMap_cons,
      ih fun b hb => h b (List.mem_cons_of_mem _ hb)]
    dsimp only
    rw [if_neg (by omega), if_neg (by omega)]
    rfl

/-- An ASCII byte that is no capital letter stays in lower case. -/
theorem mem_lowerText {s : Bytes} {b : UInt8} (h : b ∈ s) (hascii : b < 0x80)
    (hupper : isUpper b = false) : b ∈ lowerText s := by
  rw [← bytes_runes s] at h
  obtain ⟨r, hr, hb⟩ := List.mem_flatMap.1 h
  refine List.mem_flatMap.2 ⟨r, hr, ?_⟩
  obtain ⟨a, ha, rfl⟩ | ⟨-, hraw⟩ := (isRune_of_mem hr).ascii_or
  · obtain rfl := List.mem_singleton.1 hb
    have hlt : b.toNat < 0x80 := UInt8.lt_iff_toNat_lt.1 ha
    dsimp only
    rw [if_neg (by omega), if_neg (by omega)]
    simp [lower, lowerByte, hupper]
  · exact absurd (hraw b hb) (UInt8.not_le.2 hascii)

end Stencil.Bytes
