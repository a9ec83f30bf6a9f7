import Mathlib.Data.List.TakeDrop
import Stencil.Proofs.Text.Utf8
import Stencil.Text.Quoted

/-!
# Quoting loses nothing

A quoted text is read back as the text it was made from, whatever bytes that holds
(`unquote?_quote`), and a quoted text stays on one line (`newline_not_mem_quote`).

Both follow from what can become of one character, `quoteRune_cases`: it is written
as it is, and then its bytes are none of those that mean something between quotes,
or it is written as a backslash and an escape that stands for its bytes.

Printable ASCII is quoted as it is (`quote_of_plain`). A literal that was not written by
quoting may stand for a longer text than itself, but not for one much longer
(`length_of_unquote?`).
-/

namespace Stencil.Quoted

open Bytes Utf8

/-! ## Numbers in base sixteen -/

theorem hexValue?_hexDigit : ∀ d < 16, hexValue? (hexDigit d) = some d := by decide

theorem hexDigit_ne_newline : ∀ d < 16, hexDigit d ≠ newline := by decide

/-- A number has one digit more in front when it is padded to one more. -/
theorem hex_succ (width n : Nat) :
    hex (width + 1) n = hexDigit (n / Nat.pow 16 width % 16) :: hex width n := by
  unfold hex
  rw [List.range_succ, List.map_append, List.reverse_append]
  rfl

@[simp] theorem length_hex (width n : Nat) : (hex width n).length = width := by
  simp [hex]

theorem newline_not_mem_hex (width n : Nat) : newline ∉ hex width n := by
  induction width with
  | zero => exact List.not_mem_nil
  | succ width ih =>
    rw [hex_succ, List.mem_cons, not_or]
    exact ⟨(hexDigit_ne_newline _ (Nat.mod_lt _ (by decide))).symm, ih⟩

theorem isSome_of_mem_hex (width n : Nat) : ∀ d ∈ (hex width n).map hexValue?, d.isSome := by
  induction width with
  | zero => simp [hex]
  | succ width ih =>
    rw [hex_succ, List.map_cons, hexValue?_hexDigit _ (Nat.mod_lt _ (by decide))]
    exact List.forall_mem_cons.2 ⟨rfl, ih⟩

/-- Reading the digits of a number behind a value that was read before. -/
theorem foldl_hex (width n v : Nat) :
    ((hex width n).map hexValue?).foldl (fun v d => v * 16 + d.getD 0) v
      = v * Nat.pow 16 width + n % Nat.pow 16 width := by
  induction width generalizing v with
  | zero => simp [hex, Nat.mod_one]
  | succ width ih =>
    rw [hex_succ, List.map_cons, hexValue?_hexDigit _ (Nat.mod_lt _ (by decide)),
      List.foldl_cons, ih, Option.getD_some]
    have hpow : Nat.pow 16 (width + 1) = Nat.pow 16 width * 16 := rfl
    have hsplit : n % Nat.pow 16 (width + 1)
        = n / Nat.pow 16 width % 16 * Nat.pow 16 width + n % Nat.pow 16 width := by
      rw [hpow, Nat.mod_mul, Nat.mul_comm (Nat.pow 16 width), Nat.add_comm]
    rw [hsplit, hpow, Nat.add_mul, Nat.mul_assoc, Nat.mul_comm 16, Nat.add_assoc]

/-- **Digits in base sixteen are read back.** -/
theorem hexDigits?_hex {width n : Nat} (h : n < Nat.pow 16 width) (t : Bytes) :
    hexDigits? width (hex width n ++ t) = some (n, t) := by
  have htake : (hex width n ++ t).take width = hex width n :=
    List.take_left' (length_hex width n)
  have hdrop : (hex width n ++ t).drop width = t := List.drop_left' (length_hex width n)
  have hall : ((hex width n).map hexValue?).all Option.isSome = true :=
    List.all_eq_true.2 (isSome_of_mem_hex width n)
  unfold hexDigits?
  dsimp only
  rw [htake, hdrop, hall, foldl_hex, Nat.zero_mul, Nat.zero_add, Nat.mod_eq_of_lt h]
  simp

/-! ## Escapes -/

/-- A byte written in base sixteen. -/
theorem escape?_x {v : Nat} (hv : v < 256) (t : Bytes) :
    escape? dquote (ch 'x' :: hex 2 v ++ t) = some ([v.toUInt8], t) := by
  show (hexDigits? 2 (hex 2 v ++ t)).map _ = _
  rw [hexDigits?_hex (by simpa using hv)]
  rfl

/-- A code point written with four digits. -/
theorem escape?_u {v : Nat} (hv : v < 0x10000) (hc : isCodePoint v = true) (t : Bytes) :
    escape? dquote (ch 'u' :: hex 4 v ++ t) = some (encode v, t) := by
  have hshort : shortEscapes.find? (·.1 == ch 'u') = none := by decide
  rw [List.cons_append]
  unfold escape?
  dsimp only
  rw [hshort]
  dsimp only
  rw [if_neg (by decide), if_pos (by decide), if_pos rfl, hexDigits?_hex hv]
  simp [hc]

/-- A code point written with eight digits. -/
theorem escape?_U {v : Nat} (hc : isCodePoint v = true) (t : Bytes) :
    escape? dquote (ch 'U' :: hex 8 v ++ t) = some (encode v, t) := by
  have hshort : shortEscapes.find? (·.1 == ch 'U') = none := by decide
  have hv : v < 0x100000000 := by
    simp only [isCodePoint, Bool.and_eq_true, decide_eq_true_eq] at hc
    omega
  rw [List.cons_append]
  unfold escape?
  dsimp only
  rw [hshort]
  dsimp only
  rw [if_neg (by decide), if_pos (by decide), if_neg (by decide), hexDigits?_hex hv]
  simp [hc]

/-- The short escapes stand for their bytes, and are written in one line. -/
theorem escape?_short : ∀ e ∈ shortEscapes, newline ≠ e.1
    ∧ ∀ t, escape? dquote (e.1 :: t) = some ([e.2.toUInt8], t) := by
  intro e he
  simp only [shortEscapes, List.mem_cons, List.not_mem_nil, or_false] at he
  obtain rfl | rfl | rfl | rfl | rfl | rfl | rfl := he <;> exact ⟨by decide, fun _ => rfl⟩

/-! ## One character -/

/-- The ASCII characters shown as they are: all but the control characters. -/
theorem isPrint_ascii {c : Nat} (hc : c < 0x80) :
    CharClass.isPrint c = true ↔ 0x20 ≤ c ∧ c < 0x7f := by
  unfold CharClass.isPrint
  rw [if_pos hc]
  simp

/-- How an ASCII byte is written between double quotes. -/
theorem quoteRune_ascii {a : UInt8} (ha : a < 0x80) :
    (quoteRune ⟨a.toNat, [a], true⟩ = [a] ∧ true = true
        ∧ ∀ b ∈ [a], b ≠ dquote ∧ b ≠ backslash ∧ b ≠ newline)
      ∨ ∃ e, quoteRune ⟨a.toNat, [a], true⟩ = backslash :: e ∧ newline ∉ e
        ∧ ∀ t, escape? dquote (e ++ t) = some ([a], t) := by
  have ha : a.toNat < 0x80 := UInt8.lt_iff_toNat_lt.1 ha
  have hnum : ∀ n : UInt8, a = n ↔ a.toNat = n.toNat := fun n => UInt8.toNat_inj.symm
  unfold quoteRune
  dsimp only
  rw [if_neg (by decide)]
  split
  · next hq =>
    simp only [Bool.or_eq_true, decide_eq_true_eq] at hq
    obtain hq | hq := hq
    · obtain rfl : a = dquote := (hnum _).2 hq
      exact .inr ⟨[dquote], rfl, by decide, fun _ => rfl⟩
    · obtain rfl : a = backslash := (hnum _).2 hq
      exact .inr ⟨[backslash], rfl, by decide, fun _ => rfl⟩
  · next hq =>
    split
    · next hp =>
      rw [isPrint_ascii ha] at hp
      refine .inl ⟨rfl, rfl, fun b hb => ?_⟩
      obtain rfl := List.mem_singleton.1 hb
      refine ⟨?_, ?_, ?_⟩
      · rintro rfl
        exact hq (by decide)
      · rintro rfl
        exact hq (by decide)
      · rintro rfl
        exact absurd hp (by decide)
    · next hp =>
      split
      · next letter v hfind =>
        have hmem := List.mem_of_find?_eq_some hfind
        have hv : v = a.toNat := by simpa using List.find?_some hfind
        obtain ⟨hne, hesc⟩ := escape?_short _ hmem
        refine .inr ⟨[letter], rfl, by simpa using hne, fun t => ?_⟩
        rw [List.singleton_append, hesc t, hv]
        simp
      · refine .inr ⟨ch 'x' :: hex 2 a.toNat, ?_, ?_, fun t => ?_⟩
        · rw [isPrint_ascii ha] at hp
          rw [if_pos (by simp; omega)]
          rfl
        · exact List.not_mem_cons_of_ne_of_not_mem (by decide) (newline_not_mem_hex 2 _)
        · rw [escape?_x (UInt8.toNat_lt a)]
          simp

/-- **How a character is written between double quotes**: as it is, with no byte that
means something there, or as an escape that stands for its bytes. -/
theorem quoteRune_cases {r : Rune} (h : IsRune r) :
    (quoteRune r = r.raw ∧ r.valid = true
        ∧ ∀ b ∈ r.raw, b ≠ dquote ∧ b ≠ backslash ∧ b ≠ newline)
      ∨ ∃ e, quoteRune r = backslash :: e ∧ newline ∉ e
        ∧ ∀ t, escape? dquote (e ++ t) = some (r.raw, t) := by
  obtain ⟨a, ha, rfl⟩ | ⟨hcode, hraw⟩ := h.ascii_or
  · exact quoteRune_ascii ha
  have hbytes : ∀ b ∈ r.raw, b ≠ dquote ∧ b ≠ backslash ∧ b ≠ newline := by
    intro b hb
    have := hraw b hb
    grind
  have hpoint : isCodePoint r.code = true := by
    simp only [isCodePoint, Bool.and_eq_true, Bool.not_eq_true', decide_eq_true_eq,
      Bool.and_eq_false_iff, decide_eq_false_iff_not]
    omega
  by_cases hv : r.valid = true
  · unfold quoteRune
    rw [hv, if_neg (by decide), if_neg (by simp; omega)]
    split
    · exact .inl ⟨rfl, rfl, hbytes⟩
    · -- none of the short escapes and of the control characters lies beyond ASCII
      rw [List.find?_eq_none.2 (by simp [shortEscapes]; omega)]
      dsimp only
      rw [if_neg (by simp; omega)]
      split
      · next hlt =>
        refine .inr ⟨ch 'u' :: hex 4 r.code, rfl, ?_, fun t => ?_⟩
        · exact List.not_mem_cons_of_ne_of_not_mem (by decide) (newline_not_mem_hex 4 _)
        · rw [escape?_u hlt hpoint, encode_code h hv]
      · refine .inr ⟨ch 'U' :: hex 8 r.code, rfl, ?_, fun t => ?_⟩
        · exact List.not_mem_cons_of_ne_of_not_mem (by decide) (newline_not_mem_hex 8 _)
        · rw [escape?_U hpoint, encode_code h hv]
  · cases h with
    | @stray a ha =>
      refine .inr ⟨ch 'x' :: hex 2 a.toNat, ?_, ?_, fun t => ?_⟩
      · show ([a] : Bytes).flatMap (fun b => ("\\x" : Bytes) ++ hex 2 b.toNat) = _
        rw [List.flatMap_singleton]
        rfl
      · exact List.not_mem_cons_of_ne_of_not_mem (by decide) (newline_not_mem_hex 2 _)
      · rw [escape?_x (UInt8.toNat_lt a)]
        simp
    | _ => exact absurd rfl hv

theorem quoteRune_ne_nil {r : Rune} (h : IsRune r) : quoteRune r ≠ [] := by
  obtain ⟨heq, -, -⟩ | ⟨e, heq, -⟩ := quoteRune_cases h
  · rw [heq]
    cases h <;> exact List.cons_ne_nil _ _
  · rw [heq]
    exact List.cons_ne_nil _ _

/-! ## Whole texts -/

/-- **A quoted text stays on one line.** -/
theorem newline_not_mem_quote (s : Bytes) : newline ∉ quote s := by
  have hbody : newline ∉ (runes s).flatMap quoteRune := by
    intro hmem
    obtain ⟨r, hr, hnl⟩ := List.mem_flatMap.1 hmem
    obtain ⟨heq, -, hbytes⟩ | ⟨e, heq, he, -⟩ := quoteRune_cases (isRune_of_mem hr)
    · rw [heq] at hnl
      exact (hbytes _ hnl).2.2 rfl
    · rw [heq, List.mem_cons] at hnl
      exact hnl.elim (by decide) he
  unfold quote
  simp only [List.cons_append, List.mem_cons, List.mem_append, List.not_mem_nil, or_false]
  rintro (h | h | h)
  · exact absurd h (by decide)
  · exact hbody h
  · exact absurd h (by decide)

/-- Reading a literal passes one character at a time, and gives its bytes back. -/
theorem body?_quoteRune {r : Rune} (h : IsRune r) (fuel : Nat) (t : Bytes) :
    body? dquote false (fuel + 1) (quoteRune r ++ t)
      = (body? dquote false fuel t).map fun (u, rest) => (r.raw ++ u, rest) := by
  obtain ⟨heq, hv, hbytes⟩ | ⟨e, heq, -, hesc⟩ := quoteRune_cases h
  · have hnext := next?_raw_append h hv t
    rw [heq]
    obtain ⟨a, ha, rfl⟩ | ⟨-, hraw⟩ := h.ascii_or
    · obtain ⟨h₁, h₂, h₃⟩ := hbytes a (List.mem_singleton.2 rfl)
      rw [List.singleton_append, body?, if_neg h₁, if_neg h₃, if_neg h₂, if_pos ha]
      simp
    · -- the literal is read by characters here, and the character is read back
      obtain ⟨b, bs, hcons⟩ : ∃ b bs, r.raw = b :: bs := by
        cases h <;> exact ⟨_, _, rfl⟩
      obtain ⟨h₁, h₂, h₃⟩ := hbytes b (by rw [hcons]; exact List.mem_cons_self)
      have hb : ¬ b < 0x80 := UInt8.not_lt.2 (hraw b (by rw [hcons]; exact List.mem_cons_self))
      have hdrop : (r.raw ++ t).drop r.raw.length = t := List.drop_left
      rw [hcons, List.cons_append] at hnext hdrop ⊢
      rw [body?, if_neg h₁, if_neg h₃, if_neg h₂, if_neg hb, hnext, Option.map_some, hcons, hdrop,
        encode_code h hv, hcons]
      simp
  · rw [heq, List.cons_append, body?, if_neg (by decide), if_neg (by decide), if_pos rfl, hesc]
    simp

/-- A literal is read to its end by as many steps as it has characters, and one more. -/
theorem body?_runes (s : Bytes) (fuel : Nat) (hfuel : (runes s).length < fuel) (t : Bytes) :
    body? dquote false fuel ((runes s).flatMap quoteRune ++ dquote :: t) = some (s, t) := by
  induction s using runes_induction generalizing fuel with
  | nil =>
    obtain ⟨fuel, rfl⟩ : ∃ k, fuel = k + 1 := ⟨fuel - 1, by omega⟩
    rw [runes_nil]
    rfl
  | cons r u hrune _ hrs ih =>
    rw [hrs] at hfuel ⊢
    obtain ⟨fuel, rfl⟩ : ∃ k, fuel = k + 1 := ⟨fuel - 1, by omega⟩
    rw [List.flatMap_cons, List.append_assoc, body?_quoteRune hrune,
      ih fuel (by simpa using hfuel)]
    rfl

/-- There are at least as many bytes in a quoted text as there are characters in it. -/
theorem length_runes_le (s : Bytes) : (runes s).length ≤ ((runes s).flatMap quoteRune).length := by
  have hall : ∀ r ∈ runes s, quoteRune r ≠ [] := fun r hr => quoteRune_ne_nil (isRune_of_mem hr)
  revert hall
  generalize runes s = rs
  induction rs with
  | nil => exact fun _ => Nat.le_refl _
  | cons r rs ih =>
    intro hall
    have hpos := List.length_pos_iff.2 (hall r List.mem_cons_self)
    have hle := ih fun r' hr' => hall r' (List.mem_cons_of_mem _ hr')
    rw [List.flatMap_cons, List.length_append, List.length_cons]
    omega

/-- **A quoted text is read back**, whatever bytes it holds. -/
theorem unquote?_quote (s : Bytes) : unquote? (quote s) = some s := by
  have hfuel : (runes s).length < ((runes s).flatMap quoteRune ++ [dquote]).length + 1 := by
    have := length_runes_le s
    rw [List.length_append]
    omega
  have hbody := body?_runes s _ hfuel []
  have hsingle : decide (dquote = squote) = false := by decide
  unfold quote unquote?
  rw [List.cons_append]
  dsimp only
  rw [if_neg (by decide), if_pos (by decide), hsingle, hbody]

/-- **Text that can stand between quotes as it is**: printable ASCII other than a quote or a
backslash. -/
def Plain (s : Bytes) : Prop :=
  ∀ b ∈ s, 0x20 ≤ b.toNat ∧ b.toNat < 0x7f ∧ b ≠ dquote ∧ b ≠ backslash

/-- Plain text is quoted byte by byte, whatever follows it. -/
theorem flatMap_quoteRune_of_plain {s : Bytes} (h : Plain s) (t : Bytes) :
    (runes (s ++ t)).flatMap quoteRune = s ++ (runes t).flatMap quoteRune := by
  induction s with
  | nil => rfl
  | cons b s ih =>
    obtain ⟨⟨hlow, hhigh, hquote, hback⟩, hs⟩ := List.forall_mem_cons.1 h
    have hascii : b < 0x80 := UInt8.lt_iff_toNat_lt.2 (by show b.toNat < 128; omega)
    have hb : quoteRune ⟨b.toNat, [b], true⟩ = [b] := by
      have hnot : ¬ (decide (b.toNat = 0x22) || decide (b.toNat = 0x5c)) = true := by
        rw [Bool.or_eq_true, decide_eq_true_eq, decide_eq_true_eq]
        exact not_or.2 ⟨fun heq => hquote (UInt8.toNat_inj.1 heq),
          fun heq => hback (UInt8.toNat_inj.1 heq)⟩
      unfold quoteRune
      dsimp only
      rw [if_neg (by decide), if_neg hnot,
        if_pos ((isPrint_ascii (by omega)).2 ⟨hlow, hhigh⟩)]
    rw [List.cons_append, runes_ascii_cons hascii, List.flatMap_cons, hb, ih hs]
    rfl

/-- **Plain text is quoted as it is.** -/
theorem quote_of_plain {s : Bytes} (h : Plain s) : quote s = dquote :: s ++ [dquote] := by
  have hbody := flatMap_quoteRune_of_plain h []
  rw [runes_nil, List.flatMap_nil, List.append_nil] at hbody
  rw [quote, hbody]

/-- Plain text behind a quote is quoted as it is, and stands behind a quote again. -/
theorem quote_append_plain (a : Bytes) {s : Bytes} (h : Plain s) (b : Bytes) :
    quote (a ++ dquote :: (s ++ b))
      = (dquote :: (runes a).flatMap quoteRune ++ [backslash, dquote]) ++ s
        ++ ((runes b).flatMap quoteRune ++ [dquote]) := by
  have hquote : quoteRune ⟨dquote.toNat, [dquote], true⟩ = [backslash, dquote] := by decide
  rw [quote, runes_append_ascii a (by decide), runes_ascii_cons (by decide), List.flatMap_append,
    List.flatMap_cons, hquote, flatMap_quoteRune_of_plain h]
  simp only [List.cons_append, List.append_assoc, List.nil_append]

/-! ## Lengths -/

theorem length_of_hexDigits? {n v : Nat} {s r : Bytes} (h : hexDigits? n s = some (v, r)) :
    r.length ≤ s.length := by
  unfold hexDigits? at h
  dsimp only at h
  split at h
  · cases h
    exact (List.drop_sublist n s).length_le
  · cases h

/-- An escape stands for four bytes at most. -/
theorem length_of_escape? {q : UInt8} {s bytes r : Bytes} (h : escape? q s = some (bytes, r)) :
    bytes.length ≤ 4 ∧ r.length ≤ s.length := by
  cases s with
  | nil => cases h
  | cons c s =>
    have hsingle : ∀ b : UInt8, [b].length ≤ 4 := fun b => (by decide : 1 ≤ 4)
    unfold escape? at h
    dsimp only at h
    split at h
    · cases h
      exact ⟨hsingle _, Nat.le_succ _⟩
    split at h
    · obtain ⟨⟨v, r⟩, hdigits, hr⟩ := Option.map_eq_some_iff.1 h
      cases hr
      exact ⟨hsingle _, Nat.le_trans (length_of_hexDigits? hdigits) (Nat.le_succ _)⟩
    split at h
    · split at h
      · next v r hdigits =>
        split at h
        · cases h
          exact ⟨length_encode_le v, Nat.le_trans (length_of_hexDigits? hdigits) (Nat.le_succ _)⟩
        · cases h
      · cases h
    split at h
    · split at h
      · split at h
        · cases h
          refine ⟨hsingle _, ?_⟩
          simp only [List.length_cons]
          omega
        · cases h
      · cases h
    split at h
    · cases h
      exact ⟨hsingle _, Nat.le_succ _⟩
    · cases h

/-- What is read between quotes is not much longer than its source. -/
theorem length_of_body? {q : UInt8} {single : Bool} {fuel : Nat} {s t rest : Bytes}
    (h : body? q single fuel s = some (t, rest)) : t.length ≤ 4 * s.length := by
  induction fuel generalizing single s t rest with
  | zero => cases h
  | succ fuel ih =>
    cases s with
    | nil => cases h
    | cons c s =>
      unfold body? at h
      dsimp only at h
      split at h
      · split at h
        · cases h
        · cases h
          exact Nat.zero_le _
      split at h
      · cases h
      generalize hpiece : (if c = backslash then escape? q s else if c < 0x80 then some ([c], s)
        else (Utf8.next? (c :: s)).map fun u => (Utf8.encode u.code, (c :: s).drop u.raw.length))
        = piece at h
      have hlength : ∀ bytes r, piece = some (bytes, r) →
          bytes.length ≤ 4 ∧ r.length ≤ s.length := by
        rintro bytes r rfl
        split at hpiece
        · exact length_of_escape? hpiece
        split at hpiece
        · cases hpiece
          exact ⟨(by decide : 1 ≤ 4), Nat.le_refl _⟩
        · obtain ⟨u, hu, heq⟩ := Option.map_eq_some_iff.1 hpiece
          cases heq
          refine ⟨length_encode_le u.code, ?_⟩
          obtain heq | ⟨r, t, hr, hrune, -⟩ := next?_cases (c :: s)
          · cases heq
          · obtain ⟨b, bs, hraw⟩ : ∃ b bs, r.raw = b :: bs := by
              cases hrune <;> exact ⟨_, _, rfl⟩
            obtain rfl := Option.some.inj (hr.symm.trans hu)
            rw [hraw, List.length_cons, List.drop_succ_cons]
            exact (List.drop_sublist _ s).length_le
      cases piece with
      | none => cases h
      | some read =>
        obtain ⟨bytes, r⟩ := read
        obtain ⟨hbytes, hr⟩ := hlength bytes r rfl
        dsimp only at h
        split at h
        · split at h
          · split at h
            · cases h
              rw [List.length_cons]
              omega
            · cases h
          · cases h
        · obtain ⟨⟨t, rest⟩, hbody, heq⟩ := Option.map_eq_some_iff.1 h
          obtain ⟨rfl, -⟩ := Prod.mk.inj heq
          have hle : t.length ≤ 4 * r.length := ih hbody
          calc (bytes ++ t).length = bytes.length + t.length := List.length_append
            _ ≤ 4 * (s.length + 1) := by omega

/-- **A literal stands for a text that is not much longer**: no escape, and no byte that has to
be replaced, stands for more than four bytes. -/
theorem length_of_unquote? {s t : Bytes} (h : unquote? s = some t) : t.length ≤ 4 * s.length := by
  cases s with
  | nil => cases h
  | cons q r =>
    unfold unquote? at h
    dsimp only at h
    rw [List.length_cons]
    split at h
    · split at h
      · next inner last hspan =>
        cases h
        have hinner : inner.length ≤ r.length := by
          rw [List.span_eq_takeWhile_dropWhile] at hspan
          rw [← (Prod.mk.inj hspan).1]
          exact (List.takeWhile_sublist _).length_le
        have := (List.filter_sublist (p := (· ≠ 0x0d)) (l := inner)).length_le
        omega
      · cases h
    split at h
    · split at h
      · next hbody =>
        cases h
        have := length_of_body? hbody
        omega
      · cases h
    · cases h

end Stencil.Quoted
