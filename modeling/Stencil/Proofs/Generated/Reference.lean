import Stencil.Generated.Spans
import Stencil.Proofs.Text.Search
import Stencil.Proofs.Text.Utf8

/-!
# Where a text refers to a package

`refersTo` looks for a name with a dot behind it, at a place where an identifier can start.
The search goes from byte to byte and remembers the byte before; said without the search, the
text has such a place (`refersTo_iff`).

What matters for generated code is that a reference is not lost when a fragment is copied: not
when blanks are trimmed off it (`refersTo_of_trim`), since no blank continues an identifier,
and not when the fragment is put behind something that does not continue one either
(`refersTo_between`).

The same search goes faster by leaps: to the next occurrence of the name with its dot, and on from
there if that continues an identifier. Then there is more that can go wrong, for occurrences may
overlap, and a position counted from the last leap is not one in the text. `seekFrom` is this
search, and `every_reference_found` says that it ends inside the text, and with the same answer.
-/

namespace Stencil

open Bytes

/-- The search finds the place, wherever it starts. -/
theorem refersAt_iff {needle : Bytes} {before : UInt8} {text : Bytes} :
    refersAt needle before text = true
      ↔ ∃ front back, text = front ++ needle ++ back
        ∧ isIdentChar (front.getLastD before) = false := by
  induction text generalizing before with
  | nil =>
    rw [refersAt, Bool.and_eq_true, Bool.not_eq_true', startsWith_iff, List.prefix_nil]
    constructor
    · rintro ⟨rfl, hbefore⟩
      exact ⟨[], [], rfl, hbefore⟩
    · rintro ⟨front, back, htext, hfront⟩
      obtain ⟨hfront', -⟩ := List.append_eq_nil_iff.1 htext.symm
      obtain ⟨rfl, rfl⟩ := List.append_eq_nil_iff.1 hfront'
      exact ⟨rfl, hfront⟩
  | cons c text ih =>
    rw [refersAt, Bool.or_eq_true, Bool.and_eq_true, Bool.not_eq_true', startsWith_iff, ih]
    constructor
    · rintro (⟨⟨back, hback⟩, hbefore⟩ | ⟨front, back, htext, hfront⟩)
      · exact ⟨[], back, hback.symm, hbefore⟩
      · refine ⟨c :: front, back, by rw [htext]; rfl, ?_⟩
        rwa [List.getLastD_cons]
    · rintro ⟨front, back, htext, hfront⟩
      cases front with
      | nil => exact .inl ⟨⟨back, htext.symm⟩, hfront⟩
      | cons d front =>
        rw [List.getLastD_cons] at hfront
        rw [List.cons_append, List.cons_append] at htext
        obtain ⟨rfl, hrest⟩ := List.cons.inj htext
        exact .inr ⟨front, back, hrest, hfront⟩

/-- **A text refers to a package if its name, with a dot behind it, stands where an identifier
can start**: at the beginning, or behind a byte that belongs to no identifier. -/
theorem refersTo_iff {text name : Bytes} :
    refersTo text name = true
      ↔ ∃ front back, text = front ++ (name ++ ".") ++ back
        ∧ isIdentChar (front.getLastD 0) = false :=
  refersAt_iff

theorem getLastD_append (a b : Bytes) (d : UInt8) :
    (a ++ b).getLastD d = b.getLastD (a.getLastD d) := by
  induction a generalizing d with
  | nil => rfl
  | cons c a ih => rw [List.cons_append, List.getLastD_cons, List.getLastD_cons, ih]

/-- **A copied fragment keeps its references**, if an identifier can start where it is put. -/
theorem refersTo_between {front text back name : Bytes}
    (hfront : isIdentChar (front.getLastD 0) = false) (h : refersTo text name = true) :
    refersTo (front ++ text ++ back) name = true := by
  obtain ⟨a, b, rfl, ha⟩ := refersTo_iff.1 h
  refine refersTo_iff.2 ⟨front ++ a, b ++ back, by simp only [List.append_assoc], ?_⟩
  rw [getLastD_append]
  cases a with
  | nil => exact hfront
  | cons c a =>
    rw [List.getLastD_cons] at ha ⊢
    exact ha

theorem isIdentChar_getLastD {s : Bytes} (h : ∀ b ∈ s, isIdentChar b = false) :
    isIdentChar (s.getLastD 0) = false := by
  cases s with
  | nil => decide
  | cons c s =>
    rw [List.getLastD_cons]
    exact h _ (List.getLastD_mem_cons ..)

/-- **What a trimmed fragment refers to, the fragment does too.** -/
theorem refersTo_of_trim {text name : Bytes} (h : refersTo (trim text) name = true) :
    refersTo text name = true := by
  obtain ⟨front, back, htext, hfront, -⟩ := exists_trim text
  rw [htext]
  exact refersTo_between
    (isIdentChar_getLastD fun b hb => isIdentChar_of_blankByte (hfront b hb)) h

/-! ## The search by leaps -/

/-- **The needle stands at `i`, where an identifier can start**: at the beginning of the text, or
behind a byte that belongs to no identifier. -/
def StartsAt (needle text : Bytes) (i : Nat) : Prop :=
  needle <+: text.drop i ∧ (i = 0 ∨ ∃ c, text[i - 1]? = some c ∧ isIdentChar c = false)

/-- **The search from one occurrence to the next**, from the position `i` on. Where the needle
continues an identifier, the search goes on one byte behind the place it was found at. It has no
result if it leaves the text; as long as it does not, every leap brings it nearer to the end. -/
def seekFrom (needle text : Bytes) (i : Nat) : Option Bool :=
  if i ≤ text.length then
    match indexOf? needle (text.drop i) with
    | none => some false
    | some j =>
      if i + j = 0 then some true
      else do
        let before ← text[i + j - 1]?
        if isIdentChar before then seekFrom needle text (i + j + 1) else some true
  else none
termination_by text.length + 1 - i

variable {needle text name : Bytes} {i : Nat}

/-- **One leap.** Either the needle does not stand at `i` or behind it, or the leap ends at the
first place where it does. There the search ends, or it goes on one byte further. -/
theorem seekFrom_leap (hneedle : needle ≠ []) (hi : i ≤ text.length) :
    (seekFrom needle text i = some false ∧ ∀ k, i ≤ k → ¬ needle <+: text.drop k)
    ∨ ∃ k, i ≤ k ∧ k < text.length ∧ (∀ m, i ≤ m → needle <+: text.drop m → k ≤ m)
      ∧ (StartsAt needle text k ∧ seekFrom needle text i = some true
        ∨ ¬ StartsAt needle text k ∧ seekFrom needle text i = seekFrom needle text (k + 1)) := by
  rw [seekFrom, if_pos hi]
  -- a place behind `i` is one in what is left behind `i`
  have hrest : ∀ m, i ≤ m → needle <+: text.drop m → needle <+: (text.drop i).drop (m - i) :=
    fun m hm hp => by rwa [List.drop_drop, Nat.add_sub_cancel' hm]
  cases hj : indexOf? needle (text.drop i) with
  | none =>
    exact .inl ⟨rfl, fun k hk hp => not_prefix_of_indexOf?_none hj _ (hrest k hk hp)⟩
  | some j =>
    obtain ⟨hstands, hfirst⟩ := first_of_indexOf? hj
    rw [List.drop_drop] at hstands
    have hlength : i + j < text.length := by
      have hle := hstands.length_le
      have hpos := List.length_pos_iff.2 hneedle
      rw [List.length_drop] at hle
      omega
    have hleast : ∀ m, i ≤ m → needle <+: text.drop m → i + j ≤ m := fun m hm hp =>
      Nat.le_of_not_lt fun hlt => hfirst (m - i) (by omega) (hrest m hm hp)
    refine .inr ⟨i + j, Nat.le_add_right .., hlength, hleast, ?_⟩
    dsimp only
    by_cases hzero : i + j = 0
    · exact .inl ⟨⟨hstands, .inl hzero⟩, if_pos hzero⟩
    · obtain ⟨c, hc⟩ : ∃ c, text[i + j - 1]? = some c := ⟨_, List.getElem?_eq_getElem (by omega)⟩
      rw [if_neg hzero, hc]
      by_cases hident : isIdentChar c = true
      · refine .inr ⟨?_, if_pos hident⟩
        rintro ⟨-, hzero' | ⟨c', hc', hnot⟩⟩
        · exact hzero hzero'
        · cases hc.symm.trans hc'
          exact Bool.false_ne_true (hnot.symm.trans hident)
      · exact .inl ⟨⟨hstands, .inr ⟨c, hc, Bool.eq_false_iff.2 hident⟩⟩, if_neg hident⟩

/-- **The search ends**, and says whether there is a place at `i` or behind it. -/
theorem exists_seekFrom (hneedle : needle ≠ []) (hi : i ≤ text.length) :
    ∃ b, seekFrom needle text i = some b ∧ (b = true ↔ ∃ k, i ≤ k ∧ StartsAt needle text k) := by
  induction hn : text.length - i using Nat.strong_induction_on generalizing i with
  | h n ih =>
    obtain ⟨hseek, hnone⟩ | ⟨k, hk, hlength, hleast, ⟨hstarts, hseek⟩ | ⟨hnot, hseek⟩⟩ :=
      seekFrom_leap hneedle hi
    · refine ⟨false, hseek, iff_of_false Bool.false_ne_true ?_⟩
      exact fun ⟨k, hk, hstarts⟩ => hnone k hk hstarts.1
    · exact ⟨true, hseek, iff_of_true rfl ⟨k, hk, hstarts⟩⟩
    · obtain ⟨b, hb, hspec⟩ := ih (text.length - (k + 1)) (by omega) hlength rfl
      refine ⟨b, hseek.trans hb, hspec.trans ⟨?_, ?_⟩⟩
      · exact fun ⟨m, hm, hstarts⟩ => ⟨m, by omega, hstarts⟩
      · -- the rejected place is the only one that is left out
        rintro ⟨m, hm, hstarts⟩
        refine ⟨m, Nat.lt_of_le_of_ne (hleast m hm hstarts.1) ?_, hstarts⟩
        rintro rfl
        exact hnot hstarts

/-- The place, counted in bytes. -/
theorem refersTo_iff_startsAt : refersTo text name = true ↔ ∃ i, StartsAt (name ++ ".") text i := by
  rw [refersTo_iff]
  constructor
  · rintro ⟨front, back, rfl, hfront⟩
    refine ⟨front.length, ?_, ?_⟩
    · rw [List.append_assoc, List.drop_left]
      exact List.prefix_append ..
    · rcases front.eq_nil_or_concat' with rfl | ⟨front, c, rfl⟩
      · exact .inl rfl
      · exact .inr ⟨c, by simp, by simpa [List.getLastD_eq_getLast?] using hfront⟩
  · rintro ⟨i, ⟨back, hback⟩, hstart⟩
    refine ⟨text.take i, back, ?_, ?_⟩
    · rw [List.append_assoc, hback, List.take_append_drop]
    · cases i with
      | zero => rfl
      | succ i =>
        obtain hzero | ⟨c, hc, hnot⟩ := hstart
        · cases hzero
        · rw [Nat.add_sub_cancel] at hc
          rwa [List.take_add_one, hc, List.getLastD_eq_getLast?, Option.toList_some,
            List.getLast?_append, List.getLast?_singleton]

/-- **The search by leaps misses nothing.** It ends inside of every text for every name, and says
what `refersTo` says: whether the name, with a dot behind it, stands at the beginning of the text or
behind a byte that is no letter, digit or underscore. -/
theorem every_reference_found (text name : Bytes) :
    seekFrom (name ++ ".") text 0 = some (refersTo text name)
    ∧ (refersTo text name = true
      ↔ ∃ i, (name ++ "." : Bytes) <+: text.drop i
        ∧ (i = 0 ∨ ∃ c, text[i - 1]? = some c ∧ isIdentChar c = false)) := by
  have hneedle : (name ++ "." : Bytes) ≠ [] :=
    List.append_ne_nil_of_right_ne_nil _ (List.cons_ne_nil _ _)
  obtain ⟨b, hseek, hb⟩ := exists_seekFrom hneedle (Nat.zero_le text.length)
  refine ⟨?_, refersTo_iff_startsAt⟩
  have hanswer : b = refersTo text name := by
    rw [Bool.eq_iff_iff, hb, refersTo_iff_startsAt]
    exact ⟨fun ⟨k, _, hk⟩ => ⟨k, hk⟩, fun ⟨k, hk⟩ => ⟨k, Nat.zero_le k, hk⟩⟩
  rw [hseek, hanswer]

/-- The end of a longer name does not hide the name behind it. -/
example : refersTo "gui.ui.Button" "ui" = true ∧ refersTo "gui.Button" "ui" = false := by
  decide

end Stencil
