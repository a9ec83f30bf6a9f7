import Mathlib.Data.List.SplitBy
import Mathlib.Data.List.TakeWhile
import Stencil.Generated.Naming
import Stencil.Proofs.Text.Quoted

/-!
# Texts on one line

Generated code counts lines, so it matters which texts can hold a line feed. Most
cannot: a quoted literal, a word, a name made of letters and digits, the rest of a line.
This module names the property and shows it for every operation the generator builds its
lines with. What is copied from the input as it is has no lemma here, and that is the
point.
-/

namespace Stencil

namespace Bytes

/-- **A text without a line feed.** -/
def OneLine (s : Bytes) : Prop := newline ∉ s

instance : DecidablePred OneLine := fun s => inferInstanceAs (Decidable (newline ∉ s))

theorem newlines_eq_zero {s : Bytes} : newlines s = 0 ↔ s.OneLine := List.count_eq_zero

@[simp] theorem oneLine_nil : OneLine [] := List.not_mem_nil

@[simp] theorem oneLine_append {s t : Bytes} : OneLine (s ++ t) ↔ s.OneLine ∧ t.OneLine := by
  unfold OneLine
  rw [List.mem_append, not_or]

@[simp] theorem oneLine_flatMap {α : Type} {f : α → Bytes} {l : List α} :
    OneLine (l.flatMap f) ↔ ∀ a ∈ l, (f a).OneLine := by
  unfold OneLine
  simp only [List.mem_flatMap, not_exists, not_and]

/-- A part of a text on one line is on one line. -/
theorem OneLine.mono {s t : Bytes} (h : t.OneLine) (hs : s ⊆ t) : s.OneLine :=
  fun hmem => h (hs hmem)

/-- A run of bytes none of which is a line feed. -/
theorem oneLine_takeWhile {p : UInt8 → Bool} (hp : p newline = false) (s : Bytes) :
    OneLine (s.takeWhile p) := by
  intro hmem
  have htrue := List.mem_takeWhile_imp hmem
  rw [hp] at htrue
  exact Bool.false_ne_true htrue

/-- A quoted text stays on one line, whatever it holds. -/
@[simp] theorem oneLine_quote (s : Bytes) : OneLine (Quoted.quote s) :=
  Quoted.newline_not_mem_quote s

theorem OneLine.trim {s : Bytes} (h : s.OneLine) : (Bytes.trim s).OneLine :=
  h.mono fun _ hmem => mem_of_mem_trim hmem

theorem oneLine_of_mem_lines {s l : Bytes} (h : l ∈ lines s) : l.OneLine := by
  unfold lines at h
  induction s generalizing l with
  | nil =>
    rw [List.mem_singleton.1 h]
    exact oneLine_nil
  | cons c s ih =>
    rw [splitOn] at h
    by_cases hc : c = newline
    · rw [if_pos hc] at h
      obtain rfl | hmem := List.mem_cons.1 h
      · exact oneLine_nil
      · exact ih hmem
    · rw [if_neg hc] at h
      cases hs : splitOn newline s with
      | nil =>
        rw [hs] at h
        rw [List.mem_singleton.1 h]
        exact fun hmem => hc (List.mem_singleton.1 hmem).symm
      | cons piece rest =>
        rw [hs] at h ih
        obtain rfl | hmem := List.mem_cons.1 h
        · intro hmem
          obtain heq | hpiece := List.mem_cons.1 hmem
          · exact hc heq.symm
          · exact ih (List.mem_cons_self ..) hpiece
        · exact ih (List.mem_cons_of_mem _ hmem)

theorem length_lines (s : Bytes) : (lines s).length = newlines s + 1 := by
  unfold lines newlines
  induction s with
  | nil => rfl
  | cons c s ih =>
    rw [splitOn, List.count_cons]
    by_cases hc : c = newline
    · simp [hc, ih]
    · rw [if_neg hc]
      cases hs : splitOn newline s with
      | nil => simp [hs] at ih
      | cons piece rest => simpa [hs, hc] using ih

/-- A text in front of a line feed is a line of its own. -/
theorem lines_append_newline {s : Bytes} (hs : s.OneLine) (t : Bytes) :
    lines (s ++ newline :: t) = s :: lines t := by
  unfold lines
  induction s with
  | nil => rw [List.nil_append, splitOn, if_pos rfl]
  | cons b s ih =>
    have hb : b ≠ newline := fun heq => hs (heq ▸ List.mem_cons_self)
    rw [List.cons_append, splitOn, if_neg hb, ih fun hmem => hs (List.mem_cons_of_mem _ hmem)]

/-- The words of a text hold nothing but bytes of the text. -/
theorem OneLine.of_mem_fields {s word : Bytes} (h : s.OneLine) (hw : word ∈ fields s) :
    word.OneLine := by
  obtain ⟨run, hrun, rfl⟩ := List.mem_map.1 hw
  have hrun := (List.mem_filter.1 hrun).1
  refine h.mono fun b hb => ?_
  obtain ⟨r, hr, hb⟩ := List.mem_flatMap.1 hb
  rw [← Utf8.bytes_runes s]
  refine List.mem_flatMap.2 ⟨r, ?_, hb⟩
  rw [← List.flatten_splitBy (fun a b : Rune => Utf8.isSpace a.code == Utf8.isSpace b.code)
    (Utf8.runes s)]
  exact List.mem_flatten.2 ⟨run, hrun, hr⟩

end Bytes

/-! ## Names -/

namespace Naming

open Bytes

/-- Only the line feed itself is encoded with a line feed. -/
theorem oneLine_encode {c : Nat} (hc : c ≠ 10) : (Utf8.encode c).OneLine := by
  have hbyte : ∀ n : Nat, n < 256 → n ≠ 10 → newline ≠ n.toUInt8 := by
    intro n hn hne heq
    have := congrArg UInt8.toNat heq
    rw [UInt8.toNat_ofNat_of_lt' hn] at this
    exact hne this.symm
  have htail : ∀ n : Nat, newline ≠ (0x80 + n % 64).toUInt8 := fun n =>
    hbyte _ (by omega) (by omega)
  unfold Utf8.encode OneLine
  split_ifs
  · rw [List.mem_singleton]
    exact hbyte c (by omega) hc
  · simp only [List.mem_cons, List.not_mem_nil, or_false, not_or]
    exact ⟨hbyte _ (by omega) (by omega), htail _⟩
  · decide
  · simp only [List.mem_cons, List.not_mem_nil, or_false, not_or]
    exact ⟨hbyte _ (by omega) (by omega), htail _, htail _⟩
  · simp only [List.mem_cons, List.not_mem_nil, or_false, not_or]
    exact ⟨hbyte _ (by omega) (by omega), htail _, htail _, htail _⟩
  · decide

/-- The capital of a letter is never the line feed. -/
theorem capital_ne {c : Nat} (hc : c ≠ 10) : ∀ d ∈ CharClass.capital c, d ≠ 10 := by
  have hlong : ∀ e ∈ CharTables.longCapitals, ∀ d ∈ e.2, d ≠ 10 := by decide +kernel
  have hshort : ∀ e ∈ CharTables.capitals, (10 : Int) < e.1 + e.2.2.2 := by decide +kernel
  intro d hd
  unfold CharClass.capital at hd
  split at hd
  · next cs hfind => exact hlong _ (List.mem_of_find?_eq_some hfind) d hd
  · rw [List.mem_singleton.1 hd]
    unfold CharClass.simpleCapital
    split
    · split
      · next h =>
        simp only [Bool.and_eq_true, decide_eq_true_eq] at h
        omega
      · exact hc
    · split
      · next first count step distance hfind =>
        have hmem := hshort _ (List.mem_of_find?_eq_some hfind)
        have hle := List.find?_some hfind
        simp only [Bool.and_eq_true, decide_eq_true_eq] at hle hmem
        omega
      · exact hc

theorem capitalize_ne {mid : Bool} {cs : List Nat} (hcs : ∀ c ∈ cs, c ≠ 10) :
    ∀ d ∈ CharClass.capitalize mid cs, d ≠ 10 := by
  induction cs generalizing mid with
  | nil => exact fun d hd => absurd hd List.not_mem_nil
  | cons c cs ih =>
    have hc := hcs c (List.mem_cons_self ..)
    have hrest : ∀ mid, ∀ d ∈ CharClass.capitalize mid cs, d ≠ 10 := fun mid =>
      ih fun c' hc' => hcs c' (List.mem_cons_of_mem _ hc')
    intro d hd
    rw [CharClass.capitalize] at hd
    split at hd
    · obtain hd | hd := List.mem_append.1 hd
      · cases mid with
        | true => rwa [List.mem_singleton.1 hd]
        | false => exact capital_ne hc d hd
      · exact hrest _ d hd
    · obtain rfl | hd := List.mem_cons.1 hd
      · exact hc
      · exact hrest _ d hd

/-- **A type name stays on one line**, whatever the path. -/
theorem oneLine_typeName (path : Bytes) : (typeName path).OneLine := by
  unfold typeName
  dsimp only
  rw [oneLine_flatMap]
  intro c hc
  refine oneLine_encode ?_
  have hword : ∀ words : List (List Rune), ∀ c ∈ words.flatMap capitalized, c ≠ 10 := by
    intro words c hc
    obtain ⟨word, -, hc⟩ := List.mem_flatMap.1 hc
    refine capitalize_ne ?_ c hc
    rintro d hd rfl
    exact absurd (List.mem_filter.1 hd).2 (by decide)
  split at hc
  · exact hword _ c hc
  · obtain rfl | hc := List.mem_cons.1 hc
    · decide
    · exact hword _ c hc

end Naming

end Stencil
