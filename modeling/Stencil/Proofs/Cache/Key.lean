import Stencil.Cache
import Stencil.Proofs.Text.Search

/-!
# What a key stands for

A request is looked up under the hash of one text, in which every path, every text and every
option is followed by a zero. Two requests with the same key are taken for the same, so the
text has to tell them apart.

It does as long as a zero closes what it is meant to close, which is to say that no path,
text or option holds one itself (`keyText_injective`). The numbers of files and of options need
not be written down for that: zeros are counted instead, two for a file and one for an
option. A path or a text that does hold a zero can be divided elsewhere, and then the file
`("a", "b\0c")` is written like the file `("a\0b", "c")` (`exists_same_keyText`). Nothing
escapes the zeros, so among requests with as many files and options this is the exact
boundary, which `key_faithful_iff` states for the keys themselves, up to a collision of
the hash.
-/

namespace Stencil

namespace Cache

/-- **No zero is in a path, a text or an option** of a request. -/
def ZeroFree (files : List SourceFile) (options : List Bytes) : Prop :=
  (∀ f ∈ files, 0 ∉ f.path ∧ 0 ∉ f.text) ∧ ∀ o ∈ options, 0 ∉ o

/-- Two texts that the hash does not tell apart. -/
def Collide (a b : Bytes) : Prop := a ≠ b ∧ Sha256.hexDigest a = Sha256.hexDigest b

/-! ## Pieces closed by zeros -/

/-- Paths and texts of files, in the order in which they are written. -/
def pieces (files : List SourceFile) : List Bytes := files.flatMap fun f => [f.path, f.text]

/-- Pieces, each followed by a zero. -/
def closed (ps : List Bytes) : Bytes := ps.flatMap fun p => p ++ [0]

theorem keyText_eq (files : List SourceFile) (options : List Bytes) :
    keyText files options = closed (pieces files) ++ 1 :: closed options := by
  simp [keyText, closed, pieces, List.flatMap_assoc]

theorem length_pieces (files : List SourceFile) :
    (pieces files).length = 2 * files.length := by
  induction files with
  | nil => rfl
  | cons f files ih =>
    rw [pieces, List.flatMap_cons, List.length_append, ← pieces, ih, List.length_cons]
    exact Nat.add_comm _ _

/-- The pieces of files come in twos, a path and its text, so the files can be told from them. -/
theorem pieces_injective {files files' : List SourceFile} (h : pieces files = pieces files') :
    files = files' := by
  induction files generalizing files' with
  | nil =>
    cases files' with
    | nil => rfl
    | cons f' files' => cases h
  | cons f files ih =>
    cases files' with
    | nil => cases h
    | cons f' files' =>
      obtain ⟨path, text⟩ := f
      obtain ⟨path', text'⟩ := f'
      obtain ⟨rfl, rfl, hrest⟩ :
          path = path' ∧ text = text' ∧ pieces files = pieces files' := by
        simpa [pieces] using h
      rw [ih hrest]

theorem zeroFree_iff (files : List SourceFile) (options : List Bytes) :
    ZeroFree files options ↔ (∀ p ∈ pieces files, 0 ∉ p) ∧ ∀ o ∈ options, 0 ∉ o := by
  rw [ZeroFree, pieces, List.forall_mem_flatMap]
  simp only [List.forall_mem_cons, List.not_mem_nil, false_implies, implies_true, and_true]

/-- The first zero closes the first piece. -/
theorem piece_injective {p q a b : Bytes} (hp : 0 ∉ p) (hq : 0 ∉ q)
    (h : p ++ 0 :: a = q ++ 0 :: b) : p = q ∧ a = b := by
  have hcut : ∀ {s : Bytes}, 0 ∉ s → ∀ t, (s ++ 0 :: t).takeWhile (· != 0) = s := fun hs =>
    Bytes.takeWhile_append_cons (fun c hc => bne_iff_ne.mpr fun heq => hs (heq ▸ hc)) rfl
  have hpq : p = q := by rw [← hcut hp a, h, hcut hq b]
  exact ⟨hpq, (List.cons.inj (List.append_cancel_left (hpq ▸ h))).2⟩

/-- Where no piece has a zero in it, the first zero ends the first piece, and so on by induction on
the pieces. -/
theorem closed_append_injective {ps qs : List Bytes} {a b : Bytes}
    (hps : ∀ p ∈ ps, 0 ∉ p) (hqs : ∀ q ∈ qs, 0 ∉ q) (hlen : ps.length = qs.length)
    (h : closed ps ++ a = closed qs ++ b) : ps = qs ∧ a = b := by
  induction ps generalizing qs with
  | nil =>
    obtain rfl := List.eq_nil_of_length_eq_zero hlen.symm
    exact ⟨rfl, h⟩
  | cons p ps ih =>
    cases qs with
    | nil => cases hlen
    | cons q qs =>
      have hcut : p ++ 0 :: (closed ps ++ a) = q ++ 0 :: (closed qs ++ b) := by
        simpa [closed] using h
      obtain ⟨hhead, htail⟩ :=
        piece_injective (hps p (List.mem_cons_self ..)) (hqs q (List.mem_cons_self ..)) hcut
      obtain ⟨hrest, hab⟩ := ih (fun p hp => hps p (List.mem_cons_of_mem _ hp))
        (fun q hq => hqs q (List.mem_cons_of_mem _ hq)) (Nat.succ.inj hlen) htail
      exact ⟨by rw [hhead, hrest], hab⟩

/-- There is a zero for every piece, and those within the pieces. -/
theorem count_zero_closed (ps : List Bytes) :
    (closed ps).count 0 = ps.length + ps.flatten.count 0 := by
  induction ps with
  | nil => rfl
  | cons p ps ih =>
    rw [closed, List.flatMap_cons, ← closed, List.count_append, List.count_append, ih,
      List.length_cons, List.flatten_cons, List.count_append, List.count_singleton_self]
    omega

theorem count_zero_flatten {ps : List Bytes} :
    ps.flatten.count 0 = 0 ↔ ∀ p ∈ ps, 0 ∉ p := by
  rw [List.count_eq_zero, List.mem_flatten]
  simp only [not_exists, not_and]

/-- **The zeros of a key text**: two for a file, one for an option, and those that the pieces
themselves hold. -/
theorem count_zero_keyText (files : List SourceFile) (options : List Bytes) :
    (keyText files options).count 0 = 2 * files.length + options.length
      + ((pieces files).flatten.count 0 + options.flatten.count 0) := by
  rw [keyText_eq, List.count_append, List.count_cons_of_ne (by decide), count_zero_closed,
    count_zero_closed, length_pieces]
  omega

/-! ## Requests that are told apart -/

/-- **Requests free of zeros are told apart.** The number of zeros in the text says how many files
there are, as the number of options is known, and then the pieces can be read off one after the
other. -/
theorem keyText_injective {files files' : List SourceFile} {options options' : List Bytes}
    (hfree : ZeroFree files options) (hfree' : ZeroFree files' options')
    (hoptions : options'.length = options.length)
    (h : keyText files' options' = keyText files options) :
    files' = files ∧ options' = options := by
  obtain ⟨hps, hos⟩ := (zeroFree_iff files options).mp hfree
  obtain ⟨hps', hos'⟩ := (zeroFree_iff files' options').mp hfree'
  have hfiles : files'.length = files.length := by
    have hcount := congrArg (List.count 0) h
    rw [count_zero_keyText, count_zero_keyText, count_zero_flatten.mpr hps,
      count_zero_flatten.mpr hps', count_zero_flatten.mpr hos,
      count_zero_flatten.mpr hos'] at hcount
    omega
  rw [keyText_eq, keyText_eq] at h
  obtain ⟨hpieces, hrest⟩ :=
    closed_append_injective hps' hps (by rw [length_pieces, length_pieces, hfiles]) h
  refine ⟨pieces_injective hpieces, ?_⟩
  have hclosed : closed options' ++ [] = closed options ++ [] := by
    rw [(List.cons.inj hrest).2]
  exact (closed_append_injective hos' hos hoptions hclosed).1

/-- Zeros are counted, so of two requests of the same shape with one text, both hold zeros or
neither does. -/
theorem zeroFree_of_keyText_eq {files files' : List SourceFile} {options options' : List Bytes}
    (hfree : ZeroFree files options) (hfiles : files'.length = files.length)
    (hoptions : options'.length = options.length)
    (h : keyText files' options' = keyText files options) : ZeroFree files' options' := by
  obtain ⟨hps, hos⟩ := (zeroFree_iff files options).mp hfree
  have hcount := congrArg (List.count 0) h
  rw [count_zero_keyText, count_zero_keyText, count_zero_flatten.mpr hps,
    count_zero_flatten.mpr hos] at hcount
  rw [zeroFree_iff, ← count_zero_flatten, ← count_zero_flatten]
  omega

/-! ## Requests that are not -/

/-- Dividing a file at another zero leaves what is written down as it is. -/
theorem keyText_shift (before after : List SourceFile) (a b c : Bytes) (options : List Bytes) :
    keyText (before ++ ⟨a, b ++ 0 :: c⟩ :: after) options
      = keyText (before ++ ⟨a ++ 0 :: b, c⟩ :: after) options := by
  simp [keyText]

/-- A zero in a path or a text is read as the end of a path as well. Dividing the file there makes
another request with the same text. -/
theorem exists_same_keyText {files : List SourceFile} {f : SourceFile} (hf : f ∈ files)
    (hzero : 0 ∈ f.path ∨ 0 ∈ f.text) (options : List Bytes) :
    ∃ files', files' ≠ files ∧ files'.length = files.length
      ∧ keyText files' options = keyText files options := by
  obtain ⟨before, after, rfl⟩ := List.append_of_mem hf
  obtain ⟨path, text⟩ := f
  rcases hzero with hzero | hzero
  · obtain ⟨a, b, rfl⟩ : ∃ a b, path = a ++ 0 :: b := List.append_of_mem hzero
    refine ⟨before ++ ⟨a, b ++ 0 :: text⟩ :: after, ?_, by simp, keyText_shift ..⟩
    simp
  · obtain ⟨b, c, rfl⟩ : ∃ b c, text = b ++ 0 :: c := List.append_of_mem hzero
    refine ⟨before ++ ⟨path ++ 0 :: b, c⟩ :: after, ?_, by simp, (keyText_shift ..).symm⟩
    simp

/-! ## Keys -/

/-- **Keys tell requests apart exactly if no path or text holds a zero.** Two requests without
zeros and with as many options that share a key are the same, or their texts collide under the
hash. And a list of files, with options that hold no zero, shares its key with no other request
of the same shape but by a collision, exactly if the files hold no zero. -/
theorem key_faithful_iff (files : List SourceFile) (options : List Bytes) :
    (ZeroFree files options → ∀ (files' : List SourceFile) (options' : List Bytes),
      ZeroFree files' options' → options'.length = options.length →
      key files' options' = key files options →
        (files' = files ∧ options' = options)
          ∨ Collide (keyText files' options') (keyText files options))
    ∧ ((∀ o ∈ options, 0 ∉ o) →
      ((∀ (files' : List SourceFile) (options' : List Bytes),
          files'.length = files.length → options'.length = options.length →
          key files' options' = key files options →
            (files' = files ∧ options' = options)
              ∨ Collide (keyText files' options') (keyText files options))
        ↔ ∀ f ∈ files, 0 ∉ f.path ∧ 0 ∉ f.text)) := by
  refine ⟨fun hfree files' options' hfree' hoptions hkey => ?_,
    fun hos => ⟨fun hfaithful f hf => ?_,
      fun hfiles files' options' hlen hoptions hkey => ?_⟩⟩
  · by_cases htext : keyText files' options' = keyText files options
    · exact .inl (keyText_injective hfree hfree' hoptions htext)
    · exact .inr ⟨htext, hkey⟩
  · -- a file with a zero has a double with the same text, which is no collision
    rw [← not_or]
    intro hzero
    obtain ⟨files', hne, hlen, htext⟩ := exists_same_keyText hf hzero options
    rcases hfaithful files' options hlen rfl (congrArg Sha256.hexDigest htext) with
      ⟨hsame, -⟩ | ⟨hdiffer, -⟩
    · exact hne hsame
    · exact hdiffer htext
  · by_cases htext : keyText files' options' = keyText files options
    · exact .inl (keyText_injective ⟨hfiles, hos⟩
        (zeroFree_of_keyText_eq ⟨hfiles, hos⟩ hlen hoptions htext) hoptions htext)
    · exact .inr ⟨htext, hkey⟩

/-- **Two requests of different shape are written alike**: a file whose text holds zeros, and
two files. -/
theorem keyText_not_injective :
    ¬ ∀ (files files' : List SourceFile) (options options' : List Bytes),
      options'.length = options.length → keyText files' options' = keyText files options →
        files' = files ∧ options' = options := fun h =>
  absurd
    (h [⟨Bytes.ofString "/A.tmpl", [97, 0] ++ Bytes.ofString "/B.tmpl" ++ [0, 98]⟩]
      [⟨Bytes.ofString "/A.tmpl", [97]⟩, ⟨Bytes.ofString "/B.tmpl", [98]⟩]
      [[], []] [[], []] rfl (by decide)).1 (by decide)

end Cache

end Stencil
