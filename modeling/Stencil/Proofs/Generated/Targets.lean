import Mathlib.Data.List.Nodup
import Mathlib.Data.Nat.Digits.Defs
import Stencil.Proofs.Generated.Expansion
import Stencil.Proofs.Text.Path
import Stencil.Proofs.Text.Quoted

/-!
# How many targets includes can have

A target is a directory joined with a path that some unit includes. The paths are not much
longer than the texts they are written in. The directories are those of targets that were
found before, and these could grow without end, if it were not for the units: a directory
is only used if its target names a unit, and is then not much longer than the path of the
unit (`Splice.Near`). So all targets are short (`Splice.Near.length_includeTarget`), and a list
of different targets is no longer than `Splice.depthBound` (`Splice.length_le_depthBound`).

Nothing is assumed about targets being in normal form. They need not be, and then different
targets can name the same unit.
-/

namespace Stencil

open Bytes

/-! ## Short texts -/

/-- A text as a number in base 256, with a digit in front that keeps leading zeros. -/
def Bytes.numeral (s : Bytes) : Nat := Nat.ofDigits 256 (s.map UInt8.toNat ++ [1])

theorem Bytes.lt_of_mem_digits {s : Bytes} {d : Nat} (h : d ∈ s.map UInt8.toNat ++ [1]) :
    d < 256 := by
  rcases List.mem_append.1 h with h | h
  · obtain ⟨b, -, rfl⟩ := List.mem_map.1 h
    exact b.toNat_lt
  · rw [List.mem_singleton.1 h]
    decide

theorem Bytes.digits_numeral (s : Bytes) :
    Nat.digits 256 s.numeral = s.map UInt8.toNat ++ [1] := by
  refine Nat.digits_ofDigits 256 (by decide) _ (fun d hd => Bytes.lt_of_mem_digits hd) fun _ => ?_
  rw [List.getLast_append_singleton]
  decide

theorem Bytes.numeral_injective : Function.Injective Bytes.numeral := by
  intro s t h
  have hdigits : s.map UInt8.toNat ++ [1] = t.map UInt8.toNat ++ [1] := by
    rw [← Bytes.digits_numeral, ← Bytes.digits_numeral, h]
  exact List.map_injective_iff.2 (fun _ _ => UInt8.toNat_inj.1) (List.append_cancel_right hdigits)

theorem Bytes.numeral_lt {s : Bytes} {n : Nat} (h : s.length ≤ n) :
    s.numeral < Nat.pow 256 (n + 1) := by
  refine (Nat.ofDigits_lt_base_pow_length (by decide) fun d => Bytes.lt_of_mem_digits).trans_le ?_
  refine Nat.pow_le_pow_right (by decide) ?_
  rw [List.length_append, List.length_map, List.length_singleton]
  omega

/-- **There are only so many short texts.** -/
theorem Bytes.length_le_pow {l : List Bytes} (hl : l.Nodup) {n : Nat}
    (h : ∀ s ∈ l, s.length ≤ n) : l.length ≤ Nat.pow 256 (n + 1) := by
  have hsub : l.map Bytes.numeral ⊆ List.range (Nat.pow 256 (n + 1)) := by
    intro k hk
    obtain ⟨s, hs, rfl⟩ := List.mem_map.1 hk
    exact List.mem_range.2 (Bytes.numeral_lt (h s hs))
  have hle := (List.subperm_of_subset (hl.map Bytes.numeral_injective) hsub).length_le
  rwa [List.length_map, List.length_range] at hle

/-! ## Included paths -/

/-- The path that is read at a position is not much longer than what is there. -/
theorem Reader.length_of_quotedAt {s path : Bytes} (h : (quotedAt s).1 = some path) :
    path.length ≤ 4 * s.length := by
  unfold quotedAt at h
  split at h
  · cases h
  · next q rest =>
    split at h
    · dsimp only at h
      split at h
      · have := Quoted.length_of_unquote? h
        have := (List.take_sublist (1 + (Fragment.literal q rest).2) (q :: rest)).length_le
        omega
      · cases h
    · cases h

/-- What the reader makes includes no path that is much longer than the source. -/
theorem Node.makes_includes (size : Nat) :
    Reader.Makes size (fun n => ∀ p ∈ n.includes, p.length ≤ 4 * size)
      (fun b => ∀ p ∈ b.includes, p.length ≤ 4 * size) := by
  have hall : ∀ {ns : List Node}, (∀ n ∈ ns, ∀ p ∈ n.includes, p.length ≤ 4 * size) →
      ∀ p ∈ Node.includesAll ns, p.length ≤ 4 * size := fun h p hp => by
    obtain ⟨n, hn, hp⟩ := Node.mem_includesAll.1 hp
    exact h n hn p hp
  constructor
  case text => exact fun p hp => absurd hp List.not_mem_nil
  case expr => exact fun _ p hp => absurd hp List.not_mem_nil
  case splice =>
    intro s path _ hs hpath _ p hp
    rw [List.mem_singleton.1 hp]
    exact (Reader.length_of_quotedAt hpath).trans (Nat.mul_le_mul_left 4 hs)
  case loop | branch => exact hall
  case choice =>
    intro branches otherwise _ _ _ _ hbranches hotherwise p hp
    rcases List.mem_append.1 hp with hp | hp
    · obtain ⟨b, hb, hp⟩ := Branch.mem_includesAll.1 hp
      exact hbranches b hb p hp
    · exact hall hotherwise p hp
  case element => exact fun _ _ hchildren _ => hall hchildren

/-- **No path is much longer than the source that includes it.** -/
theorem Document.length_of_mem_includes {src path : Bytes}
    (h : path ∈ Node.includesAll (Document.read src).1.body) : path.length ≤ 4 * src.length := by
  obtain ⟨n, hn, hpath⟩ := Node.mem_includesAll.1 h
  exact (Document.made_read (Node.makes_includes src.length)).2 n hn path hpath

/-! ## Directories -/

namespace Splice

variable {ix : UnitIndex} {self input dir path : Bytes} {u : SourceUnit}

theorem length_le_extent (hu : u ∈ ix.units) (self input : Bytes) :
    u.path.length + u.text.length ≤ extent ix self input := by
  have hle : u.path.length + u.text.length
      ≤ (ix.units.map fun u => u.path.length + u.text.length).sum :=
    List.le_sum_of_mem (List.mem_map_of_mem hu)
  exact hle.trans ((Nat.le_add_right _ _).trans (Nat.le_add_right _ _))

/-- **A directory that includes are looked up in**, in generating code for the unit at `own`,
is not much longer than the path of a unit, and has no segment much longer than a path that
is included. -/
structure Near (ix : UnitIndex) (own input dir : Bytes) : Prop where
  length : dir.length ≤ 5 * extent ix own input + 5
  narrow : Path.Narrow (4 * extent ix own input + 4) dir

theorem near_dir_self (ix : UnitIndex) (self input : Bytes) :
    Near ix self input (Path.dir self) := by
  have hself : self.length ≤ extent ix self input :=
    (Nat.le_add_left _ _).trans (Nat.le_add_right _ _)
  have hdir := Path.length_dir_le self
  exact ⟨by omega, Path.narrow_of_length_le (by omega)⟩

/-- The path that is looked up for a path included from a directory. -/
theorem exists_includeTarget (dir path : Bytes) :
    ∃ q, includeTarget dir path = SourceUnit.normalizePath q
      ∧ q.length ≤ dir.length + path.length + 2
      ∧ ∀ {m}, 1 ≤ m → Path.Narrow m dir → Path.Narrow m path → Path.Narrow m q := by
  unfold includeTarget
  split
  · exact ⟨path, rfl, by omega, fun _ _ h => h⟩
  · exact ⟨_, rfl, Path.length_joinTwo_le dir path, fun hm hdir hpath => hdir.joinTwo hm hpath⟩

/-- **A target is short.** -/
theorem Near.length_includeTarget (h : Near ix self input dir)
    (hpath : path.length ≤ 4 * extent ix self input) :
    (includeTarget dir path).length ≤ 9 * extent ix self input + 9 := by
  obtain ⟨q, htarget, hq, -⟩ := exists_includeTarget dir path
  have hdir := h.length
  have := SourceUnit.length_normalizePath_le q
  rw [htarget]
  omega

/-- **The directory of a target that names a unit** is again one to look includes up in. -/
theorem Near.includeTarget (h : Near ix self input dir)
    (hpath : path.length ≤ 4 * extent ix self input)
    (hu : ix.component? (includeTarget dir path) = some u) :
    Near ix self input (Path.dir (includeTarget dir path)) := by
  obtain ⟨hmem, -, hupath⟩ := UnitIndex.component?_eq_some hu
  have hextent := length_le_extent hmem self input
  have hm : 1 ≤ 4 * extent ix self input + 4 := Nat.le_add_left _ _
  obtain ⟨q, htarget, -, hnarrow⟩ := exists_includeTarget dir path
  have hq := SourceUnit.narrow_normalizePath hm
    (hnarrow hm h.narrow (Path.narrow_of_length_le (hpath.trans (Nat.le_add_right _ _))))
  rw [htarget] at hupath ⊢
  have hdir := SourceUnit.length_dir_normalizePath_le hq
  rw [← hupath] at hdir
  exact ⟨by omega, hq.dir hm⟩

/-- **There are fewer targets than the bound on depth.** -/
theorem length_le_depthBound {targets : List Bytes} (hnodup : targets.Nodup)
    (h : ∀ t ∈ targets, t.length ≤ 9 * extent ix self input + 9) :
    targets.length ≤ depthBound ix self input :=
  Bytes.length_le_pow hnodup h

end Splice

end Stencil
