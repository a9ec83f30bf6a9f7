import Mathlib.Algebra.Group.Nat.Defs
import Mathlib.Tactic.SplitIfs
import Stencil.Module.Msgpack

/-!
# Reading MessagePack back

Writing picks the shortest header that holds a length, so a text of thirty-one bytes and one
of thirty-two look different from the first byte on. Reading goes by headers, whichever they
are. This module shows that each header that is written is read as what it says, and derives
from it, for each kind of value, that reading it takes exactly what was written and leaves
what follows untouched.

Members of a record may be left out, so a record is not written by one fixed list of members.
`Fields.Writes` says of a list of members that they turn one record into another; such lists
are put together with `append`, and a member that may be left out is one of them in either
case (`Writes.optional`).
-/

namespace Stencil.Msgpack

open Bytes

/-! ## Numbers -/

theorem bigEndian_succ (width n : Nat) :
    bigEndian (width + 1) n = (n / 256 ^ width % 256).toUInt8 :: bigEndian width n := by
  unfold bigEndian
  rw [List.range_succ, List.map_append, List.reverse_append]
  rfl

@[simp] theorem length_bigEndian (width n : Nat) : (bigEndian width n).length = width := by
  simp [bigEndian]

/-- The bytes of a number, read behind a number `k`. -/
theorem foldl_bigEndian (width n k : Nat) :
    (bigEndian width n).foldl (fun n b => 256 * n + b.toNat) k
      = 256 ^ width * k + n % 256 ^ width := by
  induction width generalizing k with
  | zero => simp [bigEndian, Nat.mod_one]
  | succ width ih =>
    have hdigit : (n / 256 ^ width % 256).toUInt8.toNat = n / 256 ^ width % 256 := by simp
    rw [bigEndian_succ, List.foldl_cons, ih, hdigit, Nat.pow_succ, Nat.mod_mul, Nat.mul_add,
      ← Nat.mul_assoc]
    omega

theorem bytes_append (t r : Bytes) : bytes t.length (t ++ r) = some (t, r) := by
  induction t with
  | nil => rfl
  | cons c t ih => rw [List.length_cons, List.cons_append, bytes, ih]

/-- **A number that fits is read back.** -/
theorem number_bigEndian {width n : Nat} (h : n < 256 ^ width) (r : Bytes) :
    number width (bigEndian width n ++ r) = some (n, r) := by
  have hbytes := bytes_append (bigEndian width n) r
  rw [length_bigEndian] at hbytes
  unfold number
  rw [hbytes, Option.map_some]
  dsimp only
  rw [foldl_bigEndian, Nat.mul_zero, Nat.zero_add, Nat.mod_eq_of_lt h]

/-- A header whose number fits is read back. -/
theorem sized_bigEndian (width : Nat) {n : Nat} (h : n < 256 ^ width) (f : Nat → Header)
    (r : Bytes) : sized width f (bigEndian width n ++ r) = some (f n, r) := by
  unfold sized
  rw [number_bigEndian h]

/-! ## Headers -/

/-- The first byte of a short header, as a number. -/
theorem toNat_short (base n : Nat) (h : base + n < 256) : (base + n).toUInt8.toNat = base + n := by
  simp [Nat.mod_eq_of_lt h]

/-- **The header of a text** says how long it is. -/
theorem header?_putText {s : Bytes} (h : s.length < 2 ^ 32) (r : Bytes) :
    header? (putText s ++ r) = some (.text s.length, s ++ r) := by
  unfold putText
  dsimp only
  rw [List.append_assoc]
  split_ifs with h₁ h₂ h₃
  · show headerAt (0xa0 + s.length).toUInt8 _ = _
    have hbyte := toNat_short 0xa0 s.length (by omega)
    unfold headerAt
    dsimp only
    rw [hbyte, if_neg (by omega), if_neg (by omega), if_neg (by omega), if_pos (by omega),
      Nat.add_sub_cancel_left]
    rfl
  · exact sized_bigEndian 1 (by omega) .text _
  · exact sized_bigEndian 2 (by omega) .text _
  · exact sized_bigEndian 4 (by omega) .text _

/-- **The header of a byte string** says how long it is. -/
theorem header?_putBinary {s : Bytes} (h : s.length < 2 ^ 32) (r : Bytes) :
    header? (putBinary s ++ r) = some (.text s.length, s ++ r) := by
  unfold putBinary
  dsimp only
  rw [List.append_assoc]
  split_ifs with h₁ h₂
  · exact sized_bigEndian 1 (by omega) .text _
  · exact sized_bigEndian 2 (by omega) .text _
  · exact sized_bigEndian 4 (by omega) .text _

/-- **The header of an array** says how many values it has. -/
theorem header?_putArray {items : List Bytes} (h : items.length < 2 ^ 32) (r : Bytes) :
    header? (putArray items ++ r) = some (.array items.length, items.flatten ++ r) := by
  unfold putArray
  dsimp only
  rw [List.append_assoc]
  split_ifs with h₁ h₂
  · show headerAt (0x90 + items.length).toUInt8 _ = _
    have hbyte := toNat_short 0x90 items.length (by omega)
    unfold headerAt
    dsimp only
    rw [hbyte, if_neg (by omega), if_neg (by omega), if_pos (by omega), Nat.add_sub_cancel_left]
    rfl
  · exact sized_bigEndian 2 (by omega) .array _
  · exact sized_bigEndian 4 (by omega) .array _

/-- Members one after another, each with its name in front. -/
def putMembers (ms : List (Bytes × Bytes)) : Bytes := ms.flatMap fun (k, x) => putText k ++ x

/-- **The header of a map** says how many members it has. -/
theorem header?_putMap {ms : List (Bytes × Bytes)} (h : ms.length < 2 ^ 32) (r : Bytes) :
    header? (putMap ms ++ r) = some (.map ms.length, putMembers ms ++ r) := by
  unfold putMap
  dsimp only
  rw [List.append_assoc]
  split_ifs with h₁ h₂
  · show headerAt (0x80 + ms.length).toUInt8 _ = _
    have hbyte := toNat_short 0x80 ms.length (by omega)
    unfold headerAt
    dsimp only
    rw [hbyte, if_neg (by omega), if_pos (by omega), Nat.add_sub_cancel_left]
    rfl
  · exact sized_bigEndian 2 (by omega) .map _
  · exact sized_bigEndian 4 (by omega) .map _

/-! ## Values -/

theorem text_putText {s : Bytes} (h : s.length < 2 ^ 32) (r : Bytes) :
    text (putText s ++ r) = some (s, r) := by
  unfold text
  rw [header?_putText h]
  exact bytes_append s r

theorem text_putBinary {s : Bytes} (h : s.length < 2 ^ 32) (r : Bytes) :
    text (putBinary s ++ r) = some (s, r) := by
  unfold text
  rw [header?_putBinary h]
  exact bytes_append s r

theorem text_putNil (r : Bytes) : text (putNil ++ r) = some ([], r) := rfl

theorem flag_putTrue (r : Bytes) : flag (putTrue ++ r) = some (true, r) := rfl

theorem array?_putNil {α : Type} (p : Parser α) (r : Bytes) :
    array? p (putNil ++ r) = some (none, r) := rfl

section Lists

variable {α β : Type} {put : α → Bytes} {l : List α}

theorem many_flatten {p : Parser α} (hp : ∀ a ∈ l, ∀ r, p (put a ++ r) = some (a, r)) (r : Bytes) :
    many p l.length ((l.map put).flatten ++ r) = some (l, r) := by
  induction l with
  | nil => rfl
  | cons a l ih =>
    obtain ⟨ha, hl⟩ := List.forall_mem_cons.1 hp
    rw [List.map_cons, List.flatten_cons, List.append_assoc, List.length_cons, many, ha]
    dsimp only
    rw [ih hl]

/-- **An array is read back** if each of its values is. -/
theorem array?_putArray {p : Parser α} (hp : ∀ a ∈ l, ∀ r, p (put a ++ r) = some (a, r))
    (hl : l.length < 2 ^ 32) (r : Bytes) :
    array? p (putArray (l.map put) ++ r) = some (some l, r) := by
  have hlength : (l.map put).length = l.length := List.length_map put
  unfold array?
  rw [header?_putArray (hlength ▸ hl), hlength]
  dsimp only
  rw [many_flatten hp, Option.map_some]

/-- Where nothing was before, each value is read onto the same one. -/
theorem manyOnto_flatten {p : β → Parser β} {zero : β} {f : α → β}
    (hp : ∀ a ∈ l, ∀ r, p zero (put a ++ r) = some (f a, r)) (r : Bytes) :
    manyOnto p zero l.length [] ((l.map put).flatten ++ r) = some (l.map f, r) := by
  induction l with
  | nil => rfl
  | cons a l ih =>
    obtain ⟨ha, hl⟩ := List.forall_mem_cons.1 hp
    rw [List.map_cons, List.flatten_cons, List.append_assoc, List.length_cons, manyOnto,
      List.headD_nil, ha]
    dsimp only
    rw [List.tail_nil, ih hl]
    rfl

/-- **An array of records is read back** if each of them is. -/
theorem slots_putArray {p : β → Parser β} {zero : β} {f : α → β}
    (hp : ∀ a ∈ l, ∀ r, p zero (put a ++ r) = some (f a, r)) (hl : l.length < 2 ^ 32)
    (r : Bytes) :
    slots p zero {} (putArray (l.map put) ++ r) = some (⟨l.map f, []⟩, r) := by
  have hlength : (l.map put).length = l.length := List.length_map put
  unfold slots
  rw [header?_putArray (hlength ▸ hl), hlength]
  dsimp only [Slots.places]
  rw [List.nil_append, manyOnto_flatten hp, Option.map_some]
  simp [Slots.refill, Slots.places]

end Lists

/-! ## Records -/

/-- More members are read onto what the first ones gave. -/
theorem members_add {σ : Type} (fs : Fields σ) (n n' : Nat) (v : σ) (s : Bytes) :
    members fs (n + n') v s
      = match members fs n v s with
        | some (v', r) => members fs n' v' r
        | none => none := by
  induction n generalizing v s with
  | zero => rw [Nat.zero_add, members]
  | succ n ih =>
    rw [Nat.succ_add, members, members]
    cases text s with
    | none => rfl
    | some named =>
      obtain ⟨name, r⟩ := named
      dsimp only
      cases fs.find? name with
      | some p =>
        dsimp only
        cases p v r with
        | none => rfl
        | some read => exact ih read.1 read.2
      | none =>
        dsimp only
        cases skip 1 r with
        | none => rfl
        | some r' => exact ih v r'

/-- **Written members that turn the record `v` into `v'`**, whatever follows them. -/
def Fields.Writes {σ : Type} (fs : Fields σ) (ms : List (Bytes × Bytes)) (v v' : σ) : Prop :=
  ∀ r, members fs ms.length v (putMembers ms ++ r) = some (v', r)

namespace Fields.Writes

variable {σ : Type} {fs : Fields σ} {ms ms' : List (Bytes × Bytes)} {v v' v'' : σ}

theorem nil (v : σ) : fs.Writes [] v v := fun _ => rfl

/-- A single member is read by its name. -/
theorem singleton {name x : Bytes} {p : σ → Parser σ} (hfind : fs.find? name = some p)
    (hname : name.length < 2 ^ 32) (hp : ∀ r, p v (x ++ r) = some (v', r)) :
    fs.Writes [(name, x)] v v' := by
  intro r
  show members fs 1 v (putText name ++ x ++ [] ++ r) = some (v', r)
  rw [List.append_nil, List.append_assoc, members, text_putText hname]
  dsimp only
  rw [hfind]
  dsimp only
  rw [hp]
  rfl

theorem append (h : fs.Writes ms v v') (h' : fs.Writes ms' v' v'') :
    fs.Writes (ms ++ ms') v v'' := by
  intro r
  rw [List.length_append, members_add, putMembers, List.flatMap_append, List.append_assoc]
  show (match members fs ms.length v (putMembers ms ++ (putMembers ms' ++ r)) with
    | some (v', r) => members fs ms'.length v' r
    | none => none) = some (v'', r)
  rw [h]
  exact h' r

theorem cons {m : Bytes × Bytes} (h : fs.Writes [m] v v') (h' : fs.Writes ms v' v'') :
    fs.Writes (m :: ms) v v'' :=
  h.append h'

/-- **Members that turn nothing into a record are the record**, read back. -/
theorem record (h : fs.Writes ms v v') (hms : ms.length < 2 ^ 32) (zero : σ) (r : Bytes) :
    record fs zero v (putMap ms ++ r) = some (v', r) := by
  unfold Msgpack.record
  rw [header?_putMap hms]
  exact h r

end Fields.Writes

end Stencil.Msgpack
