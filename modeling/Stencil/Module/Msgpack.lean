import Stencil.Text.Bytes
import Stencil.Text.Slots

/-!
# MessagePack

The part of MessagePack that module files are written in. Writing uses the shortest
header that holds a length. Reading is by headers: `header?` takes one header off the
front of a text and says what follows it, and everything else – texts, arrays, records,
values that are skipped – is read through it.

Reading is lenient. Texts and byte strings are the same thing, nil stands for an absent
value, unknown members of a record are skipped, and a record can also be an array with
exactly its members in order.
-/

namespace Stencil.Msgpack

/-! ## Writing -/

/-- A number in `width` bytes, most significant first. -/
def bigEndian (width n : Nat) : Bytes :=
  ((List.range width).map fun i => (n / Nat.pow 256 i % 256).toUInt8).reverse

/-- A text of fewer than 2^32 bytes. -/
def putText (s : Bytes) : Bytes :=
  let n := s.length
  (if n < 32 then [(0xa0 + n).toUInt8]
    else if n < 256 then 0xd9 :: bigEndian 1 n
    else if n < 65536 then 0xda :: bigEndian 2 n
    else 0xdb :: bigEndian 4 n) ++ s

/-- A byte string of fewer than 2^32 bytes. -/
def putBinary (s : Bytes) : Bytes :=
  let n := s.length
  (if n < 256 then 0xc4 :: bigEndian 1 n
    else if n < 65536 then 0xc5 :: bigEndian 2 n
    else 0xc6 :: bigEndian 4 n) ++ s

/-- An array of values that are already written. -/
def putArray (items : List Bytes) : Bytes :=
  let n := items.length
  (if n < 16 then [(0x90 + n).toUInt8]
    else if n < 65536 then 0xdc :: bigEndian 2 n
    else 0xdd :: bigEndian 4 n) ++ items.flatten

/-- A map of members whose values are already written. -/
def putMap (members : List (Bytes × Bytes)) : Bytes :=
  let n := members.length
  (if n < 16 then [(0x80 + n).toUInt8]
    else if n < 65536 then 0xde :: bigEndian 2 n
    else 0xdf :: bigEndian 4 n) ++ members.flatMap fun (k, v) => putText k ++ v

/-- The value nil. -/
def putNil : Bytes := [0xc0]

/-- The value true. -/
def putTrue : Bytes := [0xc3]

/-! ## Headers -/

/-- What a header says about the bytes behind it. -/
inductive Header where
  /-- The value nil. -/
  | nil
  /-- A truth value. -/
  | bool (b : Bool)
  /-- A text or byte string of the given length. -/
  | text (n : Nat)
  /-- So many values. -/
  | array (n : Nat)
  /-- So many pairs of values. -/
  | map (n : Nat)
  /-- A number or an extension with the given number of bytes. -/
  | raw (n : Nat)
  deriving DecidableEq, Repr

/-- A reader of a value from the front of a text. -/
abbrev Parser (α : Type) := Bytes → Option (α × Bytes)

/-- Exactly `n` bytes. -/
def bytes : Nat → Parser Bytes
  | 0, s => some ([], s)
  | _ + 1, [] => none
  | n + 1, c :: s =>
    match bytes n s with
    | some (t, r) => some (c :: t, r)
    | none => none

/-- What is left after a number of bytes is no longer than what was there. -/
theorem bytes_length {n : Nat} {s t r : Bytes} (h : bytes n s = some (t, r)) :
    r.length ≤ s.length := by
  induction n generalizing s t r with
  | zero => simp_all [bytes]
  | succ n ih =>
    cases s with
    | nil => simp [bytes] at h
    | cons c s =>
      cases hb : bytes n s with
      | none => simp [bytes, hb] at h
      | some p =>
        obtain ⟨t', r'⟩ := p
        have := ih hb
        simp [bytes, hb] at h
        simp only [List.length_cons]
        have hr := h.2
        subst hr
        omega

/-- The number in the next `width` bytes. -/
def number (width : Nat) (s : Bytes) : Option (Nat × Bytes) :=
  (bytes width s).map fun (t, r) => (t.foldl (fun n b => 256 * n + b.toNat) 0, r)

/-- A header whose number is in the next `width` bytes. -/
def sized (width : Nat) (h : Nat → Header) (r : Bytes) : Option (Header × Bytes) :=
  match number width r with
  | some (n, r') => some (h n, r')
  | none => none

/-- The number of a header takes nothing back. -/
theorem sized_length {w : Nat} {f : Nat → Header} {r r' : Bytes} {h : Header}
    (e : sized w f r = some (h, r')) : r'.length ≤ r.length := by
  cases hb : bytes w r with
  | none => simp [sized, number, hb] at e
  | some p =>
    obtain ⟨t, q⟩ := p
    have hle := bytes_length hb
    simp [sized, number, hb] at e
    rw [← e.2]
    exact hle

/-- A header that starts with the byte `c`: what it says, and what follows it. -/
def headerAt (c : UInt8) (r : Bytes) : Option (Header × Bytes) :=
  let n := c.toNat
  if n < 0x80 then some (.raw 0, r)
  else if n < 0x90 then some (.map (n - 0x80), r)
  else if n < 0xa0 then some (.array (n - 0x90), r)
  else if n < 0xc0 then some (.text (n - 0xa0), r)
  else if n ≥ 0xe0 then some (.raw 0, r)
  else match n with
    | 0xc0 => some (.nil, r)
    | 0xc2 => some (.bool false, r)
    | 0xc3 => some (.bool true, r)
    | 0xc4 | 0xd9 => sized 1 .text r
    | 0xc5 | 0xda => sized 2 .text r
    | 0xc6 | 0xdb => sized 4 .text r
    | 0xc7 => sized 1 (fun m => .raw (m + 1)) r
    | 0xc8 => sized 2 (fun m => .raw (m + 1)) r
    | 0xc9 => sized 4 (fun m => .raw (m + 1)) r
    | 0xcc | 0xd0 => some (.raw 1, r)
    | 0xcd | 0xd1 | 0xd4 => some (.raw 2, r)
    | 0xd5 => some (.raw 3, r)
    | 0xca | 0xce | 0xd2 => some (.raw 4, r)
    | 0xd6 => some (.raw 5, r)
    | 0xcb | 0xcf | 0xd3 => some (.raw 8, r)
    | 0xd7 => some (.raw 9, r)
    | 0xd8 => some (.raw 17, r)
    | 0xdc => sized 2 .array r
    | 0xdd => sized 4 .array r
    | 0xde => sized 2 .map r
    | 0xdf => sized 4 .map r
    | _ => none

/-- A header takes nothing back. -/
theorem headerAt_length {c : UInt8} {r r' : Bytes} {h : Header}
    (e : headerAt c r = some (h, r')) : r'.length ≤ r.length := by
  have same : ∀ {g : Header}, some (g, r) = some (h, r') → r'.length ≤ r.length := by
    intro g hg
    simp only [Option.some.injEq, Prod.mk.injEq] at hg
    exact Nat.le_of_eq (congrArg List.length hg.2.symm)
  unfold headerAt at e
  dsimp only at e
  split at e; · exact same e
  split at e; · exact same e
  split at e; · exact same e
  split at e; · exact same e
  split at e; · exact same e
  split at e <;> first | exact same e | exact sized_length e | cases e

/-- The header at the front of a text. -/
def header? : Bytes → Option (Header × Bytes)
  | [] => none
  | c :: r => headerAt c r

/-- A header takes at least one byte. -/
theorem header?_length {s r : Bytes} {h : Header} (e : header? s = some (h, r)) :
    r.length < s.length := by
  cases s with
  | nil => simp [header?] at e
  | cons c s => exact Nat.lt_succ_of_le (headerAt_length e)

/-! ## Values -/

/-- What follows the next `pending` values. -/
def skip (pending : Nat) (s : Bytes) : Option Bytes :=
  match pending with
  | 0 => some s
  | pending + 1 =>
    match he : header? s with
    | none => none
    | some (h, r) =>
      match h with
      | .nil | .bool _ => skip pending r
      | .array n => skip (n + pending) r
      | .map n => skip (2 * n + pending) r
      | .text n | .raw n =>
        match hb : bytes n r with
        | none => none
        | some (_, r') =>
          have := bytes_length hb
          skip pending r'
termination_by s.length
decreasing_by
  all_goals
    have := header?_length he
    omega

/-- A text; nil is empty. -/
def text : Parser Bytes := fun s =>
  match header? s with
  | some (.nil, r) => some ([], r)
  | some (.text n, r) => bytes n r
  | _ => none

/-- A truth value; nil is false. -/
def flag : Parser Bool := fun s =>
  match header? s with
  | some (.nil, r) => some (false, r)
  | some (.bool b, r) => some (b, r)
  | _ => none

/-- `n` values. -/
def many (p : Parser α) : Nat → Parser (List α)
  | 0, s => some ([], s)
  | n + 1, s =>
    match p s with
    | some (v, r) =>
      match many p n r with
      | some (vs, r') => some (v :: vs, r')
      | none => none
    | none => none

/-- An array of values; nil is none. -/
def array? (p : Parser α) : Parser (Option (List α)) := fun s =>
  match header? s with
  | some (.nil, r) => some (none, r)
  | some (.array n, r) => (many p n r).map fun (vs, r') => (some vs, r')
  | _ => none

/-- `n` values, each read onto what stands in its place, or onto `zero` where nothing does. -/
def manyOnto (p : α → Parser α) (zero : α) : Nat → List α → Parser (List α)
  | 0, _, s => some ([], s)
  | n + 1, old, s =>
    match p (old.headD zero) s with
    | some (v, r) =>
      match manyOnto p zero n old.tail r with
      | some (vs, r') => some (v :: vs, r')
      | none => none
    | none => none

/-- An array whose values are read onto those that were there before; nil leaves nothing. -/
def slots (p : α → Parser α) (zero : α) (old : Slots α) : Parser (Slots α) := fun s =>
  match header? s with
  | some (.nil, r) => some ({}, r)
  | some (.array n, r) => (manyOnto p zero n old.places r).map fun (vs, r') => (old.refill vs, r')
  | _ => none

/-- How the members of a record are read: each by its name, onto the record so far. -/
abbrev Fields (σ : Type) := List (Bytes × (σ → Parser σ))

/-- The member of a name. -/
def Fields.find? (fs : Fields σ) (name : Bytes) : Option (σ → Parser σ) :=
  (List.find? (fun f => f.1 = name) fs).map Prod.snd

/-- `n` members in any order, those of unknown names skipped. -/
def members (fs : Fields σ) : Nat → σ → Parser σ
  | 0, v, s => some (v, s)
  | n + 1, v, s =>
    match text s with
    | none => none
    | some (name, r) =>
      match fs.find? name with
      | some p =>
        match p v r with
        | some (v', r') => members fs n v' r'
        | none => none
      | none =>
        match skip 1 r with
        | some r' => members fs n v r'
        | none => none

/-- All members in order. -/
def inOrder : Fields σ → σ → Parser σ
  | [], v, s => some (v, s)
  | (_, p) :: fs, v, s =>
    match p v s with
    | some (v', r) => inOrder fs v' r
    | none => none

/-- **A record** read onto another one, as a map or as an array with exactly its members; nil
and the empty array are the record `zero`. -/
def record (fs : Fields σ) (zero old : σ) : Parser σ := fun s =>
  match header? s with
  | some (.nil, r) => some (zero, r)
  | some (.map n, r) => members fs n old r
  | some (.array n, r) =>
    if n = 0 then some (zero, r)
    else if n = fs.length then inOrder fs old r
    else none
  | _ => none

end Stencil.Msgpack
