import Mathlib.Data.List.Nodup
import Stencil.Proofs.Cache.Keeps

/-!
# A cache by size and recency

What a cache holds, in the order in which it was last used, is read off its links from the head on
(`recency`). Nothing else about the cache matters for what its calls do, but for the limits and the
counts: this module says what each call does to that list.

Storing puts an answer in front and keeps as many of the other entries as there is room for, from
the front on; since entries have sizes of all kinds, zero among them, the entries that stay are the
longest initial part that fits and not merely one that does (`IsLongestFitting`). This takes sizes
that a word can add up; where their sum wraps around, more stays than there is room for
(`recency_of_fill`). A lookup moves an entry to the front, or takes it out if it is too old. In
between nothing changes places.

That a lookup gives back what was stored last is a statement about the past, which a cache does not
have; `stored` is that past, and every entry is the last one of its key there.
`acts_by_recency_of_calls` says all of this for every cache that calls lead to.
-/

namespace Stencil

namespace LinkedList

variable {α : Type} {l : LinkedList α}

/-- The places from one on up to the tail, as far as so many links lead. -/
def placesFrom (l : LinkedList α) : Nat → Nat → List Nat
  | 0, _ => []
  | links + 1, i => if i = tail then [] else i :: placesFrom l links (l.next i)

/-- **The places that the links lead through**, from the head on. -/
def places (l : LinkedList α) : List Nat := l.placesFrom l.links.size (l.next head)

theorem placesFrom_next {order : List Nat} {i links : Nat}
    (hlinked : (i :: (order ++ [tail])).IsChain l.Linked) (htail : tail ∉ order)
    (hlinks : order.length ≤ links) : l.placesFrom links (l.next i) = order := by
  induction order generalizing i links with
  | nil =>
    rw [(List.isChain_pair.1 hlinked).1]
    cases links with
    | zero => rfl
    | succ links => exact if_pos rfl
  | cons j order ih =>
    obtain ⟨⟨hnext, -⟩, hrest⟩ := List.isChain_cons_cons.1 hlinked
    obtain ⟨hj, htail⟩ := not_or.1 (List.mem_cons.not.1 htail)
    obtain ⟨links, rfl⟩ : ∃ n, links = n + 1 := Nat.exists_eq_succ_of_ne_zero (by
      rintro rfl
      exact absurd hlinks (Nat.not_succ_le_zero _))
    rw [hnext, placesFrom, if_neg (Ne.symm hj),
      ih hrest htail (Nat.le_of_succ_le_succ hlinks)]

/-- A list that has an order leads through it. -/
theorem Lists.places_eq {order : List Nat} (h : l.Lists order) : l.places = order := by
  have hroom : (head :: (order ++ [tail])).length ≤ l.links.size := by
    have hsub := List.subperm_of_subset h.nodup fun i hi => List.mem_range.2 (h.allocated i hi)
    simpa using hsub.length_le
  refine placesFrom_next h.linked (fun hmem => ?_) (by simp at hroom; omega)
  have htail := (List.nodup_append.1 (List.nodup_cons.1 h.nodup).2).2.2
  exact htail tail hmem tail (List.mem_singleton_self _) rfl

end LinkedList

namespace Cache

variable {c : Cache} {kept before after : List (Nat × CacheEntry)} {i : Nat} {e : CacheEntry}
  {key : Bytes} {now later : Int} {result : Compile.Result}

/-- **What a cache holds**, the latest used first. -/
def recency (c : Cache) : List CacheEntry := c.order.places.filterMap c.order.value?

/-- What a cache holds under other keys. -/
def others (c : Cache) (key : Bytes) : List CacheEntry := c.recency.filter fun e => e.key ≠ key

/-- **The longest initial part of entries that there is room for.** -/
structure IsLongestFitting (room : Int) (es kept : List CacheEntry) : Prop where
  isPrefix : kept <+: es
  fits : totalWeight kept ≤ room
  longest : ∀ more, more <+: es → totalWeight more ≤ room → more <+: kept

/-- The links lead through what is kept, in order. -/
theorem Keeps.recency_eq (h : c.Keeps kept) : c.recency = kept.map Prod.snd := by
  rw [recency, h.listed.places_eq, List.filterMap_map]
  rw [← List.filterMap_eq_map]
  refine List.filterMap_congr fun p hp => ?_
  exact h.held p hp

/-- What stands at a place of the list is held. -/
theorem Keeps.mem_recency (h : c.Keeps (before ++ (i, e) :: after)) : e ∈ c.recency := by
  rw [h.recency_eq, List.map_append]
  exact List.mem_append_right _ List.mem_cons_self

/-- What is held under other keys is in the same order. -/
theorem Keeps.others_eq (h : c.Keeps kept) (key : Bytes) :
    c.others key = (kept.filter fun p => p.2.key ≠ key).map Prod.snd := by
  rw [others, h.recency_eq, List.filter_map]
  rfl

/-! ## Limits -/

theorem lifetime_remove : (c.remove i).lifetime = c.lifetime := by
  rw [remove]
  split <;> rfl

theorem lifetime_evict {extra : Int64} {rounds : Nat} :
    (c.evict extra rounds).lifetime = c.lifetime := by
  induction rounds generalizing c with
  | zero => rfl
  | succ rounds ih =>
    rw [evict]
    split
    · exact ih.trans lifetime_remove
    · rfl

theorem lifetime_insert : (c.insert e).lifetime = c.lifetime := by rw [insert]

@[simp] theorem lifetime_set : (c.set now key result).lifetime = c.lifetime := by
  rw [set]
  split
  · rfl
  · rw [lifetime_insert, makeRoom, lifetime_evict]
    split
    · exact lifetime_remove
    · rfl

@[simp] theorem capacity_set : (c.set now key result).capacity = c.capacity := by
  rw [set]
  split
  · rfl
  · rw [capacity_insert, (makeRoom_frame _ _).1]
    split
    · exact capacity_remove
    · rfl

@[simp] theorem capacity_get : (c.get now key).2.capacity = c.capacity := by
  rw [get]
  split
  · rfl
  · split
    · exact capacity_remove
    · rfl

@[simp] theorem lifetime_get : (c.get now key).2.lifetime = c.lifetime := by
  rw [get]
  split
  · rfl
  · split
    · exact lifetime_remove
    · rfl

/-! ## Storing -/

/-- A part that fits is the longest if it does not fit any more with the next entry. -/
theorem isLongestFitting_of_next {room : Int} {stay gone : List CacheEntry}
    (hweight : ∀ e ∈ gone, 0 ≤ e.weight.toInt) (hfits : totalWeight stay ≤ room)
    (hnext : ∀ e rest, gone = e :: rest → room < totalWeight (stay ++ [e])) :
    IsLongestFitting room (stay ++ gone) stay where
  isPrefix := List.prefix_append ..
  fits := hfits
  longest more hmore hlight := by
    rcases List.prefix_or_prefix_of_prefix hmore (List.prefix_append ..) with hin | ⟨extra, rfl⟩
    · exact hin
    rw [List.prefix_append_right_inj] at hmore
    cases extra with
    | nil => exact (List.append_nil stay).symm ▸ List.prefix_rfl
    | cons e extra =>
      -- a longer part would hold the next entry
      obtain ⟨rest, rfl⟩ := hmore
      have hextra : 0 ≤ totalWeight extra := totalWeight_nonneg fun e' he' =>
        hweight e' (List.mem_append_left _ (List.mem_cons_of_mem _ he'))
      have hfull := hnext e (extra ++ rest) rfl
      rw [← List.singleton_append, ← List.append_assoc, totalWeight_append] at hlight
      omega

/-- **Storing an answer that is not larger than the cache** puts it in front of an initial part of
the others, and counts those that had to go. -/
theorem Keeps.recency_set (h : c.Keeps kept) (now : Int) (key : Bytes)
    (hfits : result.weight ≤ c.capacity) :
    ∃ stay gone, c.others key = stay ++ gone
      ∧ (c.set now key result).recency = ⟨key, result, result.weight, now⟩ :: stay
      ∧ (c.set now key result).evictions = c.evictions + gone.length := by
  obtain ⟨i, left, gone, hsplit, hset, -, -, -, -, -, hcount⟩ :=
    h.set now key (Int64.not_lt.2 hfits)
  refine ⟨left.map Prod.snd, gone.map Prod.snd, ?_, hset.recency_eq, ?_⟩
  · rw [h.others_eq, hsplit, List.map_append]
  · rw [hcount, List.length_map]

/-- **An answer that is admitted leaves as many others as there is room for**, which is the longest
initial part that fits: no sum of sizes wraps around then. -/
theorem Holds.isLongestFitting_set (h : c.Holds kept) (now : Int) (key : Bytes)
    (hadmits : Admits c.capacity result) (hfits : result.weight ≤ c.capacity) :
    ∃ stay, IsLongestFitting (c.capacity.toInt - result.weight.toInt) (c.others key) stay
      ∧ (c.set now key result).recency = ⟨key, result, result.weight, now⟩ :: stay := by
  have hlarge := Int64.not_lt.2 hfits
  obtain ⟨i, left, gone, hsplit, hset, hleft, hnext, -⟩ := h.toKeeps.set now key hlarge
  obtain ⟨hroom, hgone⟩ := h.room hadmits hlarge hsplit hleft hnext
  have hweight : ∀ e ∈ gone.map Prod.snd, 0 ≤ e.weight.toInt := List.forall_mem_map.2 fun p hp =>
    h.nonneg p (List.mem_of_mem_filter (hsplit ▸ List.mem_append_right left hp))
  refine ⟨left.map Prod.snd, ?_, hset.recency_eq⟩
  rw [h.others_eq, hsplit, List.map_append]
  refine isLongestFitting_of_next hweight (by omega) fun e rest heq => ?_
  obtain ⟨p, rest, rfl, rfl, -⟩ := List.map_eq_cons_iff.1 heq
  have hfull := hgone p rest rfl
  rw [List.map_append, List.map_singleton] at hfull
  omega

/-! ## Looking up -/

/-- **An age is longer than a lifetime** if so much time has gone by; but a lifetime that is the
longest duration never ends, since no age is longer. -/
theorem lt_age_iff {lifetime : Int64} {now earlier : Int} :
    lifetime < age now earlier
      ↔ lifetime.toInt < now - earlier ∧ lifetime ≠ Int64.maxValue := by
  have hlow := lifetime.le_toInt
  have hhigh := lifetime.toInt_lt
  have hmax : lifetime ≠ Int64.maxValue ↔ lifetime.toInt ≠ 2 ^ 63 - 1 := by
    rw [← Int64.toInt_maxValue, ne_eq, ne_eq, Int64.toInt_inj]
  rw [hmax, Int64.lt_iff_toInt_lt, age, Int64.ofIntClamp]
  split
  · next hmin =>
    split
    · next hle =>
      rw [Int64.toInt_ofIntLE]
      rw [Int64.toInt_maxValue] at hle
      omega
    · next hgt =>
      rw [Int64.toInt_maxValue] at hgt ⊢
      omega
  · next hmin =>
    rw [Int64.toInt_minValue] at hmin ⊢
    omega

/-- A cache has one entry of a key at most. -/
theorem Keeps.eq_of_key {e' : CacheEntry} (h : c.Keeps kept) (he : e ∈ c.recency)
    (he' : e' ∈ c.recency) (hkey : e.key = e'.key) : e = e' := by
  rw [h.recency_eq] at he he'
  obtain ⟨p, hp, rfl⟩ := List.mem_map.1 he
  obtain ⟨p', hp', rfl⟩ := List.mem_map.1 he'
  rw [List.inj_on_of_nodup_map h.distinct hp hp' hkey]

/-- **What is kept is found**, and is in front of the others then, unless it is too old, when it is
taken out. -/
theorem Keeps.recency_get_mem (h : c.Keeps kept) (he : e ∈ c.recency) (now : Int) :
    (age now e.storedAt ≤ c.lifetime → (c.get now e.key).1 = some e.result
        ∧ (c.get now e.key).2.recency = e :: c.others e.key)
      ∧ (c.lifetime < age now e.storedAt → (c.get now e.key).1 = none
        ∧ (c.get now e.key).2.recency = c.others e.key) := by
  rcases h.get now e.key with ⟨-, hkeys⟩ | ⟨before, i, e', after, rfl, hkey, hget⟩
  · rw [h.recency_eq] at he
    obtain ⟨p, hp, rfl⟩ := List.mem_map.1 he
    exact absurd rfl (hkeys p hp)
  obtain rfl : e' = e := h.eq_of_key h.mem_recency he hkey
  have hothers : c.others e'.key = (before ++ after).map Prod.snd := by
    rw [h.others_eq, h.filter_key_ne]
  refine ⟨fun hfresh => ?_, fun hold => ?_⟩
  · rcases hget with ⟨hold, -⟩ | ⟨-, heq⟩
    · exact absurd hfresh (Int64.not_le.2 hold)
    · rw [heq, hothers]
      exact ⟨rfl, (h.touch _).recency_eq⟩
  · rcases hget with ⟨-, heq⟩ | ⟨hfresh, -⟩
    · rw [heq, hothers]
      exact ⟨rfl, (h.remove.count _ _).recency_eq⟩
    · exact absurd hfresh (Int64.not_le.2 hold)

/-- What is not kept is not found. -/
theorem Keeps.recency_get_absent (h : c.Keeps kept) (hkey : ∀ e ∈ c.recency, e.key ≠ key)
    (now : Int) : (c.get now key).1 = none ∧ (c.get now key).2.recency = c.recency := by
  rcases h.get now key with ⟨heq, -⟩ | ⟨before, i, e, after, rfl, rfl, -⟩
  · rw [heq]
    exact ⟨rfl, rfl⟩
  · exact absurd rfl (hkey e h.mem_recency)

/-- An answer that is found is given, whatever would have been computed. -/
theorem getOrCompute_of_some (h : (c.get now key).1 = some result)
    (compute : Except Failure Compile.Result) :
    c.getOrCompute now key compute later = (.ok (result, true), (c.get now key).2) := by
  rw [getOrCompute]
  generalize c.get now key = got at h ⊢
  obtain ⟨found, d⟩ := got
  obtain rfl : found = some result := h
  rfl

/-- If none is found, what is computed is given, and is stored unless it is a failure. -/
theorem getOrCompute_of_none (h : (c.get now key).1 = none)
    (compute : Except Failure Compile.Result) :
    c.getOrCompute now key compute later
      = (compute.map fun r => (r, false), match compute with
          | .error _ => (c.get now key).2
          | .ok r => (c.get now key).2.set later key r) := by
  rw [getOrCompute]
  generalize c.get now key = got at h ⊢
  obtain ⟨found, d⟩ := got
  obtain rfl : found = none := h
  cases compute <;> rfl

/-! ## The past -/

/-- The entry that storing an answer makes, unless the answer is too large. -/
def written (c : Cache) (now : Int) (key : Bytes) (result : Compile.Result) : Option CacheEntry :=
  if c.capacity < result.weight then none else some ⟨key, result, result.weight, now⟩

/-- The entry that a call makes, if it stores an answer: an answer is also stored if it was looked
up in vain and then computed. -/
def Call.written (c : Cache) : Call → Option CacheEntry
  | .get .. => none
  | .set now key result => c.written now key result
  | .getOrCompute now later key compute =>
    match (c.get now key).1 with
    | some _ => none
    | none => compute.toOption.bind (c.written later key)

/-- **What calls store**, the last first. -/
def stored (c : Cache) : List Call → List CacheEntry
  | [] => []
  | call :: calls => stored (call.run c) calls ++ (call.written c).toList

/-- A cache whose entries are what was stored last under their keys. -/
structure Recalls (c : Cache) (stored : List CacheEntry) : Prop where
  keeps : ∃ kept, c.Keeps kept
  latest : ∀ e ∈ c.recency, stored.find? (fun e' => e'.key = e.key) = some e

variable {past : List CacheEntry}

/-- A new cache has nothing to recall. -/
theorem recalls_new (capacity lifetime : Int64) : Recalls { capacity, lifetime } [] where
  keeps := ⟨[], keeps_new capacity lifetime⟩
  latest e he := by
    rw [(keeps_new capacity lifetime).recency_eq] at he
    cases he

/-- Entries that were there before are still those that were stored last. -/
theorem Recalls.of_subset {d : Cache} {kept' : List (Nat × CacheEntry)} (h : c.Recalls past)
    (hkept : c.Keeps kept) (hd : d.Keeps kept') (hsub : kept' ⊆ kept) : d.Recalls past where
  keeps := ⟨kept', hd⟩
  latest e he := by
    refine h.latest e ?_
    rw [hd.recency_eq] at he
    rw [hkept.recency_eq]
    exact List.map_subset _ hsub he

/-- A lookup stores nothing, and what it leaves was there before. -/
theorem Recalls.get (h : c.Recalls past) (now : Int) (key : Bytes) :
    (c.get now key).2.Recalls past := by
  obtain ⟨kept, hkept⟩ := h.keeps
  rcases hkept.get now key with ⟨heq, -⟩ | ⟨before, i, e, after, rfl, -, ⟨-, heq⟩ | ⟨-, heq⟩⟩ <;>
    rw [heq]
  · exact h.of_subset hkept (hkept.count _ _) (List.Subset.refl _)
  · exact h.of_subset hkept (hkept.remove.count _ _)
      (List.append_subset.2 ⟨List.subset_append_left .., fun p hp =>
        List.mem_append_right _ (List.mem_cons_of_mem _ hp)⟩)
  · exact h.of_subset hkept (hkept.touch _) List.perm_middle.symm.subset

/-- **An answer that is stored** is the last one of its key, and the entries that stay have other
keys. -/
theorem Recalls.set (h : c.Recalls past) (now : Int) (key : Bytes) (result : Compile.Result) :
    (c.set now key result).Recalls ((c.written now key result).toList ++ past) := by
  by_cases hlarge : c.capacity < result.weight
  · rw [Cache.set, if_pos hlarge, written, if_pos hlarge]
    exact h
  obtain ⟨kept, hkept⟩ := h.keeps
  obtain ⟨i, left, gone, hsplit, hset, -⟩ := hkept.set now key hlarge
  rw [written, if_neg hlarge]
  refine ⟨⟨_, hset⟩, fun e he => ?_⟩
  rw [hset.recency_eq, List.map_cons] at he
  rcases List.mem_cons.1 he with rfl | he
  · exact List.find?_cons_of_pos (decide_eq_true rfl)
  · have hother : e ∈ c.others key := by
      rw [hkept.others_eq, hsplit, List.map_append]
      exact List.mem_append_left _ he
    obtain ⟨hmem, hkey⟩ := List.mem_filter.1 hother
    refine (List.find?_cons_of_neg ?_).trans (h.latest e hmem)
    simpa using (of_decide_eq_true hkey).symm

/-- **What one call adds to the past** is the entry that it makes, if it makes one. -/
theorem Recalls.run (h : c.Recalls past) (call : Call) :
    (call.run c).Recalls ((call.written c).toList ++ past) := by
  cases call with
  | get now key => exact h.get now key
  | set now key result => exact h.set now key result
  | getOrCompute now later key compute =>
    have hget := h.get now key
    rw [Call.run, Call.written]
    cases hfound : (c.get now key).1 with
    | some result =>
      rw [getOrCompute_of_some hfound]
      exact hget
    | none =>
      rw [getOrCompute_of_none hfound]
      cases compute with
      | error e => exact hget
      | ok result =>
        have hset := hget.set later key result
        rw [Cache.written, capacity_get] at hset
        exact hset

/-- **Every entry is the last one of its key**, by induction on the calls. -/
theorem Recalls.calls (h : c.Recalls past) (calls : List Call) :
    (calls.foldl Call.run c).Recalls (stored c calls ++ past) := by
  induction calls generalizing c past with
  | nil => exact h
  | cons call calls ih =>
    rw [stored, List.append_assoc]
    exact ih (h.run call)

/-- Calls do not change how much a cache holds and for how long. -/
theorem limits_run (c : Cache) (call : Call) :
    (call.run c).capacity = c.capacity ∧ (call.run c).lifetime = c.lifetime := by
  cases call with
  | get now key => exact ⟨capacity_get, lifetime_get⟩
  | set now key result => exact ⟨capacity_set, lifetime_set⟩
  | getOrCompute now later key compute =>
    have hget : (c.get now key).2.capacity = c.capacity ∧ (c.get now key).2.lifetime = c.lifetime :=
      ⟨capacity_get, lifetime_get⟩
    rw [Call.run]
    cases hfound : (c.get now key).1 with
    | some result =>
      rw [getOrCompute_of_some hfound]
      exact hget
    | none =>
      rw [getOrCompute_of_none hfound]
      cases compute with
      | error e => exact hget
      | ok result => exact ⟨capacity_set.trans hget.1, lifetime_set.trans hget.2⟩

/-- Nor do any number of them. -/
theorem limits_calls (c : Cache) (calls : List Call) :
    (calls.foldl Call.run c).capacity = c.capacity
      ∧ (calls.foldl Call.run c).lifetime = c.lifetime := by
  induction calls generalizing c with
  | nil => exact ⟨rfl, rfl⟩
  | cons call calls ih =>
    obtain ⟨hcapacity, hlifetime⟩ := limits_run c call
    exact (ih (call.run c)).imp (·.trans hcapacity) (·.trans hlifetime)

/-- **What the calls of a cache do**, said by what it holds in which order and by what calls stored
before, the last first. -/
structure ActsByRecency (c : Cache) (stored : List CacheEntry) : Prop where
  /-- An answer that fits comes first, followed by an initial part of the others. -/
  set_of_fits : ∀ now key (result : Compile.Result), result.weight ≤ c.capacity →
    ∃ stay gone, c.others key = stay ++ gone
      ∧ (c.set now key result).recency = ⟨key, result, result.weight, now⟩ :: stay
      ∧ (c.set now key result).evictions = c.evictions + gone.length
  /-- A larger one changes nothing. -/
  set_of_large : ∀ now key (result : Compile.Result), c.capacity < result.weight →
    c.set now key result = c
  /-- Every entry is what was stored last under its key. -/
  latest : ∀ e ∈ c.recency, stored.find? (fun e' => e'.key = e.key) = some e
  /-- What is kept and not too old is found, and comes first then. Nothing is too old for a
  lifetime that is the longest duration. -/
  get_of_fresh : ∀ now, ∀ e ∈ c.recency,
    now - e.storedAt ≤ c.lifetime.toInt ∨ c.lifetime = Int64.maxValue →
    (c.get now e.key).1 = some e.result ∧ (c.get now e.key).2.recency = e :: c.others e.key
  /-- What is too old is taken out, and all else stays where it is. -/
  get_of_expired : ∀ now, ∀ e ∈ c.recency,
    c.lifetime.toInt < now - e.storedAt → c.lifetime ≠ Int64.maxValue →
    (c.get now e.key).1 = none ∧ (c.get now e.key).2.recency = c.others e.key
  /-- What is not kept is not found. -/
  get_of_absent : ∀ now key, (∀ e ∈ c.recency, e.key ≠ key) →
    (c.get now key).1 = none ∧ (c.get now key).2.recency = c.recency
  /-- An answer that is found is given, whatever would have been computed. -/
  getOrCompute_of_found : ∀ now later key result, (c.get now key).1 = some result → ∀ compute,
    c.getOrCompute now key compute later = (.ok (result, true), (c.get now key).2)
  /-- Otherwise what is computed is given, and is stored if it is no failure. -/
  getOrCompute_of_not_found : ∀ now later key, (c.get now key).1 = none →
    (∀ result, c.getOrCompute now key (.ok result) later
      = (.ok (result, false), (c.get now key).2.set later key result))
    ∧ ∀ failure, c.getOrCompute now key (.error failure) later
      = (.error failure, (c.get now key).2)
  /-- So what would be computed is asked for exactly if nothing is found. -/
  asks_iff_not_found : ∀ now later key,
    (∃ compute compute', c.getOrCompute now key compute later
      ≠ c.getOrCompute now key compute' later) ↔ (c.get now key).1 = none

/-- **Storing goes by size**: of the other entries, as many stay as there is room for beside an
answer that the cache admits. -/
def FillsRoom (c : Cache) : Prop :=
  ∀ now key (result : Compile.Result), Admits c.capacity result → result.weight ≤ c.capacity →
    ∃ stay, IsLongestFitting (c.capacity.toInt - result.weight.toInt) (c.others key) stay
      ∧ (c.set now key result).recency = ⟨key, result, result.weight, now⟩ :: stay

/-- What would be computed matters exactly if nothing is found. -/
theorem getOrCompute_ne_iff : (∃ compute compute', c.getOrCompute now key compute later
      ≠ c.getOrCompute now key compute' later) ↔ (c.get now key).1 = none := by
  constructor
  · rintro ⟨compute, compute', hne⟩
    cases hfound : (c.get now key).1 with
    | none => rfl
    | some result =>
      rw [getOrCompute_of_some hfound, getOrCompute_of_some hfound] at hne
      exact absurd rfl hne
  · intro hnone
    refine ⟨.error (.plain []), .error (.plain [0]), fun heq => ?_⟩
    rw [getOrCompute_of_none hnone, getOrCompute_of_none hnone] at heq
    simp [Except.map] at heq

/-- A cache that recalls what was stored goes by it. -/
theorem Recalls.actsByRecency (h : c.Recalls past) (hkept : c.Keeps kept) :
    c.ActsByRecency past where
  set_of_fits now key result hfits := hkept.recency_set now key hfits
  set_of_large now key result hlarge := by rw [Cache.set, if_pos hlarge]
  latest := h.latest
  get_of_fresh now e he hfresh := by
    refine (hkept.recency_get_mem he now).1 (Int64.not_lt.1 fun hold => ?_)
    obtain ⟨hlonger, hends⟩ := lt_age_iff.1 hold
    rcases hfresh with hfresh | hendless
    · omega
    · exact hends hendless
  get_of_expired now e he hlonger hends :=
    (hkept.recency_get_mem he now).2 (lt_age_iff.2 ⟨hlonger, hends⟩)
  get_of_absent now key hkey := hkept.recency_get_absent hkey now
  getOrCompute_of_found now later key result hfound compute := getOrCompute_of_some hfound compute
  getOrCompute_of_not_found now later key hnone :=
    ⟨fun result => getOrCompute_of_none hnone (.ok result),
      fun failure => getOrCompute_of_none hnone (.error failure)⟩
  asks_iff_not_found now later key := getOrCompute_ne_iff

/-- **A cache goes by size and recency.** Take a cache of any capacity and lifetime after any calls,
whatever the clock shows at each of them, and what it holds, in the order of its links. Storing an
answer that fits leaves it in front of an initial part of the entries of other keys, and counts the
entries that had to go; storing a larger one changes nothing. Looking up a key finds it if there is
an entry of it that is not older than the lifetime, gives what was stored last under it and moves
the entry to the front; an entry that is older is taken out, and a key that is not there changes
nothing in the order. An answer is computed only if looking it up finds none, and a failure is not
stored.

If the cache admits all answers that the calls may store, and the one that is stored, then the
initial part that stays is the longest one that fits beside it. -/
theorem acts_by_recency_of_calls (capacity lifetime : Int64) (calls : List Call) :
    let new : Cache := { capacity, lifetime }
    let c := calls.foldl Call.run new
    c.capacity = capacity ∧ c.lifetime = lifetime ∧ c.ActsByRecency (new.stored calls)
      ∧ ((∀ call ∈ calls, ∀ r ∈ call.answer?, Admits capacity r) → c.FillsRoom) := by
  intro new c
  obtain ⟨hcapacity, hlifetime⟩ := limits_calls new calls
  obtain ⟨kept, hkept, hholds, -⟩ := (keeps_new capacity lifetime).calls calls
  have hrecalls := (recalls_new capacity lifetime).calls calls
  rw [List.append_nil] at hrecalls
  exact ⟨hcapacity, hlifetime, hrecalls.actsByRecency hkept, fun hadmits now key _ =>
    (hholds (holds_new capacity lifetime) hadmits).isLongestFitting_set now key⟩

/-- An entry of no size stays where a larger one behind it has to go. -/
theorem acts_by_recency_of_empty_answer :
    let answer : Nat → Compile.Result := fun n => ⟨some (List.replicate n 0), []⟩
    let calls := [Call.set 0 [97] (answer 3), .set 0 [98] (answer 0), .set 0 [99] (answer 3)]
    let new : Cache := { capacity := 5, lifetime := 5 }
    let c := calls.foldl Call.run new
    c.ActsByRecency (new.stored calls) ∧ c.FillsRoom
      ∧ c.recency.map CacheEntry.key = [[99], [98]] ∧ c.evictions = 1 := by
  intro answer calls new c
  have hadmits : ∀ call ∈ calls, ∀ r ∈ call.answer?, Admits 5 r := by
    intro call hcall r hr
    refine admits_of_lt (by decide) ?_
    simp only [calls, List.mem_cons, List.not_mem_nil, or_false] at hcall
    rcases hcall with rfl | rfl | rfl <;> cases hr <;> decide
  obtain ⟨-, -, hacts, hfills⟩ := acts_by_recency_of_calls 5 5 calls
  exact ⟨hacts, hfills hadmits, by decide, by decide⟩

/-! ## Sizes that wrap around -/

/-- A cache of the largest capacity that is filled has all the entries, the longest key first. -/
theorem recency_fill (lifetime : Int64) (result : Compile.Result) (keys : Nat) :
    let c := (fill result keys).foldl Call.run { capacity := Int64.maxValue, lifetime }
    c.capacity = Int64.maxValue
      ∧ c.recency = (List.range keys).reverse.map fun n =>
          ⟨List.replicate n 0, result, result.weight, 0⟩ := by
  obtain ⟨kept, hkept, hcapacity, hentries⟩ := exists_keeps_fill lifetime result keys
  exact ⟨hcapacity, hkept.recency_eq.trans hentries⟩

/-- **No entry goes although there is no room**: if the entries of a cache of the largest capacity
and one more would take more than that together, they all stay nevertheless. -/
theorem recency_set_fill (lifetime : Int64) (result : Compile.Result) (keys : Nat)
    (hfull : Int64.maxValue.toInt < (keys + 1) * result.weight.toInt) :
    let key : Bytes := List.replicate keys 0
    let c := (fill result keys).foldl Call.run { capacity := Int64.maxValue, lifetime }
    result.weight ≤ c.capacity
      ∧ (c.set 0 key result).recency = ⟨key, result, result.weight, 0⟩ :: c.others key
      ∧ ¬ IsLongestFitting (c.capacity.toInt - result.weight.toInt) (c.others key)
        (c.others key) := by
  intro key c
  obtain ⟨hcapacity, hrecency⟩ := recency_fill lifetime result keys
  have hnext := (recency_fill lifetime result (keys + 1)).2
  rw [fill_succ, List.foldl_append, List.range_succ, List.reverse_append] at hnext
  have hothers : c.others key = c.recency := by
    rw [others, List.filter_eq_self, hrecency]
    intro e he
    obtain ⟨n, hn, rfl⟩ := List.mem_map.1 he
    have hlt := List.mem_range.1 (List.mem_reverse.1 hn)
    refine decide_eq_true fun heq => hlt.ne ?_
    simpa [key] using congrArg List.length heq
  rw [hothers, hcapacity]
  refine ⟨Int64.le_maxValue _, hnext.trans ?_, fun hfits => ?_⟩
  · rw [hrecency]
    rfl
  · have htotal := hfits.fits
    rw [hrecency, totalWeight_fill, List.length_reverse, List.length_range] at htotal
    rw [Int.add_mul, Int.one_mul] at hfull
    omega

/-- Each of 8191 keys has an answer of 2²⁰ diagnostics that share a message of a gigabyte, and one
more is stored. Together they would take more than the largest capacity, so that one of the others
would have to go; but the sum wraps around, and all stay. -/
theorem recency_of_fill :
    let result := sharedMessage (2 ^ 30) (2 ^ 20)
    let key : Bytes := List.replicate 8191 0
    let c := (fill result 8191).foldl Call.run { capacity := Int64.maxValue, lifetime := 0 }
    result.weight ≤ c.capacity
      ∧ (c.set 0 key result).recency = ⟨key, result, result.weight, 0⟩ :: c.others key
      ∧ ¬ IsLongestFitting (c.capacity.toInt - result.weight.toInt) (c.others key)
        (c.others key) := by
  refine recency_set_fill 0 (sharedMessage (2 ^ 30) (2 ^ 20)) 8191 ?_
  rw [weight_sharedMessage]
  decide

end Cache

end Stencil
