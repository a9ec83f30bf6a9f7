import Mathlib.Algebra.GroupWithZero.Nat
import Mathlib.Algebra.Order.BigOperators.Group.List
import Mathlib.Algebra.Order.Group.Int
import Mathlib.Algebra.Ring.Int.Defs
import Stencil.Cache
import Stencil.Proofs.Cache.LinkedList

/-!
# What a cache keeps

A cache has its entries in three places: the table finds them by key, the linked list has
them in order of use, and the weight is their sum. `Keeps c kept` says that the three agree:
they are about the entries `kept`, which are in order of use and each stand at a place of the
list.

A lookup moves an entry or drops it, and storing an answer drops entries and adds one. Each of
these steps is said in terms of `kept` alone (`Keeps.remove`, `Keeps.touch`, `Keeps.evict`,
`Keeps.insert`), and the agreement survives all of them, whatever the sizes are.

## Sizes that a word can count

The weight is a word of 64 bits, so it is the sum of the sizes only as far as that sum fits. A
cache asks for room by adding the size of the new answer to the weight; if this sum wraps
around, there seems to be room, nothing has to go, and the weight turns negative
(`weight_neg_of_fill`). `Admits capacity r` says that the sum cannot wrap around for the answer
`r`: its size and the capacity together fit. For a capacity below 2⁶² every answer is admitted
whose own size fits a word (`admits_of_lt`).

As long as only such answers are stored, the cache has the sizes right: `Holds c kept` adds to
the agreement that no size is negative and that together they are within the capacity. What a call
does to the two is said at once (`Keeps.exists_get`, `Keeps.exists_set`, `Keeps.run`): the agreement
survives without any proviso, and the sizes stay right if the answer is admitted. So every cache
that was built by calls is sound, whatever the clock showed at each of them (`sound_of_calls`): time
only decides which of two sound caches a lookup leaves behind.
-/

namespace Stencil

/-! ## Sizes -/

namespace Compile.Result

/-- How much memory an answer takes, in numbers that do not wrap around. -/
def memory (r : Compile.Result) : Nat := r.size + (r.diagnostics.map Diagnostic.memory).sum

/-- **The weight of an answer is its memory**, taken as a word. Both add up the module and the
diagnostics, so this is an induction on the diagnostics, from any weight on. -/
theorem weight_eq (r : Compile.Result) : r.weight = Int64.ofNat r.memory := by
  have hfold : ∀ (ds : List Diagnostic) (n : Nat),
      ds.foldl (fun w d => w + Int64.ofNat d.memory) (Int64.ofNat n)
        = Int64.ofNat (n + (ds.map Diagnostic.memory).sum) := by
    intro ds
    induction ds with
    | nil => exact fun n => rfl
    | cons d ds ih =>
      intro n
      rw [List.foldl_cons, ← Int64.ofNat_add, ih, List.map_cons, List.sum_cons, Nat.add_assoc]
  exact hfold r.diagnostics r.size

/-- The weight of an answer that fits a word is exact. -/
theorem toInt_weight {r : Compile.Result} (h : r.memory < 2 ^ 63) :
    r.weight.toInt = r.memory := by
  rw [weight_eq, Int64.toInt_ofNat_of_lt h]

end Compile.Result

namespace Cache

/-! ## Tables -/

/-- In a table whose keys are distinct, a key is found where it stands. -/
theorem lookup_eq_some_iff_mem {table : List (Bytes × Nat)} (h : (table.map Prod.fst).Nodup)
    {key : Bytes} {i : Nat} : table.lookup key = some i ↔ (key, i) ∈ table := by
  induction table with
  | nil => simp
  | cons p table ih =>
    obtain ⟨hp, htable⟩ := List.nodup_cons.mp h
    rw [List.lookup_cons, List.mem_cons]
    cases hkey : key == p.1 with
    | true =>
      obtain rfl := eq_of_beq hkey
      have hnot : (p.1, i) ∉ table := fun hmem => hp (List.mem_map.mpr ⟨_, hmem, rfl⟩)
      simp [hnot, Prod.ext_iff, eq_comm]
    | false =>
      have hne : (key, i) ≠ p := fun heq => (beq_eq_false_iff_ne.mp hkey) (congrArg Prod.fst heq)
      simp [hne, ih htable]

/-! ## What is kept -/

/-- **How much memory entries take together**, in numbers that do not wrap around. -/
def totalWeight (es : List CacheEntry) : Int := (es.map fun e => e.weight.toInt).sum

theorem totalWeight_cons (e : CacheEntry) (es : List CacheEntry) :
    totalWeight (e :: es) = e.weight.toInt + totalWeight es := by
  rw [totalWeight, List.map_cons, List.sum_cons]
  rfl

theorem totalWeight_append (es es' : List CacheEntry) :
    totalWeight (es ++ es') = totalWeight es + totalWeight es' := by
  rw [totalWeight, List.map_append, List.sum_append]
  rfl

/-- The order of entries does not matter for how much they take together. -/
theorem totalWeight_perm {es es' : List CacheEntry} (h : es.Perm es') :
    totalWeight es = totalWeight es' := (h.map _).sum_eq

/-- Weights that are not negative do not add up to less than nothing. -/
theorem totalWeight_nonneg {es : List CacheEntry} (h : ∀ e ∈ es, 0 ≤ e.weight.toInt) :
    0 ≤ totalWeight es := by
  refine List.sum_nonneg fun w hw => ?_
  obtain ⟨e, he, rfl⟩ := List.mem_map.1 hw
  exact h e he

/-- A part of entries takes no more than all of them. -/
theorem totalWeight_le_of_sublist {es es' : List CacheEntry} (h : es.Sublist es')
    (hweight : ∀ e ∈ es', 0 ≤ e.weight.toInt) : totalWeight es ≤ totalWeight es' := by
  refine (h.map _).sum_le_sum fun w hw => ?_
  obtain ⟨e, he, rfl⟩ := List.mem_map.1 hw
  exact hweight e he

/-- **Whether there is no room for more** can be told from the sizes, as long as a word can hold
their sum with what is to be added. Otherwise the sum wraps around and looks small. -/
theorem lt_totalWeight_iff {es : List CacheEntry} {capacity extra : Int64}
    (hlow : 0 ≤ totalWeight es + extra.toInt) (hhigh : totalWeight es + extra.toInt < 2 ^ 63) :
    capacity < Int64.ofInt (totalWeight es) + extra
      ↔ capacity.toInt < totalWeight es + extra.toInt := by
  have hsum : (Int64.ofInt (totalWeight es) + extra).toInt = totalWeight es + extra.toInt := by
    conv_lhs => rw [← Int64.ofInt_toInt extra, ← Int64.ofInt_add]
    exact Int64.toInt_ofInt_of_le (by omega) hhigh
  rw [Int64.lt_iff_toInt_lt, hsum]

/-- **The table, the list and the weight of a cache are those of the entries `kept`**, which are
in order of use, each with its place. The weight is the sum of their weights as words add up, so
it says how much memory they take if that fits a word. -/
structure Keeps (c : Cache) (kept : List (Nat × CacheEntry)) : Prop where
  /-- The links lead through the places of the entries, forwards and backwards. -/
  listed : c.order.Lists (kept.map Prod.fst)
  /-- Each entry stands at its place. -/
  held : ∀ p ∈ kept, c.order.value? p.1 = some p.2
  /-- The table has the keys of the entries, with their places, and nothing else. -/
  table : c.entries.Perm (kept.map fun p => (p.2.key, p.1))
  /-- No two entries have the same key. -/
  distinct : (kept.map fun p => p.2.key).Nodup
  /-- The size of an entry is that of its answer. -/
  weighed : ∀ p ∈ kept, p.2.weight = p.2.result.weight
  /-- The weight is the sum of the sizes, up to wrapping around. -/
  total : c.weight = Int64.ofInt (totalWeight (kept.map Prod.snd))

variable {c : Cache} {kept before after : List (Nat × CacheEntry)} {i : Nat} {e : CacheEntry}

/-- A new cache keeps nothing. -/
theorem keeps_new (capacity lifetime : Int64) : Keeps { capacity, lifetime } [] where
  listed := LinkedList.lists_empty
  held := by simp
  table := .nil
  distinct := .nil
  weighed := by simp
  total := rfl

/-- **The weight is exact** as long as a word can hold it. -/
theorem Keeps.toInt_weight (h : c.Keeps kept) (hlow : 0 ≤ totalWeight (kept.map Prod.snd))
    (hhigh : totalWeight (kept.map Prod.snd) < 2 ^ 63) :
    c.weight.toInt = totalWeight (kept.map Prod.snd) := by
  rw [h.total, Int64.toInt_ofInt_of_le (by omega) hhigh]

/-- There are as many entries in the table as places in the list. -/
theorem Keeps.length_entries (h : c.Keeps kept) : c.entries.length = kept.length := by
  rw [h.table.length_eq, List.length_map]

/-- A key is found at the place of its entry, and nowhere else. -/
theorem Keeps.place?_eq_some_iff (h : c.Keeps kept) {key : Bytes} :
    c.place? key = some i ↔ ∃ e, (i, e) ∈ kept ∧ e.key = key := by
  have hkeys : (c.entries.map Prod.fst).Nodup := by
    rw [(h.table.map Prod.fst).nodup_iff, List.map_map]
    exact h.distinct
  rw [place?, lookup_eq_some_iff_mem hkeys, h.table.mem_iff, List.mem_map]
  constructor
  · rintro ⟨⟨i, e⟩, hmem, heq⟩
    obtain ⟨rfl, rfl⟩ := Prod.mk.inj heq
    exact ⟨e, hmem, rfl⟩
  · rintro ⟨e, hmem, rfl⟩
    exact ⟨(i, e), hmem, rfl⟩

/-- **A key is found exactly if one of the entries has it.** -/
theorem Keeps.find?_cases (h : c.Keeps kept) (key : Bytes) :
    (c.find? key = none ∧ ∀ p ∈ kept, p.2.key ≠ key)
      ∨ ∃ before i e after, kept = before ++ (i, e) :: after ∧ e.key = key
        ∧ c.find? key = some (i, e) := by
  cases hplace : c.place? key with
  | none =>
    refine .inl ⟨by rw [find?, hplace, Option.bind_none], fun p hp heq => ?_⟩
    have := h.place?_eq_some_iff.mpr ⟨p.2, hp, heq⟩
    rw [hplace] at this
    cases this
  | some i =>
    obtain ⟨e, hmem, hkey⟩ := h.place?_eq_some_iff.mp hplace
    obtain ⟨before, after, rfl⟩ := List.append_of_mem hmem
    exact .inr ⟨before, i, e, after, rfl, hkey, by
      rw [find?, hplace, Option.bind_some, h.held _ hmem, Option.map_some]⟩

/-- No other entry has the key of an entry. -/
theorem Keeps.key_ne (h : c.Keeps (before ++ (i, e) :: after)) :
    ∀ p ∈ before ++ after, p.2.key ≠ e.key := by
  intro p hp heq
  have hdistinct :=
    (List.perm_middle.map fun p : Nat × CacheEntry => p.2.key).nodup_iff.mp h.distinct
  exact (List.nodup_cons.mp hdistinct).1 (List.mem_map.mpr ⟨p, hp, heq⟩)

/-- No other entry stands at the place of an entry. -/
theorem Keeps.place_ne (h : c.Keeps (before ++ (i, e) :: after)) :
    ∀ p ∈ before ++ after, i ≠ p.1 := by
  intro p hp heq
  have hplaces := (List.nodup_append.mp (List.nodup_cons.mp h.listed.nodup).2).1
  have hdistinct := (List.perm_middle.map Prod.fst).nodup_iff.mp hplaces
  exact (List.nodup_cons.mp hdistinct).1 (List.mem_map.mpr ⟨p, hp, heq.symm⟩)

/-- Without the key of an entry, the others are left. -/
theorem Keeps.filter_key_ne (h : c.Keeps (before ++ (i, e) :: after)) :
    (before ++ (i, e) :: after).filter (fun p => p.2.key ≠ e.key) = before ++ after := by
  rw [List.filter_append, List.filter_cons_of_neg (by simp), ← List.filter_append]
  exact List.filter_eq_self.mpr fun p hp => decide_eq_true (h.key_ne p hp)

/-! ## Steps -/

/-- Removing a place releases it and takes its entry out of the table. -/
theorem Keeps.remove_eq (h : c.Keeps (before ++ (i, e) :: after)) :
    c.remove i = { c with
      order := (c.order.unlink i).release i
      entries := c.entries.filter fun p => p.1 ≠ e.key
      weight := c.weight - e.weight } := by
  have hheld := h.held (i, e) (List.mem_append_right _ (List.mem_cons_self ..))
  rw [remove, hheld]

/-- **Removing an entry** leaves the others in their order. -/
theorem Keeps.remove (h : c.Keeps (before ++ (i, e) :: after)) :
    (c.remove i).Keeps (before ++ after) := by
  have hsub : (before ++ after).Sublist (before ++ (i, e) :: after) :=
    .append_left (List.sublist_cons_self ..) before
  rw [h.remove_eq]
  refine ⟨?_, fun p hp => ?_, ?_, h.distinct.sublist (hsub.map _),
    fun p hp => h.weighed p (hsub.subset hp), ?_⟩
  · have hlisted := h.listed
    rw [List.map_append, List.map_cons] at hlisted
    rw [List.map_append]
    exact hlisted.unlink.release i
  · rw [LinkedList.value?_release_of_ne (h.place_ne p hp), LinkedList.value?_unlink]
    exact h.held p (hsub.subset hp)
  · have htable := (h.table.trans (List.perm_middle.map _)).filter fun p => p.1 ≠ e.key
    have hothers : ∀ q ∈ (before ++ after).map fun p => (p.2.key, p.1),
        decide (q.1 ≠ e.key) = true := fun q hq => by
      obtain ⟨p, hp, rfl⟩ := List.mem_map.mp hq
      exact decide_eq_true (h.key_ne p hp)
    rw [List.map_cons, List.filter_cons_of_neg (by simp), List.filter_eq_self.mpr hothers]
      at htable
    exact htable
  · have htotal : totalWeight ((before ++ (i, e) :: after).map Prod.snd)
        = totalWeight ((before ++ after).map Prod.snd) + e.weight.toInt := by
      rw [totalWeight_perm (List.perm_middle.map Prod.snd), List.map_cons, totalWeight_cons,
        Int.add_comm]
    show c.weight - e.weight = _
    rw [h.total, htotal, Int64.ofInt_add, Int64.ofInt_toInt, Int64.add_sub_cancel]

/-- **Using an entry** puts it in front of the others. -/
theorem Keeps.touch (h : c.Keeps (before ++ (i, e) :: after)) (hits : Nat) :
    Keeps { c with order := c.order.moveToFront i, hits := hits }
      ((i, e) :: (before ++ after)) := by
  have hperm : (before ++ (i, e) :: after).Perm ((i, e) :: (before ++ after)) := List.perm_middle
  refine ⟨?_, fun p hp => ?_, h.table.trans (hperm.map _), (hperm.map _).nodup_iff.mp h.distinct,
    fun p hp => h.weighed p (hperm.mem_iff.mpr hp),
    h.total.trans (congrArg _ (totalWeight_perm (hperm.map _)))⟩
  · have hlisted := h.listed
    rw [List.map_append, List.map_cons] at hlisted
    rw [List.map_cons, List.map_append]
    exact hlisted.moveToFront
  · rw [LinkedList.value?_moveToFront]
    exact h.held p (hperm.mem_iff.mpr hp)

/-- **Adding an entry** under a key that no other has puts it in front of the others. -/
theorem Keeps.insert (h : c.Keeps kept) (hkey : ∀ p ∈ kept, p.2.key ≠ e.key)
    (hweight : e.weight = e.result.weight) :
    (c.insert e).Keeps ((c.order.links.size, e) :: kept) := by
  have hfresh : ∀ p ∈ kept, p.1 < c.order.links.size := fun p hp =>
    h.listed.allocated p.1 (List.mem_cons_of_mem _
      (List.mem_append_left _ (List.mem_map_of_mem hp)))
  refine ⟨?_, ?_, ?_, ?_, ?_, ?_⟩
  · refine (h.listed.alloc e).linkFront (fun hmem => ?_) ?_
    · exact Nat.lt_irrefl _ (h.listed.allocated _ hmem)
    · rw [LinkedList.size_alloc]
      exact Nat.lt_succ_self _
  · rw [List.forall_mem_cons]
    refine ⟨?_, fun p hp => ?_⟩
    · exact LinkedList.value?_linkFront.trans (LinkedList.value?_alloc_self e)
    · exact LinkedList.value?_linkFront.trans
        ((LinkedList.value?_alloc_of_lt e (hfresh p hp)).trans (h.held p hp))
  · refine .cons _ (List.Perm.trans (List.Perm.of_eq (List.filter_eq_self.mpr ?_)) h.table)
    intro q hq
    obtain ⟨p, hp, rfl⟩ := List.mem_map.mp (h.table.mem_iff.mp hq)
    exact decide_eq_true (hkey p hp)
  · refine List.nodup_cons.mpr ⟨fun hmem => ?_, h.distinct⟩
    obtain ⟨p, hp, heq⟩ := List.mem_map.mp hmem
    exact hkey p hp heq
  · exact List.forall_mem_cons.mpr ⟨hweight, h.weighed⟩
  · show c.weight + e.weight = _
    rw [List.map_cons, totalWeight_cons, Int.add_comm, Int64.ofInt_add, Int64.ofInt_toInt,
      ← h.total]

/-! ## Making room -/

@[simp] theorem capacity_remove : (c.remove i).capacity = c.capacity := by
  rw [Cache.remove]
  split <;> rfl

@[simp] theorem hits_remove : (c.remove i).hits = c.hits := by
  rw [Cache.remove]
  split <;> rfl

@[simp] theorem misses_remove : (c.remove i).misses = c.misses := by
  rw [Cache.remove]
  split <;> rfl

@[simp] theorem evictions_remove : (c.remove i).evictions = c.evictions := by
  rw [Cache.remove]
  split <;> rfl

/-- Neither the table nor the weight knows how many entries had to go. -/
theorem Keeps.count (h : c.Keeps kept) (misses evictions : Nat) :
    Keeps { c with misses := misses, evictions := evictions } kept :=
  ⟨h.listed, h.held, h.table, h.distinct, h.weighed, h.total⟩

/-- The end of the list is the place of what was used longest ago. -/
theorem Keeps.last_eq (h : c.Keeps (kept ++ [(i, e)])) :
    c.order.last = i ∧ i ≠ LinkedList.head := by
  have hlisted := h.listed
  rw [List.map_append, List.map_singleton] at hlisted
  refine ⟨hlisted.last_concat, fun heq => ?_⟩
  exact (List.nodup_cons.mp hlisted.nodup).1 (by simp [← heq])

variable {rounds : Nat}

/-- Making room changes neither the capacity nor the counts of lookups. -/
theorem evict_frame {extra : Int64} : (c.evict extra rounds).capacity = c.capacity
    ∧ (c.evict extra rounds).hits = c.hits ∧ (c.evict extra rounds).misses = c.misses := by
  induction rounds generalizing c with
  | zero => exact ⟨rfl, rfl, rfl⟩
  | succ rounds ih =>
    rw [Cache.evict]
    split
    · obtain ⟨hcapacity, hhits, hmisses⟩ := ih (c := { c.remove c.order.last with
        evictions := (c.remove c.order.last).evictions + 1 })
      exact ⟨hcapacity.trans capacity_remove, hhits.trans hits_remove,
        hmisses.trans misses_remove⟩
    · exact ⟨rfl, rfl, rfl⟩

/-- **Making room** drops entries from the end, and no more than it takes: what is left leaves
room or is nothing, and with the first entry that is gone there was no room. Whether there is room
is a matter of words here, whose sum may have wrapped around. The rounds are as many as it takes,
since each of them drops an entry. -/
theorem Keeps.evict (h : c.Keeps kept) (extra : Int64) (hrounds : kept.length ≤ rounds) :
    ∃ left gone, kept = left ++ gone ∧ (c.evict extra rounds).Keeps left
      ∧ (left = [] ∨ ¬ c.capacity < Int64.ofInt (totalWeight (left.map Prod.snd)) + extra)
      ∧ (∀ p rest, gone = p :: rest →
        c.capacity < Int64.ofInt (totalWeight ((left ++ [p]).map Prod.snd)) + extra)
      ∧ (c.evict extra rounds).evictions = c.evictions + gone.length := by
  induction rounds generalizing c kept with
  | zero =>
    obtain rfl := List.eq_nil_of_length_eq_zero (Nat.le_zero.mp hrounds)
    exact ⟨[], [], rfl, h, .inl rfl, by simp, rfl⟩
  | succ rounds ih =>
    rw [Cache.evict, h.total]
    rcases List.eq_nil_or_concat' kept with rfl | ⟨front, ⟨i, e⟩, rfl⟩
    · rw [if_neg fun hfull => hfull.2 h.listed.last_nil]
      exact ⟨[], [], rfl, h, .inl rfl, by simp, rfl⟩
    · obtain ⟨hlast, hhead⟩ := h.last_eq
      rw [hlast]
      by_cases hfull : c.capacity
          < Int64.ofInt (totalWeight ((front ++ [(i, e)]).map Prod.snd)) + extra
      · rw [if_pos ⟨hfull, hhead⟩]
        have hfront : (c.remove i).Keeps front := by simpa using h.remove
        obtain ⟨left, gone, rfl, hleft, hroom, hgone, hcount⟩ :=
          ih (hfront.count (c.remove i).misses ((c.remove i).evictions + 1))
            (by simpa using hrounds)
        have hcapacity : (c.remove i).capacity = c.capacity := capacity_remove
        refine ⟨left, gone ++ [(i, e)], List.append_assoc .., hleft, hcapacity ▸ hroom, ?_, ?_⟩
        · intro p rest heq
          cases gone with
          | nil =>
            obtain ⟨rfl, -⟩ := List.cons.inj heq
            rwa [List.append_nil] at hfull
          | cons q gone =>
            obtain ⟨rfl, -⟩ := List.cons.inj heq
            exact hcapacity ▸ hgone q gone rfl
        · refine hcount.trans ?_
          show (c.remove i).evictions + 1 + gone.length = _
          rw [evictions_remove, List.length_append, List.length_singleton]
          omega
      · rw [if_neg fun hboth => hfull hboth.1]
        exact ⟨front ++ [(i, e)], [], (List.append_nil _).symm, h, .inr hfull, by simp, rfl⟩

theorem makeRoom_frame (c : Cache) (extra : Int64) : (c.makeRoom extra).capacity = c.capacity
    ∧ (c.makeRoom extra).hits = c.hits ∧ (c.makeRoom extra).misses = c.misses := evict_frame

@[simp] theorem capacity_insert : (c.insert e).capacity = c.capacity := by
  rw [Cache.insert]

@[simp] theorem hits_insert : (c.insert e).hits = c.hits := by
  rw [Cache.insert]

@[simp] theorem misses_insert : (c.insert e).misses = c.misses := by
  rw [Cache.insert]

@[simp] theorem evictions_insert : (c.insert e).evictions = c.evictions := by
  rw [Cache.insert]

/-! ## Calls -/

/-- **An answer that a cache of some capacity can count**: its size fits a word and, if the cache
stores it at all, so does its size together with all that the cache may hold. -/
def Admits (capacity : Int64) (r : Compile.Result) : Prop :=
  r.memory < 2 ^ 63 ∧ (r.weight ≤ capacity → capacity.toInt + r.memory < 2 ^ 63)

instance (capacity : Int64) (r : Compile.Result) : Decidable (Admits capacity r) :=
  inferInstanceAs (Decidable (_ ∧ _))

/-- A cache of less than 2⁶² bytes admits every answer whose size fits a word. -/
theorem admits_of_lt {capacity : Int64} {r : Compile.Result} (hcapacity : capacity.toInt < 2 ^ 62)
    (hmemory : r.memory < 2 ^ 63) : Admits capacity r := by
  refine ⟨hmemory, fun hle => ?_⟩
  rw [Int64.le_iff_toInt_le, Compile.Result.toInt_weight hmemory] at hle
  omega

/-- **A cache that has the sizes of its entries right**, and keeps no more than it may hold. -/
structure Holds (c : Cache) (kept : List (Nat × CacheEntry)) : Prop extends c.Keeps kept where
  /-- No size is negative. -/
  nonneg : ∀ p ∈ kept, 0 ≤ p.2.weight.toInt
  /-- Together the entries are within the capacity. A cache of a negative capacity is empty. -/
  fits : totalWeight (kept.map Prod.snd) ≤ max 0 c.capacity.toInt

theorem holds_new (capacity lifetime : Int64) : Holds { capacity, lifetime } [] where
  toKeeps := keeps_new capacity lifetime
  nonneg := by simp
  fits := Int.le_max_left ..

/-- What the cache holds does not weigh less than nothing. -/
theorem Holds.total_nonneg (h : c.Holds kept) : 0 ≤ totalWeight (kept.map Prod.snd) :=
  totalWeight_nonneg (List.forall_mem_map.2 h.nonneg)

/-- **The weight is how much memory the entries take**: what is within the capacity fits a word. -/
theorem Holds.weight_eq (h : c.Holds kept) :
    c.weight.toInt = totalWeight (kept.map Prod.snd) := by
  have hcapacity := c.capacity.toInt_lt
  have hfits := h.fits
  exact h.toInt_weight h.total_nonneg (by omega)

/-- What is left of the entries is still within the capacity. -/
theorem Holds.of_sublist {d : Cache} {kept' : List (Nat × CacheEntry)} (h : c.Holds kept)
    (hd : d.Keeps kept') (hsub : kept'.Sublist kept) (hcapacity : d.capacity = c.capacity) :
    d.Holds kept' where
  toKeeps := hd
  nonneg p hp := h.nonneg p (hsub.subset hp)
  fits := by
    rw [hcapacity]
    exact (totalWeight_le_of_sublist (hsub.map _) (List.forall_mem_map.2 h.nonneg)).trans h.fits

/-- **A lookup** finds an entry and puts it in front, or counts a miss; what it finds but is too
old is removed. -/
theorem Keeps.get (h : c.Keeps kept) (now : Int) (key : Bytes) :
    (c.get now key = (none, { c with misses := c.misses + 1 })
        ∧ ∀ p ∈ kept, p.2.key ≠ key)
      ∨ ∃ before i e after, kept = before ++ (i, e) :: after ∧ e.key = key
        ∧ ((c.lifetime < age now e.storedAt
              ∧ c.get now key = (none, { c.remove i with misses := (c.remove i).misses + 1 }))
            ∨ (age now e.storedAt ≤ c.lifetime
              ∧ c.get now key = (some e.result,
                { c with order := c.order.moveToFront i, hits := c.hits + 1 }))) := by
  rcases h.find?_cases key with ⟨hnone, hkeys⟩ | ⟨before, i, e, after, rfl, hkey, hsome⟩
  · exact .inl ⟨by rw [Cache.get, hnone], hkeys⟩
  · refine .inr ⟨before, i, e, after, rfl, hkey, ?_⟩
    rw [Cache.get, hsome]
    by_cases hold : c.lifetime < age now e.storedAt
    · exact .inl ⟨hold, if_pos hold⟩
    · exact .inr ⟨Int64.not_lt.mp hold, if_neg hold⟩

/-- **A lookup** leaves the agreement, and the sizes right if they were, and is counted once: as a
hit or as a miss. -/
theorem Keeps.exists_get (h : c.Keeps kept) (now : Int) (key : Bytes) :
    ∃ kept', (c.get now key).2.Keeps kept' ∧ (c.Holds kept → (c.get now key).2.Holds kept')
      ∧ (c.get now key).2.capacity = c.capacity
      ∧ (c.get now key).2.hits + (c.get now key).2.misses = c.hits + c.misses + 1 := by
  rcases h.get now key with
    ⟨heq, -⟩ | ⟨before, i, e, after, rfl, -, ⟨-, heq⟩ | ⟨-, heq⟩⟩ <;> rw [heq]
  · have hsame := h.count (c.misses + 1) c.evictions
    exact ⟨kept, hsame, fun hh => hh.of_sublist hsame (List.Sublist.refl _) rfl, rfl, rfl⟩
  · have hless := h.remove.count ((c.remove i).misses + 1) (c.remove i).evictions
    refine ⟨before ++ after, hless, fun hh => hh.of_sublist hless
      (.append_left (List.sublist_cons_self ..) before) capacity_remove, capacity_remove, ?_⟩
    show (c.remove i).hits + ((c.remove i).misses + 1) = _
    rw [hits_remove, misses_remove, Nat.add_assoc]
  · have hperm : (before ++ (i, e) :: after).Perm ((i, e) :: (before ++ after)) :=
      List.perm_middle
    refine ⟨_, h.touch _, fun hh => { toKeeps := h.touch _, nonneg := fun p hp => ?_, fits := ?_ },
      rfl, ?_⟩
    · exact hh.nonneg p (hperm.mem_iff.2 hp)
    · exact (totalWeight_perm (hperm.map _)).symm.trans_le hh.fits
    · show c.hits + 1 + c.misses = _
      omega

/-- **Storing an answer** that is not larger than the cache: what was kept under its key is gone,
and so are entries from the end of the others, until there seems to be room; the answer comes
first. -/
theorem Keeps.set (h : c.Keeps kept) (now : Int) (key : Bytes) {result : Compile.Result}
    (hlarge : ¬ c.capacity < result.weight) :
    ∃ i left gone, kept.filter (fun p => p.2.key ≠ key) = left ++ gone
      ∧ (c.set now key result).Keeps ((i, ⟨key, result, result.weight, now⟩) :: left)
      ∧ (left = [] ∨ ¬ c.capacity
        < Int64.ofInt (totalWeight (left.map Prod.snd)) + result.weight)
      ∧ (∀ p rest, gone = p :: rest →
        c.capacity < Int64.ofInt (totalWeight ((left ++ [p]).map Prod.snd)) + result.weight)
      ∧ (c.set now key result).capacity = c.capacity
      ∧ (c.set now key result).hits = c.hits ∧ (c.set now key result).misses = c.misses
      ∧ (c.set now key result).evictions = c.evictions + gone.length := by
  obtain ⟨d, heq, hothers, hcapacity, hhits, hmisses, hevictions⟩ : ∃ d : Cache,
      c.set now key result = (d.makeRoom result.weight).insert ⟨key, result, result.weight, now⟩
      ∧ d.Keeps (kept.filter fun p => p.2.key ≠ key) ∧ d.capacity = c.capacity
      ∧ d.hits = c.hits ∧ d.misses = c.misses ∧ d.evictions = c.evictions := by
    rw [Cache.set, if_neg hlarge]
    rcases h.find?_cases key with ⟨hnone, hkeys⟩ | ⟨before, i, e, after, rfl, rfl, hsome⟩
    · rw [hnone, List.filter_eq_self.mpr fun p hp => decide_eq_true (hkeys p hp)]
      exact ⟨c, rfl, h, rfl, rfl, rfl, rfl⟩
    · rw [hsome, h.filter_key_ne]
      exact ⟨c.remove i, rfl, h.remove, capacity_remove, hits_remove, misses_remove,
        evictions_remove⟩
  obtain ⟨left, gone, hsplit, hleft, hroom, hgone, hcount⟩ :=
    hothers.evict result.weight hothers.length_entries.ge
  obtain ⟨hcapacity', hhits', hmisses'⟩ := makeRoom_frame d result.weight
  have hkeys : ∀ p ∈ left, p.2.key ≠ key := fun p hp => by
    have hmem := List.mem_append_left gone hp
    rw [← hsplit] at hmem
    exact of_decide_eq_true (List.mem_filter.mp hmem).2
  rw [heq]
  refine ⟨_, left, gone, hsplit, hleft.insert hkeys rfl, hcapacity ▸ hroom, hcapacity ▸ hgone,
    ?_, ?_, ?_, ?_⟩
  · rw [capacity_insert, hcapacity', hcapacity]
  · rw [hits_insert, hhits', hhits]
  · rw [misses_insert, hmisses', hmisses]
  · rw [evictions_insert, makeRoom, hcount, hevictions]

/-- **No sum wraps around** when an answer is stored that the cache admits: what is kept is within
the capacity, so the answer can be added to any part of it. -/
theorem Holds.lt_part_iff (h : c.Holds kept) {ps : List (Nat × CacheEntry)} (hps : ps.Sublist kept)
    {result : Compile.Result} (hadmits : Admits c.capacity result)
    (hlarge : ¬ c.capacity < result.weight) :
    c.capacity < Int64.ofInt (totalWeight (ps.map Prod.snd)) + result.weight
      ↔ c.capacity.toInt < totalWeight (ps.map Prod.snd) + result.weight.toInt := by
  have hweight := Compile.Result.toInt_weight hadmits.1
  have hle := Int64.le_iff_toInt_le.1 (Int64.not_lt.1 hlarge)
  have hsum := hadmits.2 (Int64.not_lt.1 hlarge)
  have hfits := h.fits
  have hlow : 0 ≤ totalWeight (ps.map Prod.snd) :=
    totalWeight_nonneg (List.forall_mem_map.2 fun p hp => h.nonneg p (hps.subset hp))
  have hhigh := totalWeight_le_of_sublist (hps.map Prod.snd) (List.forall_mem_map.2 h.nonneg)
  exact lt_totalWeight_iff (by omega) (by omega)

/-- An answer in front of entries that leave room for it keeps the sizes right. -/
theorem Holds.cons {d : Cache} (h : c.Holds kept) (hsub : before.Sublist kept)
    (hd : d.Keeps ((i, e) :: before)) (hcapacity : d.capacity = c.capacity)
    (hweight : 0 ≤ e.weight.toInt)
    (hroom : e.weight.toInt + totalWeight (before.map Prod.snd) ≤ c.capacity.toInt) :
    d.Holds ((i, e) :: before) where
  toKeeps := hd
  nonneg := List.forall_mem_cons.2 ⟨hweight, fun p hp => h.nonneg p (hsub.subset hp)⟩
  fits := by
    rw [hcapacity, List.map_cons, totalWeight_cons]
    exact hroom.trans (Int.le_max_right ..)

/-- **Storing an answer that the cache admits** leaves what there really is room for: the answer
and the entries that stay are within the capacity, and with the next one they would not be. -/
theorem Holds.room (h : c.Holds kept) {key : Bytes} {left gone : List (Nat × CacheEntry)}
    {result : Compile.Result} (hadmits : Admits c.capacity result)
    (hlarge : ¬ c.capacity < result.weight)
    (hsplit : kept.filter (fun p => p.2.key ≠ key) = left ++ gone)
    (hroom : left = [] ∨ ¬ c.capacity
      < Int64.ofInt (totalWeight (left.map Prod.snd)) + result.weight)
    (hgone : ∀ p rest, gone = p :: rest →
      c.capacity < Int64.ofInt (totalWeight ((left ++ [p]).map Prod.snd)) + result.weight) :
    result.weight.toInt + totalWeight (left.map Prod.snd) ≤ c.capacity.toInt
      ∧ ∀ p rest, gone = p :: rest →
        c.capacity.toInt < totalWeight ((left ++ [p]).map Prod.snd) + result.weight.toInt := by
  have hpart : ∀ ps, ps <+: left ++ gone → ps.Sublist kept := fun ps hps =>
    (hsplit ▸ hps.sublist).trans List.filter_sublist
  refine ⟨?_, ?_⟩
  · rcases hroom with rfl | hroom
    · -- nothing else is left, and the answer as such is not too large
      simpa [totalWeight] using Int64.le_iff_toInt_le.1 (Int64.not_lt.1 hlarge)
    · rw [h.lt_part_iff (hpart left (List.prefix_append ..)) hadmits hlarge] at hroom
      omega
  · rintro p rest rfl
    exact (h.lt_part_iff (hpart (left ++ [p]) ⟨rest, by simp⟩) hadmits hlarge).1 (hgone p rest rfl)

/-- **Storing an answer** leaves the agreement, and the sizes right if they were and the answer is
admitted. It counts nothing as a lookup. -/
theorem Keeps.exists_set (h : c.Keeps kept) (now : Int) (key : Bytes) (result : Compile.Result) :
    ∃ kept', (c.set now key result).Keeps kept'
      ∧ (c.Holds kept → Admits c.capacity result → (c.set now key result).Holds kept')
      ∧ (c.set now key result).capacity = c.capacity
      ∧ (c.set now key result).hits + (c.set now key result).misses = c.hits + c.misses := by
  by_cases hlarge : c.capacity < result.weight
  · rw [Cache.set, if_pos hlarge]
    exact ⟨kept, h, fun hh _ => hh, rfl, rfl⟩
  obtain ⟨i, left, gone, hsplit, hset, hroom, hgone, hcapacity, hhits, hmisses, -⟩ :=
    h.set now key hlarge
  refine ⟨_, hset, fun hh hadmits => ?_, hcapacity, by rw [hhits, hmisses]⟩
  have hleft : left.Sublist kept :=
    (hsplit ▸ List.sublist_append_left ..).trans List.filter_sublist
  refine hh.cons hleft hset hcapacity ?_ (hh.room hadmits hlarge hsplit hroom hgone).1
  rw [Compile.Result.toInt_weight hadmits.1]
  omega

/-- A request is one lookup, and stores what is computed if the lookup finds nothing. -/
theorem Keeps.exists_getOrCompute (h : c.Keeps kept) (now later : Int) (key : Bytes)
    (compute : Except Failure Compile.Result) :
    ∃ kept', (c.getOrCompute now key compute later).2.Keeps kept'
      ∧ (c.Holds kept → (∀ r, compute = .ok r → Admits c.capacity r) →
        (c.getOrCompute now key compute later).2.Holds kept')
      ∧ (c.getOrCompute now key compute later).2.capacity = c.capacity
      ∧ (c.getOrCompute now key compute later).2.hits
        + (c.getOrCompute now key compute later).2.misses = c.hits + c.misses + 1 := by
  obtain ⟨kept', hget, hholds, hcapacity, hcount⟩ := h.exists_get now key
  rw [Cache.getOrCompute]
  generalize c.get now key = got at hget hholds hcapacity hcount ⊢
  obtain ⟨_ | found, d⟩ := got
  · cases compute with
    | error e => exact ⟨kept', hget, fun hh _ => hholds hh, hcapacity, hcount⟩
    | ok result =>
      obtain ⟨kept'', hset, hholds', hcapacity', hcount'⟩ := hget.exists_set later key result
      refine ⟨kept'', hset, fun hh hadmits => hholds' (hholds hh) ?_,
        hcapacity'.trans hcapacity, hcount'.trans hcount⟩
      rw [hcapacity]
      exact hadmits result rfl
  · exact ⟨kept', hget, fun hh _ => hholds hh, hcapacity, hcount⟩

/-- A call of a cache, with what the clock shows when it begins and, where time goes by, when it
stores an answer. -/
inductive Call where
  | get (now : Int) (key : Bytes)
  | set (now : Int) (key : Bytes) (result : Compile.Result)
  | getOrCompute (now later : Int) (key : Bytes) (compute : Except Failure Compile.Result)

/-- The cache after a call. -/
def Call.run (c : Cache) : Call → Cache
  | .get now key => (c.get now key).2
  | .set now key result => c.set now key result
  | .getOrCompute now later key compute => (c.getOrCompute now key compute later).2

/-- Whether a call looks up a key. -/
def Call.isLookup : Call → Bool
  | .get .. | .getOrCompute .. => true
  | .set .. => false

/-- The answer that a call brings along to be stored. -/
def Call.answer? : Call → Option Compile.Result
  | .get .. => none
  | .set _ _ result => some result
  | .getOrCompute _ _ _ compute => compute.toOption

/-- **What one call preserves**: the agreement, and the sizes being right if the cache admits what
the call may store. The capacity is the same, and each lookup is counted once. -/
theorem Keeps.run (h : c.Keeps kept) (call : Call) :
    ∃ kept', (call.run c).Keeps kept'
      ∧ (c.Holds kept → (∀ r ∈ call.answer?, Admits c.capacity r) → (call.run c).Holds kept')
      ∧ (call.run c).capacity = c.capacity
      ∧ (call.run c).hits + (call.run c).misses
        = c.hits + c.misses + [call].countP Call.isLookup := by
  cases call with
  | get now key =>
    obtain ⟨kept', hget, hholds, hrest⟩ := h.exists_get now key
    exact ⟨kept', hget, fun hh _ => hholds hh, hrest⟩
  | set now key result =>
    obtain ⟨kept', hset, hholds, hrest⟩ := h.exists_set now key result
    exact ⟨kept', hset, fun hh hadmits => hholds hh (hadmits result rfl), hrest⟩
  | getOrCompute now later key compute =>
    obtain ⟨kept', hdone, hholds, hrest⟩ := h.exists_getOrCompute now later key compute
    refine ⟨kept', hdone, fun hh hadmits => hholds hh fun r hr => hadmits r ?_, hrest⟩
    rw [Call.answer?, hr]
    rfl

/-- **What calls preserve**, from any cache on: by induction on the calls. -/
theorem Keeps.calls (h : c.Keeps kept) (calls : List Call) :
    ∃ kept', (calls.foldl Call.run c).Keeps kept'
      ∧ (c.Holds kept → (∀ call ∈ calls, ∀ r ∈ call.answer?, Admits c.capacity r) →
        (calls.foldl Call.run c).Holds kept')
      ∧ (calls.foldl Call.run c).capacity = c.capacity
      ∧ (calls.foldl Call.run c).hits + (calls.foldl Call.run c).misses
        = c.hits + c.misses + calls.countP Call.isLookup := by
  induction calls generalizing c kept with
  | nil => exact ⟨kept, h, fun hh _ => hh, rfl, rfl⟩
  | cons call calls ih =>
    obtain ⟨kept', hcall, hholds, hcapacity, hcount⟩ := h.run call
    obtain ⟨kept'', hcalls, hholds', hcapacity', hcount'⟩ := ih hcall
    refine ⟨kept'', hcalls, fun hh hadmits => ?_, hcapacity'.trans hcapacity, hcount'.trans ?_⟩
    · obtain ⟨hfirst, hothers⟩ := List.forall_mem_cons.1 hadmits
      exact hholds' (hholds hh hfirst) (hcapacity ▸ hothers)
    · rw [hcount, Nat.add_assoc, ← List.countP_append, List.singleton_append]

/-- **A cache stays sound.** After any calls of a new cache, whatever the clock shows at each of
them, there are entries `kept` such that the links lead through their places in order and back, the
table has their keys and nothing else, each once, and the weight is the sum of their sizes as words
add up; and the counts of hits and misses add up to the lookups that were made.

If the cache admits all answers that the calls may store, the weight is how much memory they take
together. It is not negative then and within the capacity. -/
theorem sound_of_calls (capacity lifetime : Int64) (calls : List Call) :
    let c := calls.foldl Call.run { capacity, lifetime }
    ∃ kept, c.Keeps kept ∧ c.hits + c.misses = calls.countP Call.isLookup
      ∧ (0 ≤ capacity → (∀ call ∈ calls, ∀ r ∈ call.answer?, Admits capacity r) →
        c.weight.toInt = totalWeight (kept.map Prod.snd) ∧ 0 ≤ c.weight ∧ c.weight ≤ capacity) := by
  intro c
  obtain ⟨kept, hkept, hholds, hsame, hcount⟩ := (keeps_new capacity lifetime).calls calls
  refine ⟨kept, hkept, hcount.trans (Nat.zero_add _), fun hcapacity hadmits => ?_⟩
  have hsizes : c.Holds kept := hholds (holds_new capacity lifetime) hadmits
  have hfits := hsizes.fits
  have hpos : 0 ≤ capacity.toInt := Int64.le_iff_toInt_le.1 hcapacity
  rw [hsame, Int.max_eq_right hpos] at hfits
  rw [Int64.le_iff_toInt_le, Int64.le_iff_toInt_le, hsizes.weight_eq]
  exact ⟨rfl, hsizes.total_nonneg, hfits⟩

/-- Two answers that do not fit together, one of them stored twice, and a lookup that comes too
late. -/
def sampleCalls : List Call :=
  let answer : Compile.Result := ⟨some [1, 2, 3], []⟩
  [.set 0 [97] answer, .set 1 [97] answer, .getOrCompute 2 3 [98] (.ok answer), .get 4 [98],
    .get 9 [98], .getOrCompute 9 9 [99] (.error (.plain []))]

theorem admits_sampleCalls : ∀ call ∈ sampleCalls, ∀ r ∈ call.answer?, Admits 5 r := by
  intro call hcall r hr
  refine admits_of_lt (by decide) ?_
  simp only [sampleCalls, List.mem_cons, List.not_mem_nil, or_false] at hcall
  rcases hcall with rfl | rfl | rfl | rfl | rfl | rfl <;> cases hr <;> decide

theorem sound_of_sampleCalls :
    let c := sampleCalls.foldl Call.run { capacity := 5, lifetime := 5 }
    (∃ kept, c.Keeps kept ∧ c.weight.toInt = totalWeight (kept.map Prod.snd)
        ∧ 0 ≤ c.weight ∧ c.weight ≤ 5)
      ∧ c.hits + c.misses = sampleCalls.countP Call.isLookup
      ∧ c.evictions = 1 ∧ c.hits = 1 ∧ c.misses = 3 := by
  obtain ⟨kept, hkept, hcount, hsizes⟩ := sound_of_calls 5 5 sampleCalls
  exact ⟨⟨kept, hkept, hsizes (by decide) admits_sampleCalls⟩, hcount, by decide, by decide,
    by decide⟩

/-! ## Sizes that wrap around -/

/-- An answer of so many diagnostics that share a message of some length. -/
def sharedMessage (length count : Nat) : Compile.Result :=
  ⟨none, List.replicate count ⟨[], .error, List.replicate length 0, [], 0, .host⟩⟩

theorem memory_sharedMessage (length count : Nat) :
    (sharedMessage length count).memory = count * (length + 32) := by
  simp [sharedMessage, Compile.Result.memory, Compile.Result.size, Diagnostic.memory]

/-- A gigabyte that many diagnostics share is counted for each of them. -/
theorem weight_sharedMessage :
    (sharedMessage (2 ^ 30) (2 ^ 20)).weight.toInt = 2 ^ 20 * (2 ^ 30 + 32) := by
  rw [Compile.Result.toInt_weight (by rw [memory_sharedMessage]; omega), memory_sharedMessage]
  rfl

/-- An answer that is stored under so many keys, each of another length. -/
def fill (result : Compile.Result) (keys : Nat) : List Call :=
  (List.range keys).map fun n => .set 0 (List.replicate n 0) result

theorem fill_succ (result : Compile.Result) (n : Nat) :
    fill result (n + 1) = fill result n ++ [.set 0 (List.replicate n 0) result] := by
  rw [fill, List.range_succ, List.map_append]
  rfl

/-- What so many entries of one answer take together. -/
theorem totalWeight_fill (result : Compile.Result) (keys : List Nat) :
    totalWeight (keys.map fun n => ⟨List.replicate n 0, result, result.weight, 0⟩)
      = keys.length * result.weight.toInt := by
  rw [totalWeight, List.map_map]
  simp [Function.comp_def]

/-- **The largest capacity is none at all**: no sum of words is larger, so nothing ever has to go,
and the cache keeps the answer under every key that it was stored under. -/
theorem exists_keeps_fill (lifetime : Int64) (result : Compile.Result) (keys : Nat) :
    let c := (fill result keys).foldl Call.run { capacity := Int64.maxValue, lifetime }
    ∃ kept, c.Keeps kept ∧ c.capacity = Int64.maxValue
      ∧ kept.map Prod.snd = (List.range keys).reverse.map fun n =>
          ⟨List.replicate n 0, result, result.weight, 0⟩ := by
  induction keys with
  | zero => exact ⟨[], keeps_new .., rfl, rfl⟩
  | succ n ih =>
    obtain ⟨kept, hkept, hcapacity, hentries⟩ := ih
    rw [fill_succ, List.foldl_append]
    generalize (fill result n).foldl Call.run _ = c at hkept hcapacity ⊢
    have hunlimited : ∀ w : Int64, ¬ c.capacity < w := fun w => by
      rw [hcapacity]
      exact Int64.not_lt.2 (Int64.le_maxValue w)
    obtain ⟨i, left, gone, hsplit, hset, -, hgone, hcapacity', -⟩ :=
      hkept.set 0 (List.replicate n 0) (hunlimited result.weight)
    obtain rfl : gone = [] := by
      cases gone with
      | nil => rfl
      | cons p rest => exact absurd (hgone p rest rfl) (hunlimited _)
    -- all earlier keys are shorter
    have hkeys : ∀ p ∈ kept, p.2.key ≠ List.replicate n 0 := fun p hp heq => by
      have hmem := List.mem_map_of_mem (f := Prod.snd) hp
      rw [hentries] at hmem
      obtain ⟨k, hk, hentry⟩ := List.mem_map.1 hmem
      have hlength := congrArg List.length (hentry ▸ heq)
      simp at hk hlength
      omega
    rw [List.append_nil, List.filter_eq_self.2 fun p hp => decide_eq_true (hkeys p hp)] at hsplit
    subst hsplit
    refine ⟨_, hset, hcapacity'.trans hcapacity, ?_⟩
    rw [List.map_cons, hentries, List.range_succ, List.reverse_append]
    rfl

/-- The weight of such a cache is that of all the entries, as words add up. -/
theorem weight_fill (lifetime : Int64) (result : Compile.Result) (keys : Nat) :
    ((fill result keys).foldl Call.run { capacity := Int64.maxValue, lifetime }).weight
      = Int64.ofInt (keys * result.weight.toInt) := by
  obtain ⟨kept, hkept, -, hentries⟩ := exists_keeps_fill lifetime result keys
  rw [hkept.total, hentries, totalWeight_fill, List.length_reverse, List.length_range]

/-- **A weight that wraps around.** Each of 8192 keys has an answer of 2²⁰ diagnostics that share a
message of a gigabyte. Their sizes come to more than 2⁶³, so the weight is negative. -/
theorem weight_neg_of_fill :
    let c := (fill (sharedMessage (2 ^ 30) (2 ^ 20)) 8192).foldl Call.run
      { capacity := Int64.maxValue, lifetime := 0 }
    (0 : Int64) ≤ Int64.maxValue ∧ c.weight < 0 := by
  refine ⟨by decide, ?_⟩
  rw [weight_fill, weight_sharedMessage]
  decide

end Cache

end Stencil
