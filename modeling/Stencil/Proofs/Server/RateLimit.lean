import Mathlib.Algebra.Order.Field.Rat
import Mathlib.Algebra.Order.Ring.Rat
import Mathlib.Data.List.Nodup
import Mathlib.Tactic.FieldSimp
import Mathlib.Tactic.Linarith
import Mathlib.Tactic.Ring
import Stencil.Server.RateLimit

/-!
# How many requests a limiter lets through

A bucket of tokens promises that in any stretch of time a client gets no more than a burst
and what came back meanwhile. The usual argument is about the level of the client's bucket:
it is never more than a burst, rises no faster than tokens come back, and falls by one with
each request that is allowed (`allowedIn_le_level`).

What the argument needs on top is that forgetting a bucket does not raise its level. A bucket
that is forgotten was idle for more than ten minutes, and is as good as full if that is long
enough for a whole burst to come back (`Lossless`, `level_clean`). Nothing else asks how large
a burst is, and with a larger one the promise breaks: a client that takes a burst, waits until
its bucket is forgotten and takes another one got more than it should. So the promise holds
exactly for the limiters that forget nothing (`allowed_le_iff`).

All of this is about exact fractions.
-/

namespace Stencil.RateLimit

/-- A request: when it comes, and from whom. -/
structure Request where
  /-- The time. -/
  time : Int
  /-- The client. -/
  client : Bytes

namespace Limiter

/-- What a request adds to the count of those that a client is allowed from one time to
another. -/
def counted {α : Type} [Fraction α] (client : Bytes) (start stop : Int) (l : Limiter α)
    (r : Request) : Nat :=
  if r.client = client ∧ start ≤ r.time ∧ r.time ≤ stop
    ∧ (l.check r.time r.client).1.allowed then 1 else 0

/-- **How many requests of a client are allowed** from one time to another, out of all the
requests that a limiter is asked about in this order. -/
def allowedIn {α : Type} [Fraction α] (client : Bytes) (start stop : Int) :
    Limiter α → List Request → Nat
  | _, [] => 0
  | l, r :: rs =>
    l.counted client start stop r
      + allowedIn client start stop (l.check r.time r.client).2 rs

/-! ## Buckets -/

section Buckets

variable {α : Type} {l : Limiter α} {c d : Bytes} {now : Int}

/-- The bucket that a client has. -/
def stored? (l : Limiter α) (c : Bytes) : Option (Bucket α) :=
  (l.buckets.find? fun e => e.1 = c).map Prod.snd

/-- No client has two buckets. -/
def Distinct (l : Limiter α) : Prop := (l.buckets.map Prod.fst).Nodup

/-- Whether it is time to look for idle buckets. -/
def isDue (l : Limiter α) (now : Int) : Bool :=
  match l.cleanedAt with
  | none => true
  | some t => expiry / 2 < now - t

/-- Looking for a key in a filtered list. -/
theorem find?_filter_of_nodup {bs : List (Bytes × Bucket α)} (h : (bs.map Prod.fst).Nodup)
    (p : Bucket α → Bool) :
    ((bs.filter fun e => p e.2).find? fun e => e.1 = c).map Prod.snd
      = ((bs.find? fun e => e.1 = c).map Prod.snd).filter p := by
  induction bs with
  | nil => rfl
  | cons e bs ih =>
    obtain ⟨hnot, hrest⟩ := List.nodup_cons.1 h
    have hlater := ih hrest
    by_cases hkey : e.1 = c
    · have hnone : bs.find? (fun e => e.1 = c) = none :=
        List.find?_eq_none.2 fun e' he' heq => hnot (by
          rw [hkey, ← of_decide_eq_true heq]
          exact List.mem_map_of_mem he')
      rw [hnone] at hlater
      by_cases hp : p e.2 = true
      · simp [hkey, hp, Option.filter]
      · have hdrop : (e :: bs).filter (fun e => p e.2) = bs.filter fun e => p e.2 :=
          List.filter_cons_of_neg hp
        rw [hdrop, hlater]
        simp [hkey, hp, Option.filter]
    · by_cases hp : p e.2 = true <;> simpa [List.filter_cons, hkey, hp] using hlater

/-- A bucket that was put is found under its client. -/
theorem stored?_put_self (b : Bucket α) : (l.put c b).stored? c = some b := by
  simp [stored?, put]

/-- The buckets of other clients are found as before, wherever the new one was put. -/
theorem stored?_put_of_ne (h : d ≠ c) (b : Bucket α) : (l.put d b).stored? c = l.stored? c := by
  unfold stored? put
  rw [List.find?_cons_of_neg (by simpa using h), List.find?_filter]
  congr 2
  funext e
  by_cases hkey : e.1 = c
  · simp [hkey, h.symm]
  · simp [hkey]

/-- Putting a bucket replaces the one that the client has. -/
theorem Distinct.put (h : l.Distinct) (b : Bucket α) : (l.put c b).Distinct := by
  have hrest : ((l.buckets.filter fun e => e.1 ≠ c).map Prod.fst).Nodup :=
    List.Nodup.sublist (List.filter_sublist.map _) h
  refine List.nodup_cons.2 ⟨fun hmem => ?_, hrest⟩
  obtain ⟨e, he, hkey⟩ := List.mem_map.1 hmem
  exact of_decide_eq_true (List.mem_filter.1 he).2 hkey

/-- **Cleaning up**, if it is due, forgets the buckets that were idle for too long, and remembers
when it was done. Between two such moments nothing is forgotten. -/
theorem clean_eq (l : Limiter α) (now : Int) :
    l.clean now = if l.isDue now then
      { l with
        buckets := l.buckets.filter fun b => !(expiry < now - b.2.usedAt)
        cleanedAt := some now } else l := by
  unfold clean isDue
  cases l.cleanedAt <;> rfl

@[simp] theorem burst_clean : (l.clean now).burst = l.burst := by
  rw [clean_eq]
  split <;> rfl

@[simp] theorem perMinute_clean : (l.clean now).perMinute = l.perMinute := by
  rw [clean_eq]
  split <;> rfl

/-- What is left after cleaning up belongs to distinct clients. -/
theorem Distinct.clean (h : l.Distinct) (now : Int) : (l.clean now).Distinct := by
  rw [clean_eq]
  split
  · exact List.Nodup.sublist (List.filter_sublist.map _) h
  · exact h

/-- Only idle buckets are forgotten, and only when it is time to. -/
theorem stored?_clean (h : l.Distinct) (now : Int) (c : Bytes) :
    (l.clean now).stored? c
      = (l.stored? c).filter fun b => !(l.isDue now && decide (expiry < now - b.usedAt)) := by
  rw [clean_eq]
  cases l.isDue now with
  | false =>
    rw [if_neg Bool.false_ne_true]
    cases l.stored? c <;> rfl
  | true =>
    simp only [if_true, Bool.true_and]
    exact find?_filter_of_nodup h fun b => !decide (expiry < now - b.usedAt)

variable [Fraction α]

/-- A client without a bucket gets a full one, with nothing to fill up. -/
theorem bucket_eq (l : Limiter α) (now : Int) (c : Bytes) :
    l.bucket now c = (l.stored? c).getD ⟨Fraction.ofInt l.burst, now, now⟩ := by
  unfold bucket stored?
  cases l.buckets.find? _ <;> rfl

@[simp] theorem burst_check : (l.check now d).2.burst = l.burst := by
  unfold check
  dsimp only
  split <;> exact burst_clean

@[simp] theorem perMinute_check : (l.check now d).2.perMinute = l.perMinute := by
  unfold check
  dsimp only
  split <;> exact perMinute_clean

end Buckets

/-! ## Levels -/

section Levels

variable {l : Limiter Rat} {b : Bucket Rat} {c d : Bytes} {now later : Int}

/-- How many tokens come back in a nanosecond. -/
def rate (l : Limiter Rat) : Rat := l.perMinute / minute

/-- **The level of a client's bucket** at a time: what would be in it after the tokens up to
then have come back. A client without a bucket would get a full one. -/
def level (l : Limiter Rat) (now : Int) (c : Bytes) : Rat :=
  (l.refill now (l.bucket now c)).tokens

/-- A duration in minutes, as a fraction: nothing is rounded. -/
theorem minutes_eq (d : Int) : (minutes d : Rat) = d / minute := by
  have hparts : ((d.tdiv minute : Int) : Rat) * minute + (d.tmod minute : Int) = d := by
    have h := Int.tdiv_mul_add_tmod d minute
    exact_mod_cast h
  have hminute : (minute : Rat) ≠ 0 := by decide
  show ((d.tdiv minute : Int) : Rat) + ((d.tmod minute : Int) : Rat) / (minute : Int) = _
  rw [← hparts]
  field_simp

/-- A refilled bucket has what came back, as long as there is room for it. -/
theorem tokens_refill (b : Bucket Rat) :
    (l.refill now b).tokens
      = min (b.tokens + l.rate * (now - b.refilledAt : Int)) l.burst := by
  have hback : (minutes (now - b.refilledAt) : Rat) * l.perMinute
      = l.rate * (now - b.refilledAt : Int) := by
    rw [minutes_eq, rate]
    ring
  rw [min_def, ← hback]
  show (if decide (_ ≤ _) = true then _ else _) = _
  simp only [decide_eq_true_eq]
  rfl

/-- **The level of a bucket** is what it held when it was last filled up, and what came back since,
but no more than a burst. -/
theorem level_of_some {b : Bucket Rat} (h : l.stored? c = some b) :
    l.level now c = min (b.tokens + l.rate * (now - b.refilledAt : Int)) l.burst := by
  rw [level, bucket_eq, h]
  exact tokens_refill b

/-- A client that is not known has a whole burst. -/
theorem level_of_none (h : l.stored? c = none) : l.level now c = l.burst := by
  rw [level, bucket_eq, h, Option.getD_none, tokens_refill]
  simp [Fraction.ofInt]

/-- No level is higher than a burst. -/
theorem level_le_burst (l : Limiter Rat) (now : Int) (c : Bytes) : l.level now c ≤ l.burst := by
  rw [level, tokens_refill]
  exact min_le_right _ _

/-- The bucket that a check leaves behind. -/
def taken (l : Limiter Rat) (now : Int) (c : Bytes) : Bucket Rat where
  tokens := l.level now c - if 1 ≤ l.level now c then 1 else 0
  refilledAt := now
  usedAt := now

/-- **A check** looks for idle buckets, and allows the request if a token is left. -/
theorem check_spec (l : Limiter Rat) (now : Int) (d : Bytes) :
    ((l.check now d).1.allowed = true ↔ 1 ≤ (l.clean now).level now d)
    ∧ (l.check now d).2 = (l.clean now).put d ((l.clean now).taken now d) := by
  have hone : (Fraction.ofInt 1 : Rat) = 1 := by decide
  have hle : ∀ x : Rat, Fraction.le 1 x = decide (1 ≤ x) := fun x => rfl
  unfold check
  dsimp only
  rw [hone, hle]
  change _ ∧ _ = (l.clean now).put d
    ⟨(l.clean now).level now d - if 1 ≤ (l.clean now).level now d then 1 else 0, now, now⟩
  by_cases hlevel : 1 ≤ (l.clean now).level now d
  · have hallowed : decide
        (1 ≤ ((l.clean now).refill now ((l.clean now).bucket now d)).tokens) = true :=
      decide_eq_true hlevel
    rw [if_pos hallowed, if_pos hlevel]
    exact ⟨iff_of_true rfl hlevel, rfl⟩
  · have hrefused : ¬ decide
        (1 ≤ ((l.clean now).refill now ((l.clean now).bucket now d)).tokens) = true :=
      fun h => hlevel (of_decide_eq_true h)
    rw [if_neg hrefused, if_neg hlevel, sub_zero]
    exact ⟨iff_of_false Bool.false_ne_true hlevel, rfl⟩

/-- A check leaves the buckets distinct: it cleans up and then puts one. -/
theorem Distinct.check (h : l.Distinct) (now : Int) (d : Bytes) : (l.check now d).2.Distinct := by
  rw [(l.check_spec now d).2]
  exact (h.clean now).put _

/-- A level rises no faster than tokens come back. -/
theorem level_le_add (hrate : 0 ≤ l.rate) (h : now ≤ later) (c : Bytes) :
    l.level later c ≤ l.level now c + l.rate * (later - now : Int) := by
  have hback : 0 ≤ l.rate * (later - now : Int) :=
    mul_nonneg hrate (by exact_mod_cast Int.sub_nonneg_of_le h)
  cases hc : l.stored? c with
  | none =>
    rw [level_of_none hc, level_of_none hc]
    exact le_add_of_nonneg_right hback
  | some b =>
    have hsplit : l.rate * (later - b.refilledAt : Int)
        = l.rate * (now - b.refilledAt : Int) + l.rate * (later - now : Int) := by
      push_cast
      ring
    rw [level_of_some hc, level_of_some hc, hsplit, ← add_assoc, ← min_add_add_right]
    exact min_le_min_left _ (le_add_of_nonneg_right hback)

/-- A check leaves other clients alone, but for the buckets it forgets. -/
theorem level_check_of_ne (h : d ≠ c) :
    (l.check now d).2.level later c = (l.clean now).level later c := by
  rw [(l.check_spec now d).2, level, level, bucket_eq, bucket_eq, stored?_put_of_ne h]
  rfl

/-- What a check leaves the client with. -/
theorem level_check_self :
    (l.check now c).2.level later c
      = min ((l.clean now).level now c - (if 1 ≤ (l.clean now).level now c then 1 else 0)
        + l.rate * (later - now : Int)) l.burst := by
  rw [level_of_some (b := (l.clean now).taken now c)
    ((l.check_spec now c).2 ▸ stored?_put_self _), burst_check, rate, perMinute_check]
  rfl

/-! ## Runs -/

/-- **Buckets are as checks leave them**: one for a client, refilled when it was used, not
later than now, and never below zero. -/
structure Sound (l : Limiter Rat) (now : Int) : Prop where
  rate : 0 ≤ l.rate
  burst : 1 ≤ l.burst
  distinct : l.Distinct
  refilled : ∀ c b, l.stored? c = some b → b.refilledAt = b.usedAt ∧ b.usedAt ≤ now ∧ 0 ≤ b.tokens
  cleaned : ∀ t ∈ l.cleanedAt, t ≤ now

namespace Sound

/-- What is sound at a time is sound later on. -/
theorem mono (h : l.Sound now) (hle : now ≤ later) : l.Sound later where
  rate := h.rate
  burst := h.burst
  distinct := h.distinct
  refilled c b hb :=
    let ⟨hrefilled, hused, htokens⟩ := h.refilled c b hb
    ⟨hrefilled, Int.le_trans hused hle, htokens⟩
  cleaned t ht := Int.le_trans (h.cleaned t ht) hle

/-- **No level is negative**, since a token is only taken where there is one, and time does not take
any away. -/
theorem level_nonneg (h : l.Sound now) (c : Bytes) : 0 ≤ l.level now c := by
  have hburst : (0 : Rat) ≤ l.burst := by exact_mod_cast Int.le_trans Int.one_nonneg h.burst
  cases hc : l.stored? c with
  | none =>
    rw [level_of_none hc]
    exact hburst
  | some b =>
    obtain ⟨hrefilled, hused, htokens⟩ := h.refilled c b hc
    rw [level_of_some hc]
    refine le_min (add_nonneg htokens (mul_nonneg h.rate ?_)) hburst
    exact_mod_cast Int.sub_nonneg_of_le (hrefilled.trans_le hused)

/-- The buckets that are left after looking for idle ones were there before. -/
theorem clean (h : l.Sound now) : (l.clean now).Sound now where
  rate := by
    rw [Limiter.rate, perMinute_clean]
    exact h.rate
  burst := by
    rw [burst_clean]
    exact h.burst
  distinct := h.distinct.clean now
  refilled c b hb := by
    rw [stored?_clean h.distinct] at hb
    exact h.refilled c b (Option.filter_eq_some_iff.1 hb).1
  cleaned t ht := by
    rw [clean_eq] at ht
    split at ht
    · exact Int.le_of_eq (Option.mem_some_iff.1 ht).symm
    · exact h.cleaned t ht

/-- **A check keeps a limiter sound.** -/
theorem check (h : l.Sound now) (d : Bytes) : (l.check now d).2.Sound now where
  rate := by
    rw [Limiter.rate, perMinute_check]
    exact h.rate
  burst := by
    rw [burst_check]
    exact h.burst
  distinct := h.distinct.check now d
  refilled c b hb := by
    rw [(l.check_spec now d).2] at hb
    by_cases hkey : d = c
    · rw [hkey, stored?_put_self] at hb
      cases hb
      refine ⟨rfl, Int.le_refl _, ?_⟩
      have hlevel := h.clean.level_nonneg c
      show 0 ≤ (l.clean now).level now c - if _ then 1 else 0
      split <;> linarith
    · rw [stored?_put_of_ne hkey] at hb
      exact h.clean.refilled c b hb
  cleaned t ht := by
    rw [(l.check_spec now d).2] at ht
    exact h.clean.cleaned t ht

/-- A new limiter is sound: it has no buckets. -/
theorem ofRate {perMinute : Int} (hrate : 1 ≤ perMinute) (burst now : Int) :
    (Limiter.ofRate Rat perMinute burst).Sound now where
  rate := div_nonneg (by exact_mod_cast Int.le_trans Int.one_nonneg hrate) (by decide)
  burst := by
    show 1 ≤ if burst < 1 then perMinute else burst
    split <;> omega
  distinct := List.nodup_nil
  refilled c b hb := by cases hb
  cleaned t ht := by cases ht

end Sound

/-- **A whole burst comes back before a bucket can be forgotten.** -/
def Lossless (l : Limiter Rat) : Prop := l.burst * minute ≤ l.perMinute * (expiry + 1)

/-- Being lossless, in fractions: what comes back before a bucket is forgotten is a whole burst. -/
theorem lossless_iff : l.Lossless ↔ (l.burst : Rat) ≤ l.rate * (expiry + 1 : Int) := by
  have hminute : (0 : Rat) < (minute : Int) := by decide
  rw [Lossless, rate, div_mul_eq_mul_div, le_div_iff₀ hminute]
  exact_mod_cast Iff.rfl

/-- **Forgetting idle buckets changes no level**, if a whole burst came back meanwhile. -/
theorem level_clean (h : l.Sound now) (hfull : l.Lossless) (hle : now ≤ later) (c : Bytes) :
    (l.clean now).level later c = l.level later c := by
  have hsame : ∀ b, l.stored? c = some b → (l.clean now).stored? c = some b →
      (l.clean now).level later c = l.level later c := by
    intro b hb hb'
    rw [level_of_some hb, level_of_some hb', rate, burst_clean, perMinute_clean]
    rfl
  have hclean := stored?_clean h.distinct now c
  cases hc : l.stored? c with
  | none =>
    rw [hc] at hclean
    rw [level_of_none hc, level_of_none hclean, burst_clean]
  | some b =>
    rw [hc] at hclean
    obtain ⟨hrefilled, -, htokens⟩ := h.refilled c b hc
    by_cases hidle : (l.isDue now && decide (expiry < now - b.usedAt)) = true
    · have hnone : (l.clean now).stored? c = none := by
        rw [hclean]
        simp [Option.filter, hidle]
      have hlong : expiry < now - b.usedAt := by
        simpa using (Bool.and_eq_true_iff.1 hidle).2
      -- the bucket is full again, so nothing is lost with it
      have hback : (l.burst : Rat) ≤ l.rate * (later - b.refilledAt : Int) := by
        refine (lossless_iff.1 hfull).trans (mul_le_mul_of_nonneg_left ?_ h.rate)
        have hidle' : expiry + 1 ≤ later - b.refilledAt := by omega
        exact_mod_cast hidle'
      rw [level_of_none hnone, burst_clean, level_of_some hc, min_eq_right]
      exact hback.trans (le_add_of_nonneg_left htokens)
    · refine hsame b hc ?_
      rw [hclean]
      simp [Option.filter, hidle]

/-! ## Windows -/

variable {start stop : Int} {rs : List Request}

/-- Tokens come back at the same rate all the time. -/
theorem rate_check : (l.check now d).2.rate = l.rate := by rw [rate, perMinute_check, rate]

/-- Whether a limiter loses anything depends on what it was made with, so no check changes it. -/
theorem Lossless.check (h : l.Lossless) (now : Int) (d : Bytes) :
    (l.check now d).2.Lossless := by
  rw [Lossless, burst_check, perMinute_check]
  exact h

/-- **A request that counts takes a token**, and the others take none of the client. -/
theorem counted_add_level_le {r : Request} (h : l.Sound r.time) (hfull : l.Lossless) :
    (l.counted c start stop r : Rat) + (l.check r.time r.client).2.level r.time c
      ≤ l.level r.time c := by
  have hclean := level_clean h hfull (Int.le_refl r.time) c
  unfold counted
  by_cases hclient : r.client = c
  · have hafter : (l.check r.time r.client).2.level r.time c
        ≤ l.level r.time c - if 1 ≤ l.level r.time c then 1 else 0 := by
      rw [hclient, level_check_self, hclean, Int.sub_self, Int.cast_zero, mul_zero, add_zero]
      exact min_le_left _ _
    have hallowed : (l.check r.time r.client).1.allowed = true ↔ 1 ≤ l.level r.time c := by
      rw [(l.check_spec r.time r.client).1, hclient, hclean]
    by_cases hone : 1 ≤ l.level r.time c
    · rw [if_pos hone] at hafter
      split <;> push_cast <;> linarith
    · rw [if_neg hone] at hafter
      rw [if_neg fun hin => hone (hallowed.1 hin.2.2.2)]
      push_cast
      linarith
  · rw [if_neg fun hin => hclient hin.1, level_check_of_ne hclient, hclean, Nat.cast_zero, zero_add]

/-- A request outside of the window does not count. -/
theorem counted_eq_zero {r : Request} (h : r.time < start ∨ stop < r.time) :
    l.counted c start stop r = 0 :=
  if_neg fun hin => h.elim (Int.not_lt.2 hin.2.1) (Int.not_lt.2 hin.2.2.1)

/-- Nothing is counted if all requests come after the window. -/
theorem allowedIn_eq_zero (h : ∀ r ∈ rs, stop < r.time) : l.allowedIn c start stop rs = 0 := by
  induction rs generalizing l with
  | nil => rfl
  | cons r rs ih =>
    obtain ⟨hr, hrs⟩ := List.forall_mem_cons.1 h
    rw [allowedIn, counted_eq_zero (.inr hr), ih hrs]

/-- Requests in the order of time. -/
def Ascending (now : Int) (rs : List Request) : Prop :=
  (now :: rs.map Request.time).Pairwise (· ≤ ·)

/-- Requests that come in order come after the first of them. -/
theorem Ascending.head {r : Request} (h : Ascending now (r :: rs)) :
    now ≤ r.time ∧ Ascending r.time rs :=
  ⟨(List.pairwise_cons.1 h).1 _ List.mem_cons_self, (List.pairwise_cons.1 h).2⟩

/-- And so after the time from which on they come in order. -/
theorem Ascending.le (h : Ascending now rs) {r : Request} (hr : r ∈ rs) : now ≤ r.time :=
  (List.pairwise_cons.1 h).1 _ (List.mem_map_of_mem hr)

/-- What comes back in two stretches of time. -/
theorem rate_mul_sub (l : Limiter Rat) (a b c : Int) :
    l.rate * (c - a : Int) = l.rate * (b - a : Int) + l.rate * (c - b : Int) := by
  push_cast
  ring

theorem Sound.rate_mul_nonneg (h : l.Sound now) {a b : Int} (hab : a ≤ b) :
    0 ≤ l.rate * (b - a : Int) :=
  mul_nonneg h.rate (by exact_mod_cast Int.sub_nonneg_of_le hab)

/-- **What is allowed from now on** is at most what is in the bucket now and what comes back
until the window ends. -/
theorem allowedIn_le_level (h : l.Sound now) (hfull : l.Lossless) (hnow : now ≤ stop)
    (hrs : Ascending now rs) :
    (l.allowedIn c start stop rs : Rat) ≤ l.level now c + l.rate * (stop - now : Int) := by
  induction rs generalizing l now with
  | nil => exact add_nonneg (h.level_nonneg c) (h.rate_mul_nonneg hnow)
  | cons r rs ih =>
    obtain ⟨hle, hrest⟩ := hrs.head
    by_cases hlate : stop < r.time
    · have hzero : l.allowedIn c start stop (r :: rs) = 0 :=
        allowedIn_eq_zero (List.forall_mem_cons.2
          ⟨hlate, fun r' hr' => Int.lt_of_lt_of_le hlate (hrest.le hr')⟩)
      rw [hzero]
      exact add_nonneg (h.level_nonneg c) (h.rate_mul_nonneg hnow)
    · have hthen := h.mono hle
      have hrise := level_le_add h.rate hle c
      have htaken : (l.counted c start stop r : Rat) + (l.check r.time r.client).2.level r.time c
          ≤ l.level r.time c := counted_add_level_le hthen hfull
      have hlater := ih (hthen.check r.client) (hfull.check _ _) (Int.not_lt.1 hlate) hrest
      rw [rate_check] at hlater
      rw [allowedIn, Nat.cast_add, l.rate_mul_sub now r.time stop]
      linarith

/-- **The promise of a limiter that forgets nothing**: in a window of any length, no client
gets more than a burst and what comes back in that time. -/
theorem allowedIn_le (h : l.Sound now) (hfull : l.Lossless) (hwindow : start ≤ stop)
    (hrs : Ascending now rs) :
    (l.allowedIn c start stop rs : Rat) ≤ l.burst + l.rate * (stop - start : Int) := by
  have hburst : (0 : Rat) ≤ l.burst := by exact_mod_cast Int.le_trans Int.one_nonneg h.burst
  induction rs generalizing l now with
  | nil => exact add_nonneg hburst (h.rate_mul_nonneg hwindow)
  | cons r rs ih =>
    obtain ⟨hle, hrest⟩ := hrs.head
    by_cases hearly : r.time < start
    · -- in front of the window
      have hlater := ih ((h.mono hle).check r.client) (hfull.check _ _) hrest
        (by rw [burst_check]; exact hburst)
      rw [burst_check, rate_check] at hlater
      rw [allowedIn, counted_eq_zero (.inl hearly), Nat.zero_add]
      exact hlater
    by_cases hlate : stop < r.time
    · have hzero : l.allowedIn c start stop (r :: rs) = 0 :=
        allowedIn_eq_zero (List.forall_mem_cons.2
          ⟨hlate, fun r' hr' => Int.lt_of_lt_of_le hlate (hrest.le hr')⟩)
      rw [hzero]
      exact add_nonneg hburst (h.rate_mul_nonneg hwindow)
    · -- the first request of the window, where the level is at most a burst
      have hall : Ascending r.time (r :: rs) :=
        List.pairwise_cons.2 ⟨List.forall_mem_cons.2
          ⟨Int.le_refl _, (List.pairwise_cons.1 hrest).1⟩, hrest⟩
      have hinside : (l.allowedIn c start stop (r :: rs) : Rat)
          ≤ l.level r.time c + l.rate * (stop - r.time : Int) :=
        allowedIn_le_level (h.mono hle) hfull (Int.not_lt.1 hlate) hall
      have hlevel := l.level_le_burst r.time c
      have hback := h.rate_mul_nonneg (Int.not_lt.1 hearly)
      rw [l.rate_mul_sub start r.time stop]
      linarith

/-! ## Bursts -/

/-- What a client gets that was away for long enough: a full bucket, whatever it took
before. -/
theorem level_clean_of_idle (h : l.Sound now) (hidle : now + expiry < later) (c : Bytes) :
    (l.clean later).level later c = l.burst := by
  have hdue : l.isDue later = true := by
    unfold isDue
    cases hcleaned : l.cleanedAt with
    | none => rfl
    | some t =>
      have ht := h.cleaned t hcleaned
      have hhalf : expiry / 2 ≤ expiry := by decide
      exact decide_eq_true (by omega)
  have hnone : (l.clean later).stored? c = none := by
    rw [stored?_clean h.distinct, hdue]
    cases hc : l.stored? c with
    | none => rfl
    | some b =>
      have hused := (h.refilled c b hc).2.1
      have hlong : expiry < later - b.usedAt := by omega
      simp [Option.filter, hlong]
  rw [level_of_none hnone, burst_clean]

/-- A bucket that was used within the last ten minutes is not forgotten. -/
theorem stored?_clean_of_recent (h : l.Distinct) (hb : l.stored? c = some b)
    (hrecent : now - b.usedAt ≤ expiry) : (l.clean now).stored? c = some b := by
  have hfresh : ¬ expiry < now - b.usedAt := Int.not_lt.2 hrecent
  rw [stored?_clean h, hb]
  simp only [Option.filter, hfresh, decide_false, Bool.and_false, Bool.not_false, if_true]

/-- A bucket that was used recently survives cleaning up, and has the level that it had. -/
theorem level_clean_of_recent (h : l.Distinct) (hb : l.stored? c = some b)
    (hrecent : now - b.usedAt ≤ expiry) :
    (l.clean now).level now c = min (b.tokens + l.rate * (now - b.refilledAt : Int)) l.burst := by
  rw [level_of_some (stored?_clean_of_recent h hb hrecent), rate, rate, burst_clean,
    perMinute_clean]

/-- After a check, the client has the bucket that it was checked with, one token less if it was
allowed. -/
theorem stored?_check_self (l : Limiter Rat) (now : Int) (c : Bytes) :
    (l.check now c).2.stored? c = some ((l.clean now).taken now c) :=
  (l.check_spec now c).2 ▸ stored?_put_self _

/-- A request that is allowed takes one token. -/
theorem level_clean_check (h : l.Distinct) (hone : 1 ≤ (l.clean now).level now c) :
    ((l.check now c).2.clean now).level now c = (l.clean now).level now c - 1 := by
  have hfull := (l.clean now).level_le_burst now c
  rw [burst_clean] at hfull
  rw [level_clean_of_recent (h.check now c) (l.stored?_check_self now c)
    ((Int.sub_self now).trans_le (by decide)), burst_check, taken, if_pos hone, Int.sub_self,
    Int.cast_zero, mul_zero, add_zero, min_eq_left (by linarith)]

/-- **As many requests as there are tokens** are allowed at once. -/
theorem allowedIn_replicate {n : Nat} (h : l.Sound now) (hstart : start ≤ now) (hstop : now ≤ stop)
    (hroom : (n : Rat) ≤ (l.clean now).level now c) :
    ∃ after : Limiter Rat, after.Sound now ∧ after.burst = l.burst ∧ ∀ rs,
      l.allowedIn c start stop (List.replicate n ⟨now, c⟩ ++ rs)
        = n + after.allowedIn c start stop rs := by
  induction n generalizing l with
  | zero => exact ⟨l, h, rfl, fun rs => (Nat.zero_add _).symm⟩
  | succ n ih =>
    have hn : (0 : Rat) ≤ n := Nat.cast_nonneg n
    push_cast at hroom
    have hone : 1 ≤ (l.clean now).level now c := by linarith
    have hleft : (n : Rat) ≤ ((l.check now c).2.clean now).level now c := by
      rw [level_clean_check h.distinct hone]
      linarith
    obtain ⟨after, hafter, hburst, hcount⟩ := ih (h.check c) hleft
    refine ⟨after, hafter, hburst.trans burst_check, fun rs => ?_⟩
    have hcounted : l.counted c start stop ⟨now, c⟩ = 1 :=
      if_pos ⟨rfl, hstart, hstop, (l.check_spec now c).1.2 hone⟩
    rw [List.replicate_succ, List.cons_append, allowedIn, hcounted]
    dsimp only
    rw [hcount, ← Nat.add_assoc, Nat.add_comm 1 n]

/-- A client takes a burst, waits until its bucket is forgotten, and takes another one. -/
def twoBursts (n : Nat) (c : Bytes) : List Request :=
  List.replicate n ⟨0, c⟩ ++ List.replicate n ⟨expiry + 1, c⟩

/-- **Both bursts are allowed.** -/
theorem allowedIn_twoBursts {n : Nat} (h : l.Sound 0) (hn : (n : Int) ≤ l.burst)
    (hfirst : l.stored? c = none) :
    l.allowedIn c 0 (expiry + 1) (twoBursts n c) = 2 * n := by
  have hn' : (n : Rat) ≤ l.burst := by exact_mod_cast hn
  have hnew : (l.clean 0).stored? c = none := by
    rw [stored?_clean h.distinct, hfirst]
    rfl
  obtain ⟨after, hafter, hburst, hcount⟩ :=
    allowedIn_replicate h (Int.le_refl 0) (by decide : (0 : Int) ≤ expiry + 1)
      (by rwa [level_of_none hnew, burst_clean])
  have hagain : (n : Rat) ≤ (after.clean (expiry + 1)).level (expiry + 1) c := by
    rw [level_clean_of_idle hafter (by decide), hburst]
    exact hn'
  obtain ⟨last, -, -, hcount'⟩ :=
    allowedIn_replicate (hafter.mono (by decide)) (by decide : (0 : Int) ≤ expiry + 1)
      (Int.le_refl _) hagain
  have hend := hcount' []
  rw [List.append_nil] at hend
  rw [twoBursts, hcount, hend, allowedIn]
  omega

/-- The requests of the two bursts come in order. -/
theorem ascending_twoBursts (n : Nat) (c : Bytes) :
    ((twoBursts n c).map Request.time).Pairwise (· ≤ ·) := by
  rw [twoBursts, List.map_append, List.map_replicate, List.map_replicate, List.pairwise_append]
  refine ⟨List.pairwise_replicate.2 (.inr (Int.le_refl _)),
    List.pairwise_replicate.2 (.inr (Int.le_refl _)), fun a ha b hb => ?_⟩
  rw [List.eq_of_mem_replicate ha, List.eq_of_mem_replicate hb]
  exact (by decide : (0 : Int) ≤ expiry + 1)

end Levels

/-- **When a limiter keeps its promise.** For a rate of at least one request a minute and any
setting of the burst, no client ever gets more in a window than a burst and what comes back in
that time, whatever is asked in whatever order, if and only if a whole burst comes back in the
time after which an idle bucket can be forgotten. -/
theorem allowed_le_iff (perMinute burst : Int) (hrate : 1 ≤ perMinute) :
    (∀ rs : List Request, (rs.map Request.time).Pairwise (· ≤ ·) →
      ∀ (client : Bytes) (start length : Int), 0 ≤ length →
        ((ofRate Rat perMinute burst).allowedIn client start (start + length) rs : Rat)
          ≤ (ofRate Rat perMinute burst).burst + perMinute * length / minute)
    ↔ (ofRate Rat perMinute burst).burst * minute ≤ perMinute * (expiry + 1) := by
  set l := ofRate Rat perMinute burst
  have hback : ∀ length : Int, l.rate * length = perMinute * length / minute := fun length => by
    rw [rate, div_mul_eq_mul_div]
    rfl
  constructor
  · intro hpromise
    have hsound : l.Sound 0 := .ofRate hrate burst 0
    have hburst : ((l.burst.toNat : Nat) : Int) = l.burst :=
      Int.toNat_of_nonneg (Int.le_trans Int.one_nonneg hsound.burst)
    have htwo := hpromise (twoBursts l.burst.toNat []) (ascending_twoBursts _ _) [] 0 (expiry + 1)
      (by decide)
    rw [Int.zero_add, allowedIn_twoBursts hsound (Int.le_of_eq hburst) rfl, ← hback] at htwo
    have hcast : ((2 * l.burst.toNat : Nat) : Rat) = 2 * l.burst := by
      rw [Nat.cast_mul, Nat.cast_ofNat]
      exact congrArg _ (by exact_mod_cast congrArg (Int.cast (R := Rat)) hburst)
    rw [hcast] at htwo
    exact lossless_iff.2 (by linarith)
  · intro hfull rs hrs client start length hlength
    -- the limiter is sound at the time of the first request
    obtain ⟨now, hnow⟩ : ∃ now, Ascending now rs := by
      cases rs with
      | nil => exact ⟨0, List.pairwise_singleton ..⟩
      | cons r rs =>
        exact ⟨r.time, List.pairwise_cons.2 ⟨List.forall_mem_cons.2
          ⟨Int.le_refl _, (List.pairwise_cons.1 hrs).1⟩, hrs⟩⟩
    have hwindow : start ≤ start + length := Int.le_add_of_nonneg_right hlength
    have hle : _ ≤ l.burst + l.rate * (start + length - start : Int) :=
      allowedIn_le (c := client) (.ofRate hrate burst now) hfull hwindow hnow
    rwa [add_sub_cancel_left, hback] at hle

/-- With one request a minute and bursts of ten, nothing is lost: a client that takes ten,
waits for ten minutes and a nanosecond and takes ten again just keeps within the limit. -/
theorem allowed_le_iff_ten :
    let l := ofRate Rat 1 10
    (1 : Int) ≤ 1 ∧ l.allowedIn [97] 0 (expiry + 1) (twoBursts 10 [97]) = 20
      ∧ (l.allowedIn [97] 0 (0 + (expiry + 1)) (twoBursts 10 [97]) : Rat)
        ≤ l.burst + (1 : Int) * (expiry + 1 : Int) / minute := by
  intro l
  refine ⟨by decide, by decide +kernel, ?_⟩
  exact (allowed_le_iff 1 10 (by decide)).2 (by decide) (twoBursts 10 [97])
    (ascending_twoBursts 10 [97]) [97] 0 (expiry + 1) (by decide)

/-- With one request a minute and bursts of twelve, a client gets twenty-four requests in
eleven minutes, where twelve and eleven more are promised. -/
theorem idle_client_exceeds_burst :
    let l := ofRate Rat 1 12
    let rs : List Request :=
      List.replicate 12 ⟨0, [97]⟩ ++ List.replicate 12 ⟨11 * minute, [97]⟩
    (rs.map Request.time).Pairwise (· ≤ ·)
      ∧ l.allowedIn [97] 0 (0 + 11 * minute) rs = 24
      ∧ ¬ (l.allowedIn [97] 0 (0 + 11 * minute) rs : Rat)
        ≤ l.burst + (1 : Int) * (11 * minute : Int) / minute := by
  decide +kernel

end Limiter

end Stencil.RateLimit
