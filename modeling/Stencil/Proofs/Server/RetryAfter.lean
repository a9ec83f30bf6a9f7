import Mathlib.Data.Rat.Floor
import Stencil.Proofs.Server.RateLimit

/-!
# When a refused client may come back

A client that finds no token is told how many seconds to wait. The time after which a whole
token is there again is a fraction of a minute, and what the client is told is that time with
the part of a second cut off, though never less than one second.

What speaks for the client is that nobody else can take from its bucket: others only make the
limiter forget it, and then it is full (`level_le_after`). What speaks against it is the part
that is cut off. Where a token takes a second at most to come back, nothing is cut off that
matters, since a second is what a client is told at least. Where it takes longer, a client that
comes back as told can be too early. So the limiters that keep their word are those with sixty
tokens a minute or more (`waiting_suffices_iff`).

All of this is about exact fractions.
-/

namespace Stencil.RateLimit

/-- The nanoseconds of a second. -/
def second : Int := 1000000000

/-- The integer part of a fraction that is not negative is no larger than the fraction. -/
theorem truncate_le {x : Rat} (h : 0 ≤ x) : (Fraction.truncate x : Rat) ≤ x := by
  have hfloor : Fraction.truncate x = ⌊x⌋ := by
    rw [Rat.floor_def']
    exact Int.tdiv_eq_ediv_of_nonneg (Rat.num_nonneg.2 h)
  rw [hfloor]
  exact Int.floor_le x

namespace Limiter

variable {l : Limiter Rat} {b : Bucket Rat} {c d : Bytes} {now later : Int} {rs : List Request}

/-- The limiter after requests. -/
def after {α : Type} [Fraction α] (l : Limiter α) (rs : List Request) : Limiter α :=
  rs.foldl (fun l r => (l.check r.time r.client).2) l

@[simp] theorem burst_after : (l.after rs).burst = l.burst := by
  induction rs generalizing l with
  | nil => rfl
  | cons r rs ih => exact ih.trans burst_check

@[simp] theorem perMinute_after : (l.after rs).perMinute = l.perMinute := by
  induction rs generalizing l with
  | nil => rfl
  | cons r rs ih => exact ih.trans perMinute_check

/-! ## What others do -/

theorem Distinct.after (h : l.Distinct) (rs : List Request) : (l.after rs).Distinct := by
  induction rs generalizing l with
  | nil => exact h
  | cons r rs ih => exact ih (h.check r.time r.client)

/-- Looking for idle buckets leaves a bucket as it is, or forgets it. -/
theorem stored?_clean_or (h : l.Distinct) (now : Int) (c : Bytes) :
    (l.clean now).stored? c = l.stored? c ∨ (l.clean now).stored? c = none := by
  rw [stored?_clean h]
  cases l.stored? c with
  | none => exact .inr rfl
  | some b =>
    rw [Option.filter]
    split
    · exact .inl rfl
    · exact .inr rfl

/-- Requests of others leave a client's bucket as it is, or have it forgotten. -/
theorem stored?_after_or (h : l.Distinct) (hrs : ∀ r ∈ rs, r.client ≠ c) :
    (l.after rs).stored? c = l.stored? c ∨ (l.after rs).stored? c = none := by
  induction rs generalizing l with
  | nil => exact .inl rfl
  | cons r rs ih =>
    obtain ⟨hr, hrs⟩ := List.forall_mem_cons.1 hrs
    have hstep := stored?_clean_or h r.time c
    rw [← stored?_put_of_ne hr ((l.clean r.time).taken r.time r.client),
      ← (l.check_spec r.time r.client).2] at hstep
    rcases ih (h.check r.time r.client) hrs with hsame | hnone
    · exact hstep.imp hsame.trans hsame.trans
    · exact .inr hnone

/-- **Others take nothing from a client.** When it comes again, its level is at least what it
would be had nobody else come. -/
theorem level_le_after (h : l.Distinct) (hrs : ∀ r ∈ rs, r.client ≠ c) (now : Int) :
    l.level now c ≤ ((l.after rs).clean now).level now c := by
  have hstored : ((l.after rs).clean now).stored? c = l.stored? c
      ∨ ((l.after rs).clean now).stored? c = none := by
    rcases stored?_clean_or (h.after rs) now c with hsame | hnone
    · exact (stored?_after_or h hrs).imp hsame.trans hsame.trans
    · exact .inr hnone
  rcases hstored with hsame | hnone
  · have hlevel : ((l.after rs).clean now).level now c = l.level now c := by
      rw [level, level, bucket_eq, bucket_eq, hsame, tokens_refill, tokens_refill, rate, rate,
        burst_clean, burst_after, perMinute_clean, perMinute_after]
    exact hlevel.ge
  · rw [level_of_none hnone, burst_clean, burst_after]
    exact l.level_le_burst now c

/-! ## What a client is told -/

/-- A refused client is told when there is a whole token again, if the time is counted in whole
nanoseconds. -/
theorem retryAfter_check (h : ¬ 1 ≤ (l.clean now).level now d) :
    (l.check now d).1.retryAfter
      = Fraction.truncate ((1 - (l.clean now).level now d) * minute / l.perMinute) := by
  have hone : (Fraction.ofInt 1 : Rat) = 1 := by decide
  have hrefused : ¬ decide
      (1 ≤ ((l.clean now).refill now ((l.clean now).bucket now d)).tokens) = true :=
    fun hle => h (of_decide_eq_true hle)
  have hle : ∀ x : Rat, Fraction.le 1 x = decide (1 ≤ x) := fun x => rfl
  unfold check
  dsimp only
  rw [hone, hle, if_neg hrefused, perMinute_clean]
  rfl

theorem one_le_retrySeconds (v : Verdict) : 1 ≤ v.retrySeconds := le_max_left ..

/-- **What a client is told is never too long by a whole second**: it is one second, or no longer
than until a token is there. -/
theorem retrySeconds_le {x : Rat} {v : Verdict} (hx : 0 ≤ x)
    (hv : v.retryAfter = Fraction.truncate x) :
    v.retrySeconds = 1 ∨ ((second * v.retrySeconds : Int) : Rat) ≤ x := by
  have hnonneg : 0 ≤ v.retryAfter := by
    rw [hv]
    exact Int.tdiv_nonneg (Rat.num_nonneg.2 hx) (Int.natCast_nonneg _)
  have hseconds : v.retrySeconds = max 1 (v.retryAfter / second) :=
    congrArg _ (Int.tdiv_eq_ediv_of_nonneg hnonneg)
  rcases le_total (v.retryAfter / second) 1 with hle | hle
  · exact .inl (hseconds.trans (max_eq_left hle))
  · right
    have hround : second * v.retrySeconds ≤ v.retryAfter := by
      rw [hseconds, max_eq_right hle]
      exact Int.mul_ediv_self_le (by decide)
    calc ((second * v.retrySeconds : Int) : Rat) ≤ v.retryAfter := by exact_mod_cast hround
      _ ≤ x := hv ▸ truncate_le hx

/-! ## Enough and not enough -/

/-- What comes back in a time, in tokens. -/
theorem rate_mul_eq (l : Limiter Rat) (t : Int) :
    l.rate * t = (l.perMinute * t : Int) / (minute : Int) := by
  rw [rate, div_mul_eq_mul_div, Int.cast_mul]

/-- **At sixty tokens a minute or more, a second brings one back.** -/
theorem one_le_rate_mul (hrate : 60 ≤ l.perMinute) {t : Int} (ht : second ≤ t) :
    1 ≤ l.rate * t := by
  have hminute : (0 : Rat) < (minute : Int) := by decide
  have hback : minute ≤ l.perMinute * t :=
    Int.mul_le_mul hrate ht (by decide) (Int.le_trans (by decide) hrate)
  rw [rate_mul_eq, le_div_iff₀ hminute, one_mul]
  exact_mod_cast hback

/-- **A client that takes tokens at once** has so many less. -/
theorem level_clean_after_replicate (h : l.Distinct) {n : Nat}
    (hroom : (n : Rat) ≤ (l.clean now).level now c) :
    ((l.after (List.replicate n ⟨now, c⟩)).clean now).level now c
      = (l.clean now).level now c - n := by
  induction n generalizing l with
  | zero => simp [after]
  | succ n ih =>
    have hn : (0 : Rat) ≤ n := Nat.cast_nonneg n
    push_cast at hroom ⊢
    have hone := level_clean_check h (c := c) (by linarith)
    have hrest := ih (h.check now c) (by linarith)
    rw [hone] at hrest
    exact hrest.trans (by ring)

/-- **A client that finds less than a token** is refused, keeps what it has, and is told when
there is a whole one. -/
theorem check_of_lt_one (h : l.Distinct) (hburst : 1 ≤ l.burst) (hb : l.stored? c = some b)
    (hrecent : now - b.usedAt ≤ expiry) {x : Rat}
    (hx : x = b.tokens + l.rate * (now - b.refilledAt : Int)) (hlow : x < 1) :
    (l.check now c).1.allowed = false
      ∧ (l.check now c).1.retryAfter = Fraction.truncate ((1 - x) * minute / l.perMinute)
      ∧ (l.check now c).2.stored? c = some ⟨x, now, now⟩ := by
  have hroom : x ≤ l.burst := hlow.le.trans (by exact_mod_cast hburst)
  have hlevel : (l.clean now).level now c = x := by
    rw [level_clean_of_recent h hb hrecent, ← hx, min_eq_left hroom]
  have hnone : ¬ 1 ≤ (l.clean now).level now c := by
    rw [hlevel]
    exact hlow.not_ge
  refine ⟨Bool.eq_false_iff.2 fun hallowed => hnone ((l.check_spec now c).1.1 hallowed), ?_, ?_⟩
  · rw [retryAfter_check hnone, hlevel]
  · rw [stored?_check_self, taken, if_neg hnone, hlevel, sub_zero]

/-- After a burst nothing is left. -/
theorem stored?_after_burst (h : l.Sound now) (hnew : l.stored? c = none) :
    (l.after (List.replicate l.burst.toNat ⟨now, c⟩)).stored? c = some ⟨0, now, now⟩ := by
  obtain ⟨n, hn⟩ : ∃ n : Nat, l.burst = n + 1 := ⟨(l.burst - 1).toNat, by have := h.burst; omega⟩
  have hfull : (l.clean now).level now c = n + 1 := by
    have hnone : (l.clean now).stored? c = none :=
      (stored?_clean_or h.distinct now c).elim (·.trans hnew) id
    rw [level_of_none hnone, burst_clean, hn]
    push_cast
    rfl
  have hlast : ((l.after (List.replicate n ⟨now, c⟩)).clean now).level now c = 1 := by
    rw [level_clean_after_replicate h.distinct (by rw [hfull]; linarith), hfull,
      add_sub_cancel_left]
  have htaken := (l.after (List.replicate n ⟨now, c⟩)).stored?_check_self now c
  rw [taken, hlast, if_pos le_rfl, sub_self] at htaken
  rw [hn, show ((n : Int) + 1).toNat = n + 1 from rfl, List.replicate_succ', after,
    List.foldl_concat]
  exact htaken

/-- What a client is told to wait is too short by what is cut off: so many seconds and the
nanosecond that it had waited bring back less than a token. -/
theorem perMinute_mul_lt {perMinute s : Int} (hrate : 1 ≤ perMinute) (hslow : perMinute < 60)
    (hs : s = 1 ∨ perMinute * (second * s) ≤ minute - perMinute) :
    perMinute * (1 + second * s) < minute := by
  have hsplit : perMinute * (1 + second * s) = perMinute + second * (perMinute * s) := by ring
  have hwait : perMinute * (second * s) = second * (perMinute * s) := by ring
  rw [hsplit]
  rw [hwait] at hs
  unfold second minute at *
  rcases hs with rfl | hs
  · omega
  · omega

/-- **What a client without tokens is told is too short** if it asks after a nanosecond and tokens
are slower than one a second. -/
theorem perMinute_mul_retrySeconds_lt (hrate : 1 ≤ l.perMinute) (hslow : l.perMinute < 60)
    {v : Verdict} (hv : v.retryAfter = Fraction.truncate ((1 - l.rate) * minute / l.perMinute)) :
    l.perMinute * (1 + second * v.retrySeconds) < minute := by
  have hminute : (0 : Rat) < (minute : Int) := by decide
  have hpos : (0 : Rat) < (l.perMinute : Int) := by exact_mod_cast hrate
  have hroom : 0 ≤ minute - l.perMinute := by
    unfold minute
    omega
  have hwait : (1 - l.rate) * minute / l.perMinute
      = (minute - l.perMinute : Int) / l.perMinute := by
    rw [rate, sub_mul, one_mul, div_mul_cancel₀ _ hminute.ne', Int.cast_sub]
  have hnonneg : (0 : Rat) ≤ (minute - l.perMinute : Int) / l.perMinute :=
    div_nonneg (by exact_mod_cast hroom) hpos.le
  have htold := retrySeconds_le hnonneg (hwait ▸ hv)
  refine perMinute_mul_lt hrate hslow (htold.imp_right fun hle => ?_)
  rw [le_div_iff₀ hpos, mul_comm] at hle
  exact_mod_cast hle

/-- **A client that comes back too early.** Nothing is left to it, it asks again a nanosecond
later, and it comes back as soon as it was told. -/
theorem refused_after_waiting (h : l.Distinct) (hburst : 1 ≤ l.burst) (hrate : 1 ≤ l.perMinute)
    (hslow : l.perMinute < 60) (hempty : l.stored? c = some ⟨0, now, now⟩) :
    (l.check (now + 1) c).1.allowed = false
      ∧ ((l.check (now + 1) c).2.check
          (now + 1 + second * (l.check (now + 1) c).1.retrySeconds) c).1.allowed = false := by
  have hminute : (0 : Rat) < (minute : Int) := by decide
  have hx : l.rate = 0 + l.rate * (now + 1 - now : Int) := by
    rw [add_sub_cancel_left, Int.cast_one, mul_one, zero_add]
  have hlow : l.rate < 1 := by
    rw [rate, div_lt_one hminute]
    exact_mod_cast hslow.trans (by decide)
  obtain ⟨hrefused, htold, hkept⟩ := check_of_lt_one h hburst hempty
    (by rw [add_sub_cancel_left]; decide) hx hlow
  set s := (l.check (now + 1) c).1.retrySeconds
  have htoo : l.perMinute * (1 + second * s) < minute :=
    perMinute_mul_retrySeconds_lt hrate hslow htold
  have hearly : second * s ≤ expiry := by
    have hwhole : 0 ≤ 1 + second * s := by
      have := one_le_retrySeconds (l.check (now + 1) c).1
      unfold second
      omega
    have hlong := (le_mul_of_one_le_left hwhole hrate).trans_lt htoo
    have hminute : minute ≤ expiry := by decide
    omega
  have hback : l.rate + l.rate * (second * s : Int)
      = (l.perMinute * (1 + second * s) : Int) / (minute : Int) := by
    rw [← rate_mul_eq, Int.cast_add, Int.cast_one, mul_add, mul_one]
  have hburst' : 1 ≤ (l.check (now + 1) c).2.burst := by rwa [burst_check]
  refine ⟨hrefused, (check_of_lt_one (h.check _ _) hburst' hkept ?_ rfl ?_).1⟩
  · rwa [add_sub_cancel_left]
  · rw [add_sub_cancel_left, rate_check, hback, div_lt_one hminute]
    exact_mod_cast htoo

theorem Sound.after {r : Request} (h : l.Sound now) (hrs : Ascending now (rs ++ [r])) :
    (l.after rs).Sound r.time := by
  induction rs generalizing l now with
  | nil => exact h.mono hrs.head.1
  | cons q rs ih =>
    obtain ⟨hle, hrest⟩ := hrs.head
    exact ih ((h.mono hle).check q.client) hrest

theorem Sound.after_ofRate {perMinute : Int} (hrate : 1 ≤ perMinute) (burst : Int) {r : Request}
    (hrs : ((rs ++ [r]).map Request.time).Pairwise (· ≤ ·)) :
    ((Limiter.ofRate Rat perMinute burst).after rs).Sound r.time := by
  cases rs with
  | nil => exact .ofRate hrate burst r.time
  | cons q rs => exact ((Sound.ofRate hrate burst q.time).check q.client).after hrs

/-- **At sixty tokens a minute or more, waiting as told is enough**, whoever comes meanwhile. -/
theorem allowed_after_waiting {r : Request} (h : l.Sound r.time) (hfast : 60 ≤ l.perMinute)
    {between : List Request} (hothers : ∀ q ∈ between, q.client ≠ r.client)
    (hrefused : (l.check r.time r.client).1.allowed = false)
    (hlater : r.time + second * (l.check r.time r.client).1.retrySeconds ≤ later) :
    (((l.check r.time r.client).2.after between).check later r.client).1.allowed = true := by
  have hnone : ¬ 1 ≤ (l.clean r.time).level r.time r.client := fun hone =>
    Bool.false_ne_true (hrefused.symm.trans ((l.check_spec _ _).1.2 hone))
  have hwait : second ≤ later - r.time := by
    have := one_le_retrySeconds (l.check r.time r.client).1
    unfold second at *
    omega
  have hlevel : 1 ≤ (l.check r.time r.client).2.level later r.client := by
    rw [level_check_self, if_neg hnone, sub_zero]
    refine le_min ?_ (by exact_mod_cast h.burst)
    have hnonneg := h.clean.level_nonneg r.client
    exact (one_le_rate_mul hfast hwait).trans (le_add_of_nonneg_left hnonneg)
  exact (((l.check r.time r.client).2.after between).check_spec later r.client).1.2
    (hlevel.trans (level_le_after (h.distinct.check r.time r.client) hothers later))

/-- **When waiting as told is enough.** For a rate of at least one request a minute and any
setting of the burst, every client that was refused and comes back no earlier than it was told is
let in, whatever was asked before and whoever else comes meanwhile, if and only if the rate is at
least sixty requests a minute. -/
theorem waiting_suffices_iff (perMinute burst : Int) (hrate : 1 ≤ perMinute) :
    (∀ (before between : List Request) (r : Request) (later : Int),
      ((before ++ r :: between).map Request.time ++ [later]).Pairwise (· ≤ ·) →
      (∀ q ∈ between, q.client ≠ r.client) →
      let asked := ((ofRate Rat perMinute burst).after before).check r.time r.client
      asked.1.allowed = false → r.time + second * asked.1.retrySeconds ≤ later →
        ((asked.2.after between).check later r.client).1.allowed = true)
    ↔ 60 ≤ perMinute := by
  set l := ofRate Rat perMinute burst
  constructor
  · intro hpromise
    by_contra hslow
    have hsound : l.Sound 0 := .ofRate hrate burst 0
    set rs : List Request := List.replicate l.burst.toNat ⟨0, []⟩ with hrs
    have hempty : (l.after rs).stored? [] = some ⟨0, 0, 0⟩ := stored?_after_burst hsound rfl
    obtain ⟨hrefused, htoo⟩ := refused_after_waiting (hsound.distinct.after rs)
      (burst_after.symm ▸ hsound.burst) (perMinute_after.symm ▸ hrate)
      (perMinute_after.symm ▸ Int.not_le.1 hslow) hempty
    have hseconds := one_le_retrySeconds ((l.after rs).check 1 []).1
    have hlater : (1 : Int) ≤ 1 + second * ((l.after rs).check 1 []).1.retrySeconds := by
      unfold second
      omega
    have htimes : ((rs ++ [(⟨1, []⟩ : Request)]).map Request.time
        ++ [1 + second * ((l.after rs).check 1 []).1.retrySeconds]).Pairwise (· ≤ ·) := by
      rw [hrs, List.map_append, List.map_replicate, List.append_assoc, List.pairwise_append]
      refine ⟨List.pairwise_replicate.2 (.inr le_rfl), List.pairwise_pair.2 hlater, ?_⟩
      intro a ha b hb
      rw [List.eq_of_mem_replicate ha]
      rcases List.mem_pair.1 hb with rfl | rfl
      · exact (by decide : (0 : Int) ≤ 1)
      · exact (by decide : (0 : Int) ≤ 1).trans hlater
    exact Bool.false_ne_true (htoo.symm.trans
      (hpromise rs [] ⟨1, []⟩ _ htimes (by simp) hrefused le_rfl))
  · intro hfast before between r later htimes hothers asked hrefused hlater
    have hsound : (l.after before).Sound r.time := by
      refine .after_ofRate hrate burst (htimes.sublist ?_)
      rw [List.map_append, List.map_append, List.map_cons, List.append_assoc]
      exact .append_left (.cons_cons _ (List.nil_sublist _)) _
    exact allowed_after_waiting hsound (perMinute_after.symm ▸ hfast) hothers hrefused hlater

/-- At sixty requests a minute, a client that took its two tokens is told to wait a second, and is
let in after that second although somebody else came meanwhile. -/
theorem waiting_suffices_iff_sixty :
    let asked := ((ofRate Rat 60 2).after [⟨0, [97]⟩, ⟨0, [97]⟩]).check 0 [97]
    (1 : Int) ≤ 60 ∧ asked.1.allowed = false ∧ asked.1.retrySeconds = 1
      ∧ ((asked.2.after [⟨500000000, [98]⟩]).check second [97]).1.allowed = true := by
  have htimes : (([⟨0, [97]⟩, ⟨0, [97]⟩] ++ [⟨0, [97]⟩, ⟨500000000, [98]⟩] : List Request).map
      Request.time ++ [second]).Pairwise (· ≤ ·) := by decide +kernel
  have hrefused : (((ofRate Rat 60 2).after [⟨0, [97]⟩, ⟨0, [97]⟩]).check 0 [97]).1.allowed
      = false := by decide +kernel
  have hseconds : (((ofRate Rat 60 2).after [⟨0, [97]⟩, ⟨0, [97]⟩]).check 0 [97]).1.retrySeconds
      = 1 := by decide +kernel
  exact ⟨by decide, hrefused, hseconds,
    (waiting_suffices_iff 60 2 (by decide)).2 (by decide) _ _ ⟨0, [97]⟩ second htimes (by decide)
      hrefused (by rw [hseconds]; decide)⟩

/-- At forty requests a minute, a token is back after a second and a half. A client is told to
wait one second, and is refused again after it. -/
theorem waiting_too_short :
    let asked := ((ofRate Rat 40 1).after [⟨0, [97]⟩]).check 0 [97]
    asked.1.allowed = false ∧ asked.1.retryAfter = 1500000000 ∧ asked.1.retrySeconds = 1
      ∧ (asked.2.check (0 + second * asked.1.retrySeconds) [97]).1.allowed = false := by
  decide +kernel

end Limiter

end Stencil.RateLimit
