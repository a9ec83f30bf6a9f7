import Mathlib
import Stencil.Proofs.Text.Order
import Stencil.Proofs.Watch.Wakeup

/-!
# What a batch of changes says

A batch goes out for a burst, which is what was recorded since the last time that something went
out. It holds the last change of each path of the burst, with all that was noticed about the file
then, and nothing else, in the order of the paths (`SumsUp`, `sumsUp_summarize`).

The changes that were recorded are the bursts one behind the other, and what still waits. A flush
ends a burst whether or not there is room for its batch: a batch that finds the queue full is lost,
and its changes with it. So the batches that get into the queue sum up some of the bursts, in
their order, and no change is delivered twice (`batches_sum_up_bursts`).
-/

namespace Stencil.Watch

open Bytes

/-! ## A burst and its batch -/

/-- **The change is the last one of its path.** -/
def LastOf (burst : List Change) (c : Change) : Prop :=
  ∃ before after, burst = before ++ c :: after ∧ ∀ e ∈ after, e.path ≠ c.path

/-- **A batch sums up a burst**: it has the last change of each path, in the order of the paths. -/
structure SumsUp (burst batch : List Change) : Prop where
  ne_nil : batch ≠ []
  ascending : batch.Pairwise fun c e => c.path < e.path
  mem_iff : ∀ c, c ∈ batch ↔ LastOf burst c

variable {burst : List Change} {c : Change}

/-- The last change of a path is the first one from behind. -/
theorem find?_reverse_eq_some {p : Bytes} :
    burst.reverse.find? (fun c => c.path = p) = some c ↔ c.path = p ∧ LastOf burst c := by
  rw [List.find?_eq_some_iff_append, decide_eq_true_eq]
  refine and_congr_right fun hp => ?_
  subst hp
  constructor
  · rintro ⟨after, before, hsplit, hafter⟩
    refine ⟨before.reverse, after.reverse, ?_, fun e he => ?_⟩
    · rw [← List.reverse_reverse burst, hsplit, List.reverse_append, List.reverse_cons,
        List.append_assoc, List.singleton_append]
    · simpa using hafter e (List.mem_reverse.1 he)
  · rintro ⟨before, after, rfl, hafter⟩
    refine ⟨after.reverse, before.reverse, by simp, fun e he => ?_⟩
    simpa using hafter e (List.mem_reverse.1 he)

/-- Each path of a burst has a last change. -/
theorem exists_lastOf (hc : c ∈ burst) : ∃ e, e.path = c.path ∧ LastOf burst e := by
  have hfound : (burst.reverse.find? fun e => e.path = c.path).isSome = true :=
    List.find?_isSome.2 ⟨c, List.mem_reverse.2 hc, decide_eq_true rfl⟩
  obtain ⟨e, he⟩ := Option.isSome_iff_exists.1 hfound
  exact ⟨e, find?_reverse_eq_some.1 he⟩

theorem LastOf.mem (h : LastOf burst c) : c ∈ burst := by
  obtain ⟨before, after, rfl, -⟩ := h
  exact List.mem_append_right _ (List.mem_cons_self ..)

/-- **The summary has each path once**, in order. -/
theorem map_path_summarize (burst : List Change) :
    (summarize burst).map Change.path = sort (dedup (burst.map Change.path)) := by
  unfold summarize
  dsimp only
  rw [List.map_filterMap]
  conv_rhs => rw [← List.filterMap_some (l := sort (dedup (burst.map Change.path)))]
  refine List.filterMap_congr fun p hp => ?_
  obtain ⟨c, hc, rfl⟩ := List.mem_map.1 (mem_dedup.1 ((sort_perm _).mem_iff.1 hp))
  obtain ⟨e, hpath, he⟩ := exists_lastOf hc
  rw [find?_reverse_eq_some.2 ⟨hpath, he⟩, Option.map_some, hpath]

theorem mem_summarize_iff : c ∈ summarize burst ↔ LastOf burst c := by
  unfold summarize
  dsimp only
  rw [List.mem_filterMap]
  constructor
  · rintro ⟨p, -, hfound⟩
    exact (find?_reverse_eq_some.1 hfound).2
  · intro h
    refine ⟨c.path, ?_, find?_reverse_eq_some.2 ⟨rfl, h⟩⟩
    exact (sort_perm _).mem_iff.2 (mem_dedup.2 (List.mem_map_of_mem h.mem))

/-- **What goes out for a burst sums it up.** -/
theorem sumsUp_summarize (h : burst ≠ []) : SumsUp burst (summarize burst) where
  ne_nil := by
    obtain ⟨c, hc⟩ := List.exists_mem_of_ne_nil _ h
    obtain ⟨e, -, he⟩ := exists_lastOf hc
    exact List.ne_nil_of_mem (mem_summarize_iff.2 he)
  ascending := by
    have hpaths : ((summarize burst).map Change.path).Pairwise (· < ·) := by
      rw [map_path_summarize]
      refine pairwise_lt ?_ ((sort_perm _).nodup_iff.2 (nodup_dedup _))
      simpa [sort] using pairwise_mergeSort id (dedup (burst.map Change.path))
    exact List.pairwise_map.1 hpaths
  mem_iff := fun _ => mem_summarize_iff

namespace Debouncer

/-! ## Bursts -/

/-- **What can happen to a debouncer**, as far as batches are concerned. -/
inductive Action where
  /-- A change is recorded. -/
  | add (c : Change)
  /-- What waits goes out. -/
  | flush
  /-- The next batch is taken. -/
  | take

/-- The change that an action records. -/
def Action.change? : Action → Option Change
  | .add c => some c
  | .flush | .take => none

/-- What an action does. -/
def step (d : Debouncer) : Action → Debouncer
  | .add c => d.add c
  | .flush => d.flush
  | .take => d.take.2

/-- The debouncer after some actions. -/
def run (d : Debouncer) (actions : List Action) : Debouncer := actions.foldl step d

/-- **The batches that are taken** in the course of some actions. -/
def received (d : Debouncer) : List Action → List (List Change)
  | [] => []
  | .take :: actions => d.take.1.toList ++ received d.take.2 actions
  | a :: actions => received (d.step a) actions

/-- What is recorded before the first flush, between any two, and behind the last. -/
def pieces : List Action → List (List Change)
  | [] => [[]]
  | .add c :: actions => (pieces actions).modifyHead (c :: ·)
  | .flush :: actions => [] :: pieces actions
  | .take :: actions => pieces actions

/-- **The bursts**: what is recorded before each flush and behind the one before it. -/
def bursts (actions : List Action) : List (List Change) := (pieces actions).dropLast

/-- **What is recorded since the last flush.** -/
def sinceFlush (actions : List Action) : List Change := (pieces actions).getLastD []

theorem exists_pieces (actions : List Action) : ∃ p ps, pieces actions = p :: ps := by
  fun_induction pieces actions with
  | case1 | case3 => exact ⟨_, _, rfl⟩
  | case2 c actions ih =>
    obtain ⟨p, ps, hpieces⟩ := ih
    exact ⟨c :: p, ps, by rw [hpieces, List.modifyHead_cons]⟩
  | case4 actions ih => exact ih

/-- **Every change belongs to one burst**, unless it was recorded since the last flush. -/
theorem flatten_bursts (actions : List Action) :
    (bursts actions).flatten ++ sinceFlush actions = actions.filterMap Action.change? := by
  have hpieces : (pieces actions).flatten = actions.filterMap Action.change? := by
    fun_induction pieces actions with
    | case1 => rfl
    | case2 c actions ih =>
      obtain ⟨p, ps, hpieces⟩ := exists_pieces actions
      rw [hpieces] at ih ⊢
      exact congrArg (c :: ·) ih
    | case3 actions ih | case4 actions ih => exact ih
  rw [← hpieces, bursts, sinceFlush]
  obtain ⟨p, ps, hpieces⟩ := exists_pieces actions
  rw [hpieces, ← List.flatten_concat]
  exact congrArg List.flatten (List.dropLast_append_getLast (List.cons_ne_nil p ps))

/-! ## What gets into the queue -/

/-- **What a flush puts into the queue** is the summary of what waits, if something does and
there is room. -/
theorem output_flush (d : Debouncer) : d.flush.output = d.output ++
    if d.pending ≠ [] ∧ d.output.length < d.capacity then [summarize d.pending] else [] := by
  unfold flush
  by_cases hpending : d.pending = []
  · simp [hpending]
  · by_cases hroom : d.output.length < d.capacity <;> simp [hpending, hroom]

@[simp] theorem pending_take (d : Debouncer) : d.take.2.pending = d.pending := by
  unfold take
  split <;> rfl

@[simp] theorem capacity_take (d : Debouncer) : d.take.2.capacity = d.capacity := by
  unfold take
  split <;> rfl

/-- Taking a batch only moves it. -/
theorem take_append_output (d : Debouncer) : d.take.1.toList ++ d.take.2.output = d.output := by
  unfold take
  split
  · rfl
  · next hsome => exact hsome.symm

@[simp] theorem capacity_run (d : Debouncer) (actions : List Action) :
    (d.run actions).capacity = d.capacity := by
  induction actions generalizing d with
  | nil => rfl
  | cons a actions ih =>
    refine (ih (d.step a)).trans ?_
    cases a with
    | add c => rfl
    | flush => exact capacity_flush d
    | take => exact capacity_take d

/-- **What waits, and what was put into the queue**, after some actions. The first burst begins with
what waited before. -/
theorem run_of_pieces (d : Debouncer) {actions : List Action} {p : List Change}
    {ps : List (List Change)} (hpieces : pieces actions = p :: ps) :
    (d.run actions).pending = ((d.pending ++ p) :: ps).getLastD []
      ∧ ∃ delivered sent, d.received actions ++ (d.run actions).output = d.output ++ sent
        ∧ delivered.Sublist ((d.pending ++ p) :: ps).dropLast
        ∧ List.Forall₂ SumsUp delivered sent := by
  induction actions generalizing d p ps with
  | nil =>
    cases hpieces
    exact ⟨(List.append_nil _).symm, [], [], (List.append_nil _).symm, List.nil_sublist _, .nil⟩
  | cons a actions ih =>
    obtain ⟨q, qs, hrest⟩ := exists_pieces actions
    cases a with
    | add c =>
      rw [pieces, hrest, List.modifyHead_cons] at hpieces
      cases hpieces
      have := ih (d.add c) hrest
      rwa [show (d.add c).pending ++ q = d.pending ++ c :: q from List.append_assoc ..] at this
    | flush =>
      rw [pieces, hrest] at hpieces
      cases hpieces
      obtain ⟨hpending, delivered, sent, hqueue, hdelivered, hsent⟩ := ih d.flush hrest
      rw [pending_flush, List.nil_append] at hpending hdelivered
      rw [List.append_nil]
      refine ⟨hpending, ?_⟩
      rw [output_flush, List.append_assoc] at hqueue
      by_cases hroom : d.pending ≠ [] ∧ d.output.length < d.capacity
      · rw [if_pos hroom] at hqueue
        exact ⟨d.pending :: delivered, summarize d.pending :: sent, hqueue,
          hdelivered.cons_cons _, .cons (sumsUp_summarize hroom.1) hsent⟩
      · rw [if_neg hroom] at hqueue
        exact ⟨delivered, sent, hqueue, hdelivered.cons _, hsent⟩
    | take =>
      obtain ⟨hpending, delivered, sent, hqueue, hdelivered, hsent⟩ := ih d.take.2 hpieces
      rw [pending_take] at hpending hdelivered
      refine ⟨hpending, delivered, sent, ?_, hdelivered, hsent⟩
      rw [received, List.append_assoc]
      refine (congrArg (d.take.1.toList ++ ·) hqueue).trans ?_
      rw [← List.append_assoc, take_append_output]

/-- What waits is what was recorded since the last flush, if nothing waited before. -/
theorem pending_run {d : Debouncer} (h : d.pending = []) (actions : List Action) :
    (d.run actions).pending = sinceFlush actions := by
  obtain ⟨p, ps, hpieces⟩ := exists_pieces actions
  rw [(d.run_of_pieces hpieces).1, h, List.nil_append, sinceFlush, hpieces]

end Debouncer

open Debouncer

/-- **Batches sum up bursts.** Whatever is recorded, flushed and taken, starting with any number of
batches in the queue:

* a flush leaves nothing waiting. It puts a batch into the queue if something was recorded since the
  last flush and there is room; that batch sums up what was recorded since the last flush;
* the batches that have got into the queue, whether they were taken or not, sum up bursts, each of
  them another burst, and the bursts, one behind the other, are what was recorded before the last
  flush. So no change is delivered in two batches. -/
theorem batches_sum_up_bursts (capacity : Nat) (queued : List (List Change))
    (actions : List Action) :
    let start : Debouncer := { capacity := capacity, output := queued }
    (∀ before after, actions = before ++ .flush :: after →
        let d := start.run before
        d.flush.pending = []
          ∧ if sinceFlush before ≠ [] ∧ d.output.length < capacity
            then ∃ batch, SumsUp (sinceFlush before) batch ∧ d.flush.output = d.output ++ [batch]
            else d.flush.output = d.output)
      ∧ (bursts actions).flatten ++ sinceFlush actions = actions.filterMap Action.change?
      ∧ ∃ delivered sent, start.received actions ++ (start.run actions).output = queued ++ sent
        ∧ delivered.Sublist (bursts actions) ∧ List.Forall₂ SumsUp delivered sent := by
  intro start
  refine ⟨fun before after _ => ?_, flatten_bursts actions, ?_⟩
  · intro d
    have hpending : d.pending = sinceFlush before := pending_run rfl before
    have hcapacity : d.capacity = capacity := capacity_run start before
    have houtput := d.output_flush
    rw [hpending, hcapacity] at houtput
    refine ⟨pending_flush d, ?_⟩
    split
    · next hroom =>
      rw [if_pos hroom] at houtput
      exact ⟨_, sumsUp_summarize hroom.1, houtput⟩
    · next hroom => rw [houtput, if_neg hroom, List.append_nil]
  · obtain ⟨p, ps, hpieces⟩ := exists_pieces actions
    rw [bursts, hpieces]
    exact (start.run_of_pieces hpieces).2

end Stencil.Watch
