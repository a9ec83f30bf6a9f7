import Stencil.Watch.Vigil

/-!
# Changes wake the handler

Three queues lie between a change and the handler, and each of them can drop what it is given.
But a queue only drops something when it is full, and whatever is in it then will do as well:
the handler reads all sources, and a batch says no more than that it should. So what matters is
that *something* is on the way (`Watcher.Busy`). A change puts something on the way, every action
keeps something on the way, and only the handler, when it takes a batch, may leave nothing.

What is on the way also gets to the handler by itself: what has reached the debouncer goes out on
account of a timer that runs or has run out (`Watcher.Ready.scheduled`). A timer that could not be
stopped in time does no harm. What waits goes out earlier than it should, and the timer that was
started instead finds nothing.
-/

namespace Stencil.Watch

/-! ## The debouncer -/

namespace Debouncer

variable {d : Debouncer}

@[simp] theorem capacity_expire (d : Debouncer) : d.expire.capacity = d.capacity := by
  unfold expire
  split <;> rfl

@[simp] theorem pending_expire (d : Debouncer) : d.expire.pending = d.pending := by
  unfold expire
  split <;> rfl

@[simp] theorem output_expire (d : Debouncer) : d.expire.output = d.output := by
  unfold expire
  split <;> rfl

/-- A timer that runs out still has to do what it was started for. -/
theorem expired_expire_pos (h : d.scheduled = true) : 0 < d.expire.expired := by
  unfold expire
  split
  · exact Nat.zero_lt_succ _
  · next harmed => simpa [scheduled, harmed] using h

/-- A timer that runs out leaves what waits scheduled: it counts as expired then, until something
goes out on its account. -/
theorem scheduled_expire (h : d.scheduled = true) : d.expire.scheduled = true := by
  simp [scheduled, expired_expire_pos h]

@[simp] theorem capacity_flush (d : Debouncer) : d.flush.capacity = d.capacity := by
  unfold flush
  split <;> rfl

@[simp] theorem pending_flush (d : Debouncer) : d.flush.pending = [] := by
  unfold flush
  split
  · next hempty => exact List.isEmpty_iff.1 hempty
  · rfl

/-- Something is in the output after a flush, if something was there or waited: a batch is only
dropped when there are others. -/
theorem output_flush_ne_nil (hroom : 0 < d.capacity) (h : d.pending ≠ [] ∨ d.output ≠ []) :
    d.flush.output ≠ [] := by
  unfold flush
  split
  · next hempty => exact h.resolve_left (not_not_intro (List.isEmpty_iff.1 hempty))
  · dsimp only
    split
    · exact List.append_ne_nil_of_right_ne_nil _ (List.cons_ne_nil _ _)
    · next hfull =>
      intro hnil
      exact hfull (by rw [hnil]; exact hroom)

@[simp] theorem capacity_fire (d : Debouncer) : d.fire.capacity = d.capacity := by
  unfold fire
  split
  · rfl
  · exact capacity_flush _

/-- **What waits goes out** on account of a timer that has run out. If there is none, nothing
happens. -/
theorem fire_cases (d : Debouncer) :
    d.expired = 0 ∧ d.fire = d ∨ ∃ n, d.fire = ({ d with expired := n } : Debouncer).flush := by
  unfold fire
  split
  · next hzero => exact .inl ⟨hzero, rfl⟩
  · exact .inr ⟨_, rfl⟩

end Debouncer

/-! ## The watcher -/

namespace Watcher

variable {w : Watcher}

/-- **Something is on its way to the handler.** -/
def Busy (w : Watcher) : Prop :=
  w.queue ≠ [] ∨ w.debouncer.pending ≠ [] ∨ w.debouncer.output ≠ []

/-- What is always true of a watcher. -/
structure Ready (w : Watcher) : Prop where
  room : 0 < w.capacity
  outputRoom : 0 < w.debouncer.capacity
  scheduled : w.debouncer.pending ≠ [] → w.debouncer.scheduled = true

/-- A watcher starts with nothing that waits, and with room in both queues. -/
theorem ready_start (filters : List Filter) : Ready { filters := filters } where
  room := Nat.zero_lt_succ _
  outputRoom := Nat.zero_lt_succ _
  scheduled := fun h => absurd rfl h

/-- A change that is accepted, or dropped because the queue is full, is not with the debouncer yet.
-/
theorem Ready.accept (h : w.Ready) (c : Change) : (w.accept c).Ready := by
  unfold Watcher.accept
  split <;> exact ⟨h.room, h.outputRoom, h.scheduled⟩

theorem Ready.report (h : w.Ready) (file : FileInfo) (bits : Nat) : (w.report file bits).Ready := by
  unfold Watcher.report
  split
  · exact h.accept _
  · exact h

/-- **What is received waits, and a timer runs for it**: the debouncer starts one with every change.
-/
theorem Ready.receive (h : w.Ready) : w.receive.Ready := by
  unfold Watcher.receive
  split
  · exact h
  · exact ⟨h.room, h.outputRoom, fun _ => rfl⟩

/-- A timer that runs out has still to be acted on. -/
theorem Ready.expire (h : w.Ready) : w.expire.Ready where
  room := h.room
  outputRoom := by simpa [Watcher.expire] using h.outputRoom
  scheduled := fun hpending =>
    Debouncer.scheduled_expire (h.scheduled (by simpa [Watcher.expire] using hpending))

/-- **When something goes out on account of a timer, nothing waits any more.** This is where a
change could be stranded if it waited without a timer of its own; but everything that waits goes out
at once. -/
theorem Ready.fire (h : w.Ready) : w.fire.Ready where
  room := h.room
  outputRoom := by simpa [Watcher.fire] using h.outputRoom
  scheduled := fun hpending => by
    unfold Watcher.fire at hpending ⊢
    dsimp only at hpending ⊢
    rcases w.debouncer.fire_cases with ⟨-, heq⟩ | ⟨n, heq⟩
    · rw [heq] at hpending ⊢
      exact h.scheduled hpending
    · rw [heq, Debouncer.pending_flush] at hpending
      exact absurd rfl hpending

/-- Taking a batch has nothing to do with what waits. -/
theorem Ready.handle (h : w.Ready) : w.handle.2.Ready := by
  unfold Watcher.handle Debouncer.take
  cases w.debouncer.output <;> exact ⟨h.room, h.outputRoom, h.scheduled⟩

/-- **A change puts something on the way**: it is only dropped when there is something. -/
theorem Ready.busy_accept (h : w.Ready) (c : Change) : (w.accept c).Busy := by
  refine .inl ?_
  unfold Watcher.accept
  split
  · exact List.append_ne_nil_of_right_ne_nil _ (List.cons_ne_nil _ _)
  · next hfull =>
    intro hnil
    exact hfull (by rw [hnil]; exact h.room)

/-- A report that the filters accept becomes a change, and so puts something on the way. -/
theorem Ready.busy_report (h : w.Ready) {file : FileInfo} {bits : Nat}
    (haccepted : (Change.ofReport? w.filters file bits).isSome = true) :
    (w.report file bits).Busy := by
  obtain ⟨c, hc⟩ := Option.isSome_iff_exists.1 haccepted
  unfold Watcher.report
  rw [hc]
  exact h.busy_accept c

/-- A report keeps something on the way, whether the filters accept it or not. -/
theorem Busy.report (hready : w.Ready) (h : w.Busy) (file : FileInfo) (bits : Nat) :
    (w.report file bits).Busy := by
  unfold Watcher.report
  split
  · exact hready.busy_accept _
  · exact h

/-- What is received waits. -/
theorem Busy.waits_receive (h : w.Busy) :
    w.receive.debouncer.pending ≠ [] ∨ w.receive.debouncer.output ≠ [] := by
  unfold Watcher.receive
  split
  · next hempty => exact h.resolve_left (not_not_intro hempty)
  · exact .inl (List.append_ne_nil_of_right_ne_nil _ (List.cons_ne_nil _ _))

theorem Busy.receive (h : w.Busy) : w.receive.Busy := .inr h.waits_receive

/-- A timer that runs out moves nothing. -/
theorem Busy.expire (h : w.Busy) : w.expire.Busy := by
  simpa [Busy, Watcher.expire] using h

/-- What waits goes out, or there is a batch anyway. -/
theorem Busy.fire (hready : w.Ready) (h : w.Busy) : w.fire.Busy := by
  unfold Watcher.fire Busy
  dsimp only
  rcases w.debouncer.fire_cases with ⟨-, heq⟩ | ⟨n, heq⟩
  · rw [heq]
    exact h
  · rw [heq]
    exact h.imp_right fun h => .inr (Debouncer.output_flush_ne_nil hready.outputRoom h)

@[simp] theorem filters_report (w : Watcher) (file : FileInfo) (bits : Nat) :
    (w.report file bits).filters = w.filters := by
  unfold report accept
  repeat' split
  all_goals rfl

@[simp] theorem filters_receive (w : Watcher) : w.receive.filters = w.filters := by
  unfold receive
  split <;> rfl

end Watcher

/-! ## The watch -/

namespace Vigil

variable {v : Vigil}

@[simp] theorem filters_step (v : Vigil) (a : Action) :
    (v.step a).watcher.filters = v.watcher.filters := by
  cases a with
  | report file bits => exact Watcher.filters_report ..
  | receive => exact Watcher.filters_receive _
  | take =>
    unfold step
    dsimp only
    split <;> rfl
  | rebuild =>
    unfold step
    dsimp only
    split <;> rfl
  | edit _ | expire | fire => rfl

/-- **Whatever happens, the watcher is ready.** -/
theorem ready_step (h : v.watcher.Ready) (a : Action) : (v.step a).watcher.Ready := by
  cases a with
  | edit f => exact h
  | report file bits => exact h.report file bits
  | receive => exact h.receive
  | expire => exact h.expire
  | fire => exact h.fire
  | take =>
    unfold step
    dsimp only
    split
    · exact h
    · exact h.handle
  | rebuild =>
    unfold step
    dsimp only
    split <;> exact h

/-- The actions of a watch can be looked at in two goes. -/
theorem run_append (v : Vigil) (before after : List Action) :
    v.run (before ++ after) = (v.run before).run after := List.foldl_append ..

/-- The watcher is ready after all actions, by induction on them. -/
theorem ready_run (h : v.watcher.Ready) (actions : List Action) :
    (v.run actions).watcher.Ready := by
  induction actions generalizing v with
  | nil => exact h
  | cons a actions ih => exact ih (ready_step h a)

/-- Nobody changes the filters during a watch. -/
theorem filters_run (v : Vigil) (actions : List Action) :
    (v.run actions).watcher.filters = v.watcher.filters := by
  induction actions generalizing v with
  | nil => rfl
  | cons a actions ih => exact (ih (v.step a)).trans (filters_step v a)

/-- **What is on the way stays on the way** until the handler takes a batch. -/
theorem busy_step (hready : v.watcher.Ready) (h : v.watcher.Busy) {a : Action}
    (ha : a = .take → v.takes = false) : (v.step a).watcher.Busy := by
  cases a with
  | edit f => exact h
  | report file bits => exact h.report hready file bits
  | receive => exact h.receive
  | expire => exact h.expire
  | fire => exact h.fire hready
  | take =>
    unfold step
    dsimp only
    split
    · exact h
    · next hfree =>
      -- the handler would have taken a batch if there had been one
      have hnone : v.watcher.debouncer.output = [] := by
        simpa [takes, Option.not_isSome_iff_eq_none.1 hfree] using ha rfl
      simpa [Watcher.Busy, Watcher.handle, Debouncer.take, hnone] using h
  | rebuild =>
    unfold step
    dsimp only
    split <;> exact h

/-- **Nothing is taken** in the course of some actions. -/
def Untaken (v : Vigil) (actions : List Action) : Prop :=
  ∀ before after, actions = before ++ .take :: after → (v.run before).takes = false

/-- If nothing is taken in the course of some actions, then neither by the first of them nor in the
course of the others. -/
theorem untaken_cons {a : Action} {actions : List Action} (h : v.Untaken (a :: actions)) :
    (a = .take → v.takes = false) ∧ (v.step a).Untaken actions :=
  ⟨fun ha => h [] actions (by rw [ha]; rfl),
    fun before after heq => h (a :: before) after (congrArg (a :: ·) heq)⟩

/-- **What is on the way stays there** through all actions in the course of which nothing is taken.
-/
theorem busy_run (hready : v.watcher.Ready) (h : v.watcher.Busy) {actions : List Action}
    (huntaken : v.Untaken actions) : (v.run actions).watcher.Busy := by
  induction actions generalizing v with
  | nil => exact h
  | cons a actions ih =>
    obtain ⟨ha, huntaken⟩ := untaken_cons huntaken
    exact ih (ready_step hready a) (busy_step hready h ha) huntaken

/-- **What is on the way gets to the handler** by itself: nobody has to change anything. -/
theorem takes_of_busy (hready : v.watcher.Ready) (h : v.watcher.Busy) (hbatch : v.batch = none) :
    (v.run [.receive, .expire, .fire]).takes = true := by
  have hreceived := hready.receive
  have hbatches : v.watcher.receive.expire.fire.debouncer.output ≠ [] := by
    rcases v.watcher.receive.debouncer.expire.fire_cases with ⟨hzero, heq⟩ | ⟨n, heq⟩
    · -- no timer has run out, so nothing waits
      have hnone : v.watcher.receive.debouncer.pending = [] := by
        refine Classical.byContradiction fun hpending => ?_
        have := Debouncer.expired_expire_pos (hreceived.scheduled hpending)
        omega
      show v.watcher.receive.debouncer.expire.fire.output ≠ []
      rw [heq, Debouncer.output_expire]
      exact h.waits_receive.resolve_left (not_not_intro hnone)
    · show v.watcher.receive.debouncer.expire.fire.output ≠ []
      rw [heq]
      refine Debouncer.output_flush_ne_nil ?_ ?_
      · simpa using hreceived.outputRoom
      · simpa using h.waits_receive
  simpa [run, step, takes, hbatch] using hbatches

/-- A report that the filters accept puts something on the way. -/
theorem busy_reported (hready : v.watcher.Ready) (file : FileInfo) (bits : Nat)
    (haccepted : (Change.ofReport? v.watcher.filters file bits).isSome = true) :
    (v.step (.report file bits)).watcher.Busy := hready.busy_report haccepted

/-- **A watch strands no change.**

However those who change files, the system, the debouncer, its timers and the handler take
turns: if a report that the filters accept came after the last batch that was taken, there is a
change on its way to the debouncer, or one that waits, or a batch. And if changes wait, a timer
runs or has run out on whose account they will go out. -/
theorem not_stranded (f : Files) (dir : Bytes) (actions : List Action) :
    let v := (ofDir f dir).run actions
    (∀ before file bits after, actions = before ++ .report file bits :: after →
        (Change.ofReport? filters file bits).isSome = true →
        (((ofDir f dir).run before).step (.report file bits)).Untaken after →
        v.watcher.queue ≠ [] ∨ v.watcher.debouncer.pending ≠ []
          ∨ v.watcher.debouncer.output ≠ [])
      ∧ (v.watcher.debouncer.pending ≠ [] → v.watcher.debouncer.scheduled = true) := by
  intro v
  have hstart : (ofDir f dir).watcher.Ready := Watcher.ready_start filters
  refine ⟨fun before file bits after hactions haccepted huntaken => ?_,
    (ready_run hstart actions).scheduled⟩
  have hready := ready_run hstart before
  have hreported := busy_reported hready file bits (by rwa [filters_run])
  have hv : v = (((ofDir f dir).run before).step (.report file bits)).run after :=
    (congrArg (ofDir f dir).run hactions).trans (run_append ..)
  rw [hv]
  exact busy_run (ready_step hready _) hreported huntaken

/-- A page that is changed while the batch of another one is handled waits, and a timer runs. -/
theorem not_stranded_while_handling :
    let v := (ofDir {} "/").run [.report "/A.tmpl" 2, .receive, .expire, .fire, .take,
      .report "/B.tmpl" 2, .rebuild, .receive]
    (Change.ofReport? filters "/B.tmpl" 2).isSome = true
      ∧ (v.watcher.queue ≠ [] ∨ v.watcher.debouncer.pending ≠ []
        ∨ v.watcher.debouncer.output ≠ [])
      ∧ v.watcher.debouncer.pending ≠ [] ∧ v.watcher.debouncer.scheduled = true := by
  intro v
  have haccepted : (Change.ofReport? filters "/B.tmpl" 2).isSome = true := by decide
  have hpending : v.watcher.debouncer.pending ≠ [] := by decide
  have huntaken : ∀ w : Vigil, w.Untaken [.rebuild, .receive] := by
    intro w before after h
    have hmem : Action.take ∈ [Action.rebuild, .receive] := by
      rw [h]
      exact List.mem_append_right _ List.mem_cons_self
    simp at hmem
  obtain ⟨hbusy, hscheduled⟩ := not_stranded {} "/" [.report "/A.tmpl" 2, .receive, .expire, .fire,
    .take, .report "/B.tmpl" 2, .rebuild, .receive]
  exact ⟨haccepted, hbusy [.report "/A.tmpl" 2, .receive, .expire, .fire, .take] "/B.tmpl" 2
    [.rebuild, .receive] rfl haccepted (huntaken _), hpending, hscheduled hpending⟩

/-- A change that comes too late to stop the timer goes out early, and its own timer runs on. -/
example :
    let d := ((ofDir {} "/").run [.report "/A.tmpl" 2, .receive, .expire, .report "/A.tmpl" 2,
      .receive, .fire]).watcher.debouncer
    d.output.length = 1 ∧ d.pending = [] ∧ d.armed = true := by
  decide

/-! ## What a quiet watch has read -/

/-- The sources that were read last are those that are there, or they will be read again. -/
def Fresh (v : Vigil) : Prop :=
  v.watcher.Busy ∨ v.batch.isSome = true ∨ v.sources = collectSources v.files v.dir

/-- Whether an action leaves the files alone. -/
def Action.isEdit : Action → Bool
  | .edit _ => true
  | _ => false

/-- **A watch stays fresh**: the handler reads the sources after it has taken a batch. -/
theorem fresh_step (hready : v.watcher.Ready) (h : v.Fresh) {a : Action} (ha : a.isEdit = false) :
    (v.step a).Fresh := by
  cases a with
  | edit f => cases ha
  | report file bits => exact h.imp_left fun hbusy => hbusy.report hready file bits
  | receive => exact h.imp_left Watcher.Busy.receive
  | expire => exact h.imp_left Watcher.Busy.expire
  | fire => exact h.imp_left fun hbusy => hbusy.fire hready
  | take =>
    unfold step
    dsimp only
    split
    · exact h
    · next hfree =>
      rcases h with hbusy | hbatch | hsources
      · cases htakes : v.takes with
        | false =>
          have := busy_step (a := .take) hready hbusy fun _ => htakes
          rw [step, if_neg hfree] at this
          exact .inl this
        | true =>
          refine .inr (.inl ?_)
          cases houtput : v.watcher.debouncer.output with
          | nil => simp [takes, houtput] at htakes
          | cons b bs => simp [Watcher.handle, Debouncer.take, houtput]
      · exact absurd hbatch hfree
      · exact .inr (.inr hsources)
  | rebuild =>
    unfold step
    dsimp only
    split
    · exact .inr (.inr rfl)
    · exact h

/-- A watch stays fresh as long as nobody changes the files: each of the actions keeps it so. -/
theorem fresh_run (hready : v.watcher.Ready) (h : v.Fresh) {actions : List Action}
    (hactions : ∀ a ∈ actions, a.isEdit = false) : (v.run actions).Fresh := by
  induction actions generalizing v with
  | nil => exact h
  | cons a actions ih =>
    obtain ⟨ha, hactions⟩ := List.forall_mem_cons.1 hactions
    exact ih (ready_step hready a) (fresh_step hready h ha) hactions

/-- **A quiet watch is up to date.** If a report that the filters accept came after the last
change of the files, nothing is on the way and no batch is being handled, then the sources that
were read last are those that are there. -/
theorem sources_of_quiet (f : Files) (dir : Bytes) (before after : List Action) (file : FileInfo)
    (bits : Nat) (haccepted : (Change.ofReport? filters file bits).isSome = true)
    (hafter : ∀ a ∈ after, a.isEdit = false) :
    let v := (ofDir f dir).run (before ++ .report file bits :: after)
    ¬ v.watcher.Busy → v.batch = none → v.sources = collectSources v.files v.dir := by
  intro v hquiet hbatch
  have hstart : (ofDir f dir).watcher.Ready := Watcher.ready_start filters
  have hreported := busy_reported (ready_run hstart before) file bits (by rwa [filters_run])
  have hfresh : v.Fresh := by
    have hv : v = (((ofDir f dir).run before).step (.report file bits)).run after := run_append ..
    rw [hv]
    exact fresh_run (ready_step (ready_run hstart before) _) (.inl hreported) hafter
  exact (hfresh.resolve_left hquiet).resolve_left (by simp [hbatch])

end Vigil

end Stencil.Watch
