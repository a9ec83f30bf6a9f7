import Stencil.Proofs.Generated.Targets

/-!
# What collecting fragments collects

The code fragments of a unit are collected by one walk over its tree and over the units it
includes, and the walk enters a unit only once. It is depth first, so when it comes to a unit
that was seen before, the walk over that unit may not have ended. What holds all along is that
the units that were seen are being walked over or are finished: all their own fragments
were collected, and all the units that they include were seen (`Document.Finished`). In the end
no unit is being walked over, and so everything that can be reached was collected
(`Document.codeSpans_closed`).

Units being walked over are also what keeps the walk from running into its bound. Their
targets are different and short, and of such there are only so many
(`Splice.length_le_depthBound`).
-/

namespace Stencil

open Bytes

/-! ## The fragments of one unit -/

mutual

/-- **The fragments of a tree**, without those of included units. -/
def Node.spans : Node → List Bytes
  | .text .. | .splice .. => []
  | .expr code _ => [code]
  | .loop clause body _ _ => clause :: Node.spansAll body
  | .choice branches otherwise _ _ => Branch.spansAll branches ++ Node.spansAll otherwise
  | .element tag attrs children _ _ _ => tagSpans tag attrs ++ Node.spansAll children

/-- The fragments of a branch. -/
def Branch.spans : Branch → List Bytes
  | .mk cond body _ => cond :: Node.spansAll body

/-- The fragments of a list of trees. -/
def Node.spansAll : List Node → List Bytes
  | [] => []
  | n :: ns => n.spans ++ Node.spansAll ns

/-- The fragments of a list of branches. -/
def Branch.spansAll : List Branch → List Bytes
  | [] => []
  | b :: bs => b.spans ++ Branch.spansAll bs

end

/-- The fragments of the declarations of a unit: of its parameters and its code blocks. -/
def Document.declared (d : Document) : List Bytes :=
  d.params.map ParamDirective.type ++ d.code.flatMap CodeBlock.lines

/-- **The fragments of a unit**, without those of included units. -/
def Document.spans (d : Document) : List Bytes := d.declared ++ Node.spansAll d.body

/-! ## Walks -/

/-- **What a walk has done** when it gets from `w` to `w'`: it has forgotten nothing, kept the
invariant `I`, collected the fragments in `spans` and seen the targets of `paths`. -/
structure SpanWalk.Walked (I : SpanWalk → Prop) (target : Bytes → Bytes)
    (spans paths : List Bytes) (w w' : SpanWalk) : Prop where
  spans_subset : w.spans ⊆ w'.spans
  seen_subset : w.seen ⊆ w'.seen
  inv : I w'
  collected : spans ⊆ w'.spans
  reached : ∀ p ∈ paths, target p ∈ w'.seen

namespace SpanWalk

variable {I : SpanWalk → Prop} {target : Bytes → Bytes} {spans spans' paths paths' : List Bytes}
  {w w' w'' : SpanWalk}

theorem Walked.refl (hw : I w) : Walked I target [] [] w w :=
  ⟨List.Subset.refl _, List.Subset.refl _, hw, List.nil_subset _,
    fun _ hp => absurd hp List.not_mem_nil⟩

theorem Walked.trans (h : Walked I target spans paths w w')
    (h' : Walked I target spans' paths' w' w'') :
    Walked I target (spans ++ spans') (paths ++ paths') w w'' where
  spans_subset := List.Subset.trans h.spans_subset h'.spans_subset
  seen_subset := List.Subset.trans h.seen_subset h'.seen_subset
  inv := h'.inv
  collected :=
    List.append_subset.2 ⟨List.Subset.trans h.collected h'.spans_subset, h'.collected⟩
  reached := List.forall_mem_append.2 ⟨fun p hp => h'.seen_subset (h.reached p hp), h'.reached⟩

/-- A walk along a list takes up what each of its elements adds. -/
theorem walked_foldl {α : Type} {g : α → SpanWalk → SpanWalk} {out : α → List Bytes}
    (hg : ∀ a w, I w → Walked I target (out a) [] w (g a w)) (l : List α) (hw : I w) :
    Walked I target (l.flatMap out) [] w (l.foldl (fun w a => g a w) w) := by
  induction l generalizing w with
  | nil => exact .refl hw
  | cons a l ih =>
    have ha := hg a w hw
    exact ha.trans (ih ha.inv)

theorem walked_add (hadd : ∀ s w, I w → I (w.add s)) (hw : I w) (s : Bytes) :
    Walked I target [s] [] w (w.add s) where
  spans_subset := List.subset_cons_self _ _
  seen_subset := List.Subset.refl _
  inv := hadd s w hw
  collected := List.cons_subset.2 ⟨List.mem_cons_self .., List.nil_subset _⟩
  reached _ hp := absurd hp List.not_mem_nil

theorem walked_addAll (hadd : ∀ s w, I w → I (w.add s)) (l : List Bytes) (hw : I w) :
    Walked I target l [] w (l.foldl (fun w s => w.add s) w) := by
  have h : Walked I target (l.flatMap fun s => [s]) [] w _ :=
    walked_foldl (fun s _ hw => walked_add hadd hw s) l hw
  rwa [List.flatMap_singleton'] at h

end SpanWalk

section Trees

open SpanWalk

variable {I : SpanWalk → Prop} {target : Bytes → Bytes} {f : Bytes → SpanWalk → SpanWalk}

mutual

/-- **A walk over a tree does what its includes do**, and collects the fragments of the tree. -/
theorem Node.walked (hadd : ∀ s w, I w → I (w.add s)) : ∀ (n : Node) (w : SpanWalk), I w →
    (∀ p ∈ n.includes, ∀ w, I w → Walked I target [] [p] w (f p w)) →
      Walked I target n.spans n.includes w (n.walkSpans f w)
  | .text .., _, hw, _ => .refl hw
  | .expr code _, _, hw, _ => walked_add hadd hw code
  | .splice path _, w, hw, hf => hf path (List.mem_singleton_self _) w hw
  | .loop clause body _ _, _, hw, hf =>
    (walked_add hadd hw clause).trans (Node.walkedAll hadd body _ (hadd clause _ hw) hf)
  | .choice branches otherwise _ _, _, hw, hf => by
    obtain ⟨hbranches, hotherwise⟩ := List.forall_mem_append.1 hf
    have h := Branch.walkedAll hadd branches _ hw hbranches
    exact h.trans (Node.walkedAll hadd otherwise _ h.inv hotherwise)
  | .element tag attrs children _ _ _, _, hw, hf => by
    have h : Walked I target (tagSpans tag attrs) [] _ _ := walked_addAll hadd _ hw
    exact h.trans (Node.walkedAll hadd children _ h.inv hf)

/-- The walk along a list of nodes, by induction along with `Node.walked`. -/
theorem Node.walkedAll (hadd : ∀ s w, I w → I (w.add s)) : ∀ (ns : List Node) (w : SpanWalk), I w →
    (∀ p ∈ Node.includesAll ns, ∀ w, I w → Walked I target [] [p] w (f p w)) →
      Walked I target (Node.spansAll ns) (Node.includesAll ns) w (Node.walkSpansAll f ns w)
  | [], _, hw, _ => .refl hw
  | n :: ns, w, hw, hf => by
    obtain ⟨hn, hns⟩ := List.forall_mem_append.1 hf
    have h := Node.walked hadd n w hw hn
    exact h.trans (Node.walkedAll hadd ns _ h.inv hns)

/-- The walk along branches, by the same induction. A condition is a fragment of its branch. -/
theorem Branch.walkedAll (hadd : ∀ s w, I w → I (w.add s)) :
    ∀ (bs : List Branch) (w : SpanWalk), I w →
    (∀ p ∈ Branch.includesAll bs, ∀ w, I w → Walked I target [] [p] w (f p w)) →
      Walked I target (Branch.spansAll bs) (Branch.includesAll bs) w (Branch.walkSpansAll f bs w)
  | [], _, hw, _ => .refl hw
  | .mk cond body _ :: bs, w, hw, hf => by
    obtain ⟨hb, hbs⟩ := List.forall_mem_append.1 hf
    have h := (walked_add hadd hw cond).trans (Node.walkedAll hadd body _ (hadd cond w hw) hb)
    exact h.trans (Branch.walkedAll hadd bs _ h.inv hbs)

end

/-- A walk over a document does what its includes do, and collects the fragments of the
document. -/
theorem Document.walked (hadd : ∀ s w, I w → I (w.add s)) (d : Document) {w : SpanWalk} (hw : I w)
    (hf : ∀ p ∈ Node.includesAll d.body, ∀ w, I w → Walked I target [] [p] w (f p w)) :
    Walked I target d.spans (Node.includesAll d.body) w (d.walkSpans f w) := by
  have hparams : Walked I target (d.params.flatMap fun p => [p.type]) [] _ _ :=
    walked_foldl (fun p _ hw => walked_add hadd hw p.type) d.params hw
  have hcode : Walked I target (d.code.flatMap CodeBlock.lines) [] _ _ :=
    walked_foldl (fun c _ hw => walked_addAll hadd c.lines hw) d.code hparams.inv
  have htypes : d.params.flatMap (fun p => [p.type]) = d.params.map ParamDirective.type :=
    List.flatMap_pure_eq_map _ _
  rw [htypes] at hparams
  exact (hparams.trans hcode).trans (Node.walkedAll hadd d.body _ hcode.inv hf)

end Trees

/-! ## Includes -/

namespace Document

open SpanWalk

/-- **A target is finished**: if it names a unit, the fragments of the unit were collected, and
everything that the unit includes was seen. -/
def Finished (ix : UnitIndex) (w : SpanWalk) (t : Bytes) : Prop :=
  ∀ u, ix.component? t = some u → (Document.read u.text).1.spans ⊆ w.spans
    ∧ ∀ p ∈ Node.includesAll (Document.read u.text).1.body, includeTarget (Path.dir t) p ∈ w.seen

/-- What was taken up of a unit remains so. -/
theorem Finished.mono {ix : UnitIndex} {w w' : SpanWalk} {t : Bytes} (h : Finished ix w t)
    (hspans : w.spans ⊆ w'.spans) (hseen : w.seen ⊆ w'.seen) : Finished ix w' t := fun u hu =>
  ⟨List.Subset.trans (h u hu).1 hspans, fun p hp => hseen ((h u hu).2 p hp)⟩

/-- **The invariant of collecting**: the targets that are open, outermost last, were seen, and
what was seen is open or finished. -/
structure Collecting (ix : UnitIndex) (opened : List Bytes) (w : SpanWalk) : Prop where
  opened_subset : opened ⊆ w.seen
  finished : ∀ t ∈ w.seen, t ∈ opened ∨ Finished ix w t

namespace Collecting

variable {ix : UnitIndex} {opened : List Bytes} {w : SpanWalk} {t : Bytes}

theorem add (h : Collecting ix opened w) (s : Bytes) : Collecting ix opened (w.add s) where
  opened_subset := h.opened_subset
  finished t ht := (h.finished t ht).imp_right fun hdone =>
    hdone.mono (List.subset_cons_self _ _) (List.Subset.refl _)

/-- Seeing a target that is then open. -/
theorem see (h : Collecting ix opened w) (t : Bytes) :
    Collecting ix (t :: opened) { w with seen := t :: w.seen } where
  opened_subset := List.cons_subset_cons t h.opened_subset
  finished := List.forall_mem_cons.2 ⟨.inl (List.mem_cons_self ..), fun s hs =>
    (h.finished s hs).imp (List.mem_cons_of_mem t) fun hdone =>
      hdone.mono (List.Subset.refl _) (List.subset_cons_self _ _)⟩

/-- Closing a target that is finished. -/
theorem close (h : Collecting ix (t :: opened) w) (ht : Finished ix w t) :
    Collecting ix opened w where
  opened_subset := List.Subset.trans (List.subset_cons_self _ _) h.opened_subset
  finished s hs := by
    rcases h.finished s hs with hs | hs
    · rcases List.mem_cons.1 hs with rfl | hs
      · exact .inr ht
      · exact .inl hs
    · exact .inr hs

end Collecting

/-- **What an include contributes** is everything that was not seen before: its target is seen
in the end, and what was seen is open as before or finished. The bound does not matter, because
there are as many different targets as the walk is deep. -/
theorem walked_includeSpans {ix : UnitIndex} {self input dir path : Bytes} {depth : Nat}
    {opened : List Bytes} {w : SpanWalk} (hnodup : opened.Nodup)
    (hshort : ∀ t ∈ opened, t.length ≤ 9 * Splice.extent ix self input + 9)
    (hdepth : Splice.depthBound ix self input ≤ depth + opened.length)
    (hdir : Splice.Near ix self input dir) (hpath : path.length ≤ 4 * Splice.extent ix self input)
    (hw : Collecting ix opened w) :
    Walked (Collecting ix opened) (includeTarget dir) [] [path] w
      (includeSpans ix depth dir path w) := by
  induction depth generalizing dir path opened w with
  | zero =>
    -- as many targets are open as there are, so the target is one of them
    have hseen : includeTarget dir path ∈ w.seen := by
      by_contra hnew
      have hcons : (includeTarget dir path :: opened).Nodup :=
        List.nodup_cons.2 ⟨fun h => hnew (hw.opened_subset h), hnodup⟩
      have hle := Splice.length_le_depthBound hcons
        (List.forall_mem_cons.2 ⟨hdir.length_includeTarget hpath, hshort⟩)
      rw [List.length_cons] at hle
      omega
    exact ⟨List.Subset.refl _, List.Subset.refl _, hw, List.nil_subset _,
      List.forall_mem_singleton.2 hseen⟩
  | succ depth ih =>
    unfold includeSpans
    dsimp only
    split
    · next hseen =>
      exact ⟨List.Subset.refl _, List.Subset.refl _, hw, List.nil_subset _,
        List.forall_mem_singleton.2 (List.contains_iff_mem.1 hseen)⟩
    · next hseen =>
      have hnew : includeTarget dir path ∉ w.seen := fun h => hseen (List.contains_iff_mem.2 h)
      have hsee := hw.see (includeTarget dir path)
      split
      · next hu =>
        refine ⟨List.Subset.refl _, List.subset_cons_self _ _, hsee.close fun u hu' => ?_,
          List.nil_subset _, List.forall_mem_singleton.2 (List.mem_cons_self ..)⟩
        rw [hu] at hu'
        cases hu'
      · next u hu =>
        have hextent := Splice.length_le_extent (UnitIndex.component?_eq_some hu).1 self input
        have hwalked : Walked (Collecting ix (includeTarget dir path :: opened))
            (includeTarget (Path.dir (includeTarget dir path))) _ _ _ _ :=
          Document.walked (fun s _ h => h.add s) (Document.read u.text).1 hsee
          fun p hp w' hw' => ih
            (List.nodup_cons.2 ⟨fun h => hnew (hw.opened_subset h), hnodup⟩)
            (List.forall_mem_cons.2 ⟨hdir.length_includeTarget hpath, hshort⟩)
            (by rw [List.length_cons]; omega) (hdir.includeTarget hpath hu)
            ((Document.length_of_mem_includes hp).trans (by omega)) hw'
        refine ⟨hwalked.spans_subset, List.Subset.trans (List.subset_cons_self _ _)
          hwalked.seen_subset, hwalked.inv.close fun v hv => ?_, List.nil_subset _,
          List.forall_mem_singleton.2 (hwalked.seen_subset (List.mem_cons_self ..))⟩
        obtain rfl := Option.some.inj (hu.symm.trans hv)
        exact ⟨hwalked.collected, hwalked.reached⟩

/-- **Everything that can be reached is collected.** The fragments of a unit itself are, and
those of every unit that it includes, directly or through other units. -/
theorem codeSpans_closed (ix : UnitIndex) (self input : Bytes) :
    let d := (Document.read input).1
    let spans := d.codeSpans ix self input
    ∃ seen : List Bytes, d.spans ⊆ spans
      ∧ (∀ p ∈ Node.includesAll d.body, includeTarget (Path.dir self) p ∈ seen)
      ∧ ∀ t ∈ seen, t ≠ self → ∀ u, ix.component? t = some u →
        (Document.read u.text).1.spans ⊆ spans
          ∧ ∀ p ∈ Node.includesAll (Document.read u.text).1.body,
            includeTarget (Path.dir t) p ∈ seen := by
  intro d spans
  have hself : self.length ≤ Splice.extent ix self input :=
    (Nat.le_add_left _ _).trans (Nat.le_add_right _ _)
  have hinput : input.length ≤ Splice.extent ix self input := Nat.le_add_left _ _
  have hstart : Collecting ix [self] { seen := [self] } :=
    ⟨List.Subset.refl _, fun t ht => .inl ht⟩
  have hwalked : Walked (Collecting ix [self]) (includeTarget (Path.dir self)) d.spans _ _
      (d.walkSpans (includeSpans ix (Splice.depthBound ix self input) (Path.dir self)) _) :=
    Document.walked (fun s _ h => h.add s) d hstart fun p hp w hw =>
      walked_includeSpans (List.nodup_singleton self)
        (List.forall_mem_singleton.2 (by omega)) (Nat.le_add_right _ _)
        (Splice.near_dir_self ix self input)
        ((Document.length_of_mem_includes hp).trans (by omega)) hw
  have hspans : ∀ l : List Bytes, l ⊆ _ → l ⊆ spans := fun l hl =>
    List.Subset.trans hl fun _ => List.mem_reverse.2
  refine ⟨_, hspans _ hwalked.collected, hwalked.reached, fun t ht hne u hu => ?_⟩
  have hdone := (hwalked.inv.finished t ht).resolve_left (mt List.mem_singleton.1 hne)
  exact ⟨hspans _ (hdone u hu).1, (hdone u hu).2⟩

end Document

end Stencil
