import Mathlib.Algebra.Order.BigOperators.Group.List
import Mathlib.Algebra.Order.Ring.Nat
import Stencil.Proofs.Compile.Gate

/-!
# Following includes comes to an end

Included units include units. Two walks follow them: splicing follows every include, also of
a unit that was spliced before, and stops where the unit is still being spliced; collecting
the code fragments visits each unit once. Both are given a bound on how deep they may go,
`Splice.depthBound`, so that they are functions at all. A bound would not be worth much if
it were ever reached, since what lies behind it would be missing without a word.

It never is. `Splice.Expands` and `Document.Collects` say what the two walks give without
any bound: they are defined by the cases of the walks, and a derivation is a walk that has
come to an end. The chain of units being spliced is part of the first one, with what holds of
it at every include on the way (`Splice.Chain`). That the bounded walks give the same is
shown by what is left to visit (`UnitIndex.unseen`). A unit is only entered by a target that
is not on the chain, or was not seen, and is a unit's path. So entering one leaves less to
visit, and there is less of it than the bound to begin with.
-/

namespace Stencil

open Bytes

/-! ## What is left to visit -/

theorem SourceUnit.normalizePath_ne_nil (p : Bytes) : normalizePath p ≠ [] := by
  unfold normalizePath Path.clean
  rw [if_pos (by rfl)]
  exact List.cons_ne_nil _ _

namespace UnitIndex

variable {ix : UnitIndex} {seen seen' : List Bytes} {u : SourceUnit} {p : Bytes}

/-- **How much there is to visit** in units whose paths were not seen. -/
def unseen (ix : UnitIndex) (seen : List Bytes) : Nat :=
  (ix.units.map fun u => if u.path ∈ seen then 0 else u.path.length + u.text.length).sum

/-- Seeing a unit leaves less to visit. -/
theorem unseen_lt (hu : u ∈ ix.units) (hne : u.path ≠ []) (hnew : u.path ∉ seen)
    (hsub : seen ⊆ seen') (hmem : u.path ∈ seen') : ix.unseen seen' < ix.unseen seen := by
  refine List.sum_lt_sum _ _ (fun v _ => ?_) ⟨u, hu, ?_⟩
  · by_cases hv : v.path ∈ seen
    · rw [if_pos hv, if_pos (hsub hv)]
    · rw [if_neg hv]
      split_ifs
      · exact Nat.zero_le _
      · exact Nat.le_refl _
  · rw [if_pos hmem, if_neg hnew]
    exact Nat.add_pos_left (List.length_pos_iff.2 hne) _

/-- There is less to visit than the bound allows. -/
theorem unseen_lt_depthBound (ix : UnitIndex) (seen : List Bytes) (self input : Bytes) :
    ix.unseen seen < Splice.depthBound ix self input := by
  have hle : ix.unseen seen ≤ (ix.units.map fun u => u.path.length + u.text.length).sum := by
    refine List.sum_le_sum fun u _ => ?_
    split_ifs
    · exact Nat.zero_le _
    · exact Nat.le_refl _
  have hextent : (ix.units.map fun u => u.path.length + u.text.length).sum
      ≤ Splice.extent ix self input :=
    (Nat.le_add_right _ _).trans (Nat.le_add_right _ _)
  have hbound : 9 * Splice.extent ix self input + 10 < Splice.depthBound ix self input :=
    Nat.lt_pow_self (by decide)
  omega

/-- The bound allows at least one step. -/
theorem exists_depthBound_eq (ix : UnitIndex) (self input : Bytes) :
    ∃ n, Splice.depthBound ix self input = n + 1 :=
  Nat.exists_eq_succ_of_ne_zero (Nat.ne_zero_of_lt (ix.unseen_lt_depthBound [] self input))

/-- The path of a component that was found is not empty. -/
theorem path_ne_nil_of_component? (h : ix.component? p = some u) : u.path ≠ [] := by
  rw [(component?_eq_some h).2.2]
  exact SourceUnit.normalizePath_ne_nil p

end UnitIndex

namespace Splice

variable {ix : UnitIndex} {self target path : Bytes} {chain : List Bytes} {line : Nat}
  {fault : Fault} {piece : Piece}

/-! ## Obstacles -/

/-- An include can be spliced if it names a component that is neither the unit itself nor
being spliced. -/
theorem obstacle?_eq_none_iff : obstacle? ix self chain target = none ↔
    (ix.component? target).isSome ∧ target ≠ self ∧ target ∉ chain := by
  unfold obstacle?
  cases ix.component? target with
  | none => simp
  | some u =>
    by_cases hself : target = self
    · simp [hself]
    · by_cases hmem : target ∈ chain <;> simp [hself, hmem]

/-- An include of a component that cannot be spliced closes a cycle. -/
theorem obstacle?_eq_some (h : obstacle? ix self chain target = some fault) :
    ((ix.component? target).isNone ∧ fault.code ≠ "TPL0302")
    ∨ ((ix.component? target).isSome ∧ (target = self ∨ target ∈ chain)
      ∧ fault.code = "TPL0302") := by
  unfold obstacle? at h
  cases hfound : ix.component? target with
  | none =>
    rw [hfound] at h
    cases h
    exact .inl ⟨rfl, (by decide : ("TPL0301" : Bytes) ≠ "TPL0302")⟩
  | some u =>
    rw [hfound] at h
    dsimp only [Option.isNone_some] at h
    rw [if_neg Bool.false_ne_true] at h
    refine .inr ⟨rfl, ?_⟩
    split_ifs at h with hself hmem
    · cases h
      exact ⟨.inl hself, rfl⟩
    · cases h
      exact ⟨.inr (List.contains_iff_mem.1 hmem), rfl⟩

/-! ## Splicing without a bound -/

/-- The unit that the includes stand in: the innermost one being spliced. -/
def current (self : Bytes) (chain : List Bytes) : Bytes := chain.getLast?.getD self

@[simp] theorem current_nil (self : Bytes) : current self [] = self := rfl

@[simp] theorem current_concat (self : Bytes) (chain : List Bytes) (target : Bytes) :
    current self (chain ++ [target]) = target := by
  rw [current, List.getLast?_concat, Option.getD_some]

theorem currentDir_eq (self : Bytes) (chain : List Bytes) :
    currentDir (Path.dir self) chain = Path.dir (current self chain) := by
  unfold currentDir current
  cases chain.getLast? <;> rfl

/-- **The units being spliced** are different components of the batch, none of them the unit
that code is generated for. -/
structure Chain (ix : UnitIndex) (own : Bytes) (chain : List Bytes) : Prop where
  nodup : chain.Nodup
  own_not_mem : own ∉ chain
  component : ∀ target ∈ chain, ∃ u, ix.component? target = some u ∧ u.path = target

theorem Chain.nil (ix : UnitIndex) (self : Bytes) : Chain ix self [] :=
  ⟨.nil, List.not_mem_nil, fun _ h => absurd h List.not_mem_nil⟩

/-- Splicing one more unit, by its path, keeps the chain in order. -/
theorem Chain.concat (h : Chain ix self chain) {u : SourceUnit}
    (hnone : obstacle? ix self chain target = none) (hu : ix.component? target = some u)
    (hpath : u.path = target) : Chain ix self (chain ++ [target]) := by
  obtain ⟨-, hself, hchain⟩ := obstacle?_eq_none_iff.1 hnone
  refine ⟨?_, ?_, List.forall_mem_append.2
    ⟨h.component, List.forall_mem_singleton.2 ⟨u, hu, hpath⟩⟩⟩
  · exact List.nodup_append.2 ⟨h.nodup, List.pairwise_singleton .., fun a ha b hb =>
      List.mem_singleton.1 hb ▸ fun hab => hchain (hab ▸ ha)⟩
  · rw [List.mem_append, List.mem_singleton, not_or]
    exact ⟨h.own_not_mem, hself.symm⟩

/-- **What an include becomes**, by the cases of splicing: `Expands ix self chain path line x`
says that splicing `path` comes to an end with the piece `x`, and that the chain is in order
here and at every include on the way. -/
inductive Expands (ix : UnitIndex) (self : Bytes) : List Bytes → Bytes → Nat → Piece → Prop
  /-- The include cannot be spliced. -/
  | broken {chain : List Bytes} {path : Bytes} {line : Nat} {fault : Fault}
      (hchain : Chain ix self chain)
      (h : obstacle? ix self chain (includeTarget (Path.dir (current self chain)) path)
        = some fault) :
      Expands ix self chain path line (.broken line fault)
  /-- The unit is spliced, and so are the units that it includes. -/
  | spliced {chain : List Bytes} {path target : Bytes} {line : Nat} {u : SourceUnit}
      {f : Bytes → Nat → Piece} (hchain : Chain ix self chain)
      (htarget : includeTarget (Path.dir (current self chain)) path = target)
      (h : obstacle? ix self chain target = none) (hu : ix.component? target = some u)
      (hbody : ∀ path' ∈ Node.includesAll (Document.read u.text).1.body, ∀ line',
        Expands ix self (chain ++ [target]) path' line' (f path' line')) :
      Expands ix self chain path line
        (.spliced line (Node.piecesAll f (Document.read u.text).1.body))

/-- **Every include written in a unit at a path leads to a path in normal form.** -/
def NormalIn (path : Bytes) (body : List Node) : Prop :=
  ∀ p ∈ Node.includesAll body,
    SourceUnit.normalizePath (includeTarget (Path.dir path) p) = includeTarget (Path.dir path) p

/-- **The bound on splicing is not reached**: with more of it than there is left to visit,
an include becomes what it becomes without a bound. -/
theorem expands_includePiece (hnormal : Compile.TargetsNormal ix.units) {depth : Nat}
    (hchain : Chain ix self chain) (hdepth : ix.unseen chain < depth)
    (hpath : SourceUnit.normalizePath (includeTarget (Path.dir (current self chain)) path)
      = includeTarget (Path.dir (current self chain)) path) (line : Nat) :
    Expands ix self chain path line (includePiece ix self depth chain path line) := by
  induction depth generalizing chain path line with
  | zero => exact absurd hdepth (Nat.not_lt_zero _)
  | succ depth ih =>
    unfold includePiece
    dsimp only
    rw [currentDir_eq]
    generalize htarget : includeTarget (Path.dir (current self chain)) path = target at hpath
    split
    · next u hnone hu =>
      obtain ⟨hmem, hkind, hupath⟩ := UnitIndex.component?_eq_some hu
      rw [hpath] at hupath
      refine .spliced hchain htarget hnone hu fun path' hpath' line' =>
        ih (hchain.concat hnone hu hupath) ?_ ?_ line'
      · -- entering a unit that is not being spliced leaves less to visit
        have hless := UnitIndex.unseen_lt hmem (UnitIndex.path_ne_nil_of_component? hu)
          (hupath ▸ (obstacle?_eq_none_iff.1 hnone).2.2) (List.subset_append_left chain [target])
          (hupath ▸ List.mem_append_right _ (List.mem_singleton_self _))
        omega
      · rw [current_concat, ← hupath]
        exact hnormal u hmem hkind path' hpath'
    · next fault _ hsome => exact .broken hchain (htarget ▸ hsome)
    · next hnone hu =>
      have hsome := (obstacle?_eq_none_iff.1 hnone).1
      rw [hu] at hsome
      cases hsome

end Splice

/-! ## Collecting without a bound -/

section Seen

variable {f : Bytes → SpanWalk → SpanWalk}

/-- Adding fragments sees nothing new. -/
theorem SpanWalk.seen_foldl_add {α : Type} (g : α → SpanWalk → SpanWalk)
    (hg : ∀ a w, (g a w).seen = w.seen) (l : List α) (w : SpanWalk) :
    (l.foldl (fun w a => g a w) w).seen = w.seen := by
  induction l generalizing w with
  | nil => rfl
  | cons a l ih => rw [List.foldl_cons, ih, hg]

mutual

/-- A walk over a tree forgets nothing that was seen, if it forgets nothing at includes. -/
theorem Node.seen_subset_walkSpans (hf : ∀ path w, w.seen ⊆ (f path w).seen) :
    ∀ (n : Node) (w : SpanWalk), w.seen ⊆ (n.walkSpans f w).seen
  | .text .., _ | .expr .., _ => List.Subset.refl _
  | .splice path _, w => hf path w
  | .loop clause body _ _, w => Node.seen_subset_walkSpansAll hf body (w.add clause)
  | .choice branches otherwise _ _, w =>
    List.Subset.trans (Branch.seen_subset_walkSpansAll hf branches w)
      (Node.seen_subset_walkSpansAll hf otherwise _)
  | .element tag attrs children _ _ _, w => by
    have hadded := SpanWalk.seen_foldl_add SpanWalk.add (fun _ _ => rfl) (tagSpans tag attrs) w
    rw [Node.walkSpans, ← hadded]
    exact Node.seen_subset_walkSpansAll hf children _

theorem Node.seen_subset_walkSpansAll (hf : ∀ path w, w.seen ⊆ (f path w).seen) :
    ∀ (ns : List Node) (w : SpanWalk), w.seen ⊆ (Node.walkSpansAll f ns w).seen
  | [], _ => List.Subset.refl _
  | n :: ns, w =>
    List.Subset.trans (Node.seen_subset_walkSpans hf n w)
      (Node.seen_subset_walkSpansAll hf ns _)

theorem Branch.seen_subset_walkSpansAll (hf : ∀ path w, w.seen ⊆ (f path w).seen) :
    ∀ (bs : List Branch) (w : SpanWalk), w.seen ⊆ (Branch.walkSpansAll f bs w).seen
  | [], _ => List.Subset.refl _
  | .mk cond body _ :: bs, w =>
    List.Subset.trans (Node.seen_subset_walkSpansAll hf body (w.add cond))
      (Branch.seen_subset_walkSpansAll hf bs _)

end

namespace Document

/-- A walk over a document forgets nothing that was seen. -/
theorem seen_subset_walkSpans (hf : ∀ path w, w.seen ⊆ (f path w).seen) (d : Document)
    (w : SpanWalk) : w.seen ⊆ (d.walkSpans f w).seen := by
  have hparams := SpanWalk.seen_foldl_add (fun (p : ParamDirective) w => w.add p.type)
    (fun _ _ => rfl) d.params w
  have hcode := SpanWalk.seen_foldl_add
    (fun (c : CodeBlock) w => c.lines.foldl (fun w l => w.add l) w)
    (fun c w => SpanWalk.seen_foldl_add SpanWalk.add (fun _ _ => rfl) c.lines w) d.code
    (d.params.foldl (fun w p => w.add p.type) w)
  rw [walkSpans, ← hparams, ← hcode]
  exact Node.seen_subset_walkSpansAll hf d.body _

/-- What an include contributes forgets nothing that was seen. -/
theorem seen_subset_includeSpans (ix : UnitIndex) (depth : Nat) (dir path : Bytes)
    (w : SpanWalk) : w.seen ⊆ (includeSpans ix depth dir path w).seen := by
  induction depth generalizing dir path w with
  | zero => exact List.Subset.refl _
  | succ depth ih =>
    unfold includeSpans
    dsimp only
    split
    · exact List.Subset.refl _
    · have hadded : w.seen ⊆ includeTarget dir path :: w.seen := List.subset_cons_self _ _
      split
      · exact hadded
      · exact List.Subset.trans hadded (seen_subset_walkSpans (fun path w => ih _ path w) _
          { w with seen := includeTarget dir path :: w.seen })

/-- **What an include contributes**, by the cases of collecting: `Collects ix dir path w w'`
says that following `path` from a unit in `dir` comes to an end and takes the walk from `w` to
`w'`. Inside a unit, the walk goes on with whatever was seen by then, and nothing that was
seen before is forgotten. -/
inductive Collects (ix : UnitIndex) : Bytes → Bytes → SpanWalk → SpanWalk → Prop
  /-- The unit was seen before. -/
  | visited {dir path : Bytes} {w : SpanWalk} (h : includeTarget dir path ∈ w.seen) :
      Collects ix dir path w w
  /-- There is no such unit. -/
  | missing {dir path target : Bytes} {w : SpanWalk} (htarget : includeTarget dir path = target)
      (h : target ∉ w.seen) (hu : ix.component? target = none) :
      Collects ix dir path w { w with seen := target :: w.seen }
  /-- The unit is entered, and so are the units that it includes. -/
  | entered {dir path target : Bytes} {w : SpanWalk} {u : SourceUnit}
      {f : Bytes → SpanWalk → SpanWalk} (htarget : includeTarget dir path = target)
      (h : target ∉ w.seen) (hu : ix.component? target = some u)
      (hf : ∀ path' w', w'.seen ⊆ (f path' w').seen)
      (hbody : ∀ path' ∈ Node.includesAll (Document.read u.text).1.body, ∀ w',
        target :: w.seen ⊆ w'.seen → Collects ix (Path.dir target) path' w' (f path' w')) :
      Collects ix dir path w
        ((Document.read u.text).1.walkSpans f { w with seen := target :: w.seen })

/-- **The bound on collecting is not reached**: with more of it than there is left to visit, an
include contributes what it contributes without a bound. -/
theorem collects_includeSpans {ix : UnitIndex} (hnormal : Compile.TargetsNormal ix.units)
    {depth : Nat} {dir path : Bytes} {w : SpanWalk} (hdepth : ix.unseen w.seen < depth)
    (hpath : SourceUnit.normalizePath (includeTarget dir path) = includeTarget dir path) :
    Collects ix dir path w (includeSpans ix depth dir path w) := by
  induction depth generalizing dir path w with
  | zero => exact absurd hdepth (Nat.not_lt_zero _)
  | succ depth ih =>
    unfold includeSpans
    dsimp only
    generalize htarget : includeTarget dir path = target at hpath
    split
    · next hseen => exact .visited (htarget ▸ List.contains_iff_mem.1 hseen)
    · next hseen =>
      have hnew : target ∉ w.seen := fun h => hseen (List.contains_iff_mem.2 h)
      split
      · next hu => exact .missing htarget hnew hu
      · next u hu =>
        obtain ⟨hmem, hkind, hupath⟩ := UnitIndex.component?_eq_some hu
        rw [hpath] at hupath
        refine .entered htarget hnew hu (seen_subset_includeSpans ix depth _)
          fun path' hpath' w' hsub => ih ?_ ?_
        · -- the walk may have seen more units by then, which leaves even less
          have hless := UnitIndex.unseen_lt hmem (UnitIndex.path_ne_nil_of_component? hu)
            (hupath ▸ hnew) (List.Subset.trans (List.subset_cons_self _ _) hsub)
            (hupath ▸ hsub List.mem_cons_self)
          omega
        · rw [← hupath]
          exact hnormal u hmem hkind path' hpath'

end Document

end Seen

/-! ## Both walks over a unit -/

/-- **Following the includes of a unit comes to an end**: the two walks that generating code
for it makes are those without a bound. -/
structure Splice.Terminates (ix : UnitIndex) (own input : Bytes) : Prop where
  /-- Splicing does, with the chain in order all the way. -/
  expands : ∀ path ∈ Node.includesAll (Document.read input).1.body, ∀ line,
    Expands ix own [] path line (includePiece ix own (depthBound ix own input) [] path line)
  /-- Collecting code fragments does. -/
  collects : ∀ path ∈ Node.includesAll (Document.read input).1.body, ∀ w,
    Document.Collects ix (Path.dir own) path w
      (Document.includeSpans ix (depthBound ix own input) (Path.dir own) path w)

theorem Splice.terminates {ix : UnitIndex} {self input : Bytes}
    (hinput : NormalIn self (Document.read input).1.body)
    (hnormal : Compile.TargetsNormal ix.units) : Terminates ix self input where
  expands path hpath line := expands_includePiece hnormal (.nil ix self)
    (ix.unseen_lt_depthBound [] self input) (hinput path hpath) line
  collects path hpath w := Document.collects_includeSpans hnormal
    (ix.unseen_lt_depthBound w.seen self input) (hinput path hpath)

end Stencil
