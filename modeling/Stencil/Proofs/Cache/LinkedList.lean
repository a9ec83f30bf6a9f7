import Mathlib.Data.List.Chain
import Stencil.Cache.LinkedList

/-!
# What a linked list lists

The links of a list are numbers in a table, and nothing in the table says that they lead
anywhere. `Lists l order` says that they do: from the head through the places of `order` to
the tail, with every link forward answered by one backward, and without coming to a place
twice.

Each operation writes a few links and is meant for a list of a certain shape. What it leaves
behind is said in terms of `order` alone (`Lists.unlink`, `Lists.linkFront`,
`Lists.moveToFront`), so that nothing outside this module follows a link. The argument is the
same each time: the chain is cut where links are written, the parts keep theirs because places
do not occur twice (`isChain_frame`), and the cut ends are joined by what was written.
-/

namespace Stencil.LinkedList

variable {α : Type} {l l' : LinkedList α} {i j k : Nat}

/-! ## Single links -/

@[simp] theorem size_setNext : (l.setNext i j).links.size = l.links.size := Array.size_modify

@[simp] theorem size_setPrev : (l.setPrev i j).links.size = l.links.size := Array.size_modify

@[simp] theorem size_release : (l.release i).links.size = l.links.size := Array.size_modify

@[simp] theorem size_alloc (v : α) : (l.alloc v).links.size = l.links.size + 1 := Array.size_push ..

@[simp] theorem size_unlink : (l.unlink i).links.size = l.links.size := by
  rw [unlink, size_setPrev, size_setNext]

@[simp] theorem size_linkFront : (l.linkFront i).links.size = l.links.size := by
  rw [linkFront, size_setNext, size_setPrev, size_setNext, size_setPrev]

/-- A link forward that was written is read back, if its place is one of the list. -/
theorem next_setNext_self (h : i < l.links.size) : (l.setNext i j).next i = j := by
  simp only [next, setNext, Array.getElem?_modify, if_true, Array.getElem?_eq_getElem h]
  rfl

/-- The links of other places stay as they were. -/
theorem next_setNext_of_ne (h : i ≠ k) : (l.setNext i j).next k = l.next k := by
  simp [next, setNext, Array.getElem?_modify, h]

theorem prev_setPrev_self (h : i < l.links.size) : (l.setPrev i j).prev i = j := by
  simp only [prev, setPrev, Array.getElem?_modify, if_true, Array.getElem?_eq_getElem h]
  rfl

theorem prev_setPrev_of_ne (h : i ≠ k) : (l.setPrev i j).prev k = l.prev k := by
  simp [prev, setPrev, Array.getElem?_modify, h]

@[simp] theorem prev_setNext : (l.setNext i j).prev k = l.prev k := by
  simp only [prev, setNext, Array.getElem?_modify]
  split <;> simp [Function.comp_def]

@[simp] theorem next_setPrev : (l.setPrev i j).next k = l.next k := by
  simp only [next, setPrev, Array.getElem?_modify]
  split <;> simp [Function.comp_def]

@[simp] theorem next_release : (l.release i).next k = l.next k := by
  simp only [next, release, Array.getElem?_modify]
  split <;> simp [Function.comp_def]

@[simp] theorem prev_release : (l.release i).prev k = l.prev k := by
  simp only [prev, release, Array.getElem?_modify]
  split <;> simp [Function.comp_def]

theorem next_alloc (v : α) (h : k < l.links.size) : (l.alloc v).next k = l.next k := by
  simp [next, alloc, Array.getElem?_push, h.ne]

theorem prev_alloc (v : α) (h : k < l.links.size) : (l.alloc v).prev k = l.prev k := by
  simp [prev, alloc, Array.getElem?_push, h.ne]

/-! ## What places hold -/

@[simp] theorem value?_setNext : (l.setNext i j).value? k = l.value? k := by
  simp only [value?, setNext, Array.getElem?_modify]
  split <;> cases l.links[k]? <;> rfl

@[simp] theorem value?_setPrev : (l.setPrev i j).value? k = l.value? k := by
  simp only [value?, setPrev, Array.getElem?_modify]
  split <;> cases l.links[k]? <;> rfl

@[simp] theorem value?_unlink : (l.unlink i).value? k = l.value? k := by
  rw [unlink, value?_setPrev, value?_setNext]

@[simp] theorem value?_linkFront : (l.linkFront i).value? k = l.value? k := by
  rw [linkFront, value?_setNext, value?_setPrev, value?_setNext, value?_setPrev]

@[simp] theorem value?_moveToFront : (l.moveToFront i).value? k = l.value? k := by
  rw [moveToFront, value?_linkFront, value?_unlink]

/-- Releasing a place forgets what it holds, and no other place does. -/
theorem value?_release_of_ne (h : i ≠ k) : (l.release i).value? k = l.value? k := by
  simp [value?, release, Array.getElem?_modify, h]

/-- A new place holds what it was made for. -/
theorem value?_alloc_self (v : α) : (l.alloc v).value? l.links.size = some v := by
  simp [value?, alloc]

theorem value?_alloc_of_lt (v : α) (h : k < l.links.size) :
    (l.alloc v).value? k = l.value? k := by
  simp [value?, alloc, Array.getElem?_push, h.ne]

/-! ## Chains of links -/

/-- Two places that know each other. -/
def Linked (l : LinkedList α) (i j : Nat) : Prop := l.next i = j ∧ l.prev j = i

/-- **The links lead from the head through `order` to the tail** and back, and come to no place
twice. -/
structure Lists (l : LinkedList α) (order : List Nat) : Prop where
  linked : (head :: (order ++ [tail])).IsChain l.Linked
  nodup : (head :: (order ++ [tail])).Nodup
  allocated : ∀ i ∈ head :: (order ++ [tail]), i < l.links.size

/-- Only the links forward of all places but the last, and the links backward of all places
but the first, belong to a chain. -/
theorem isChain_frame {places : List Nat} (h : places.IsChain l.Linked)
    (hnext : ∀ i ∈ places.dropLast, l'.next i = l.next i)
    (hprev : ∀ i ∈ places.tail, l'.prev i = l.prev i) : places.IsChain l'.Linked := by
  induction h with
  | nil => exact .nil
  | singleton i => exact .singleton i
  | @cons_cons i j rest hij hrest ih =>
    refine .cons_cons ⟨?_, ?_⟩ (ih ?_ ?_)
    · rw [hnext i (List.mem_cons_self ..), hij.1]
    · rw [hprev j (List.mem_cons_self ..), hij.2]
    · exact fun k hk => hnext k (List.mem_cons_of_mem _ hk)
    · exact fun k hk => hprev k (List.mem_cons_of_mem _ hk)

/-- Two parts of a chain are joined by the two links between their ends. -/
theorem isChain_join (front : List Nat) {rest : List Nat} (hnodup : (front ++ i :: j :: rest).Nodup)
    (hi : i < l.links.size) (hj : j < l.links.size) (hfront : (front ++ [i]).IsChain l.Linked)
    (hrest : (j :: rest).IsChain l.Linked) :
    (front ++ i :: j :: rest).IsChain ((l.setNext i j).setPrev j i).Linked := by
  obtain ⟨-, htail, hdisjoint⟩ := List.nodup_append.mp hnodup
  obtain ⟨hirest, htail⟩ := List.nodup_cons.mp htail
  obtain ⟨hjrest, -⟩ := List.nodup_cons.mp htail
  have hnext : ∀ k, i ≠ k → ((l.setNext i j).setPrev j i).next k = l.next k := fun k hk => by
    rw [next_setPrev, next_setNext_of_ne hk]
  have hprev : ∀ k, j ≠ k → ((l.setNext i j).setPrev j i).prev k = l.prev k := fun k hk => by
    rw [prev_setPrev_of_ne hk, prev_setNext]
  rw [List.isChain_append_cons_cons]
  refine ⟨isChain_frame hfront (fun k hk => hnext k ?_) (fun k hk => hprev k ?_), ⟨?_, ?_⟩,
    isChain_frame hrest (fun k hk => hnext k ?_) (fun k hk => hprev k ?_)⟩
  · rw [List.dropLast_concat] at hk
    exact (hdisjoint k hk i (List.mem_cons_self ..)).symm
  · rcases List.mem_append.mp (List.mem_of_mem_tail hk) with hk | hk
    · exact (hdisjoint k hk j (List.mem_cons_of_mem _ (List.mem_cons_self ..))).symm
    · refine fun heq => hirest ?_
      rw [← List.mem_singleton.mp hk, ← heq]
      exact List.mem_cons_self ..
  · rw [next_setPrev, next_setNext_self hi]
  · rw [prev_setPrev_self (by rw [size_setNext]; exact hj)]
  · exact fun heq => hirest (heq ▸ List.dropLast_subset _ hk)
  · exact fun heq => hjrest (heq ▸ hk)

/-! ## What the operations list -/

/-- A new list has a head and a tail, which are linked to each other. -/
theorem lists_empty : ({} : LinkedList α).Lists [] where
  linked := .cons_cons ⟨rfl, rfl⟩ (.singleton _)
  nodup := by decide
  allocated := List.forall_mem_cons.mpr
    ⟨Nat.zero_lt_two, List.forall_mem_singleton.mpr Nat.one_lt_two⟩

/-- **Whoever has the same links lists the same places.** Taking or releasing a place changes what
is in the table but no link, so this covers everything that is not relinking. -/
theorem Lists.congr {order : List Nat} (h : l.Lists order)
    (hsize : l.links.size ≤ l'.links.size) (hnext : ∀ k < l.links.size, l'.next k = l.next k)
    (hprev : ∀ k < l.links.size, l'.prev k = l.prev k) : l'.Lists order where
  linked := isChain_frame h.linked
    (fun k hk => hnext k (h.allocated k (List.dropLast_subset _ hk)))
    (fun k hk => hprev k (h.allocated k (List.mem_of_mem_tail hk)))
  nodup := h.nodup
  allocated k hk := (h.allocated k hk).trans_le hsize

/-- A place that is released stays where it is in the order, so it has to be unlinked first. -/
theorem Lists.release {order : List Nat} (h : l.Lists order) (i : Nat) :
    (l.release i).Lists order :=
  h.congr size_release.ge (fun _ _ => next_release) (fun _ _ => prev_release)

/-- A place that is allocated is not in the order yet. -/
theorem Lists.alloc {order : List Nat} (h : l.Lists order) (v : α) : (l.alloc v).Lists order :=
  h.congr (by rw [size_alloc]; exact Nat.le_succ _) (fun _ => next_alloc v) (fun _ => prev_alloc v)

/-- The place in front of the tail is the last one. -/
theorem Lists.last_nil (h : l.Lists []) : l.last = head :=
  (List.isChain_pair.mp h.linked).2

/-- The last place is the one that the tail is linked back to, so the end of the order is found
without a walk. -/
theorem Lists.last_concat {order : List Nat} (h : l.Lists (order ++ [i])) : l.last = i := by
  have hlinked := h.linked
  rw [List.append_assoc, List.singleton_append, ← List.cons_append,
    List.isChain_append_cons_cons] at hlinked
  exact hlinked.2.1.2

/-- **A place that is taken out** leaves all others where they are. -/
theorem Lists.unlink {before after : List Nat} (h : l.Lists (before ++ i :: after)) :
    (l.unlink i).Lists (before ++ after) := by
  -- the neighbours of the place, which may be the ends
  obtain ⟨front, p, hfront⟩ : ∃ front p, head :: before = front ++ [p] :=
    ⟨_, _, (List.dropLast_append_getLast (List.cons_ne_nil head before)).symm⟩
  obtain ⟨n, rest, hrest⟩ : ∃ n rest, after ++ [tail] = n :: rest :=
    List.exists_cons_of_ne_nil (List.append_ne_nil_of_right_ne_nil _ (List.cons_ne_nil tail []))
  have hplaces : head :: (before ++ i :: after ++ [tail]) = front ++ p :: i :: n :: rest := by
    rw [List.append_assoc, List.cons_append, hrest, ← List.cons_append, hfront, List.append_assoc]
    rfl
  have hkept : head :: (before ++ after ++ [tail]) = front ++ p :: n :: rest := by
    rw [List.append_assoc, hrest, ← List.cons_append, hfront, List.append_assoc]
    rfl
  have hsub : (front ++ p :: n :: rest).Sublist (front ++ p :: i :: n :: rest) :=
    List.Sublist.append_left (.cons_cons p (List.sublist_cons_self ..)) front
  obtain ⟨hlinked, hnodup, hallocated⟩ := h
  rw [hplaces] at hlinked hnodup hallocated
  obtain ⟨hchain, ⟨-, hprev⟩, hchain'⟩ := List.isChain_append_cons_cons.mp hlinked
  obtain ⟨⟨hnext, -⟩, hchain'⟩ := List.isChain_cons_cons.mp hchain'
  refine ⟨?_, ?_, ?_⟩ <;> rw [hkept]
  · have hpi : p ≠ i := fun heq =>
      (List.nodup_cons.mp (List.nodup_append.mp hnodup).2.1).1 (heq ▸ List.mem_cons_self ..)
    rw [LinkedList.unlink, hprev, hnext, next_setNext_of_ne hpi, prev_setNext, hprev, hnext]
    exact isChain_join front (hnodup.sublist hsub) (hallocated p (by simp)) (hallocated n (by simp))
      hchain hchain'
  · exact hnodup.sublist hsub
  · intro k hk
    rw [size_unlink]
    exact hallocated k (hsub.subset hk)

/-- **A new place in front** has all others behind it. -/
theorem Lists.linkFront {order : List Nat} (h : l.Lists order)
    (hi : i ∉ head :: (order ++ [tail])) (hlt : i < l.links.size) :
    (l.linkFront i).Lists (i :: order) := by
  obtain ⟨n, rest, hrest⟩ : ∃ n rest, order ++ [tail] = n :: rest :=
    List.exists_cons_of_ne_nil (List.append_ne_nil_of_right_ne_nil _ (List.cons_ne_nil tail []))
  obtain ⟨hlinked, hnodup, hallocated⟩ := h
  rw [hrest] at hlinked hnodup hallocated hi
  obtain ⟨⟨hnext, -⟩, hchain⟩ := List.isChain_cons_cons.mp hlinked
  obtain ⟨hhead, hnodup⟩ := List.nodup_cons.mp hnodup
  obtain ⟨hne, hi⟩ : i ≠ head ∧ i ∉ n :: rest := by simpa only [List.mem_cons, not_or] using hi
  have hni : n ≠ i := fun heq => hi (heq ▸ List.mem_cons_self ..)
  -- the place is joined with what is behind it, then the head with the place
  have hbehind : (n :: rest).IsChain (l.setPrev i head).Linked :=
    isChain_frame hchain (fun _ _ => next_setPrev) fun k hk =>
      prev_setPrev_of_ne fun heq => hi (heq ▸ List.mem_of_mem_tail hk)
  have hjoined := isChain_join [] (List.nodup_cons.mpr ⟨hi, hnodup⟩)
    (size_setPrev.symm ▸ hlt) (size_setPrev.symm ▸ hallocated n (by simp)) (.singleton i) hbehind
  have hwritten : l.linkFront i
      = (((l.setPrev i head).setNext i n).setPrev n i).setNext head i := by
    rw [LinkedList.linkFront, next_setNext_of_ne hne, next_setPrev, hnext]
  refine ⟨?_, ?_, ?_⟩ <;> rw [List.cons_append, hrest]
  · rw [hwritten]
    refine .cons_cons ⟨next_setNext_self ?_, ?_⟩
      (isChain_frame hjoined (fun k hk => next_setNext_of_ne ?_) fun _ _ => prev_setNext)
    · rw [size_setPrev, size_setNext, size_setPrev]
      exact hallocated head (List.mem_cons_self ..)
    · rw [prev_setNext, prev_setPrev_of_ne hni, prev_setNext, prev_setPrev_self hlt]
    · rintro rfl
      rcases List.mem_cons.mp (List.dropLast_subset _ hk) with heq | hk
      · exact hne heq.symm
      · exact hhead hk
  · refine List.nodup_cons.mpr ⟨?_, List.nodup_cons.mpr ⟨hi, hnodup⟩⟩
    rintro hmem
    rcases List.mem_cons.mp hmem with heq | hmem
    · exact hne heq.symm
    · exact hhead hmem
  · intro k hk
    rw [size_linkFront]
    rcases List.mem_cons.mp hk with rfl | hk
    · exact hallocated _ (List.mem_cons_self ..)
    · rcases List.mem_cons.mp hk with rfl | hk
      · exact hlt
      · exact hallocated k (List.mem_cons_of_mem _ hk)

/-- **A place that is moved** comes first, and all others stay in their order. -/
theorem Lists.moveToFront {before after : List Nat} (h : l.Lists (before ++ i :: after)) :
    (l.moveToFront i).Lists (i :: (before ++ after)) := by
  refine h.unlink.linkFront ?_ (size_unlink.symm ▸ h.allocated i (by simp))
  have hperm : (head :: (before ++ i :: after ++ [tail])).Perm
      (i :: head :: (before ++ after ++ [tail])) := by
    have hmiddle : (head :: before ++ i :: (after ++ [tail])).Perm
        (i :: (head :: before ++ (after ++ [tail]))) := List.perm_middle
    simpa using hmiddle
  exact (List.nodup_cons.mp (hperm.nodup_iff.mp h.nodup)).1

end Stencil.LinkedList
