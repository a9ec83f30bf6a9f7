import Stencil.Proofs.Template.LineOrder

/-!
# The parts of a tree in document order

A tree is walked in document order (`Node.partsAll`): each node, behind an element its attributes,
each branch of a conditional, and then what stands inside. A part begins on a line, and may record
more of them, such as the one it ends on.

`Node.Part.StandOn` relates the parts to the lines of the tree, for which the reader is known to
keep them in order: what the parts record is among these lines, they begin in the order of these,
and the lines of a node are a section of them. So a block, whose end is the last of its lines, ends
behind everything inside it (`Node.le_endLine_of_isBlock`).
-/

namespace Stencil

open Bytes

/-! ## The parts of a tree -/

/-- The line a node ends on, for text and the like the one it begins on. -/
def Node.endLine : Node → Nat
  | .text _ line | .expr _ line | .splice _ line => line
  | .loop _ _ _ endLine | .choice _ _ _ endLine | .element _ _ _ _ _ endLine => endLine

/-- Whether a node is a block, which is closed by a brace. -/
def Node.isBlock : Node → Bool
  | .loop .. | .choice .. => true
  | _ => false

/-- **What begins on a line of its own account.** -/
inductive Node.Part where
  /-- A node. -/
  | node (n : Node)
  /-- An attribute of an element. -/
  | attr (a : Attr)
  /-- A branch of a conditional. -/
  | branch (b : Branch)

namespace Node.Part

/-- The line a part begins on. -/
def line : Node.Part → Nat
  | .node n => n.line
  | .attr a => a.line
  | .branch b => b.line

/-- **The lines a part records**, apart from what stands inside it. A conditional without an else
branch records no line for it. -/
def recorded : Node.Part → List Nat
  | .node (.choice branches otherwise elseLine endLine) =>
    [(Node.choice branches otherwise elseLine endLine).line]
      ++ (if elseLine = 0 then [] else [elseLine]) ++ [endLine]
  | .node n => [n.line, n.endLine]
  | .attr a => [a.line]
  | .branch b => [b.line]

/-- The element a part is. -/
def element? : Node.Part → Option Node
  | .node (.element tag attrs children selfClosing line endLine) =>
    some (.element tag attrs children selfClosing line endLine)
  | _ => none

/-- Whatever a part records, its own line is among it. -/
theorem line_mem_recorded (p : Node.Part) : p.line ∈ p.recorded := by
  cases p with
  | node n => cases n <;> simp [line, recorded]
  | attr a => exact List.mem_singleton_self _
  | branch b => exact List.mem_singleton_self _

end Node.Part

mutual

/-- **The parts inside a node**, in document order. -/
def Node.inside : Node → List Node.Part
  | .text .. | .expr .. | .splice .. => []
  | .loop _ body _ _ => Node.partsAll body
  | .choice branches otherwise _ _ => Branch.partsAll branches ++ Node.partsAll otherwise
  | .element _ attrs children _ _ _ => attrs.map .attr ++ Node.partsAll children

/-- The parts inside a branch. -/
def Branch.inside : Branch → List Node.Part
  | .mk _ body _ => Node.partsAll body

/-- **The parts of a tree in document order.** -/
def Node.partsAll : List Node → List Node.Part
  | [] => []
  | n :: ns => .node n :: (n.inside ++ Node.partsAll ns)

/-- The parts of branches. -/
def Branch.partsAll : List Branch → List Node.Part
  | [] => []
  | b :: bs => .branch b :: (b.inside ++ Branch.partsAll bs)

end

/-- A node and what stands inside it. -/
def Node.parts (n : Node) : List Node.Part := .node n :: n.inside

/-- The parts of a list of nodes are those of its nodes. -/
theorem Node.mem_partsAll {p : Node.Part} {ns : List Node} :
    p ∈ Node.partsAll ns ↔ ∃ n ∈ ns, p ∈ n.parts := by
  induction ns with
  | nil => simp [Node.partsAll]
  | cons n ns ih =>
    rw [List.exists_mem_cons_iff, ← ih]
    exact List.mem_append (s := n.parts)

/-- The parts of branches are the branches themselves and what is inside them. -/
theorem Branch.mem_partsAll {p : Node.Part} {bs : List Branch} :
    p ∈ Branch.partsAll bs ↔ ∃ b ∈ bs, p = .branch b ∨ p ∈ b.inside := by
  induction bs with
  | nil => simp [Branch.partsAll]
  | cons b bs ih =>
    rw [List.exists_mem_cons_iff, ← ih, Branch.partsAll, List.mem_cons, List.mem_append, or_assoc]

/-- **A node ends last**: nothing that it or anything inside it records lies behind its end. -/
def Node.EndsLast (n : Node) : Prop := ∀ p ∈ n.parts, ∀ l ∈ p.recorded, l ≤ n.endLine

/-- **The line of an else branch is recorded**, if a conditional has one. -/
def Node.ElseKnown : Node → Prop
  | .choice _ otherwise elseLine _ => elseLine = 0 → otherwise = []
  | _ => True

/-- **Every line a document records.** -/
def Document.recorded (d : Document) : List Nat :=
  (Node.partsAll d.body).flatMap Node.Part.recorded
    ++ (d.page.toList.map PageDirective.line ++ d.imports.map ImportDirective.line
      ++ d.params.map ParamDirective.line ++ d.code.map CodeBlock.line)

/-! ## Parts and lines -/

/-- **The parts `ps` stand on the lines `ls`**: what they record is among these, they begin in
their order, and each node is on a section of them. -/
structure Node.Part.StandOn (ps : List Node.Part) (ls : List Nat) : Prop where
  recorded : ∀ p ∈ ps, ∀ l ∈ p.recorded, l ∈ ls
  ordered : ls.Pairwise (· ≤ ·) → (ps.map Node.Part.line).Pairwise (· ≤ ·)
  nodes : ∀ n, .node n ∈ ps → n.lines.Sublist ls ∧ ∀ p ∈ n.parts, ∀ l ∈ p.recorded, l ∈ n.lines

namespace Node.Part.StandOn

variable {ps qs : List Node.Part} {ls ms : List Nat}

theorem nil (ls : List Nat) : StandOn [] ls :=
  ⟨fun _ hp => absurd hp List.not_mem_nil, fun _ => .nil, fun _ hn => absurd hn List.not_mem_nil⟩

/-- Further lines may stand in between. -/
theorem mono (h : StandOn ps ls) (hsub : ls.Sublist ms) : StandOn ps ms where
  recorded p hp l hl := hsub.subset (h.recorded p hp l hl)
  ordered hms := h.ordered (hms.sublist hsub)
  nodes n hn := ⟨(h.nodes n hn).1.trans hsub, (h.nodes n hn).2⟩

/-- Parts on the first lines are followed by those on the lines behind. -/
theorem append (hps : StandOn ps ls) (hqs : StandOn qs ms) : StandOn (ps ++ qs) (ls ++ ms) where
  recorded p hp l hl := by
    obtain hp | hp := List.mem_append.1 hp
    · exact List.mem_append_left _ (hps.recorded p hp l hl)
    · exact List.mem_append_right _ (hqs.recorded p hp l hl)
  ordered hsorted := by
    obtain ⟨hls, hms, hcross⟩ := List.pairwise_append.1 hsorted
    rw [List.map_append, List.pairwise_append]
    refine ⟨hps.ordered hls, hqs.ordered hms, ?_⟩
    rintro _ hpmem _ hqmem
    obtain ⟨p, hp, rfl⟩ := List.mem_map.1 hpmem
    obtain ⟨q, hq, rfl⟩ := List.mem_map.1 hqmem
    exact hcross _ (hps.recorded p hp _ p.line_mem_recorded) _
      (hqs.recorded q hq _ q.line_mem_recorded)
  nodes n hn := by
    obtain hn | hn := List.mem_append.1 hn
    · exact ⟨(hps.nodes n hn).1.trans (List.sublist_append_left ..), (hps.nodes n hn).2⟩
    · exact ⟨(hqs.nodes n hn).1.trans (List.sublist_append_right ..), (hqs.nodes n hn).2⟩

/-- One more part in front, on the first of the lines. -/
theorem cons {p : Node.Part} (h : StandOn ps (p.line :: ls))
    (hrecorded : ∀ l ∈ p.recorded, l ∈ p.line :: ls)
    (hnode : ∀ n, p = .node n → n.lines = p.line :: ls ∧ n.inside = ps) :
    StandOn (p :: ps) (p.line :: ls) where
  recorded := List.forall_mem_cons.2 ⟨hrecorded, h.recorded⟩
  ordered hsorted := by
    rw [List.map_cons, List.pairwise_cons]
    refine ⟨?_, h.ordered hsorted⟩
    rintro _ hmem
    obtain ⟨q, hq, rfl⟩ := List.mem_map.1 hmem
    obtain heq | hmem := List.mem_cons.1 (h.recorded q hq _ q.line_mem_recorded)
    · exact heq.ge
    · exact List.rel_of_pairwise_cons hsorted hmem
  nodes n hn := by
    obtain rfl | hn := List.mem_cons.1 hn
    · obtain ⟨hlines, rfl⟩ := hnode n rfl
      rw [hlines]
      exact ⟨.refl _, List.forall_mem_cons.2 ⟨hrecorded, h.recorded⟩⟩
    · exact h.nodes n hn

/-- A node in front of what stands inside it. -/
theorem node {n : Node} (h : StandOn n.inside n.lines) (hlines : ∃ ls, n.lines = n.line :: ls)
    (hrecorded : ∀ l ∈ (Part.node n).recorded, l ∈ n.lines) : StandOn n.parts n.lines := by
  obtain ⟨ls, hls⟩ := hlines
  rw [hls] at h hrecorded ⊢
  refine cons (p := .node n) h hrecorded fun m hm => ?_
  cases hm
  exact ⟨hls, rfl⟩

/-- The attributes of an element stand on their own lines, and there are no nodes among them. -/
theorem attrs (attrs : List Attr) : StandOn (attrs.map .attr) (attrs.map Attr.line) where
  recorded p hp l hl := by
    obtain ⟨a, ha, rfl⟩ := List.mem_map.1 hp
    rw [List.mem_singleton.1 hl]
    exact List.mem_map_of_mem ha
  ordered hsorted := by rwa [List.map_map]
  nodes n hn := by
    obtain ⟨a, -, ha⟩ := List.mem_map.1 hn
    cases ha

end Node.Part.StandOn

mutual

/-- The parts of a node stand on its lines. -/
theorem Node.standOn : ∀ n : Node, n.WellFormed → Node.Part.StandOn n.parts n.lines
  | .text .., _ | .expr .., _ | .splice .., _ =>
    .node (.nil _) ⟨_, rfl⟩ (by simp [Node.Part.recorded, Node.lines, Node.line, Node.endLine])
  | .loop _ body line endLine, h => by
    have hbody := Node.standOn_all body h
    refine .node (hbody.mono ?_) ⟨_, rfl⟩ ?_
    · exact (List.sublist_append_left ..).cons _
    · simp [Node.Part.recorded, Node.lines, Node.line, Node.endLine]
  | .choice [] _ _ _, h => absurd rfl h.1
  | .choice (.mk cond body line :: bs) otherwise elseLine endLine, h => by
    have hbranches := Branch.standOn_all _ h.2.1
    have hotherwise := Node.standOn_all otherwise h.2.2
    refine .node (hbranches.append (hotherwise.mono ?_)) ⟨_, rfl⟩ ?_
    · exact (List.sublist_append_right ..).trans (List.sublist_append_left ..)
    · intro l hl
      obtain hl | hl := List.mem_append.1 hl
      · obtain hl | hl := List.mem_append.1 hl
        · rw [List.mem_singleton.1 hl]
          exact List.mem_append_left _ List.mem_cons_self
        · exact List.mem_append_right _ (List.mem_append_left _ (List.mem_append_left _ hl))
      · exact List.mem_append_right _ (List.mem_append_right _ hl)
  | .element _ attrs children _ line endLine, h => by
    have hchildren := Node.standOn_all children h.2.2.1
    refine .node (((Node.Part.StandOn.attrs attrs).append hchildren).mono ?_) ⟨_, rfl⟩ ?_
    · exact (List.sublist_append_left ..).cons _
    · intro l hl
      obtain rfl | hl := List.mem_cons.1 hl
      · exact List.mem_cons_self
      · rw [List.mem_singleton.1 hl]
        change endLine ∈ line :: (_ ++ if endLine = line then [] else [endLine])
        by_cases hend : endLine = line
        · rw [hend]
          exact List.mem_cons_self
        · rw [if_neg hend]
          exact List.mem_cons_of_mem _ (List.mem_append_right _ (List.mem_singleton_self _))

/-- **The parts of a tree stand on its lines.** -/
theorem Node.standOn_all : ∀ ns : List Node, Node.AllWellFormed ns →
    Node.Part.StandOn (Node.partsAll ns) (Node.linesAll ns)
  | [], _ => .nil _
  | n :: ns, h => (Node.standOn n h.1).append (Node.standOn_all ns h.2)

/-- The parts of branches, by the same induction. A branch begins on the line of its condition. -/
theorem Branch.standOn_all : ∀ bs : List Branch, Branch.AllWellFormed bs →
    Node.Part.StandOn (Branch.partsAll bs) (Branch.linesAll bs)
  | [], _ => .nil _
  | .mk cond body line :: bs, h => by
    have hbody := (Node.standOn_all body h.1).mono (List.sublist_cons_self line _)
    have hbranch := hbody.cons (p := .branch (.mk cond body line))
      (fun l hl => List.mem_cons.2 (.inl (List.mem_singleton.1 hl))) (fun n hn => by cases hn)
    exact hbranch.append (Branch.standOn_all bs h.2)

end

/-- A block ends on the last of its lines. -/
theorem Node.le_endLine_of_isBlock {n : Node} (hblock : n.isBlock = true)
    (hsorted : n.lines.Pairwise (· ≤ ·)) : ∀ l ∈ n.lines, l ≤ n.endLine := by
  obtain ⟨front, hfront⟩ : ∃ front, n.lines = front ++ [n.endLine] := by
    cases n with
    | loop clause body line endLine => exact ⟨line :: Node.linesAll body, rfl⟩
    | choice branches otherwise elseLine endLine => exact ⟨_, (List.append_assoc ..).symm⟩
    | text | expr | splice | element => cases hblock
  rw [hfront] at hsorted ⊢
  obtain ⟨-, -, hcross⟩ := List.pairwise_append.1 hsorted
  refine List.forall_mem_append.2 ⟨fun l hl => hcross l hl _ (List.mem_singleton_self _), ?_⟩
  exact List.forall_mem_singleton.2 (Nat.le_refl _)

/-! ## Else branches -/

/-- The reader records the line of every else branch. -/
theorem Node.makes_elseKnown (size : Nat) :
    Reader.Makes size (fun n => ∀ m, .node m ∈ n.parts → m.ElseKnown)
      (fun b => ∀ m, .node m ∈ b.inside → m.ElseKnown) := by
  -- a node that is no conditional has only what stands inside it to answer for
  have hnode : ∀ {n : Node}, n.ElseKnown → (∀ m, .node m ∈ n.inside → m.ElseKnown) →
      ∀ m, .node m ∈ n.parts → m.ElseKnown := fun hn hinside m hm => by
    obtain hm | hm := List.mem_cons.1 hm
    · cases hm
      exact hn
    · exact hinside m hm
  have hall : ∀ {ns : List Node}, (∀ n ∈ ns, ∀ m, .node m ∈ n.parts → m.ElseKnown) →
      ∀ m, .node m ∈ Node.partsAll ns → m.ElseKnown := fun h m hm => by
    obtain ⟨n, hn, hm⟩ := Node.mem_partsAll.1 hm
    exact h n hn m hm
  have hnone : ∀ m, Node.Part.node m ∈ [] → m.ElseKnown := fun m hm =>
    absurd hm List.not_mem_nil
  constructor
  case text => exact hnode trivial hnone
  case expr => exact fun _ => hnode trivial hnone
  case splice => exact fun _ _ _ => hnode trivial hnone
  case loop => exact fun hbody => hnode trivial (hall hbody)
  case branch => exact hall
  case choice =>
    refine fun _ helse hbranches hotherwise => hnode helse fun m hm => ?_
    obtain hm | hm := List.mem_append.1 hm
    · obtain ⟨b, hb, hm | hm⟩ := Branch.mem_partsAll.1 hm
      · cases hm
      · exact hbranches b hb m hm
    · exact hall hotherwise m hm
  case element =>
    refine fun _ _ hchildren _ => hnode trivial fun m hm => ?_
    obtain hm | hm := List.mem_append.1 hm
    · obtain ⟨a, -, hm⟩ := List.mem_map.1 hm
      cases hm
    · exact hall hchildren m hm

/-! ## The elements of a tree -/

/-- The elements of a tree, in document order. -/
def Node.elementsAll (ns : List Node) : List Node :=
  (Node.partsAll ns).filterMap Node.Part.element?

/-- A node, if it is an element, and the elements inside it. -/
def Node.elements (n : Node) : List Node := n.parts.filterMap Node.Part.element?

/-- The elements of branches. -/
def Branch.elementsAll (bs : List Branch) : List Node :=
  (Branch.partsAll bs).filterMap Node.Part.element?

/-- An element of a tree is a part of it. -/
theorem Node.mem_partsAll_of_mem_elementsAll {n : Node} {ns : List Node}
    (h : n ∈ Node.elementsAll ns) : .node n ∈ Node.partsAll ns := by
  obtain ⟨p, hp, hn⟩ := List.mem_filterMap.1 h
  unfold Node.Part.element? at hn
  split at hn
  · cases hn
    exact hp
  · cases hn

@[simp] theorem Node.elementsAll_nil : Node.elementsAll [] = [] := rfl

theorem Node.elementsAll_cons (n : Node) (ns : List Node) :
    Node.elementsAll (n :: ns) = n.elements ++ Node.elementsAll ns :=
  List.filterMap_append (l := n.parts)

@[simp] theorem Branch.elementsAll_nil : Branch.elementsAll [] = [] := rfl

theorem Branch.elementsAll_cons (b : Branch) (bs : List Branch) :
    Branch.elementsAll (b :: bs) = Node.elementsAll b.body ++ Branch.elementsAll bs := by
  obtain ⟨cond, body, line⟩ := b
  exact List.filterMap_append (l := Node.partsAll body)

theorem Node.elementsAll_append (ns ms : List Node) :
    Node.elementsAll (ns ++ ms) = Node.elementsAll ns ++ Node.elementsAll ms := by
  induction ns with
  | nil => rfl
  | cons n ns ih =>
    rw [List.cons_append, Node.elementsAll_cons, Node.elementsAll_cons, ih, List.append_assoc]

theorem Branch.elementsAll_append (bs cs : List Branch) :
    Branch.elementsAll (bs ++ cs) = Branch.elementsAll bs ++ Branch.elementsAll cs := by
  induction bs with
  | nil => rfl
  | cons b bs ih =>
    rw [List.cons_append, Branch.elementsAll_cons, Branch.elementsAll_cons, ih, List.append_assoc]

@[simp] theorem Node.elements_text (value : Bytes) (line : Nat) :
    (Node.text value line).elements = [] := rfl

@[simp] theorem Node.elements_expr (code : Bytes) (line : Nat) :
    (Node.expr code line).elements = [] := rfl

@[simp] theorem Node.elements_splice (path : Bytes) (line : Nat) :
    (Node.splice path line).elements = [] := rfl

@[simp] theorem Node.elements_loop (clause : Bytes) (body : List Node) (line endLine : Nat) :
    (Node.loop clause body line endLine).elements = Node.elementsAll body := rfl

@[simp] theorem Node.elements_choice (branches : List Branch) (otherwise : List Node)
    (elseLine endLine : Nat) : (Node.choice branches otherwise elseLine endLine).elements
      = Branch.elementsAll branches ++ Node.elementsAll otherwise :=
  List.filterMap_append (l := Branch.partsAll branches)

/-- An element is the first of its own elements. -/
@[simp] theorem Node.elements_element (tag : Bytes) (attrs : List Attr) (children : List Node)
    (selfClosing : Bool) (line endLine : Nat) :
    (Node.element tag attrs children selfClosing line endLine).elements
      = .element tag attrs children selfClosing line endLine :: Node.elementsAll children := by
  have hattrs : (attrs.map Node.Part.attr).filterMap Node.Part.element? = [] := by
    rw [List.filterMap_map]
    exact List.filterMap_eq_nil_iff.2 fun a _ => rfl
  refine congrArg (_ :: ·) ?_
  rw [Node.inside, List.filterMap_append, hattrs]
  rfl

end Stencil
