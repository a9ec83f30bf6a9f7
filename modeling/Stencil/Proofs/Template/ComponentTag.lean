import Stencil.Proofs.Template.PlainText

/-!
# Component tags and the names of elements

Whether a tag names a component is decided by its first letter or a dot. Whether it takes
content is looked up among the elements of the markup language, where names are compared in
lower case and components are unknown. A component may be given any name, and some of them
are names of elements without content: `Link`, `Input`, `Source`, `Track`.

Between the tags of any other component there can be text, and it is read as the only child of
the tag (`Document.read_component`). A component with such a name is over with its opening
tag. The text stands behind it, and the closing tag belongs to nothing
(`Document.read_component_of_isVoid`).
-/

namespace Stencil

open Bytes

/-- A text between the opening and the closing tag of an element without attributes. -/
def between (tag text : Bytes) : Bytes := "<" ++ tag ++ ">" ++ text ++ "</" ++ tag ++ ">"

theorem between_eq (tag text : Bytes) :
    between tag text = printTag tag [] ++ (text ++ printClose tag) := by
  have hopen : printTag tag [] = "<" ++ tag ++ ">" := by
    rw [printTag, List.flatMap_nil, List.append_nil]
    rfl
  have hclose : printClose tag = "</" ++ tag ++ ">" := rfl
  simp only [between, hopen, hclose, List.append_assoc]

/-- A tag without attributes is all on one line. -/
theorem newlines_printTag_nil {tag : Bytes} (h : ∀ b ∈ tag, ElementName.isTagByte b = true) :
    newlines (printTag tag []) = 0 := by
  rw [newlines_eq_zero, printTag, List.flatMap_nil, List.append_nil, ← List.singleton_append,
    oneLine_append, oneLine_append]
  exact ⟨by decide, oneLine_of_isTagByte h, by decide⟩

namespace Reader

variable {r : Reader} {tag rest : Bytes}

/-- A component is not complained of: it is entered, or is a node if its name is that of an
element without content. -/
theorem openTag_component (htag : CanonicalTag tag) (hcomponent : ElementName.isComponent tag)
    (hrest : r.cursor.rest = printTag tag [] ++ rest) :
    ∃ d, d.rest = rest ∧ r.openTag =
      if ElementName.isVoid tag then
        r.resume (r.content.addNode (.element tag [] [] false r.cursor.line r.cursor.line)) [] d
      else
        (r.resume r.content [] d).enter (.element tag [] r.cursor.line) r.inBlock
          (r.foreign || ElementName.isForeign tag) := by
  obtain ⟨as, fs, d, has, hd, -, -, hfs, hopened⟩ :=
    openTag_print htag (List.forall_mem_nil _) hrest
  rw [List.map_nil, List.map_eq_nil_iff] at has
  rw [has, hfs hcomponent] at hopened
  exact ⟨d, hd, hopened⟩

/-- A closing tag where no element is open is complained of. -/
theorem closingTag_stray (hlevels : r.levels = [])
    (htag : ∀ b ∈ tag, ElementName.isTagByte b = true)
    (hrest : r.cursor.rest = printClose tag ++ rest) :
    ∃ d, d.rest = rest ∧ r.closingTag
      = r.resume r.content.flush [⟨r.cursor.line, .unexpectedClose tag⟩] d := by
  obtain ⟨hname, hd, -⟩ := closeTag_print htag hrest
  refine ⟨_, hd, ?_⟩
  unfold closingTag strayClose
  rw [hlevels]
  dsimp only
  rw [hname]
  obtain ⟨_, _, _ | _, _, _⟩ := r <;> rfl

end Reader

/-! ## What stands between the tags -/

section Read

variable {tag text : Bytes}

/-- The opening tag takes the walk to the text, on the first line of the source. -/
theorem Reader.openTag_between (text : Bytes) (htag : CanonicalTag tag)
    (hcomponent : ElementName.isComponent tag) :
    ∃ d, d.rest = text ++ printClose tag ∧ d.line = 1
      ∧ (Reader.start (between tag text)).run.leaveAll =
        (if ElementName.isVoid tag then
          (Reader.start (between tag text)).resume
            (({} : Content).addNode (.element tag [] [] false 1 1)) [] d
        else
          ((Reader.start (between tag text)).resume {} [] d).enter (.element tag [] 1) false
            (false || ElementName.isForeign tag)).run.leaveAll := by
  have hsrc : (Reader.start (between tag text)).cursor.rest
      = printTag tag [] ++ (text ++ printClose tag) := between_eq tag text
  have htotal := (Reader.settled_start (between tag text)).openTag.total_eq
  have hnewlines : newlines (between tag text) = newlines (text ++ printClose tag) := by
    have hsplit : newlines (between tag text)
        = newlines (printTag tag []) + newlines (text ++ printClose tag) := by
      rw [between_eq]
      exact List.count_append
    rw [hsplit, newlines_printTag_nil htag.bytes, Nat.zero_add]
  obtain ⟨d, hd, hopened⟩ := Reader.openTag_component htag hcomponent hsrc
  refine ⟨d, hd, ?_, by rw [Reader.run_openTag htag hsrc, hopened]; rfl⟩
  have hcursor : (Reader.start (between tag text)).openTag.cursor = d := by
    rw [hopened]
    split
    · rfl
    · exact Reader.enter_cursor ..
  rw [hcursor, hd, hnewlines] at htotal
  omega

/-- **Text between the tags of a component** is its only child, if the name of the component
is not that of an element without content. -/
theorem Document.read_component (htag : CanonicalTag tag)
    (hcomponent : ElementName.isComponent tag) (hcontent : ElementName.isVoid tag = false)
    (hne : text ≠ []) (hascii : ∀ b ∈ text, b < 0x80) (hopen : ch '<' ∉ text)
    (hat : ch '@' ∉ text) :
    Document.read (between tag text)
      = ({ body := [.element tag [] [.text text 1] false 1 (1 + newlines text)] }, []) := by
  obtain ⟨d, hd, hline, hrun⟩ := Reader.openTag_between text htag hcomponent
  rw [if_neg (by rw [hcontent]; exact Bool.false_ne_true)] at hrun
  generalize hr : (Reader.start (between tag text)).resume {} [] d = r at hrun
  have hcursor : r.cursor = d := by rw [← hr]; rfl
  -- the text is collected inside the element
  have hinside :
      (r.enter (.element tag [] 1) false (false || ElementName.isForeign tag)).cursor.rest
        = text ++ printClose tag := by rw [Reader.enter_cursor, hcursor, hd]
  obtain ⟨c, hahead, hc, hwalk⟩ := Reader.walk_plain hne hopen hat rfl hinside
  rw [Reader.enter_cursor, hcursor] at hahead hwalk
  rw [hline, (asCharacters_eq_self_iff text).2 hascii] at hwalk
  have hend : c.line = 1 + newlines text := by rw [hahead.line_eq (hd.trans (by rw [hc])), hline]
  -- the closing tag ends the element, and nothing is left
  have hclose : c.rest = printClose tag ++ [] := by rw [hc, List.append_nil]
  obtain ⟨e, he, -, hclosed⟩ := Reader.closingTag_print (r := r) htag.bytes [] 1 false
    (false || ElementName.isForeign tag) [] (k := ({} : Content).addText 1 text) hclose
  have hbody : (({} : Content).addText 1 text).body = [.text text 1] := by
    simp [Content.addText, Content.body, Content.flush, hne]
  rw [hbody, hend] at hclosed
  rw [Document.read, hrun, (hwalk.trans (Reader.run_closingTag hclose)).trans
    (congrArg Reader.run hclosed), Reader.run_of_rest_eq_nil he,
    Reader.leaveAll_nil (by rw [← hr]; rfl), ← hr]
  rfl

/-- **A component with the name of an element without content** is over with its opening tag:
the text stands behind it, and the closing tag is complained of. -/
theorem Document.read_component_of_isVoid (htag : CanonicalTag tag)
    (hcomponent : ElementName.isComponent tag) (hvoid : ElementName.isVoid tag = true)
    (hne : text ≠ []) (hascii : ∀ b ∈ text, b < 0x80) (hopen : ch '<' ∉ text)
    (hat : ch '@' ∉ text) :
    Document.read (between tag text)
      = ({ body := [.element tag [] [] false 1 1, .text text 1] },
        [⟨1 + newlines text, .unexpectedClose tag⟩]) := by
  obtain ⟨d, hd, hline, hrun⟩ := Reader.openTag_between text htag hcomponent
  rw [if_pos hvoid] at hrun
  generalize hr : (Reader.start (between tag text)).resume
    (({} : Content).addNode (.element tag [] [] false 1 1)) [] d = r at hrun
  have hcursor : r.cursor = d := by rw [← hr]; rfl
  have hbehind : r.cursor.rest = text ++ printClose tag := by rw [hcursor, hd]
  obtain ⟨c, hahead, hc, hwalk⟩ := Reader.walk_plain hne hopen hat (by rw [← hr]; rfl) hbehind
  rw [hcursor] at hahead hwalk
  rw [hline, (asCharacters_eq_self_iff text).2 hascii] at hwalk
  have hend : c.line = 1 + newlines text := by rw [hahead.line_eq (hd.trans (by rw [hc])), hline]
  -- nothing is open that the closing tag could end
  have hclose : c.rest = printClose tag ++ [] := by rw [hc, List.append_nil]
  obtain ⟨e, he, hstray⟩ := Reader.closingTag_stray (r := r.resume (r.content.addText 1 text) [] c)
    (by rw [← hr]; rfl) htag.bytes hclose
  rw [Document.read, hrun, hwalk.trans (Reader.run_closingTag hclose), hstray,
    Reader.run_of_rest_eq_nil he, Reader.leaveAll_nil (by rw [← hr]; rfl), Reader.resume_content,
    Reader.resume_resume, Reader.resume_cursor, hend, ← hr]
  simp [Reader.resume, Reader.mapContent, Reader.start, Reader.content, Content.addText,
    Content.addNode, Content.body, Content.flush, hne]

end Read

/-- **When a component keeps what is between its tags.** Text between the tags of a component
is read without findings as its only child if and only if the name of the component, in lower
case, is not that of an element without content. -/
theorem component_text_kept_iff {tag text : Bytes} (htag : CanonicalTag tag)
    (hcomponent : ElementName.isComponent tag) (hne : text ≠ []) (hascii : ∀ b ∈ text, b < 0x80)
    (hopen : ch '<' ∉ text) (hat : ch '@' ∉ text) :
    ((Document.read (between tag text)).2 = [] ∧ ∃ attrs selfClosing textLine line endLine,
        (Document.read (between tag text)).1.body
          = [.element tag attrs [.text text textLine] selfClosing line endLine])
      ↔ lowerText tag ∉ ElementName.voidNames.map ofString := by
  have hvoid : lowerText tag ∈ ElementName.voidNames.map ofString
      ↔ ElementName.isVoid tag = true := by
    simp [ElementName.isVoid, ElementName.occursIn]
  rw [hvoid, Bool.not_eq_true]
  refine ⟨fun ⟨hfindings, _⟩ => ?_, fun hcontent => ?_⟩
  · -- the closing tag of any other component would have been complained of
    by_contra hcontent
    rw [Document.read_component_of_isVoid htag hcomponent (by simpa using hcontent) hne hascii
      hopen hat] at hfindings
    exact List.cons_ne_nil _ _ hfindings
  · rw [Document.read_component htag hcomponent hcontent hne hascii hopen hat]
    exact ⟨rfl, [], false, 1, 1, _, rfl⟩

/-- A card keeps its text. -/
theorem card_text_kept :
    lowerText "Card" ∉ ElementName.voidNames.map ofString
    ∧ (Document.read "<Card>two\nlines</Card>").2 = []
    ∧ ∃ attrs selfClosing textLine line endLine,
        (Document.read "<Card>two\nlines</Card>").1.body
          = [.element "Card" attrs [.text "two\nlines" textLine] selfClosing line endLine] := by
  have hname : lowerText "Card" ∉ ElementName.voidNames.map ofString := by
    rw [lowerText_of_ascii (List.all_iff_forall_prop.1 rfl)]
    decide
  have htag : CanonicalTag "Card" := ⟨⟨ch 'C', "ard", rfl, rfl⟩, List.all_eq_true.1 rfl⟩
  have hascii : ∀ b ∈ ("two\nlines" : Bytes), b < 0x80 := List.all_iff_forall_prop.1 rfl
  exact ⟨hname, (component_text_kept_iff htag rfl (by decide) hascii (by decide) (by decide)).2
    hname⟩

/-- **Components do not all keep what is between their tags**: a link does not. -/
theorem link_text_not_kept : ¬ ∀ tag text : Bytes, CanonicalTag tag → ElementName.isComponent tag →
    text ≠ [] → (∀ b ∈ text, b < 0x80) → ch '<' ∉ text → ch '@' ∉ text →
    (Document.read (between tag text)).2 = [] ∧ ∃ attrs selfClosing textLine line endLine,
      (Document.read (between tag text)).1.body
        = [.element tag attrs [.text text textLine] selfClosing line endLine] := by
  intro h
  have htag : CanonicalTag "Link" := ⟨⟨ch 'L', "ink", rfl, rfl⟩, List.all_eq_true.1 rfl⟩
  have hvoid : ElementName.isVoid "Link" = true := by
    rw [ElementName.isVoid, ElementName.occursIn,
      lowerText_of_ascii (List.all_iff_forall_prop.1 rfl)]
    decide
  have hascii : ∀ b ∈ ofString "a", b < 0x80 := List.all_iff_forall_prop.1 rfl
  have hfindings := (h "Link" "a" htag rfl (by decide) hascii (by decide) (by decide)).1
  rw [Document.read_component_of_isVoid htag rfl hvoid (by decide) hascii (by decide)
    (by decide)] at hfindings
  exact List.cons_ne_nil _ _ hfindings

end Stencil
