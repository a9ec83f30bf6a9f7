import Stencil.Proofs.Diagnostic.Location
import Stencil.Proofs.Text.Search

/-!
# Positions that messages quote

A message of the host tools can quote positions in generated files. The caller never asked for
those files, so each quoted position is replaced by the unit and its line. A position is recognised
by its form: a run of name bytes that ends in `.go`, a colon and a line (`position?`). Names of
files are made from paths, and a path can have any bytes.

If a name is one run, its position becomes what the caller should see (`of_isQuoted`, with nothing
in front of the run). If it is not, only the last run of it can be looked up, and that is the name
of another file or of none (`exists_foundEnd`): what is in front of the last run ends in a byte that
is no slash, while a unit that is shown begins with one (`Batch.nameBytes_of_foundEnd`). So
positions are shown as they should be exactly for the components whose paths have name bytes only
(`quoted_position_shown_iff`).
-/

namespace Stencil

open Bytes

variable {files : List GeneratedFile} {p : UInt8 → Bool} {fuel line : Nat} {c : UInt8}
  {ds name r rest s text : Bytes}

/-! ## Runs -/

/-- What follows a run of the bytes of a class. -/
def Stops (p : UInt8 → Bool) (r : Bytes) : Prop := ∀ c ∈ r.head?, p c = false

instance : Decidable (Stops p r) :=
  match r with
  | [] => .isTrue fun c hc => absurd hc (Option.not_mem_none c)
  | c :: _ =>
    if hc : p c = false then .isTrue fun _ h => Option.mem_some_iff.1 h ▸ hc
    else .isFalse fun h => hc (h c rfl)

theorem stops_nil (p : UInt8 → Bool) : Stops p [] := fun c hc => absurd hc (Option.not_mem_none c)

/-- A byte that is not in the run ends it, and so does the end of the text (`stops_nil`). -/
theorem stops_cons (hc : p c = false) (s : Bytes) : Stops p (c :: s) := fun _ h =>
  Option.mem_some_iff.1 h ▸ hc

/-- A text begins with a run, which can be empty. -/
theorem exists_run (p : UInt8 → Bool) (s : Bytes) :
    ∃ name r, s = name ++ r ∧ (∀ c ∈ name, p c = true) ∧ Stops p r := by
  refine ⟨s.takeWhile p, s.dropWhile p, List.takeWhile_append_dropWhile.symm,
    fun c => List.mem_takeWhile_imp, fun c hc => ?_⟩
  have hhead := List.head?_dropWhile_not p s
  rw [Option.mem_def.1 hc] at hhead
  exact hhead

/-- A run is read to its end, and what follows is left as it is. -/
theorem span_run (hname : ∀ c ∈ name, p c = true) (hr : Stops p r) :
    (name ++ r).span p = (name, r) := by
  rw [List.span_eq_takeWhile_dropWhile, List.takeWhile_append_of_pos hname,
    List.dropWhile_append_of_pos hname]
  cases r with
  | nil => rw [List.takeWhile_nil, List.dropWhile_nil, List.append_nil]
  | cons c r =>
    have hc : ¬ p c = true := Bool.eq_false_iff.1 (hr c rfl)
    rw [List.takeWhile_cons_of_neg hc, List.dropWhile_cons_of_neg hc, List.append_nil]

/-! ## Lines and columns -/

/-- A number in decimal digits. -/
def IsNumeral (ds : Bytes) : Prop := ds ≠ [] ∧ ∀ c ∈ ds, isDigit c = true

instance : Decidable (IsNumeral ds) :=
  decidable_of_iff (ds ≠ [] ∧ ds.all isDigit = true) (and_congr_right' List.all_eq_true)

/-- A colon and a numeral behind it are read up to the first byte that is no digit. -/
theorem colonDigits?_append (hds : IsNumeral ds) (hr : Stops isDigit r) :
    colonDigits? (ch ':' :: (ds ++ r)) = some (ds, r) := by
  rw [colonDigits?, span_run hds.2 hr]
  simp [hds.1]

theorem colonDigits?_of_ne (h : ch ':' ∉ s.head?) : colonDigits? s = none := by
  cases s with
  | nil => rfl
  | cons c s =>
    have hc : ¬ (decide (c = ch ':') && !(s.span isDigit).1.isEmpty) = true := fun hcond =>
      h (congrArg some (of_decide_eq_true (Bool.and_eq_true_iff.1 hcond).1))
    exact if_neg hc

/-- What is read as a number ends with a digit. -/
theorem colonDigits?_eq_some (h : colonDigits? s = some (ds, r)) :
    ∃ front d, isDigit d = true ∧ s = front ++ d :: r := by
  cases s with
  | nil => cases h
  | cons c s =>
    obtain ⟨ds', r', rfl, hds', hr'⟩ := exists_run isDigit s
    rw [colonDigits?, span_run hds' hr'] at h
    dsimp only at h
    split at h
    · next hcond =>
      obtain ⟨rfl, rfl⟩ := Prod.mk.inj (Option.some.inj h)
      have hne : ds' ≠ [] := by
        rintro rfl
        rw [List.isEmpty_nil, Bool.not_true, Bool.and_false] at hcond
        cases hcond
      refine ⟨c :: ds'.dropLast, ds'.getLast hne, hds' _ (List.getLast_mem hne), ?_⟩
      rw [List.cons_append, List.append_cons, List.dropLast_append_getLast]
    · cases h

/-- A dot ends any number. -/
theorem colonDigits?_append_dot (s r : Bytes) :
    colonDigits? (s ++ ch '.' :: r)
      = (colonDigits? s).map fun (ds, t) => (ds, t ++ ch '.' :: r) := by
  cases s with
  | nil => rfl
  | cons c s =>
    obtain ⟨ds, t, rfl, hds, ht⟩ := exists_run isDigit s
    have ht' : Stops isDigit (t ++ ch '.' :: r) := by
      cases t with
      | nil => exact stops_cons rfl _
      | cons c t => exact ht
    rw [List.cons_append, List.append_assoc, colonDigits?, colonDigits?, span_run hds ht,
      span_run hds ht']
    dsimp only
    split <;> rfl

theorem digitsValue_replicate_zero (n : Nat) : digitsValue (List.replicate n (ch '0')) = 0 := by
  induction n with
  | zero => rfl
  | succ n ih => exact ih

/-- Of a line and a column, each behind a colon, the line is what counts. The column is read over.
-/
theorem lineAndColumn?_append {column : Bytes} (hds : IsNumeral ds) (hcolumn : IsNumeral column)
    (hr : Stops isDigit r) :
    lineAndColumn? (ch ':' :: (ds ++ ch ':' :: (column ++ r))) = some (digitsValue ds, r) := by
  rw [lineAndColumn?, colonDigits?_append hds (stops_cons rfl _), Option.map_some]
  dsimp only
  rw [colonDigits?_append hcolumn hr]
  rfl

theorem lineAndColumn?_of_ne (h : ch ':' ∉ s.head?) : lineAndColumn? s = none := by
  rw [lineAndColumn?, colonDigits?_of_ne h]
  rfl

/-- A dot ends a numeral, so the text behind one decides nothing about the line and the column
before it. -/
theorem lineAndColumn?_append_dot (s r : Bytes) :
    lineAndColumn? (s ++ ch '.' :: r)
      = (lineAndColumn? s).map fun (line, t) => (line, t ++ ch '.' :: r) := by
  rw [lineAndColumn?, lineAndColumn?, colonDigits?_append_dot]
  cases colonDigits? s with
  | none => rfl
  | some found =>
    obtain ⟨ds, t⟩ := found
    dsimp only [Option.map_some]
    rw [colonDigits?_append_dot]
    cases colonDigits? t with
    | none => rfl
    | some column => rfl

/-- What is read as a line and a column ends with a digit. -/
theorem lineAndColumn?_eq_some (h : lineAndColumn? s = some (line, rest)) :
    ∃ front d, isDigit d = true ∧ s = front ++ d :: rest := by
  obtain ⟨⟨ds, r⟩, hline, hfound⟩ := Option.map_eq_some_iff.1 h
  obtain ⟨front, d, hd, rfl⟩ := colonDigits?_eq_some hline
  have hrest : ((colonDigits? r).map Prod.snd).getD r = rest := (Prod.mk.inj hfound).2
  cases hcolumn : colonDigits? r with
  | none =>
    rw [hcolumn] at hrest
    exact ⟨front, d, hd, congrArg (front ++ d :: ·) hrest⟩
  | some column =>
    obtain ⟨column, r'⟩ := column
    rw [hcolumn] at hrest
    obtain ⟨front', d', hd', rfl⟩ := colonDigits?_eq_some hcolumn
    obtain rfl : r' = rest := hrest
    exact ⟨front ++ d :: front', d', hd', by simp⟩

/-! ## Places -/

/-- Line zero is no line of the file, and the location is the name of the source alone. -/
theorem GeneratedFile.location_zero (f : GeneratedFile) : f.location 0 = f.source := by
  have hline : f.sourceLine 0 = 0 := by
    unfold GeneratedFile.sourceLine
    split
    · rfl
    · split <;> rfl
  unfold GeneratedFile.location
  rw [hline]
  rfl

/-- **How a caller should see a line of a generated file**: as the path of the unit and, if the line
was made for a line of the unit, the number of that. -/
def GeneratedUnit.shown (g : GeneratedUnit) (line : Nat) : Bytes :=
  match g.sourceMap.lookup line with
  | some mapped =>
    g.unit.path ++ ":"
      ++ ofInt (shiftLine mapped g.unit.role (SourceUnit.injectedLines g.unit.role))
  | none => g.unit.path

/-- Lines of generated files count from one. -/
theorem SourceMap.lookup_ofLines_zero (ls : List Line) : (ofLines ls).lookup 0 = none := by
  refine Option.map_eq_none_iff.2 (List.find?_eq_none.2 fun e he => ?_)
  obtain ⟨⟨l, i⟩, -, hl⟩ := List.mem_filterMap.1 he
  obtain ⟨o, -, rfl⟩ := Option.map_eq_some_iff.1 hl
  simp

/-- A line of the generated code is looked up in the table that the writer kept and then shifted, as
the injected lines of a page are no lines of its source. -/
theorem GeneratedUnit.sourceLine_generatedFile (g : GeneratedUnit) (line : Nat) :
    (EmitUnit.ofGenerated g).generatedFile.sourceLine line
      = match g.sourceMap.lookup line with
        | some mapped => shiftLine mapped g.unit.role (SourceUnit.injectedLines g.unit.role)
        | none => 0 := by
  show (match g.sourceMap.lookup line with | some _ => _ | none => _) = _
  cases hlookup : g.sourceMap.lookup line with
  | none => rfl
  | some mapped =>
    refine if_neg ?_
    rintro rfl
    rw [sourceMap, SourceMap.lookup_ofLines_zero] at hlookup
    cases hlookup

/-- A place in the file of a generated unit is what a caller should see. -/
theorem GeneratedUnit.location_generatedFile (g : GeneratedUnit) (line : Nat) :
    (EmitUnit.ofGenerated g).generatedFile.location line = g.shown line := by
  unfold GeneratedFile.location shown
  rw [sourceLine_generatedFile]
  cases g.sourceMap.lookup line with
  | none => rfl
  | some mapped =>
    exact if_pos (Int.lt_of_lt_of_le Int.zero_lt_one (Int.le_max_left ..))

theorem GeneratedUnit.shown_zero (g : GeneratedUnit) : g.shown 0 = g.unit.path := by
  unfold shown
  rw [sourceMap, SourceMap.lookup_ofLines_zero]

/-! ## One step -/

theorem Bytes.endsWith_iff {s p : Bytes} : endsWith s p = true ↔ p <:+ s := by
  rw [endsWith, startsWith_iff, List.reverse_prefix]

namespace relocatePositions

/-- The line that a run of name bytes is quoted with, and what follows the position. -/
def position? (name r : Bytes) : Option (Nat × Bytes) :=
  if endsWith name ".go" && 4 ≤ name.length then lineAndColumn? r else none

/-- A position is a name that ends in `.go`, with something before that, and a line and a column
behind it. -/
theorem position?_eq_some {found : Nat × Bytes} :
    position? name r = some found
      ↔ (".go" : Bytes) <:+ name ∧ 4 ≤ name.length ∧ lineAndColumn? r = some found := by
  rw [position?, Option.ite_none_right_eq_some, Bool.and_eq_true, endsWith_iff, decide_eq_true_eq,
    and_assoc]

/-- A run is no position in front of anything but a colon. -/
theorem position?_of_ne (h : ch ':' ∉ r.head?) : position? name r = none := by
  rw [position?, lineAndColumn?_of_ne h, ite_self]

/-- A run is no position if it is followed by a colon and both together are no `.go:`. -/
theorem position?_of_not_infix (h : ¬ (".go:" : Bytes) <:+: name ++ [ch ':']) :
    position? name (ch ':' :: r) = none := by
  refine Option.eq_none_iff_forall_ne_some.2 fun found hfound => h ?_
  obtain ⟨stem, rfl⟩ := (position?_eq_some.1 hfound).1
  exact ⟨stem, [], by rw [List.append_nil, List.append_assoc]; rfl⟩

/-- What follows a run up to a dot settles whether it is a position. -/
theorem position?_append_go (name s text : Bytes) :
    position? name (s ++ (ofString ".go" ++ text))
      = (position? name s).map fun (line, rest) => (line, rest ++ (ofString ".go" ++ text)) := by
  unfold position?
  split
  · exact lineAndColumn?_append_dot s (ch 'g' :: ch 'o' :: text)
  · rfl

theorem go_zero (files : List GeneratedFile) (s : Bytes) : go files 0 s = s := by
  cases s <;> rfl

theorem go_nil (files : List GeneratedFile) (fuel : Nat) : go files fuel [] = [] := by
  cases fuel <;> rfl

/-- A byte that no name has stays. -/
theorem go_cons (files : List GeneratedFile) (fuel : Nat) (s : Bytes) (hc : isNameByte c = false) :
    go files (fuel + 1) (c :: s) = c :: go files fuel s := by
  have hspan : (c :: s).span isNameByte = ([], c :: s) :=
    @span_run _ [] _ (List.forall_mem_nil _) (stops_cons hc s)
  rw [go, hspan]
  rfl

/-- **One step at a run of name bytes.** Either a position begins with the whole run, and the place
in the source stands for it, or the run is kept and the walk goes on behind it. -/
theorem go_run (files : List GeneratedFile) (fuel : Nat) (hne : name ≠ [])
    (hname : ∀ c ∈ name, isNameByte c = true) (hr : Stops isNameByte r) :
    go files (fuel + 1) (name ++ r) = match position? name r with
      | some (line, rest) =>
        (match GeneratedFile.find? files name with
          | some f => f.location line
          | none => (name ++ r).take (name.length + r.length - rest.length)) ++ go files fuel rest
      | none => name ++ go files fuel r := by
  obtain ⟨c, s, hcons⟩ := List.exists_cons_of_ne_nil hne
  have hspan : (c :: (s ++ r)).span isNameByte = (name, r) := by
    rw [← List.cons_append, ← hcons, span_run hname hr]
  have hempty : name.isEmpty = false := by rw [hcons]; rfl
  conv_lhs => rw [hcons, List.cons_append, go, hspan]
  dsimp only
  rw [hempty, if_neg Bool.false_ne_true, position?]
  split
  · cases lineAndColumn? r <;> rfl
  · rfl

/-- A run that is no position stays. -/
theorem go_plain (files : List GeneratedFile) (fuel : Nat) (hne : name ≠ [])
    (hname : ∀ c ∈ name, isNameByte c = true) (hr : Stops isNameByte r)
    (h : position? name r = none) :
    go files (fuel + 1) (name ++ r) = name ++ go files fuel r := by
  rw [go_run files fuel hne hname hr, h]

/-- **What a position becomes**: its place, if the file is known. -/
def place (files : List GeneratedFile) (name : Bytes) (line : Nat) (quoted : Bytes) : Bytes :=
  match GeneratedFile.find? files name with
  | some f => f.location line
  | none => quoted

theorem place_known {f : GeneratedFile} (hf : GeneratedFile.find? files name = some f)
    (line : Nat) (quoted : Bytes) : place files name line quoted = f.location line := by
  rw [place, hf]

theorem place_unknown (hf : GeneratedFile.find? files name = none) (line : Nat) (quoted : Bytes) :
    place files name line quoted = quoted := by
  rw [place, hf]

/-- A run that begins a position is given up for what `place` makes of it. -/
theorem go_place (files : List GeneratedFile) (fuel : Nat) {mid : Bytes}
    (hname : ∀ c ∈ name, isNameByte c = true) (hr : Stops isNameByte (mid ++ rest))
    (h : position? name (mid ++ rest) = some (line, rest)) :
    go files (fuel + 1) (name ++ (mid ++ rest))
      = place files name line (name ++ mid) ++ go files fuel rest := by
  have hne : name ≠ [] := by
    rintro rfl
    cases h
  have htake : (name ++ (mid ++ rest)).take (name.length + (mid ++ rest).length - rest.length)
      = name ++ mid := by
    rw [← List.append_assoc]
    refine List.take_left' ?_
    simp only [List.length_append]
    omega
  rw [go_run files fuel hne hname hr, h]
  dsimp only
  rw [htake]
  rfl

/-- A run is no position where no `.go:` begins, unless more is put right behind it. -/
theorem position?_of_quote_free (hquote : ¬ (".go:" : Bytes) <:+: name ++ r)
    (hr : r ≠ [] ∨ s = []) : position? name (r ++ s) = none := by
  cases r with
  | nil =>
    obtain rfl := hr.resolve_left fun h => h rfl
    exact position?_of_ne (Option.not_mem_none _)
  | cons c r =>
    by_cases hc : c = ch ':'
    · subst hc
      exact position?_of_not_infix fun h => hquote (h.trans ⟨[], r, by simp⟩)
    · exact position?_of_ne fun h => hc (Option.some.inj h)

/-- **What has no `.go:` in it stays**, provided that no name runs on behind it. -/
theorem go_append (files : List GeneratedFile) (fuel : Nat) (hquote : ¬ (".go:" : Bytes) <:+: text)
    (hstop : s = [] ∨ ∀ c ∈ text.getLast?, isNameByte c = false) :
    ∃ fuel', fuel ≤ fuel' + text.length ∧ go files fuel (text ++ s) = text ++ go files fuel' s := by
  induction fuel generalizing text with
  | zero => exact ⟨0, Nat.zero_le _, by rw [go_zero, go_zero]⟩
  | succ fuel ih =>
    -- what is behind a step is a text of the same kind
    have hrest : ∀ {front r : Bytes}, text = front ++ r → front ≠ [] →
        ∃ fuel', fuel + 1 ≤ fuel' + text.length
          ∧ go files fuel (r ++ s) = r ++ go files fuel' s := by
      rintro front r rfl hne
      have hlast := hstop.imp_right fun h c hc => h c (List.mem_getLast?_append_of_mem_getLast? hc)
      obtain ⟨fuel', hle, heq⟩ := ih
        (fun h => hquote (h.trans (List.suffix_append front r).isInfix)) hlast
      have hpos := List.length_pos_iff.2 hne
      refine ⟨fuel', ?_, heq⟩
      rw [List.length_append]
      omega
    obtain ⟨name, r, rfl, hname, hr⟩ := exists_run isNameByte text
    by_cases hne : name = []
    · subst hne
      cases r with
      | nil => exact ⟨fuel + 1, Nat.le_refl _, rfl⟩
      | cons c r =>
        obtain ⟨fuel', hle, heq⟩ := @hrest [c] r rfl (List.cons_ne_nil _ _)
        refine ⟨fuel', hle, ?_⟩
        rw [List.nil_append, List.cons_append, go_cons files fuel _ (hr c rfl), heq]
        rfl
    · obtain ⟨fuel', hle, heq⟩ := hrest rfl hne
      have hend : r ≠ [] ∨ s = [] := by
        refine hstop.symm.imp_left ?_
        rintro h rfl
        have hlast := h _ (by rw [List.append_nil]; exact List.getLast?_eq_some_getLast hne)
        rw [hname _ (List.getLast_mem hne)] at hlast
        cases hlast
      have hrun : Stops isNameByte (r ++ s) := by
        cases r with
        | nil =>
          obtain rfl := hend.resolve_left fun h => h rfl
          exact hr
        | cons c r => exact hr
      refine ⟨fuel', hle, ?_⟩
      rw [List.append_assoc,
        go_plain files fuel hne hname hrun (position?_of_quote_free hquote hend), heq,
        List.append_assoc]

/-- A text in which no name of a file is quoted stays as it is. -/
theorem go_of_quote_free (files : List GeneratedFile) (fuel : Nat)
    (hquote : ¬ (".go:" : Bytes) <:+: text) : go files fuel text = text := by
  obtain ⟨fuel', -, heq⟩ := go_append files fuel hquote (.inl rfl)
  rwa [List.append_nil, go_nil, List.append_nil] at heq

end relocatePositions

/-! ## Quoted positions -/

/-- **How a message quotes a position** in a file, whose name is left out: a text that is empty or
ends in a blank, the name, a line and a column, and more text. Neither text has a `.go:` in it, and
the column is the whole number that is there. -/
structure IsQuoted (before line column after : Bytes) : Prop where
  begins : ∀ c ∈ before.getLast?, c = ch ' '
  line_numeral : IsNumeral line
  column_numeral : IsNumeral column
  column_ends : Stops isDigit after
  nothing_before : ¬ (".go:" : Bytes) <:+: before
  nothing_after : ¬ (".go:" : Bytes) <:+: after

namespace relocatePositions

/-- **What a quoted position becomes** depends on the last run of the file name only, provided that
what stands in front of that run is no position. -/
theorem of_isQuoted {front before numeral column after : Bytes} (hgo : (".go" : Bytes) <:+ name)
    (hlong : 4 ≤ name.length) (hname : ∀ c ∈ name, isNameByte c = true)
    (hfront : ∀ c ∈ front.getLast?, isNameByte c = false)
    (hnothing : ¬ (".go:" : Bytes) <:+: before ++ front)
    (h : IsQuoted before numeral column after) :
    relocatePositions files (before ++ (front ++ name) ++ ":" ++ numeral ++ ":" ++ column ++ after)
      = before ++ front
        ++ place files name (digitsValue numeral) (name ++ ":" ++ numeral ++ ":" ++ column)
        ++ after := by
  let mid : Bytes := ch ':' :: (numeral ++ ch ':' :: column)
  have hform : before ++ (front ++ name) ++ ":" ++ numeral ++ ":" ++ column ++ after
      = before ++ front ++ (name ++ (mid ++ after)) := by
    simp only [mid, List.append_assoc, List.cons_append]
    rfl
  have hquoted : name ++ ":" ++ numeral ++ ":" ++ column = name ++ mid := by
    simp only [mid, List.append_assoc]
    rfl
  have hbefore : ∀ c ∈ (before ++ front).getLast?, isNameByte c = false := by
    intro c hc
    rw [List.getLast?_append] at hc
    rcases Option.or_eq_some_iff.1 hc with hc | ⟨-, hc⟩
    · exact hfront c hc
    · rw [h.begins c hc]
      decide
  have hcolon : Stops isNameByte (mid ++ after) := stops_cons (by decide) _
  have hpos : position? name (mid ++ after) = some (digitsValue numeral, after) := by
    refine position?_eq_some.2 ⟨hgo, hlong, ?_⟩
    simp only [mid, List.cons_append, List.append_assoc]
    exact lineAndColumn?_append h.line_numeral h.column_numeral h.column_ends
  rw [hform, hquoted, relocatePositions]
  split
  · next hnil =>
    rw [List.isEmpty_iff.1 hnil, place_unknown rfl]
    simp only [List.append_assoc]
  obtain ⟨fuel, hle, heq⟩ := go_append files
    ((before ++ front ++ (name ++ (mid ++ after))).length + 1) hnothing (.inr hbefore)
  obtain ⟨fuel, rfl⟩ : ∃ fuel', fuel = fuel' + 1 := by
    refine ⟨fuel - 1, ?_⟩
    simp only [List.length_append] at hle
    omega
  rw [heq, go_place files fuel hname hcolon hpos, go_of_quote_free files fuel h.nothing_after,
    List.append_assoc _ _ after]

/-! ## Names of which the end is found -/

/-- **A file name of which the end was found**: what comes out for a file name followed by a line
that has no source is a text and the unit of the generated file that the end of the name names.
What is in front of that end does not end in a slash, which would belong to the end. -/
structure FoundEnd (files : List GeneratedFile) (file out kept name shown : Bytes)
    (f : GeneratedFile) : Prop where
  split : file = kept ++ name
  bytes : ∀ c ∈ name, isNameByte c = true
  long : 4 ≤ name.length
  found : GeneratedFile.find? files name = some f
  output : out = shown ++ f.source
  boundary : ∀ c ∈ kept.getLast?, c ≠ slash

/-- More may stand in front of a name of which the end is found, unless what is put there would
belong to the end. -/
theorem FoundEnd.prepend {file out kept shown front shown' : Bytes} {f : GeneratedFile}
    (h : FoundEnd files file out kept name shown f)
    (hlast : kept ≠ [] ∨ ∀ c ∈ front.getLast?, c ≠ slash) :
    FoundEnd files (front ++ file) (shown' ++ out) (front ++ kept) name (shown' ++ shown) f where
  split := by rw [h.split, List.append_assoc]
  bytes := h.bytes
  long := h.long
  found := h.found
  output := by rw [h.output, List.append_assoc]
  boundary := by
    by_cases hkept : kept = []
    · subst hkept
      rw [List.append_nil]
      exact hlast.resolve_left fun hne => hne rfl
    · rw [List.getLast?_append_of_ne_nil _ hkept]
      exact h.boundary

/-- A step in a file name that is not one run leaves the end of the name. What is left begins where
a run stops, or what was passed ends in a digit or in a byte that no name has. -/
theorem exists_step {stem : Bytes} (h : ∃ c ∈ stem, isNameByte c = false)
    (files : List GeneratedFile) (fuel : Nat) (text : Bytes) :
    ∃ front rest place, stem = front ++ rest
      ∧ (rest ≠ [] ∧ Stops isNameByte rest ∨ ∀ c ∈ front.getLast?, c ≠ slash)
      ∧ go files (fuel + 1) (stem ++ ofString ".go" ++ text)
        = place ++ go files fuel (rest ++ ofString ".go" ++ text) := by
  obtain ⟨name, r, rfl, hname, hr⟩ := exists_run isNameByte stem
  have hne : r ≠ [] := by
    rintro rfl
    obtain ⟨c, hc, hbyte⟩ := h
    rw [hname c (List.append_nil name ▸ hc)] at hbyte
    cases hbyte
  obtain ⟨c, r, rfl⟩ := List.exists_cons_of_ne_nil hne
  by_cases hnil : name = []
  · subst hnil
    refine ⟨[c], r, [c], rfl, .inr ?_, go_cons files fuel _ (hr c rfl)⟩
    rintro _ hc rfl
    obtain rfl := Option.some.inj hc
    exact absurd (hr _ rfl) (by decide)
  have hstop : Stops isNameByte (c :: r ++ (ofString ".go" ++ text)) := hr
  simp only [List.append_assoc]
  cases hfound : position? name (c :: r) with
  | none =>
    have hpos : position? name (c :: r ++ (ofString ".go" ++ text)) = none := by
      rw [position?_append_go, hfound]
      rfl
    exact ⟨name, c :: r, name, rfl, .inl ⟨List.cons_ne_nil _ _, hr⟩,
      go_plain files fuel hnil hname hstop hpos⟩
  | some found =>
    obtain ⟨line, rest⟩ := found
    have hpos : position? name (c :: r ++ (ofString ".go" ++ text))
        = some (line, rest ++ (ofString ".go" ++ text)) := by
      rw [position?_append_go, hfound]
      rfl
    obtain ⟨digits, d, hd, hsplit⟩ := lineAndColumn?_eq_some (position?_eq_some.1 hfound).2.2
    have hmid : c :: r = digits ++ [d] ++ rest := by rw [hsplit, List.append_cons]
    rw [hmid, List.append_assoc] at hstop hpos
    have hplace := go_place files fuel hname hstop hpos
    rw [← List.append_assoc (digits ++ [d]) rest, ← hmid] at hplace
    refine ⟨name ++ (digits ++ [d]), rest, _, by simp only [hmid, List.append_assoc], .inr ?_,
      hplace⟩
    rintro _ hc rfl
    rw [← List.append_assoc, List.getLast?_concat] at hc
    obtain rfl := Option.some.inj hc
    exact absurd hd (by decide)

/-- A file name that is one run is found, or it stays with all that follows. -/
theorem foundEnd_of_run {stem : Bytes} (hstem : ∀ c ∈ stem, isNameByte c = true)
    (hline : lineAndColumn? text = some (0, [])) (htext : Stops isNameByte text)
    (hquote : ¬ (".go:" : Bytes) <:+: text)
    (h : (go files (fuel + 1) (stem ++ ofString ".go" ++ text)).length < text.length) :
    ∃ f, FoundEnd files (stem ++ ofString ".go")
      (go files (fuel + 1) (stem ++ ofString ".go" ++ text)) [] (stem ++ ofString ".go") [] f := by
  have hrun : ∀ c ∈ stem ++ ofString ".go", isNameByte c = true :=
    List.forall_mem_append.2 ⟨hstem, List.all_eq_true.1 (by decide)⟩
  have hne : stem ++ ofString ".go" ≠ [] := List.append_ne_nil_of_right_ne_nil _ (by decide)
  cases hpos : position? (stem ++ ofString ".go") text with
  | none =>
    rw [go_plain files fuel hne hrun htext hpos, go_of_quote_free files fuel hquote,
      List.length_append] at h
    omega
  | some found =>
    obtain ⟨-, hlong, hfound⟩ := position?_eq_some.1 hpos
    obtain rfl := Option.some.inj (hline.symm.trans hfound)
    have hplace := go_place files fuel hrun (by rwa [List.append_nil]) (by rwa [List.append_nil])
    rw [List.append_nil, go_nil, List.append_nil] at hplace
    cases hf : GeneratedFile.find? files (stem ++ ofString ".go") with
    | none =>
      rw [hplace, place_unknown hf, List.length_append] at h
      omega
    | some f =>
      refine ⟨f, rfl, hrun, hlong, hf, ?_, fun c hc => absurd hc (Option.not_mem_none c)⟩
      rw [hplace, place_known hf, GeneratedFile.location_zero]
      rfl

/-- **A position that gets shorter than what follows the file name was found**, at least by the end
of the name. -/
theorem exists_foundEnd {stem : Bytes} (hline : lineAndColumn? text = some (0, []))
    (htext : Stops isNameByte text) (hquote : ¬ (".go:" : Bytes) <:+: text)
    (h : (go files fuel (stem ++ ofString ".go" ++ text)).length < text.length) :
    ∃ kept name shown f, FoundEnd files (stem ++ ofString ".go")
      (go files fuel (stem ++ ofString ".go" ++ text)) kept name shown f := by
  induction fuel generalizing stem with
  | zero =>
    rw [go_zero, List.length_append] at h
    omega
  | succ fuel ih =>
    by_cases hrun : ∀ c ∈ stem, isNameByte c = true
    · obtain ⟨f, hf⟩ := foundEnd_of_run hrun hline htext hquote h
      exact ⟨[], _, [], f, hf⟩
    obtain ⟨front, rest, place, rfl, hcut, heq⟩ :=
      exists_step (by simpa using hrun) files fuel text
    rw [heq, List.length_append] at h
    obtain ⟨kept, name, shown, f, hf⟩ := @ih rest (by omega)
    refine ⟨front ++ kept, name, place ++ shown, f, ?_⟩
    rw [heq, List.append_assoc]
    refine hf.prepend (hcut.imp_left ?_)
    -- a run does not begin where another one stops
    rintro ⟨hne, hstop⟩ rfl
    obtain ⟨c, rest, rfl⟩ := List.exists_cons_of_ne_nil hne
    have hname : name = c :: (rest ++ ofString ".go") := hf.split.symm
    have hc : isNameByte c = true := hf.bytes c (hname ▸ List.mem_cons_self)
    rw [hstop c rfl] at hc
    cases hc

/-- A quoted position that has no line, and gets shorter than its number, was found. -/
theorem exists_foundEnd_of_quoted {stem numeral column out : Bytes} (hnumeral : IsNumeral numeral)
    (hcolumn : IsNumeral column) (hzero : digitsValue numeral = 0)
    (hout : relocatePositions files (stem ++ ofString ".go" ++ ":" ++ numeral ++ ":" ++ column)
      = out)
    (hshort : out.length ≤ numeral.length) :
    ∃ kept name shown f, FoundEnd files (stem ++ ofString ".go") out kept name shown f := by
  let text : Bytes := ch ':' :: (numeral ++ ch ':' :: (column ++ []))
  have hform : stem ++ ofString ".go" ++ ":" ++ numeral ++ ":" ++ column
      = stem ++ ofString ".go" ++ text := by
    simp only [text, List.append_nil, List.append_assoc]
    rfl
  have hline : lineAndColumn? text = some (0, []) := by
    rw [← hzero]
    exact lineAndColumn?_append hnumeral hcolumn (stops_nil _)
  have htext : Stops isNameByte text := stops_cons (by decide) _
  have hquote : ¬ (".go:" : Bytes) <:+: text := by
    intro hinfix
    have hdot : ch '.' ∈ text := hinfix.subset (by decide)
    simp only [text, List.append_nil, List.mem_cons, List.mem_append] at hdot
    rcases hdot with hdot | hdot | hdot | hdot
    · exact absurd hdot (by decide)
    · exact absurd (hnumeral.2 _ hdot) (by decide)
    · exact absurd hdot (by decide)
    · exact absurd (hcolumn.2 _ hdot) (by decide)
  have hlength : numeral.length < text.length := by
    simp only [text, List.length_cons, List.length_append]
    omega
  rw [hform, relocatePositions] at hout
  split at hout
  · rw [← hout, List.length_append] at hshort
    omega
  · subst hout
    exact exists_foundEnd hline htext hquote (Nat.lt_of_le_of_lt hshort hlength)

end relocatePositions

/-! ## Batches -/

theorem Naming.fileName_slash (stem : Bytes) : fileName (slash :: stem) = stem ++ ofString ".go" :=
  rfl

theorem GeneratedFile.find?_eq_some {f : GeneratedFile} (h : find? files name = some f) :
    f ∈ files ∧ f.name = name :=
  ⟨List.mem_reverse.1 (List.mem_of_find?_eq_some h), by simpa using List.find?_some h⟩

namespace Compile

variable {units : List SourceUnit} {mode : Mode} {resolver : Resolver} {o : Options}
  {u : SourceUnit}

/-- A name that is found is that of the file of a component. -/
theorem exists_of_find?_hostFiles {f : GeneratedFile}
    (h : GeneratedFile.find? (hostFiles ((units.filter SourceUnit.isComponent).map
      (generate units mode resolver o))) name = some f) :
    ∃ u ∈ units, u.isComponent = true ∧ f.source = u.path ∧ name = Naming.fileName u.path := by
  obtain ⟨hf, rfl⟩ := GeneratedFile.find?_eq_some h
  obtain ⟨g, hg, rfl⟩ := List.mem_map.1 hf
  obtain ⟨u, hu, rfl⟩ := List.mem_map.1 hg
  obtain ⟨hu, hcomponent⟩ := List.mem_filter.1 hu
  exact ⟨u, hu, hcomponent, rfl, rfl⟩

/-- If a part of the file name of a unit is found and the unit is shown, the part is the whole
name. -/
theorem Batch.nameBytes_of_foundEnd (h : Batch units) (hu : u ∈ units) {kept name shown : Bytes}
    {f : GeneratedFile}
    (hend : relocatePositions.FoundEnd (hostFiles ((units.filter SourceUnit.isComponent).map
      (generate units mode resolver o))) (Naming.fileName u.path) u.path kept name shown f) :
    u.isComponent = true ∧ u.path ≠ [slash] ∧ ∀ c ∈ u.path, isNameByte c = true := by
  obtain ⟨v, hv, hcomponent, hsource, hfile⟩ := exists_of_find?_hostFiles hend.found
  obtain ⟨stem, hstem⟩ := Path.isAbs_iff.1 (h.rooted u hu)
  obtain ⟨rest, hrest⟩ := Path.isAbs_iff.1 (h.rooted v hv)
  have hname : name = rest ++ ofString ".go" := by rw [hfile, hrest, Naming.fileName_slash]
  have hkept : stem = kept ++ rest := by
    have hsplit : stem ++ ofString ".go" = kept ++ rest ++ ofString ".go" := by
      rw [List.append_assoc, ← hname, ← hend.split, hstem, Naming.fileName_slash]
    exact List.append_cancel_right hsplit
  have hshown : slash :: kept = shown ++ [slash] := by
    have hout : slash :: kept ++ rest = shown ++ [slash] ++ rest := by
      rw [List.append_assoc, List.cons_append, ← hkept, ← hstem, hend.output, hsource, hrest]
      rfl
    exact List.append_cancel_right hout
  -- the slash of the other unit's path ends what is in front of its file name
  have hnil : kept = [] := by
    obtain rfl | ⟨front, c, rfl⟩ := List.eq_nil_or_concat' kept
    · rfl
    · have hends : slash :: front ++ [c] = shown ++ [slash] := hshown
      have hlast : [c] = [slash] := List.append_inj_right' hends rfl
      exact absurd (List.cons.inj hlast).1 (hend.boundary c (List.getLast?_concat ..))
  subst hnil
  obtain rfl : v = u := List.inj_on_of_nodup_map h.distinct hv hu (by rw [hrest, hstem, hkept]; rfl)
  refine ⟨hcomponent, ?_, ?_⟩
  · rw [hrest]
    rintro heq
    have hlong := hend.long
    rw [hname, (List.cons.inj heq).2] at hlong
    exact absurd hlong (by decide)
  · rw [hrest]
    refine List.forall_mem_cons.2 ⟨by decide, fun c hc => hend.bytes c ?_⟩
    rw [hname]
    exact List.mem_append_left _ hc

/-- **The file name of a component is found** if it is one run: whatever quotes a position in it is
shown the unit. -/
theorem Batch.shown_of_nameBytes (h : Batch units) (hu : u ∈ units)
    (hcomponent : u.isComponent = true) (hroot : u.path ≠ [slash])
    (hbytes : ∀ c ∈ u.path, isNameByte c = true) {before numeral column after : Bytes}
    (hquoted : IsQuoted before numeral column after) :
    relocatePositions (hostFiles ((units.filter SourceUnit.isComponent).map
        (generate units mode resolver o)))
        (before ++ Naming.fileName u.path ++ ":" ++ numeral ++ ":" ++ column ++ after)
      = before ++ (generate units mode resolver o u).shown (digitsValue numeral) ++ after := by
  obtain ⟨stem, hstem⟩ := Path.isAbs_iff.1 (h.rooted u hu)
  have hname : Naming.fileName u.path = stem ++ ofString ".go" := by
    rw [hstem, Naming.fileName_slash]
  have hfound := h.find?_hostFiles mode resolver o (List.mem_filter.2 ⟨hu, hcomponent⟩)
  rw [hname] at hfound ⊢
  rw [hstem] at hroot hbytes
  have hlong : 4 ≤ (stem ++ ofString ".go").length := by
    have hpos := List.length_pos_iff.2 fun hnil : stem = [] => hroot (hnil ▸ rfl)
    have hgo : (ofString ".go").length = 3 := rfl
    rw [List.length_append]
    omega
  have hrun : ∀ c ∈ stem ++ ofString ".go", isNameByte c = true :=
    List.forall_mem_append.2
      ⟨(List.forall_mem_cons.1 hbytes).2, List.all_eq_true.1 (by decide)⟩
  have hout := @relocatePositions.of_isQuoted (hostFiles ((units.filter
    SourceUnit.isComponent).map (generate units mode resolver o))) _ [] _ _ _ _
    (List.suffix_append stem _) hlong hrun (fun c hc => absurd hc (Option.not_mem_none c))
    (by rw [List.append_nil]; exact hquoted.nothing_before) hquoted
  rw [List.nil_append, List.append_nil, relocatePositions.place_known hfound] at hout
  rw [hout, GeneratedUnit.location_generatedFile]

/-- **Only such names are found.** A line that no file has, written with more digits than there are
bytes in the path, is already enough to tell. -/
theorem Batch.nameBytes_of_shown (h : Batch units) (hu : u ∈ units)
    (hshown : ∀ before line column after, IsQuoted before line column after →
      relocatePositions (hostFiles ((units.filter SourceUnit.isComponent).map
          (generate units mode resolver o)))
          (before ++ Naming.fileName u.path ++ ":" ++ line ++ ":" ++ column ++ after)
        = before ++ (generate units mode resolver o u).shown (digitsValue line) ++ after) :
    u.isComponent = true ∧ u.path ≠ [slash] ∧ ∀ c ∈ u.path, isNameByte c = true := by
  obtain ⟨stem, hstem⟩ := Path.isAbs_iff.1 (h.rooted u hu)
  have hname : Naming.fileName u.path = stem ++ ofString ".go" := by
    rw [hstem, Naming.fileName_slash]
  let zeros := List.replicate (u.path.length + 1) (ch '0')
  have hzeros : IsNumeral zeros :=
    ⟨List.cons_ne_nil _ _, fun c hc => List.eq_of_mem_replicate hc ▸ rfl⟩
  have hone : IsNumeral [ch '1'] := by decide
  have hout := hshown [] zeros [ch '1'] []
    ⟨fun c hc => absurd hc (Option.not_mem_none c), hzeros, hone, stops_nil _, by decide,
      by decide⟩
  rw [digitsValue_replicate_zero, GeneratedUnit.shown_zero, List.append_nil, List.append_nil,
    List.nil_append, List.nil_append, hname] at hout
  have hshort : u.path.length ≤ zeros.length := by
    rw [List.length_replicate]
    exact Nat.le_succ _
  obtain ⟨kept, name, shown, f, hend⟩ := relocatePositions.exists_foundEnd_of_quoted hzeros hone
    (digitsValue_replicate_zero _) hout hshort
  exact h.nameBytes_of_foundEnd hu (hname ▸ hend)

end Compile

/-- **Which quoted positions are shown to the caller.** Take the files that are generated in either
mode for the units of any batch, and a unit. Whatever message quotes whatever position in the file
that is named after the unit, the position is replaced by the path of the unit, with the line of the
unit that the line was made for, if and only if the unit is a component, its path is not the root,
and the path has name bytes only. -/
theorem quoted_position_shown_iff (files : List SourceFile) (o : Compile.Options) (mode : Mode)
    (resolver : Resolver) :
    let units := (Compile.prepare files o).1
    let generated := (units.filter SourceUnit.isComponent).map
      (Compile.generate units mode resolver o)
    ∀ u ∈ units,
      (∀ before line column after, IsQuoted before line column after →
        relocatePositions (Compile.hostFiles generated)
            (before ++ Naming.fileName u.path ++ ":" ++ line ++ ":" ++ column ++ after)
          = before ++ (Compile.generate units mode resolver o u).shown (digitsValue line) ++ after)
      ↔ u.isComponent = true ∧ u.path ≠ [slash] ∧ ∀ c ∈ u.path, isNameByte c = true := by
  intro units generated u hu
  have hbatch := Compile.batch_prepare files o
  constructor
  · exact hbatch.nameBytes_of_shown hu
  · rintro ⟨hcomponent, hroot, hbytes⟩ before line column after hquoted
    exact hbatch.shown_of_nameBytes hu hcomponent hroot hbytes hquoted

/-- Whatever quotes a position of a plainly named page, the page is shown. -/
theorem quoted_position_shown_page :
    let units := (Compile.prepare [⟨"/p.tmpl", "@x\ny"⟩] {}).1
    let generated := (units.filter SourceUnit.isComponent).map
      (Compile.generate units .full (fun _ _ => none) {})
    ∃ u ∈ units, u.path = "/p.tmpl" ∧ ∀ before line column after,
      IsQuoted before line column after →
        relocatePositions (Compile.hostFiles generated)
            (before ++ Naming.fileName u.path ++ ":" ++ line ++ ":" ++ column ++ after)
          = before ++ (Compile.generate units .full (fun _ _ => none) {} u).shown (digitsValue line)
            ++ after := by
  intro units generated
  have hpath : SourceUnit.normalizePath "/p.tmpl" = "/p.tmpl" :=
    (SourceUnit.normalizePath_cons (by decide) (by decide) "p.tmp").trans (by decide)
  have hunits : units = [⟨"/p.tmpl", SourceUnit.normalizeText "@x\ny", .component, .root⟩] :=
    Compile.prepare_page hpath (by decide) "@x\ny"
  have hmem : ⟨"/p.tmpl", SourceUnit.normalizeText "@x\ny", .component, .root⟩ ∈ units :=
    hunits ▸ List.mem_cons_self
  exact ⟨_, hmem, rfl, (quoted_position_shown_iff [⟨"/p.tmpl", "@x\ny"⟩] {} .full
    (fun _ _ => none) _ hmem).2
    ⟨rfl, by decide, List.all_eq_true.1 (by decide)⟩⟩

/-- What is shown begins with the path of the unit. -/
theorem GeneratedUnit.path_prefix_shown (g : GeneratedUnit) (line : Nat) :
    g.unit.path <+: g.shown line := by
  unfold shown
  split
  · rw [List.append_assoc]
    exact List.prefix_append ..
  · exact List.prefix_rfl

/-- A blank in a path is enough to keep the name of the file in the message. -/
theorem quoted_position_not_shown :
    let units := (Compile.prepare [⟨"/a b.tmpl", "x"⟩] {}).1
    let generated := (units.filter SourceUnit.isComponent).map
      (Compile.generate units .full (fun _ _ => none) {})
    ∃ u ∈ units, u.path = "/a b.tmpl" ∧ IsQuoted "at " "1" "1" "" ∧
      let msg := ofString "at " ++ Naming.fileName u.path ++ ofString ":" ++ ofString "1"
        ++ ofString ":" ++ ofString "1" ++ ofString ""
      msg = "at a b.tmpl.go:1:1"
      ∧ relocatePositions (Compile.hostFiles generated) msg = msg
      ∧ msg ≠ ofString "at "
        ++ (Compile.generate units .full (fun _ _ => none) {} u).shown (digitsValue "1")
        ++ ofString "" := by
  intro units generated
  have hpath : SourceUnit.normalizePath "/a b.tmpl" = "/a b.tmpl" :=
    (SourceUnit.normalizePath_cons (by decide) (by decide) "a b.tmp").trans (by decide)
  have hunits : units = [⟨"/a b.tmpl", SourceUnit.normalizeText "x", .component, .root⟩] :=
    Compile.prepare_page hpath (by decide) "x"
  have hquoted : IsQuoted "at " "1" "1" "" :=
    ⟨fun _ hc => (Option.some.inj hc).symm, by decide, by decide, by decide, by decide, by decide⟩
  have hmem : ⟨"/a b.tmpl", SourceUnit.normalizeText "x", .component, .root⟩ ∈ units :=
    hunits ▸ List.mem_cons_self
  refine ⟨_, hmem, rfl, hquoted, rfl, ?_, ?_⟩
  · -- only `b.tmpl.go` is looked up, and there is no such file
    have hfind : GeneratedFile.find? (Compile.hostFiles generated) "b.tmpl.go" = none := by
      refine Option.eq_none_iff_forall_ne_some.2 fun f hf => ?_
      obtain ⟨u, hu, -, -, hname⟩ := Compile.exists_of_find?_hostFiles hf
      rw [hunits] at hu
      obtain rfl := List.mem_singleton.1 hu
      exact absurd hname (by decide)
    have hout := @relocatePositions.of_isQuoted (Compile.hostFiles generated) "b.tmpl.go" "a " "at "
      "1" "1" "" (by decide) (by decide) (List.all_eq_true.1 (by decide))
      (fun _ hc => Option.some.inj hc ▸ rfl) (by decide) hquoted
    rw [relocatePositions.place_unknown hfind] at hout
    exact hout
  · intro heq
    obtain ⟨rest, hrest⟩ := (Compile.generate units .full (fun _ _ => none) {}
      ⟨"/a b.tmpl", SourceUnit.normalizeText "x", .component, .root⟩).path_prefix_shown
        (digitsValue "1")
    rw [← hrest] at heq
    have hbyte : some (ch 'a') = some slash := congrArg (fun s : Bytes => s[3]?) heq
    exact absurd hbyte (by decide)

end Stencil
