import Mathlib
import Stencil.Catalog
import Stencil.Proofs.Text.Order

/-!
# What a catalog holds

A catalog is made in two rounds. The first fetches the roots; the second fetches what the roots
say they import and what is no root itself. So a name is fetched if it is `Needed`, and it is
fetched once, even if it is given as a root several times, is imported by several roots, or both.

The fetches of a round run at the same time and share what they write to. What a round has come
to only depends on which fetches have ended, and in which order (`Follows`): there is a failure
if and only if one of them failed, and else there is a module for each. Two orders in which the
fetches of a round end thus give the same modules, in another order, and sorting the catalog
makes even that difference go away.
-/

namespace Stencil.Catalog

variable {fetch : Fetcher} {name : Bytes} {r : Reference}

/-! ## Single fetches -/

/-- **A fetch yields a module**: what is fetched under the name can be decoded, and says that it
has this name. -/
structure Yields (fetch : Fetcher) (name : Bytes) (r : Reference) : Prop where
  fetched : fetch name = .ok r.raw
  decoded : Module.decode r.raw = .ok r.module
  named : r.path = name

theorem fetchOne_eq_ok_iff : fetchOne fetch name = .ok r ↔ Yields fetch name r := by
  unfold fetchOne
  constructor
  · intro h
    cases hfetch : fetch name with
    | error e =>
      rw [hfetch] at h
      cases h
    | ok data =>
      rw [hfetch] at h
      cases hdecode : Module.decode data with
      | error e => simp [Reference.ofBytes, Except.map, hdecode] at h
      | ok m =>
        simp only [Reference.ofBytes, Except.map, hdecode] at h
        split at h
        · next hpath =>
          cases h
          exact ⟨hfetch, hdecode, hpath⟩
        · cases h
  · rintro ⟨hfetch, hdecode, hpath⟩
    simp only [hfetch, Reference.ofBytes, Except.map, hdecode]
    exact if_pos hpath

/-- A fetch that answers a name always the same way yields one module for it. -/
theorem Yields.unique {r' : Reference} (h : Yields fetch name r) (h' : Yields fetch name r') :
    r = r' :=
  Except.ok.inj ((fetchOne_eq_ok_iff.2 h).symm.trans (fetchOne_eq_ok_iff.2 h'))

/-! ## Rounds -/

/-- **What a round has come to when the fetches of `names` have ended**, in this order. -/
structure Round.Follows (fetch : Fetcher) (names : List Bytes) (round : Round) : Prop where
  ended : round.ended = names
  found : ∀ r ∈ round.found, Yields fetch r.path r
  complete : round.failure = none → round.found.map Reference.path = names
  failed : ∀ e, round.failure = some e → ∃ name ∈ names, fetchOne fetch name = .error e

theorem Round.follows_start : Follows fetch [] {} where
  ended := rfl
  found := fun _ h => absurd h List.not_mem_nil
  complete := fun _ => rfl
  failed := fun _ h => nomatch h

/-- **One more fetch ends.** -/
theorem Round.Follows.finish {names : List Bytes} {round : Round} (h : Follows fetch names round)
    (name : Bytes) : Follows fetch (names ++ [name]) (round.finish fetch name) := by
  have hended : round.ended ++ [name] = names ++ [name] := congrArg (· ++ [name]) h.ended
  unfold Round.finish
  cases hone : fetchOne fetch name with
  | ok r =>
    have hr := fetchOne_eq_ok_iff.1 hone
    refine ⟨hended, List.forall_mem_append.2 ⟨h.found, ?_⟩, fun hnone => ?_, fun e he => ?_⟩
    · rw [← hr.named] at hr
      exact List.forall_mem_singleton.2 hr
    · show (round.found ++ [r]).map _ = _
      rw [List.map_append, h.complete hnone, List.map_singleton, hr.named]
    · obtain ⟨n, hn, hfail⟩ := h.failed e he
      exact ⟨n, List.mem_append_left _ hn, hfail⟩
  | error e =>
    refine ⟨hended, h.found, (fun hnone => nomatch hnone), fun e' he => ?_⟩
    cases hfailure : round.failure with
    | none =>
      -- this fetch is the first one to fail
      simp only [hfailure, Option.getD_none, Option.some.injEq] at he
      exact ⟨name, List.mem_append_right _ (List.mem_singleton_self name), he ▸ hone⟩
    | some first =>
      simp only [hfailure, Option.getD_some, Option.some.injEq] at he
      obtain ⟨n, hn, hfail⟩ := h.failed e' (hfailure.trans (congrArg some he))
      exact ⟨n, List.mem_append_left _ hn, hfail⟩

theorem follows_fetchAll (fetch : Fetcher) (names : List Bytes) :
    (fetchAll fetch names).Follows fetch names := by
  unfold fetchAll
  induction names using List.reverseRecOn with
  | nil => exact Round.follows_start
  | append_singleton names name ih =>
    rw [List.foldl_concat]
    exact ih.finish name

/-- **A round finds the modules of all its names, or fails with one of them.** -/
theorem outcome_fetchAll (fetch : Fetcher) (names : List Bytes) :
    (∃ refs, (fetchAll fetch names).outcome = .ok refs ∧ refs.map Reference.path = names
        ∧ ∀ r ∈ refs, Yields fetch r.path r)
      ∨ ∃ e, (fetchAll fetch names).outcome = .error e
        ∧ ∃ name ∈ names, fetchOne fetch name = .error e := by
  have h := follows_fetchAll fetch names
  unfold Round.outcome
  cases hfailure : (fetchAll fetch names).failure with
  | none => exact .inl ⟨_, rfl, h.complete hfailure, h.found⟩
  | some e => exact .inr ⟨e, rfl, h.failed e hfailure⟩

/-! ## The names that are needed -/

/-- **The names that a catalog needs**: its roots, and what their modules say they import. -/
inductive Needed (fetch : Fetcher) (roots : List Bytes) : Bytes → Prop where
  /-- A root. -/
  | root {name : Bytes} (hroot : name ∈ roots) : Needed fetch roots name
  /-- What a root imports. -/
  | imported {root name : Bytes} {r : Reference} (hroot : root ∈ roots)
    (hyields : Yields fetch root r) (himport : name ∈ r.imports) : Needed fetch roots name

theorem nodup_dependencies (refs : List Reference) : (dependencies refs).Nodup :=
  (Bytes.sort_perm _).nodup_iff.2 (Bytes.nodup_dedup _)

theorem mem_dependencies {refs : List Reference} :
    name ∈ dependencies refs
      ↔ (∃ r ∈ refs, name ∈ r.imports) ∧ name ∉ refs.map Reference.path := by
  unfold dependencies
  rw [(Bytes.sort_perm _).mem_iff, Bytes.mem_dedup, List.mem_filter, List.mem_flatMap]
  simp

/-- **The two rounds fetch what is needed**, if the first finds a module for each root. -/
theorem mem_paths_or_dependencies {roots : List Bytes} {found : List Reference}
    (hpaths : ∀ name, name ∈ found.map Reference.path ↔ name ∈ roots)
    (hfound : ∀ r ∈ found, Yields fetch r.path r) :
    name ∈ found.map Reference.path ∨ name ∈ dependencies found ↔ Needed fetch roots name := by
  rw [mem_dependencies]
  constructor
  · rintro (h | ⟨⟨r, hr, himport⟩, -⟩)
    · exact .root ((hpaths name).1 h)
    · have hroot := (hpaths r.path).1 (List.mem_map_of_mem hr)
      exact .imported hroot (hfound r hr) himport
  · rintro (hroot | ⟨hroot, hyields, himport⟩)
    · exact .inl ((hpaths name).2 hroot)
    · obtain ⟨r, hr, rfl⟩ := List.mem_map.1 ((hpaths _).2 hroot)
      obtain rfl := hyields.unique (hfound r hr)
      by_cases h : name ∈ found.map Reference.path
      · exact .inl h
      · exact .inr ⟨⟨_, hr, himport⟩, h⟩

/-! ## Making a catalog -/

/-- **A catalog is made of modules of what is needed, each of which was asked for once, or it is
not made** because one of them failed. -/
theorem ofRoots_cases (fetch : Fetcher) {completion : Completion}
    (hcompletion : ∀ names, (completion names).Perm names) (roots : List Bytes) :
    let made := ofRoots fetch completion roots
    (∃ refs, made.outcome = .ok (ofReferences refs) ∧ (∀ r ∈ refs, Yields fetch r.path r)
        ∧ refs.map Reference.path = made.requested ∧ made.requested.Nodup
        ∧ ∀ name, name ∈ made.requested ↔ Needed fetch (rootsOr roots) name)
      ∨ ∃ e, made.outcome = .error e
        ∧ ∃ name, Needed fetch (rootsOr roots) name ∧ fetchOne fetch name = .error e := by
  intro made
  have hmade : made = ofRoots fetch completion roots := rfl
  have hfirst := hcompletion (Bytes.dedup (rootsOr roots))
  have hroots : ∀ name, name ∈ completion (Bytes.dedup (rootsOr roots)) ↔ name ∈ rootsOr roots :=
    fun name => hfirst.mem_iff.trans Bytes.mem_dedup
  unfold ofRoots at hmade
  dsimp only at hmade
  obtain ⟨found, hround, hpaths, hfound⟩ | ⟨e, hround, n, hn, hfail⟩ :=
    outcome_fetchAll fetch (completion (Bytes.dedup (rootsOr roots)))
  · rw [hround] at hmade
    dsimp only at hmade
    rw [← hpaths] at hroots hfirst
    have hsecond := hcompletion (dependencies found)
    have hneeded : ∀ name, Needed fetch (rootsOr roots) name
        ↔ name ∈ found.map Reference.path ∨ name ∈ completion (dependencies found) := by
      intro name
      rw [hsecond.mem_iff, mem_paths_or_dependencies hroots hfound]
    obtain ⟨more, hround', hpaths', hmore⟩ | ⟨e, hround', n, hn, hfail⟩ :=
      outcome_fetchAll fetch (completion (dependencies found))
    · rw [hround'] at hmade
      have hrequested : made.requested = (found ++ more).map Reference.path := by
        have hended := fun names => (follows_fetchAll fetch names).ended
        rw [List.map_append, hpaths, hpaths', hmade]
        exact congrArg₂ (· ++ ·) (hended _) (hended _)
      refine .inl ⟨found ++ more, by rw [hmade], List.forall_mem_append.2 ⟨hfound, hmore⟩,
        hrequested.symm, ?_, fun name => ?_⟩
      · rw [hrequested, List.map_append, hpaths']
        refine List.nodup_append'.2 ⟨hfirst.nodup_iff.2 (Bytes.nodup_dedup _),
          hsecond.nodup_iff.2 (nodup_dependencies _), fun name hname hdep => ?_⟩
        exact (mem_dependencies.1 (hsecond.mem_iff.1 hdep)).2 hname
      · rw [hrequested, List.map_append, hpaths', List.mem_append, hneeded]
    · rw [hround'] at hmade
      rw [hmade]
      exact .inr ⟨e, rfl, n, (hneeded n).2 (.inr hn), hfail⟩
  · rw [hround] at hmade
    rw [hmade]
    exact .inr ⟨e, rfl, n, .root ((hroots n).1 hn), hfail⟩

/-! ## Looking things up -/

theorem ofReferences_perm (refs : List Reference) : (ofReferences refs).refs.Perm refs :=
  List.mergeSort_perm _ _

/-- A reference is found under its path, if no other has the same. -/
theorem find?_eq_some {refs : List Reference} (hpaths : (refs.map Reference.path).Nodup)
    (hr : r ∈ refs) : Reference.find? refs r.path = some r := by
  unfold Reference.find?
  cases hfind : refs.reverse.find? fun r' => r'.path = r.path with
  | none => simpa using List.find?_eq_none.1 hfind r (List.mem_reverse.2 hr)
  | some r' =>
    have hr' := List.mem_reverse.1 (List.mem_of_find?_eq_some hfind)
    have hpath : r'.path = r.path := by simpa using List.find?_some hfind
    exact congrArg some (List.inj_on_of_nodup_map hpaths hr' hr hpath)

/-- With distinct paths, the order of the references is lost. -/
theorem ofReferences_eq_of_perm {refs refs' : List Reference} (h : refs.Perm refs')
    (hpaths : (refs.map Reference.path).Nodup) : ofReferences refs = ofReferences refs' := by
  have hsorted : ∀ l : List Reference,
      (ofReferences l).refs.Pairwise fun r r' => r.path ≤ r'.path :=
    fun l => List.pairwise_map.1 (Bytes.pairwise_mergeSort Reference.path l)
  have hperm := ((ofReferences_perm refs).trans h).trans (ofReferences_perm refs').symm
  have heq : (ofReferences refs).refs = (ofReferences refs').refs := by
    refine hperm.eq_of_pairwise (fun r r' hr hr' hle hle' => ?_) (hsorted refs) (hsorted refs')
    have hr := (ofReferences_perm refs).mem_iff.1 hr
    have hr' := h.mem_iff.2 ((ofReferences_perm refs').mem_iff.1 hr')
    exact List.inj_on_of_nodup_map hpaths hr hr' (List.le_antisymm hle hle')
  exact congrArg Catalog.mk heq

/-- **The catalog does not depend on the order in which fetches end.** -/
theorem outcome_of_completion {completion completion' : Completion}
    (h : ∀ names, (completion names).Perm names) (h' : ∀ names, (completion' names).Perm names)
    {roots : List Bytes} {c : Catalog} (hc : (ofRoots fetch completion roots).outcome = .ok c) :
    (ofRoots fetch completion' roots).outcome = .ok c := by
  obtain ⟨refs, hok, hyields, hpaths, hnodup, hneeded⟩ | ⟨e, herror, -⟩ :=
    ofRoots_cases fetch h roots
  · cases hok.symm.trans hc
    rw [← hpaths] at hnodup hneeded
    obtain ⟨refs', hok', hyields', hpaths', hnodup', hneeded'⟩ | ⟨e, -, n, hn, hfail⟩ :=
      ofRoots_cases fetch h' roots
    · rw [← hpaths'] at hnodup' hneeded'
      have hperm : refs.Perm refs' := by
        refine (List.perm_ext_iff_of_nodup (.of_map _ hnodup) (.of_map _ hnodup')).2 fun r => ?_
        -- either list has the one module that a name yields
        constructor
        · intro hr
          have hname := (hneeded' _).2 ((hneeded _).1 (List.mem_map_of_mem hr))
          obtain ⟨r', hr', hpath⟩ := List.mem_map.1 hname
          exact (hyields r hr).unique (hpath ▸ hyields' r' hr') ▸ hr'
        · intro hr
          have hname := (hneeded _).2 ((hneeded' _).1 (List.mem_map_of_mem hr))
          obtain ⟨r', hr', hpath⟩ := List.mem_map.1 hname
          exact (hyields' r hr).unique (hpath ▸ hyields r' hr') ▸ hr'
      rw [hok', ofReferences_eq_of_perm hperm hnodup]
    · obtain ⟨r, hr, rfl⟩ := List.mem_map.1 ((hneeded n).2 hn)
      cases hfail.symm.trans (fetchOne_eq_ok_iff.2 (hyields r hr))
  · cases herror.symm.trans hc

/-- **A catalog holds the closure of its roots under one step, each module once, in whatever
order the fetches of its two rounds end.**

If each name that is needed yields a module, there is a catalog. Its paths are the names that
are needed, in strict order, and looking one up finds the module that its fetch yields; each of
these names was fetched once, and no other was. If one of them yields none, there is no catalog
but an error. -/
theorem one_level_closure (fetch : Fetcher) (completion : Completion)
    (hcompletion : ∀ names, (completion names).Perm names) (roots : List Bytes) :
    let made := ofRoots fetch completion roots
    let needed := Needed fetch (rootsOr roots)
    ((∀ name, needed name → ∃ r, Yields fetch name r) →
      ∃ c, made.outcome = .ok c
        ∧ (∀ path, path ∈ c.refs.map Reference.path ↔ needed path)
        ∧ (c.refs.map Reference.path).Pairwise (· < ·)
        ∧ (∀ name, needed name → ∃ r, c.find? name = some r ∧ Yields fetch name r)
        ∧ made.requested.Nodup ∧ ∀ name, name ∈ made.requested ↔ needed name)
    ∧ ((∃ name, needed name ∧ ¬ ∃ r, Yields fetch name r) → ∃ e, made.outcome = .error e) := by
  intro made needed
  obtain ⟨refs, hok, hyields, hpaths, hnodup, hneeded⟩ | ⟨e, herror, n, hn, hfail⟩ :=
    ofRoots_cases fetch hcompletion roots
  · have hmem : ∀ path, path ∈ refs.map Reference.path ↔ needed path := by
      rw [hpaths]
      exact hneeded
    constructor
    · intro _
      have hperm := ofReferences_perm refs
      have hdistinct : ((ofReferences refs).refs.map Reference.path).Nodup :=
        (hperm.map _).nodup_iff.2 (hpaths ▸ hnodup)
      refine ⟨_, hok, fun path => ?_, ?_, fun name hname => ?_, hnodup, hneeded⟩
      · rw [(hperm.map _).mem_iff, hmem]
      · exact Bytes.pairwise_lt (Bytes.pairwise_mergeSort _ _) hdistinct
      · obtain ⟨r, hr, rfl⟩ := List.mem_map.1 ((hmem name).2 hname)
        exact ⟨r, find?_eq_some hdistinct (hperm.mem_iff.2 hr), hyields r hr⟩
    · rintro ⟨name, hname, hnone⟩
      obtain ⟨r, hr, rfl⟩ := List.mem_map.1 ((hmem name).2 hname)
      exact absurd ⟨r, hyields r hr⟩ hnone
  · constructor
    · intro hall
      obtain ⟨r, hr⟩ := hall n hn
      cases hfail.symm.trans (fetchOne_eq_ok_iff.2 hr)
    · exact fun _ => ⟨e, herror⟩

/-- A module that imports others. -/
def sampleReference (path : Bytes) (imports : List Bytes) : Reference :=
  let m : Module := ⟨Module.currentFormat, path, path, some imports, [], [], []⟩
  ⟨m, m.encode⟩

/-- Two modules that import each other, and one that imports what is not there. -/
def sampleFetch : Fetcher := fun name =>
  if name = Bytes.ofString "a" then .ok (sampleReference "a" ["b", "c", "b"]).raw
  else if name = Bytes.ofString "b" then .ok (sampleReference "b" ["a"]).raw
  else if name = Bytes.ofString "c" then .ok (sampleReference "c" ["d"]).raw
  else .error (.plain "no such module")

theorem yields_a : Yields sampleFetch "a" (sampleReference "a" ["b", "c", "b"]) :=
  ⟨rfl, by cbv, rfl⟩

theorem yields_b : Yields sampleFetch "b" (sampleReference "b" ["a"]) := ⟨rfl, by cbv, rfl⟩

theorem yields_c : Yields sampleFetch "c" (sampleReference "c" ["d"]) := ⟨rfl, by cbv, rfl⟩

theorem imports_sampleReference (path : Bytes) (imports : List Bytes) :
    (sampleReference path imports).imports = imports := rfl

theorem sample_yields {name : Bytes} (h : Needed sampleFetch ["b", "a", "b"] name) :
    ∃ r, Yields sampleFetch name r := by
  obtain hroot | @⟨root, _, r, hroot, hyields, himport⟩ := h
  · simp only [List.mem_cons, List.not_mem_nil, or_false] at hroot
    rcases hroot with rfl | rfl | rfl
    exacts [⟨_, yields_b⟩, ⟨_, yields_a⟩, ⟨_, yields_b⟩]
  · have hroot : root = Bytes.ofString "a" ∨ root = Bytes.ofString "b" := by
      simp only [List.mem_cons, List.not_mem_nil, or_false] at hroot
      tauto
    rcases hroot with rfl | rfl
    · obtain rfl := hyields.unique yields_a
      simp only [imports_sampleReference, List.mem_cons, List.not_mem_nil, or_false] at himport
      rcases himport with rfl | rfl | rfl
      exacts [⟨_, yields_b⟩, ⟨_, yields_c⟩, ⟨_, yields_b⟩]
    · obtain rfl := hyields.unique yields_b
      obtain rfl := List.mem_singleton.1 himport
      exact ⟨_, yields_a⟩

/-- A root is given twice, two roots import each other, and the fetches of a round end in reverse
order; and the same with a root that imports what is not there. -/
theorem one_level_closure_sample :
    let made := ofRoots sampleFetch List.reverse ["b", "a", "b"]
    (∀ names : List Bytes, names.reverse.Perm names)
      ∧ (∃ c, made.outcome = .ok c
        ∧ (∀ path, path ∈ c.refs.map Reference.path ↔ Needed sampleFetch ["b", "a", "b"] path)
        ∧ (c.refs.map Reference.path).Pairwise (· < ·)
        ∧ (∀ name, Needed sampleFetch ["b", "a", "b"] name →
          ∃ r, c.find? name = some r ∧ Yields sampleFetch name r)
        ∧ made.requested.Nodup
        ∧ ∀ name, name ∈ made.requested ↔ Needed sampleFetch ["b", "a", "b"] name)
      ∧ made.requested = ["a", "b", "c"]
      ∧ ∃ e, (ofRoots sampleFetch List.reverse ["c"]).outcome = .error e := by
  have hnone : ¬ ∃ r, Yields sampleFetch "d" r := by
    rintro ⟨r, hfetch, -⟩
    cases hfetch
  refine ⟨List.reverse_perm, ?_, by cbv, ?_⟩
  · exact (one_level_closure sampleFetch List.reverse List.reverse_perm _).1
      fun _ => sample_yields
  · refine (one_level_closure sampleFetch List.reverse List.reverse_perm ["c"]).2 ⟨"d", ?_, hnone⟩
    exact .imported (List.mem_singleton_self _) yields_c (List.mem_singleton_self _)

end Stencil.Catalog
