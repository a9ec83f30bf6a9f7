import Stencil.Cli.Run
import Stencil.Proofs.Text.PathAbove

/-!
# Names of the files on a command line

A file on the command line gets a name in its batch that leaves something out: the working
directory, if the file lies below it, and the steps up, if its path is not from the root. So the
path of a file is that of a directory, which the name does not show, and then the name
(`fileNamed_eq`, `normalizePath_sourceName`).

Files with one name therefore lie below different directories, or the normal forms of their names
are no different although the names are (`source_names_differ_iff`). Both happens:
`x/Card.tmpl` in the working directory has the name of `/x/Card.tmpl`
(`source_names_clash`).
-/

namespace Stencil.Cli

open Bytes Stencil.Path SourceUnit

variable {workdir path : Bytes}

/-- The path of the file that an argument names. -/
def fileNamed (workdir path : Bytes) : Bytes :=
  if isAbs path then clean path else joinTwo workdir path

/-- **The directory that the name of a file does not show**, by its segments: the working
directory for a path from the root that lies below it, the root for the others, and where a path
not from the root has gone up to. -/
def namedFrom (workdir path : Bytes) : List Bytes :=
  if isAbs path then
    if segments workdir <+: segments path then segments workdir else []
  else (segments workdir).take ((segments workdir).length - ups path)

/-- **The segments that the name of a file shows.** -/
def namedAs (workdir path : Bytes) : List Bytes :=
  if isAbs path then
    if segments workdir <+: segments path then (segments path).drop (segments workdir).length
    else segments path
  else downs path

theorem proper_namedAs : ∀ s ∈ namedAs workdir path, Proper s := by
  intro s hs
  unfold namedAs at hs
  split at hs
  · next hpath =>
    split at hs
    · exact proper_of_mem_segments hpath s (List.mem_of_mem_drop hs)
    · exact proper_of_mem_segments hpath s hs
  · next hpath => exact (segments_eq_up_down (Bool.not_eq_true _ ▸ hpath)).2.1 s hs

/-- **The path of a file** is the directory that its name does not show and then its name. -/
theorem fileNamed_eq (hworkdir : isAbs workdir = true) : fileNamed workdir path
    = ofSegments (namedFrom workdir path ++ namedAs workdir path) := by
  unfold fileNamed namedFrom namedAs
  cases hpath : isAbs path with
  | true =>
    simp only [if_true]
    rw [clean_of_isAbs hpath]
    split
    · next hbelow =>
      obtain ⟨down, hdown⟩ := hbelow
      rw [← hdown, List.drop_left]
    · rfl
  | false => exact joinTwo_of_isAbs hworkdir hpath

/-! ## Names -/

/-- What is put behind the slash of a name. -/
theorem slash_trimPrefix_clean (path : Bytes) : slash :: trimPrefix (clean path) [slash]
    = if isAbs path then clean path else slash :: clean path := by
  split
  · next hpath => rw [clean_of_isAbs hpath]; rfl
  · next hpath =>
    have hclean : isAbs (clean path) = false := by
      rw [clean_eq_ofParts, (settled_segments path).isAbs_ofParts]
      exact Bool.eq_false_iff.2 hpath
    have hnone : dropPrefix? [slash] (clean path) = none := by
      rwa [isAbs, startsWith, Option.isSome_eq_false_iff, Option.isNone_iff_eq_none] at hclean
    rw [trimPrefix, hnone, Option.getD_none]

/-- The normal form of a name from its segments. -/
theorem normalizePath_slash_ofParts (ss : List Bytes) :
    normalizePath (slash :: ofParts false ss) = normalizePath (ofSegments ss) := by
  cases ss with
  | nil => cbv
  | cons s ss => rfl

/-- A path below the working directory is named from there. -/
theorem sourceName_below (hworkdir : isAbs workdir = true) (hpath : isAbs path = true)
    {names : List Bytes} (hbelow : segments path = segments workdir ++ names) :
    sourceName workdir path = slash :: ofParts false names := by
  have hnames : ∀ s ∈ names, Proper s := fun s hs =>
    proper_of_mem_segments hpath s (hbelow ▸ List.mem_append_right _ hs)
  have hsettled : Settled false names := settled_climb_append 0 hnames
  have hrelative : relative? workdir path = some (ofParts false names) := by
    rw [relative?_eq hworkdir hpath, hbelow, dropCommon_append]
    rfl
  have hlocal : isLocal (ofParts false names) = true := (isLocal_ofParts_climb 0 hnames).2 rfl
  unfold sourceName
  rw [if_pos hpath, hrelative]
  dsimp only
  rw [if_pos hlocal, slash_trimPrefix_clean, hsettled.isAbs_ofParts, hsettled.clean_ofParts]
  rfl

/-- Another path from the root keeps its name. -/
theorem sourceName_elsewhere (hworkdir : isAbs workdir = true) (hpath : isAbs path = true)
    (hbelow : ¬ segments workdir <+: segments path) :
    sourceName workdir path = ofSegments (segments path) := by
  obtain ⟨common, hhere, hthere⟩ := exists_common (segments workdir) (segments path)
  have hup : (dropCommon (segments workdir) (segments path)).1.length ≠ 0 := by
    intro hnil
    rw [List.length_eq_zero_iff.1 hnil, List.append_nil] at hhere
    exact hbelow (by rw [hhere]; exact ⟨_, hthere.symm⟩)
  have hdown : ∀ s ∈ (dropCommon (segments workdir) (segments path)).2, Proper s := fun s hs =>
    proper_of_mem_segments hpath s (hthere ▸ List.mem_append_right _ hs)
  unfold sourceName
  rw [if_pos hpath, relative?_eq hworkdir hpath]
  dsimp only
  rw [if_neg (mt (isLocal_ofParts_climb _ hdown).1 hup), slash_trimPrefix_clean, if_pos hpath,
    clean_of_isAbs hpath]

/-- **The name of a file shows its segments below some directory**, and nothing else. -/
theorem normalizePath_sourceName (hworkdir : isAbs workdir = true) :
    normalizePath (sourceName workdir path)
      = normalizePath (ofSegments (namedAs workdir path)) := by
  unfold namedAs
  cases hpath : isAbs path with
  | true =>
    rw [if_pos rfl]
    split
    · next hbelow =>
      obtain ⟨names, hnames⟩ := hbelow
      rw [← hnames, List.drop_left, sourceName_below hworkdir hpath hnames.symm,
        normalizePath_slash_ofParts]
    · next hbelow => rw [sourceName_elsewhere hworkdir hpath hbelow]
  | false =>
    have hname : sourceName workdir path = slash :: ofParts false (segments path) := by
      unfold sourceName
      rw [if_neg (by rw [hpath]; exact Bool.false_ne_true), slash_trimPrefix_clean,
        if_neg (by rw [hpath]; exact Bool.false_ne_true), clean_eq_ofParts, hpath]
    rw [hname, normalizePath_slash_ofParts, (segments_eq_up_down hpath).1,
      normalizePath_ofSegments_up]
    rfl

/-! ## Different files -/

/-- Segments that are their own normal form: no backslash is in them, and they do not end in white
space. -/
def PlainName (ss : List Bytes) : Prop :=
  backslash ∉ ofSegments ss ∧ endsBlank (ofSegments ss) = false

theorem normalizePath_of_plainName (h : PlainName (namedAs workdir path)) :
    normalizePath (ofSegments (namedAs workdir path)) = ofSegments (namedAs workdir path) :=
  (normalizePath_ofSegments_eq_self_iff proper_namedAs h.1).2 h.2

/-- **Two files have different names** exactly if the normal forms of what is shown of their paths
differ. If that is plain, then this is so unless they show the same of paths below different
directories; so files below one directory have different names. -/
theorem source_names_differ_iff {a b : Bytes} (hworkdir : isAbs workdir = true)
    (hfiles : fileNamed workdir a ≠ fileNamed workdir b) :
    let name := fun path => normalizePath (sourceName workdir path)
    (∀ path, fileNamed workdir path = ofSegments (namedFrom workdir path ++ namedAs workdir path))
    ∧ (name a ≠ name b
        ↔ normalizePath (ofSegments (namedAs workdir a))
          ≠ normalizePath (ofSegments (namedAs workdir b)))
    ∧ (PlainName (namedAs workdir a) → PlainName (namedAs workdir b) →
        (name a ≠ name b ↔ namedAs workdir a ≠ namedAs workdir b)
        ∧ (namedFrom workdir a = namedFrom workdir b → name a ≠ name b)) := by
  intro name
  have hname : ∀ path, name path = normalizePath (ofSegments (namedAs workdir path)) :=
    fun path => normalizePath_sourceName hworkdir
  refine ⟨fun path => fileNamed_eq hworkdir, by rw [hname, hname], fun ha hb => ?_⟩
  have hiff : name a ≠ name b ↔ namedAs workdir a ≠ namedAs workdir b := by
    rw [hname, hname, normalizePath_of_plainName ha, normalizePath_of_plainName hb]
    refine not_congr ⟨fun heq => ?_, congrArg ofSegments⟩
    have hsegments := congrArg segments heq
    rwa [segments_ofSegments proper_namedAs, segments_ofSegments proper_namedAs] at hsegments
  refine ⟨hiff, fun hfrom => hiff.2 fun has => hfiles ?_⟩
  rw [fileNamed_eq hworkdir, fileNamed_eq hworkdir, hfrom, has]

/-- Two pages below the working directory, one of them named from there. -/
theorem source_names_differ_pages :
    isAbs "/work/site" = true
    ∧ fileNamed "/work/site" "views/../Page.tmpl"
      ≠ fileNamed "/work/site" "/work/site/views/Page.tmpl"
    ∧ normalizePath (sourceName "/work/site" "views/../Page.tmpl")
      ≠ normalizePath (sourceName "/work/site" "/work/site/views/Page.tmpl") := by
  have hfiles : fileNamed "/work/site" "views/../Page.tmpl"
      ≠ fileNamed "/work/site" "/work/site/views/Page.tmpl" := by
    decide +kernel
  have ha : namedAs "/work/site" "views/../Page.tmpl" = [ofString "Page.tmpl"] := by decide +kernel
  have hb : namedAs "/work/site" "/work/site/views/Page.tmpl"
      = [ofString "views", ofString "Page.tmpl"] := by decide +kernel
  have hplain : PlainName [ofString "Page.tmpl"] :=
    ⟨by decide, endsBlank_concat_ascii (by decide) "/Page.tmp"⟩
  have hplain' : PlainName [ofString "views", ofString "Page.tmpl"] :=
    ⟨by decide, endsBlank_concat_ascii (by decide) "/views/Page.tmp"⟩
  have hfrom : namedFrom "/work/site" "views/../Page.tmpl"
      = namedFrom "/work/site" "/work/site/views/Page.tmpl" := by decide +kernel
  exact ⟨rfl, hfiles,
    ((source_names_differ_iff rfl hfiles).2.2 (ha ▸ hplain) (hb ▸ hplain')).2 hfrom⟩

/-- **Two different files can have one name**: a file below the working directory, and the file
that lies below the root in the same way. -/
theorem source_names_clash :
    ¬ ∀ workdir a b, isAbs workdir = true → fileNamed workdir a ≠ fileNamed workdir b →
      normalizePath (sourceName workdir a) ≠ normalizePath (sourceName workdir b) := by
  intro h
  have hfiles : fileNamed "/work/site" "x/Card.tmpl" ≠ fileNamed "/work/site" "/x/Card.tmpl" := by
    decide +kernel
  refine h "/work/site" "x/Card.tmpl" "/x/Card.tmpl" rfl hfiles ?_
  have hnames : sourceName "/work/site" "x/Card.tmpl" = sourceName "/work/site" "/x/Card.tmpl" := by
    decide +kernel
  rw [hnames]

end Stencil.Cli
