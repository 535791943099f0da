import TaggedUnion.Proofs.Batch.Outcome

/-!
# The files of a batch

Each package has its file next to the first of its own files, and all files of a batch have one name. So
packages in one directory have one path, and as files are entered under their paths one after the
other, what is returned under a path is the last file that was generated for it. All code is returned iff
the packages that share a path have the same code (`returned_iff`).
-/

namespace TaggedUnion

open Text

variable {job : Job} {names : PackageNames} {p : Loaded} {ps : List Loaded}

/-! ## Generated files -/

/-- The code that is generated for a package is to be returned under a path. -/
def Loaded.Generates (p : Loaded) (job : Job) (names : PackageNames) (path code : String) : Prop :=
  ∃ s, p.delivery.subject = .ok s ∧ s.build.findings = [] ∧
    s.built.all (·.conversions.isEmpty) = false ∧ outputPath? job p.paths = some path ∧
    code = generatedFile job.version s.name (s.draftOf names s.built)

/-- The files that are generated for packages, in their order. -/
def generatedFiles (job : Job) (names : PackageNames) (ps : List Loaded) : List (String × String) :=
  (results job names ps).filterMap Result.file?

/-- The result for a package is a file iff code is generated for it. -/
theorem generateOne_file_iff (herrors : p.errors = []) {path code : String} :
    (generateOne job names p).1 = .file path code ↔ p.Generates job names path code := by
  cases hs : p.delivery.subject with
  | error part =>
    have hresult : generateOne job names p = (.reported (.plain part.message), names) := by
      rw [generateOne, herrors, hs]
      rfl
    rw [hresult]
    refine iff_of_false (by simp) ?_
    rintro ⟨s, hok, -⟩
    rw [hs] at hok
    cases hok
  | ok s =>
    have hgenerates : p.Generates job names path code ↔ s.build.findings = [] ∧
        s.built.all (·.conversions.isEmpty) = false ∧ outputPath? job p.paths = some path ∧
        code = generatedFile job.version s.name (s.draftOf names s.built) := by
      refine ⟨?_, fun h => ⟨s, hs, h⟩⟩
      rintro ⟨s', hok, h⟩
      rw [hs] at hok
      cases hok
      exact h
    rw [hgenerates]
    by_cases hf : s.build.findings = []
    · rw [generateOne_of_clean herrors hs hf, codeResult]
      cases s.built.all (·.conversions.isEmpty) with
      | true => exact iff_of_false (by simp) (by simp)
      | false =>
        cases hpath : outputPath? job p.paths with
        | none => exact iff_of_false (by simp) (by simp)
        | some own => simp [hf, eq_comm]
    · rw [generateOne_of_findings herrors hs hf]
      exact iff_of_false (by simp) fun h => hf h.1

/-- The files are those of the packages that code is generated for, each with the names that the packages
before it leave. -/
theorem mem_generatedFiles_iff (herrors : ∀ p ∈ ps, p.errors = []) {path code : String} :
    (path, code) ∈ generatedFiles job names ps ↔
      ∃ pre p post, ps = pre ++ p :: post ∧ p.Generates job (namesAfter job names pre) path code := by
  have hfile : ∀ r : Result, r.file? = some (path, code) ↔ r = .file path code := by
    intro r
    cases r <;> simp [Result.file?]
  simp only [generatedFiles, List.mem_filterMap, hfile, exists_eq_right]
  constructor
  · intro h
    obtain ⟨i, hi, hr⟩ := List.mem_iff_getElem.1 h
    have hlt : i < ps.length := by rwa [length_results] at hi
    have hsplit : ps = ps.take i ++ ps[i] :: ps.drop (i + 1) := by simp
    have hget := results_getElem? job names (ps.take i) (ps.drop (i + 1)) ps[i]
    rw [← hsplit, List.length_take_of_le hlt.le, List.getElem?_eq_getElem hi, hr,
      Option.some.injEq] at hget
    exact ⟨_, _, _, hsplit, (generateOne_file_iff (herrors _ (List.getElem_mem hlt))).1 hget.symm⟩
  · rintro ⟨pre, p, post, rfl, hgen⟩
    have hget := results_getElem? job names pre post p
    rw [(generateOne_file_iff (herrors p (by simp))).2 hgen] at hget
    exact List.mem_of_getElem? hget

/-! ## Files under their paths -/

/-- Packages whose first files are in one directory have one path for their code. -/
theorem outputPath?_eq_of_directory (job : Job) {a b : String} (rest others : List String)
    (h : Path.directory a = Path.directory b) :
    outputPath? job (a :: rest) = outputPath? job (b :: others) := by
  simp only [outputPath?, List.head?_cons, Option.map_some, h]

/-- Replacing what is under a path changes nothing under other paths. -/
theorem lookup_map_replace (outs : List (String × String)) (path code other : String) :
    (outs.map fun (p, c) => if p == path then (p, code) else (p, c)).lookup other =
      if other = path then (outs.lookup path).map fun _ => code else outs.lookup other := by
  induction outs with
  | nil => simp
  | cons f rest ih =>
    obtain ⟨q, c⟩ := f
    by_cases hq : q = path
    · subst hq
      simp only [List.map_cons, beq_self_eq_true, if_true, List.lookup_cons, ih, Option.map_some]
      by_cases ho : other = q
      · simp [ho]
      · simp [ho, beq_false_of_ne ho]
    · have hne : (q == path) = false := beq_false_of_ne hq
      have hne' : (path == q) = false := beq_false_of_ne (Ne.symm hq)
      simp only [List.map_cons, hne, hne', Bool.false_eq_true, if_false, List.lookup_cons, ih]
      by_cases ho : other = path <;> simp [ho, hne']

theorem lookup_putFile (outs : List (String × String)) (path code other : String) :
    (putFile outs path code).lookup other = if other = path then some code else outs.lookup other := by
  rw [putFile]
  cases hlookup : outs.lookup path with
  | none =>
    rw [Option.isSome_none, if_neg Bool.false_ne_true, List.lookup_append, List.lookup_singleton]
    by_cases ho : other = path <;> simp [ho, hlookup]
  | some old => rw [Option.isSome_some, if_pos rfl, lookup_map_replace, hlookup]; rfl

/-- Of files that are entered under one path the last remains. -/
theorem lookup_putFiles (outs files : List (String × String)) (path : String) :
    (putFiles outs files).lookup path = (files.reverse.lookup path).or (outs.lookup path) := by
  induction files generalizing outs with
  | nil => rfl
  | cons f rest ih =>
    change (putFiles (putFile outs f.1 f.2) rest).lookup path = _
    rw [ih, lookup_putFile, List.reverse_cons, List.lookup_append, Option.or_assoc,
      List.lookup_singleton]
    by_cases h : path = f.1 <;> simp [h]

/-- Entering a file adds its path, unless it is there. -/
theorem map_fst_putFile (outs : List (String × String)) (path code : String) :
    (putFile outs path code).map Prod.fst =
      if path ∈ outs.map Prod.fst then outs.map Prod.fst else outs.map Prod.fst ++ [path] := by
  have hmem : (outs.lookup path).isSome = true ↔ path ∈ outs.map Prod.fst := by
    simp [List.lookup_isSome_iff]
  by_cases h : path ∈ outs.map Prod.fst
  · rw [putFile, if_pos (hmem.2 h), if_pos h, List.map_map]
    refine List.map_congr_left fun f _ => ?_
    simp only [Function.comp]
    split <;> rfl
  · rw [putFile, if_neg (mt hmem.1 h), if_neg h, List.map_append]
    rfl

/-- There is one file under each path. -/
theorem nodup_putFiles {outs : List (String × String)} (h : (outs.map Prod.fst).Nodup)
    (files : List (String × String)) : ((putFiles outs files).map Prod.fst).Nodup := by
  induction files generalizing outs with
  | nil => exact h
  | cons f rest ih =>
    refine ih ?_
    rw [map_fst_putFile]
    split
    · exact h
    · rename_i hmem
      exact h.append (List.nodup_singleton _) (by simpa using hmem)

/-- Files of different paths are entered as they are. -/
theorem putFiles_of_nodup {outs files : List (String × String)}
    (h : ((outs ++ files).map Prod.fst).Nodup) : putFiles outs files = outs ++ files := by
  induction files generalizing outs with
  | nil => exact (List.append_nil outs).symm
  | cons f rest ih =>
    have hnew : (outs.lookup f.1).isSome = false := by
      rw [List.map_append, List.map_cons, List.nodup_append] at h
      simp only [Option.isSome_eq_false_iff, Option.isNone_iff_eq_none, List.lookup_eq_none_iff]
      intro g hg
      exact bne_iff_ne.2 (Ne.symm (h.2.2 g.1 (List.mem_map_of_mem hg) f.1 List.mem_cons_self))
    change putFiles (putFile outs f.1 f.2) rest = _
    rw [putFile, hnew, if_neg Bool.false_ne_true, ih (by rw [List.append_assoc]; exact h),
      List.append_assoc]
    rfl

/-! ## What is returned -/

/-- A batch that returns files enters those that are generated for its packages. -/
theorem Job.run_eq_files {patterns : List String} {outs : List (String × String)}
    (h : job.run patterns names ps = .files outs) :
    (∀ p ∈ ps, p.errors = []) ∧ outs = putFiles [] (generatedFiles job names ps) := by
  cases hload : checkLoaded job.directory patterns ps with
  | error e =>
    rw [Job.run, hload] at h
    cases h
  | ok loaded =>
    obtain ⟨hne, herrors, rfl⟩ := checkLoaded_eq_ok_iff.1 hload
    obtain ⟨hcrash, hrun⟩ := run_eq_of_checkLoaded job names hload
    refine ⟨herrors, ?_⟩
    by_cases hhome : ∃ p ∈ loaded, p.Homeless
    · rw [hcrash hhome] at h
      cases h
    · rw [hrun fun p hp hhomeless => hhome ⟨p, hp, hhomeless⟩] at h
      split at h
      · cases h
      · exact (Outcome.files.inj h).symm

/-- When a batch returns files, these are what is left of the files of the packages that code is generated
for: under each path the last of its files. No file is lost iff all files under a path are the same, and none
is replaced iff no two packages with code have one path. -/
theorem returned_iff {patterns : List String} {outs : List (String × String)}
    (h : job.run patterns names ps = .files outs) :
    let files := generatedFiles job names ps
    (∀ path code, (path, code) ∈ files ↔ ∃ pre p post, ps = pre ++ p :: post ∧
      p.Generates job (namesAfter job names pre) path code) ∧
      (∀ path, outs.lookup path = files.reverse.lookup path) ∧
      ((∀ path code, (path, code) ∈ files → outs.lookup path = some code) ↔
        ∀ path a b, (path, a) ∈ files → (path, b) ∈ files → a = b) ∧
      (outs = files ↔ (files.map Prod.fst).Nodup) := by
  intro files
  obtain ⟨herrors, rfl⟩ := Job.run_eq_files h
  have hlast : ∀ path, (putFiles [] files).lookup path = files.reverse.lookup path := fun path => by
    rw [lookup_putFiles, List.lookup_nil, Option.or_none]
  refine ⟨fun path code => mem_generatedFiles_iff herrors, hlast, ⟨fun hall path a b ha hb => ?_,
    fun hsame path code hmem => ?_⟩, fun hfiles => ?_, fun hnodup => ?_⟩
  · exact Option.some.inj ((hall path a ha).symm.trans (hall path b hb))
  · have hsome : (files.reverse.lookup path).isSome = true := by
      rw [List.lookup_isSome_iff]
      exact ⟨(path, code), List.mem_reverse.2 hmem, beq_self_eq_true path⟩
    obtain ⟨last, hlookup⟩ := Option.isSome_iff_exists.1 hsome
    rw [hlast, hlookup, Option.some.injEq]
    refine hsame path last code ?_ hmem
    obtain ⟨before, after, hsplit, -⟩ := List.lookup_eq_some_iff.1 hlookup
    rw [← List.mem_reverse, hsplit]
    simp
  · have hnil : (([] : List (String × String)).map Prod.fst).Nodup := List.nodup_nil
    have hnodup := nodup_putFiles hnil files
    rwa [show putFiles [] files = files from hfiles] at hnodup
  · exact putFiles_of_nodup (by rwa [List.nil_append])

/-- Of two packages with files in one directory, one file is returned. -/
theorem sharedDirectory_returned :
    let first := pointPackage "a" []
    let second : Loaded := { pointPackage "b" [] with paths := ["a/other.go"] }
    let job : Job := ⟨"", "", "", "gen.go"⟩
    let names : PackageNames := ⟨[("geo", "geo")]⟩
    ∃ outs, job.run ["./a"] names [first, second] = .files outs ∧
      outs ≠ generatedFiles job names [first, second] := by
  intro first second job names
  have hclean : ∀ path ∈ ["a", "b"], (pointSubject path []).build.findings.isEmpty ∧
      (pointSubject path []).built.all (·.conversions.isEmpty) = false := by decide +kernel
  obtain ⟨hfirst, hfirstCode⟩ := hclean "a" (by decide)
  obtain ⟨hsecond, hsecondCode⟩ := hclean "b" (by decide)
  -- Nothing is wrong with either package, so files are returned.
  have haccepted : ∀ p ∈ [first, second], p.Accepted := by
    rintro p (_ | ⟨_, _ | ⟨_, ⟨⟩⟩⟩)
    · exact ⟨_, rfl, List.isEmpty_iff.1 hfirst⟩
    · exact ⟨_, rfl, List.isEmpty_iff.1 hsecond⟩
  have hplaced : ∀ p ∈ [first, second], ¬p.Homeless := by
    rintro p (_ | ⟨_, _ | ⟨_, ⟨⟩⟩⟩) ⟨s, -, -, -, hpaths⟩ <;> cases hpaths
  have hload : checkLoaded job.directory ["./a"] [first, second] = .ok [first, second] := rfl
  obtain ⟨-, hrun⟩ := run_eq_of_checkLoaded job names hload
  replace hrun := hrun hplaced
  rw [Report.error?_inSourceOrder, if_pos ((problems_list_eq_nil_iff job names).2 haccepted)] at hrun
  refine ⟨_, hrun, ?_⟩
  -- Both files have the path next to the first files of the packages, which share a directory.
  obtain ⟨path, hpath⟩ : ∃ path, outputPath? job first.paths = some path := ⟨_, rfl⟩
  have hdirectory : outputPath? job second.paths = some path := by
    rw [← hpath]
    exact outputPath?_eq_of_directory job [] [] (congrArg Path.clean (by decide +kernel))
  obtain ⟨-, -, -, hiff⟩ := returned_iff hrun
  have hgen : (generateOne job names first).1 = .file path _ := (generateOne_file_iff rfl).2
    ⟨_, rfl, List.isEmpty_iff.1 hfirst, hfirstCode, hpath, rfl⟩
  have hgen' : (generateOne job (generateOne job names first).2 second).1 = .file path _ :=
    (generateOne_file_iff rfl).2
      ⟨_, rfl, List.isEmpty_iff.1 hsecond, hsecondCode, hdirectory, rfl⟩
  have htwice : (generatedFiles job names [first, second]).map Prod.fst = [path, path] := by
    simp only [generatedFiles, results, hgen, hgen', List.filterMap_cons, Result.file?,
      List.filterMap_nil, List.map_cons, List.map_nil]
  rw [ne_eq, hiff, htwice]
  simp

end TaggedUnion
