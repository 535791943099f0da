import TaggedUnion.Proofs.Batch.Independence
import TaggedUnion.Proofs.Report.Findings
import TaggedUnion.Proofs.Report.Order

/-!
# What a batch comes to

A batch on packages that were loaded without an error ends in one of three ways. It returns files if
every package is accepted; it reports everything that is wrong with any of them, in the order of the
source, if one is not; and it breaks off if there is code for a package that has no files
(`outcome_of_checkLoaded`).
-/

namespace TaggedUnion

/-! ## Putting results together -/

/-- What a result reports. -/
def Result.errors : Result → List ErrorTree
  | .reported e => e.leaves
  | _ => []

/-- The file of a result, with its path. -/
def Result.file? : Result → Option (String × String)
  | .file path code => some (path, code)
  | _ => none

/-- Enters files one after the other. -/
def putFiles (outs files : List (String × String)) : List (String × String) :=
  files.foldl (fun outs f => putFile outs f.1 f.2) outs

/-- Results without a crash are put together by what they report and the files they have. -/
theorem collect_of_not_crashed {rs : List Result} (h : ∀ message, .crashed message ∉ rs)
    (report : Report) (outs : List (String × String)) :
    collect report outs rs =
      .ok (⟨report.errors ++ rs.flatMap Result.errors⟩, putFiles outs (rs.filterMap Result.file?)) := by
  induction rs generalizing report outs with
  | nil => rw [collect, List.flatMap_nil, List.append_nil]; rfl
  | cons r rest ih =>
    have ih := ih fun message hmem => h message (List.mem_cons_of_mem _ hmem)
    cases r with
    | reported e =>
      rw [collect, ih, Report.add, List.flatMap_cons, List.append_assoc]
      rfl
    | nothing => rw [collect, ih]; rfl
    | file path code => rw [collect, ih]; rfl
    | crashed message => exact absurd List.mem_cons_self (h message)

/-- A crash is all that results come to. -/
theorem collect_of_crashed {rs : List Result} {message : String} (h : .crashed message ∈ rs)
    (hall : ∀ other, .crashed other ∈ rs → other = message) (report : Report)
    (outs : List (String × String)) : collect report outs rs = .error message := by
  induction rs generalizing report outs with
  | nil => exact absurd h List.not_mem_nil
  | cons r rest ih =>
    have hall' : ∀ other, .crashed other ∈ rest → other = message := fun other hmem =>
      hall other (List.mem_cons_of_mem _ hmem)
    cases r with
    | crashed other =>
      rw [collect, hall other List.mem_cons_self]
    | reported e => exact ih (by simpa using h) hall' (report.add (some e)) outs
    | nothing => exact ih (by simpa using h) hall' report outs
    | file path code => exact ih (by simpa using h) hall' report (putFile outs path code)

/-! ## The results of packages -/

/-- A package in which nothing is missing and nothing is wrong. -/
def Loaded.Accepted (p : Loaded) : Prop :=
  ∃ s, p.delivery.subject = .ok s ∧ s.build.findings = []

/-- An accepted package that there is code for, but no file to put it next to. -/
def Loaded.Homeless (p : Loaded) : Prop :=
  ∃ s, p.delivery.subject = .ok s ∧ s.build.findings = [] ∧
    s.built.all (·.conversions.isEmpty) = false ∧ p.paths = []

/-- What is wrong with a package: the first part it lacks, or else what building it reports. Messages show
the given names of packages. -/
def Loaded.problems (job : Job) (names : PackageNames) (p : Loaded) : List ErrorTree :=
  match p.delivery.subject with
  | .error part => [.plain part.message]
  | .ok s => (Report.add {} ((Session.start s names).build job.workingDir).1).errors

/-- What is wrong with several packages, one after the other. The messages of each show the names that the
packages before it leave. -/
def problems (job : Job) (names : PackageNames) : List Loaded → List ErrorTree
  | [] => []
  | p :: rest => p.problems job names ++ problems job (generateOne job names p).2 rest

variable (job : Job) (names : PackageNames) {p : Loaded} {ps : List Loaded} {s : Subject}

/-- What is wrong with a package that lacks nothing are the findings of building it. -/
theorem problems_of_subject (hs : p.delivery.subject = .ok s) :
    p.problems job names = findingErrors job s names := by
  rw [Loaded.problems, hs]
  exact errors_add_error? s.build _

/-- Nothing is wrong with a package iff it is accepted. -/
theorem problems_eq_nil_iff : p.problems job names = [] ↔ p.Accepted := by
  cases hs : p.delivery.subject with
  | error part =>
    rw [Loaded.problems, hs]
    refine iff_of_false (List.cons_ne_nil _ _) ?_
    rintro ⟨s, hok, -⟩
    rw [hs] at hok
    cases hok
  | ok s =>
    rw [problems_of_subject job names hs, findingErrors, List.map_eq_nil_iff]
    refine ⟨fun h => ⟨s, hs, h⟩, ?_⟩
    rintro ⟨s', hok, h⟩
    rw [hs] at hok
    cases hok
    exact h

/-- The result for a package reports what is wrong with it, and is a crash iff there is code and no place
to put it. -/
theorem generateOne_result (herrors : p.errors = []) :
    (generateOne job names p).1.errors = p.problems job names ∧
      ∀ message, (generateOne job names p).1 = .crashed message ↔
        p.Homeless ∧ message = noFilesMessage := by
  cases hs : p.delivery.subject with
  | error part =>
    have hresult : generateOne job names p = (.reported (.plain part.message), names) := by
      rw [generateOne, herrors, hs]
      rfl
    rw [hresult, Loaded.problems, hs]
    refine ⟨rfl, fun message => iff_of_false (by simp) ?_⟩
    rintro ⟨⟨s, hok, -⟩, -⟩
    rw [hs] at hok
    cases hok
  | ok s =>
    rw [problems_of_subject job names hs]
    by_cases hf : s.build.findings = []
    · rw [generateOne_of_clean herrors hs hf, findingErrors, hf, codeResult]
      have hhome : p.Homeless ↔ s.built.all (·.conversions.isEmpty) = false ∧ p.paths = [] := by
        refine ⟨?_, fun h => ⟨s, hs, hf, h⟩⟩
        rintro ⟨s', hok, -, h⟩
        rw [hs] at hok
        cases hok
        exact h
      cases hall : s.built.all (·.conversions.isEmpty) with
      | true => exact ⟨rfl, fun message => iff_of_false (by simp) (by simp [hhome, hall])⟩
      | false =>
        cases hpaths : p.paths with
        | nil => exact ⟨rfl, fun message => by simp [hhome, hall, hpaths, outputPath?, eq_comm]⟩
        | cons path rest =>
          exact ⟨rfl, fun message => iff_of_false (by simp [outputPath?]) (by simp [hhome, hpaths])⟩
    · rw [generateOne_of_findings herrors hs hf]
      refine ⟨allLeaves_of_forall (List.forall_mem_map.2 fun _ _ => rfl), fun message =>
        iff_of_false (by simp) ?_⟩
      rintro ⟨⟨s', hok, hclean, -⟩, -⟩
      rw [hs] at hok
      cases hok
      exact hf hclean

/-- The results for several packages report what is wrong with them, in order. -/
theorem flatMap_errors_results (herrors : ∀ p ∈ ps, p.errors = []) :
    (results job names ps).flatMap Result.errors = problems job names ps := by
  induction ps generalizing names with
  | nil => rfl
  | cons p rest ih =>
    rw [results, problems, List.flatMap_cons, (generateOne_result job names (herrors p List.mem_cons_self)).1,
      ih _ fun q hq => herrors q (List.mem_cons_of_mem _ hq)]

/-- There is a crash among the results iff there is code for one of the packages, and no place to put
it. -/
theorem crashed_mem_results_iff (herrors : ∀ p ∈ ps, p.errors = []) (message : String) :
    .crashed message ∈ results job names ps ↔ (∃ p ∈ ps, p.Homeless) ∧ message = noFilesMessage := by
  induction ps generalizing names with
  | nil => simp [results]
  | cons p rest ih =>
    have hone := (generateOne_result job names (herrors p List.mem_cons_self)).2 message
    rw [results, List.mem_cons, eq_comm, hone, ih _ fun q hq => herrors q (List.mem_cons_of_mem _ hq)]
    simp only [← or_and_right, List.mem_cons, exists_eq_or_imp]

/-- Nothing is wrong with several packages iff all are accepted. -/
theorem problems_list_eq_nil_iff : problems job names ps = [] ↔ ∀ p ∈ ps, p.Accepted := by
  induction ps generalizing names with
  | nil => simp [problems]
  | cons p rest ih =>
    rw [problems, List.append_eq_nil_iff, problems_eq_nil_iff, ih, List.forall_mem_cons]

/-! ## Outcomes -/

variable {patterns : List String} {loaded : List Loaded}

/-- Packages that are loaded without an error are those that were asked for, of which there are some, and
none has an error. -/
theorem checkLoaded_eq_ok_iff {directory : String} :
    checkLoaded directory patterns ps = .ok loaded ↔
      ps ≠ [] ∧ (∀ p ∈ ps, p.errors = []) ∧ loaded = ps := by
  rw [checkLoaded]
  cases hps : ps.isEmpty with
  | true => simp [List.isEmpty_iff.1 hps]
  | false =>
    have hne : ps ≠ [] := fun h => by simp [h] at hps
    simp only [Bool.false_eq_true, if_false]
    cases herrors : ps.flatMap (·.errors) with
    | nil =>
      rw [List.flatMap_eq_nil_iff] at herrors
      simp only [Except.ok.injEq]
      exact ⟨fun h => ⟨hne, herrors, h.symm⟩, fun h => h.2.2.symm⟩
    | cons e rest =>
      refine iff_of_false nofun fun ⟨_, h, _⟩ => ?_
      rw [List.flatMap_eq_nil_iff.2 h] at herrors
      cases herrors

/-- A batch on packages without errors breaks off if there is code for a package that has no files;
otherwise its errors and its files are those of the results. -/
theorem run_eq_of_checkLoaded (h : checkLoaded job.directory patterns ps = .ok ps) :
    ((∃ p ∈ ps, p.Homeless) → job.run patterns names ps = .crashed noFilesMessage) ∧
      ((∀ p ∈ ps, ¬p.Homeless) → job.run patterns names ps =
        match (Report.inSourceOrder ⟨problems job names ps⟩).error? with
        | some e => .failed e
        | none => .files (putFiles [] ((results job names ps).filterMap Result.file?))) := by
  have herrors := (checkLoaded_eq_ok_iff.1 h).2.1
  have hcrashed := crashed_mem_results_iff job names herrors
  simp only [Job.run, h, generateAll_eq_collect]
  refine ⟨fun hhome => ?_, fun hhome => ?_⟩
  · rw [collect_of_crashed ((hcrashed noFilesMessage).2 ⟨hhome, rfl⟩)
      fun message hmem => ((hcrashed message).1 hmem).2]
  · have hnone : ∀ message, .crashed message ∉ results job names ps := by
      intro message hmem
      obtain ⟨⟨p, hp, hhomeless⟩, -⟩ := (hcrashed message).1 hmem
      exact hhome p hp hhomeless
    rw [collect_of_not_crashed hnone, flatMap_errors_results job names herrors]
    rfl

/-- A batch on packages that were loaded without an error, none of which has an error then, returns files
iff all are accepted and there is a place for the code of each. It breaks off iff there is code without a
place for it. Otherwise it fails, with everything that is wrong with any of the packages, in the order of
the source. -/
theorem outcome_of_checkLoaded (h : checkLoaded job.directory patterns ps = .ok loaded) :
    (loaded = ps ∧ ∀ p ∈ ps, p.errors = []) ∧
      ((∃ outs, job.run patterns names ps = .files outs) ↔ ∀ p ∈ ps, p.Accepted ∧ ¬p.Homeless) ∧
      ((∃ message, job.run patterns names ps = .crashed message) ↔ ∃ p ∈ ps, p.Homeless) ∧
      ∀ e, job.run patterns names ps = .failed e →
        ∃ members, e = .joined members ∧ InSourceOrder (problems job names ps) members := by
  obtain ⟨hne, herrors, rfl⟩ := checkLoaded_eq_ok_iff.1 h
  obtain ⟨hcrash, hrun⟩ := run_eq_of_checkLoaded job names h
  refine ⟨⟨rfl, herrors⟩, ?_⟩
  by_cases hhome : ∃ p ∈ loaded, p.Homeless
  · rw [hcrash hhome]
    obtain ⟨p, hp, hhomeless⟩ := hhome
    refine ⟨iff_of_false nofun fun hall => (hall p hp).2 hhomeless, ?_, nofun⟩
    exact iff_of_true ⟨_, rfl⟩ ⟨p, hp, hhomeless⟩
  · have hplaced : ∀ p ∈ loaded, ¬p.Homeless := fun p hp hhomeless => hhome ⟨p, hp, hhomeless⟩
    rw [hrun hplaced, Report.error?_inSourceOrder]
    by_cases hproblems : problems job names loaded = []
    · rw [if_pos hproblems]
      rw [problems_list_eq_nil_iff] at hproblems
      refine ⟨iff_of_true ⟨_, rfl⟩ fun p hp => ⟨hproblems p hp, hplaced p hp⟩, ?_, nofun⟩
      exact iff_of_false nofun hhome
    · rw [if_neg hproblems]
      refine ⟨iff_of_false nofun fun hall => hproblems ?_, iff_of_false nofun hhome, ?_⟩
      · exact (problems_list_eq_nil_iff job names).2 fun p hp => (hall p hp).1
      · rintro _ ⟨⟩
        exact ⟨_, rfl, Report.inSourceOrder_errors ⟨problems job names loaded⟩⟩

/-- A package with code and without files: the batch breaks off, though nothing is wrong. -/
theorem homeless_run :
    let p : Loaded := { pointPackage "a" [] with paths := [] }
    let job : Job := ⟨"", "", "", "gen.go"⟩
    p.Accepted ∧ ∃ message, job.run ["./a"] ⟨[("geo", "geo")]⟩ [p] = .crashed message := by
  intro p job
  have hclean : (pointSubject "a" []).build.findings = [] :=
    List.isEmpty_iff.1 (by decide +kernel)
  have hcode : (pointSubject "a" []).built.all (·.conversions.isEmpty) = false := by decide +kernel
  have hload : checkLoaded job.directory ["./a"] [p] = .ok [p] := rfl
  obtain ⟨-, -, hcrash, -⟩ := outcome_of_checkLoaded job ⟨[("geo", "geo")]⟩ hload
  exact ⟨⟨_, rfl, hclean⟩, hcrash.2 ⟨p, List.mem_singleton_self p, _, rfl, hclean, hcode, rfl⟩⟩

end TaggedUnion
