import TaggedUnion.Batch
import TaggedUnion.Proofs.Code.Generation
import TaggedUnion.Proofs.Union.Acceptance

/-!
# The results of a batch

A batch generates for one package after the other, and all that it hands on from one to the next are
the names of packages. So what it comes to is put together from one result for each package
(`generateAll_eq_collect`), and the result for a package is that of generating it with the names
that the packages before it leave (`results_getElem?`).

These names are *later* names: each is the one from before, or that name with numbers behind it
(`later_namesAfter`).
-/

namespace TaggedUnion

open TaggedUnion.Types

/-! ## Results one after the other -/

/-- The names of packages after generating for several. -/
def namesAfter (job : Job) (names : PackageNames) (ps : List Loaded) : PackageNames :=
  ps.foldl (fun names p => (generateOne job names p).2) names

/-- What generating for each of several packages comes to. -/
def results (job : Job) (names : PackageNames) : List Loaded → List Result
  | [] => []
  | p :: rest => (generateOne job names p).1 :: results job (generateOne job names p).2 rest

/-- Puts results together. -/
def collect (report : Report) (outs : List (String × String)) :
    List Result → Except String (Report × List (String × String))
  | [] => .ok (report, outs)
  | .reported e :: rest => collect (report.add (some e)) outs rest
  | .nothing :: rest => collect report outs rest
  | .file path code :: rest => collect report (putFile outs path code) rest
  | .crashed message :: _ => .error message

theorem generateAll_eq_collect (job : Job) (names : PackageNames) (report : Report)
    (outs : List (String × String)) (ps : List Loaded) :
    generateAll job names report outs ps = collect report outs (results job names ps) := by
  induction ps generalizing names report outs with
  | nil => rfl
  | cons p rest ih =>
    rw [generateAll, results]
    obtain ⟨result, names'⟩ := generateOne job names p
    cases result <;> simp only [collect, ih]

theorem results_append (job : Job) (names : PackageNames) (ps others : List Loaded) :
    results job names (ps ++ others) =
      results job names ps ++ results job (namesAfter job names ps) others := by
  induction ps generalizing names with
  | nil => rfl
  | cons p rest ih =>
    rw [List.cons_append, results, results, ih, List.cons_append, namesAfter, namesAfter,
      List.foldl_cons]

theorem length_results (job : Job) (names : PackageNames) (ps : List Loaded) :
    (results job names ps).length = ps.length := by
  induction ps generalizing names with
  | nil => rfl
  | cons p rest ih => rw [results, List.length_cons, ih, List.length_cons]

/-- The result for a package depends on the packages before it by the names they leave. -/
theorem results_getElem? (job : Job) (names : PackageNames) (pre post : List Loaded) (p : Loaded) :
    (results job names (pre ++ p :: post))[pre.length]? =
      some (generateOne job (namesAfter job names pre) p).1 := by
  rw [results_append, results,
    List.getElem?_append_right (Nat.le_of_eq (length_results job names pre)), length_results,
    Nat.sub_self]
  rfl

/-! ## The result for one package -/

/-- The unions that are found in a package, in order. -/
def Subject.built (s : Subject) : List Built :=
  s.build.unions.foldl register []

/-- What the code of a package comes to, given the draft of it. -/
def codeResult (job : Job) (paths : List String) (s : Subject) (d : Draft) : Result :=
  if s.built.all (·.conversions.isEmpty) then .nothing
  else
    match outputPath? job paths with
    | none => .crashed noFilesMessage
    | some path => .file path (generatedFile job.version s.name d)

/-- What is reported about a package, given the names that its messages show. -/
def findingErrors (job : Job) (s : Subject) (names : PackageNames) : List ErrorTree :=
  s.build.findings.map fun f => .located (f.diagnostic (s.wording job.workingDir names.current))

variable {job : Job} {names : PackageNames} {p : Loaded} {s : Subject}

/-- A package in which something is wrong is reported, and renames nothing. -/
theorem generateOne_of_findings (herrors : p.errors = []) (hs : p.delivery.subject = .ok s)
    (hf : s.build.findings ≠ []) :
    generateOne job names p = (.reported (.joined (findingErrors job s names)), names) := by
  have herror : s.build.error? (s.wording job.workingDir names.current) =
      some (.joined (findingErrors job s names)) := by
    have hne : (findingErrors job s names).isEmpty = false := by simpa [findingErrors] using hf
    rw [Build.error?, Report.error?, errors_foldl_add, List.nil_append]
    exact if_neg (by rw [← findingErrors, hne]; exact Bool.false_ne_true)
  have hbuild : (Session.start s names).build job.workingDir =
      (some (.joined (findingErrors job s names)), ((Session.start s names).build job.workingDir).2) :=
    Prod.ext herror rfl
  rw [generateOne, herrors, hs]
  simp only [List.isEmpty_nil, Bool.not_true, Bool.false_eq_true, if_false]
  rw [hbuild]

/-- For a package in which nothing is wrong the code is generated, and the names of packages are
those of its draft. -/
theorem generateOne_of_clean (herrors : p.errors = []) (hs : p.delivery.subject = .ok s)
    (hf : s.build.findings = []) :
    generateOne job names p =
      (codeResult job p.paths s (s.draftOf names s.built), (s.draftOf names s.built).names) := by
  have hbuild : (Session.start s names).build job.workingDir =
      (none, { Session.start s names with unions := s.built, ready := false || s.build.isClean }) :=
    Prod.ext ((error?_eq_none_iff _ _).2 hf) rfl
  rw [generateOne, herrors, hs]
  simp only [List.isEmpty_nil, Bool.not_true, Bool.false_eq_true, if_false]
  rw [hbuild, codeResult]
  cases hall : s.built.all (·.conversions.isEmpty) with
  | true =>
    simp only [Session.code, hall, if_true]
    rfl
  | false =>
    simp only [Session.code, hall, Bool.false_eq_true, if_false]
    cases outputPath? job p.paths <;> rfl

/-! ## Later names -/

/-- Names that packages may have later: each is the one from before, or that name with numbers
behind it. -/
def PackageNames.Later (names later : PackageNames) : Prop :=
  ∀ path, later.current path = names.current path ∨
    names.current path ≠ "" ∧ Name.Numbered (names.current path) (later.current path)

namespace PackageNames.Later

variable {later : PackageNames} {path : String}

theorem refl (names : PackageNames) : names.Later names :=
  fun _ => .inl rfl

/-- A package has a name later iff it has one before. -/
theorem eq_empty_iff (h : names.Later later) : later.current path = "" ↔ names.current path = "" := by
  rcases h path with heq | ⟨hne, hnum⟩
  · rw [heq]
  · exact iff_of_false hnum.ne_empty hne

/-- The candidates of a later name are later names. -/
theorem candidate (h : names.Later later) (hne : later.current path ≠ "") (n : Nat) :
    Name.candidate (later.current path) n = names.current path ∨
      names.current path ≠ "" ∧
        Name.Numbered (names.current path) (Name.candidate (later.current path) n) := by
  have hnamed : names.current path ≠ "" := fun hc => hne (h.eq_empty_iff.2 hc)
  cases n with
  | zero => exact h path
  | succ n =>
    rcases h path with heq | ⟨-, hnum⟩
    · rw [heq]
      exact .inr ⟨hnamed, Name.numbered_candidate _ n⟩
    · exact .inr ⟨hnamed, hnum.candidate n⟩

theorem dot_notMem (h : names.Later later) (hdot : '.' ∉ (names.current path).toList) :
    '.' ∉ (later.current path).toList := by
  rcases h path with heq | ⟨-, hnum⟩
  · rwa [heq]
  · exact hnum.dot_notMem hdot

end PackageNames.Later

/-- Importing packages gives them later names. -/
theorem Draft.kept_later (s : Subject) (names : PackageNames) :
    Kept s fun d => names.Later d.names where
  frame _ _ _ hnames h := by rwa [hnames]
  importPackage d path h := by
    by_cases hforeign : Foreign s d path
    · obtain ⟨name, hname, heq⟩ := importPackage_of_foreign hforeign
      obtain ⟨-, n, -, rfl, -⟩ := importName?_eq_some_iff.1 hname
      rw [heq]
      intro other
      rw [PackageNames.current_rename]
      by_cases hother : other = path
      · rw [if_pos hother, hother]
        exact h.candidate hforeign.named n
      · rw [if_neg hother]
        exact h other
    · rwa [importPackage_of_not_foreign hforeign]
  importedName d path h := by rwa [(imports_prefix_of_eq_enter (importedName_eq s d path)).2]

/-- Generating for a package leaves later names. -/
theorem later_generateOne {later : PackageNames} (job : Job) (p : Loaded) (h : names.Later later) :
    names.Later (generateOne job later p).2 := by
  by_cases herrors : p.errors = []
  · cases hs : p.delivery.subject with
    | error part =>
      rw [generateOne, herrors, hs]
      exact h
    | ok s =>
      by_cases hf : s.build.findings = []
      · rw [generateOne_of_clean herrors hs hf]
        refine (Draft.kept_later s names).writeUnions (fun d hd => ?_) s.built h
        rwa [(Draft.imports_prefix_of_eq_enter (Draft.request_eq s d errorsPath errorsName)).2]
      · rw [generateOne_of_findings herrors hs hf]
        exact h
  · have hne : (!p.errors.isEmpty) = true := by simpa using herrors
    rw [generateOne, if_pos hne]
    exact h

/-- A batch leaves later names. -/
theorem later_namesAfter (job : Job) (names : PackageNames) (ps : List Loaded) :
    names.Later (namesAfter job names ps) := by
  -- The names to compare with stay those at the start, whatever names a package begins with.
  have hall : ∀ later, names.Later later → names.Later (namesAfter job later ps) := by
    induction ps with
    | nil => exact fun _ h => h
    | cons p rest ih => exact fun later h => ih _ (later_generateOne job p h)
  exact hall names (.refl names)

end TaggedUnion
