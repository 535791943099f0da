import TaggedUnion.Lint.Analysis
import TaggedUnion.Proofs.Program.Characters
import TaggedUnion.Proofs.Report.Findings
import TaggedUnion.Proofs.Union.Positions

/-!
# The linter agrees with building

What building finds is joined into one error. The linter takes that error apart again, and shows only diagnostics
that can be shown. Nothing is lost on the way: there is one warning for each diagnostic, in order, and it shows
the place, the end, the kind and the message of the diagnostic (`analyse_agrees`). In a package of a loaded program
each diagnostic is at a place in a file that was not generated.
-/

namespace TaggedUnion

open Source Syntax Program

/-! ## Warnings -/

/-- The kinds of what can be wrong with a package. -/
def Fault.kinds : List Kind :=
  [.notUnion, .unitVariant, .multiField, .unknownOption, .conflict, .misplacedDirective]

theorem Fault.kind_mem_kinds (fault : Fault) : fault.kind ∈ Fault.kinds := by
  cases fault <;> simp [Fault.kind, Fault.kinds]

/-- A warning shows a diagnostic: it is at its place, and tells its kind and its message. -/
structure Lint.Shows (x : Diagnostic) (warning : Lint.Warning) : Prop where
  pos : warning.pos = x.pos
  stop : warning.stop = x.stop
  kind : ∃ kind ∈ Fault.kinds, x.kind = some kind ∧ warning.category = kind.text
  message : warning.message = x.message

/-- The diagnostic of a finding has a warning that shows it. -/
theorem Lint.shows_of_finding (w : Wording) (f : Finding) :
    ∃ warning, Lint.warning? (.located (f.diagnostic w)) = some warning ∧
      Lint.Shows (f.diagnostic w) warning :=
  ⟨_, rfl, rfl, rfl, ⟨f.fault.kind, f.fault.kind_mem_kinds, rfl, rfl⟩, rfl⟩

theorem Lint.shows_filterMap (w : Wording) (fs : List Finding) :
    List.Forall₂ Lint.Shows (fs.map (Finding.diagnostic w))
      ((fs.map fun f => ErrorTree.located (f.diagnostic w)).filterMap Lint.warning?) := by
  induction fs with
  | nil => exact .nil
  | cons f rest ih =>
    obtain ⟨warning, hwarning, hshows⟩ := Lint.shows_of_finding w f
    rw [List.map_cons, List.map_cons, List.filterMap_cons_some hwarning]
    exact .cons hshows ih

/-- Building reports the diagnostics of what it finds, joined. -/
theorem error?_eq_join? (b : Build) (w : Wording) :
    b.error? w = ErrorTree.join? ((b.findings.map (Finding.diagnostic w)).map fun x => some (.located x)) := by
  rw [error?_eq]
  cases b.findings with
  | nil => rfl
  | cons f rest => simp [ErrorTree.join?]

/-! ## Packages -/

/-- A package under the name and the path that its scope has, which is all that the linter knows of them. -/
def Delivery.scoped (d : Delivery) : Delivery :=
  match d.scope with
  | none => d
  | some scope => { d with name := scope.name, path := scope.path }

theorem Delivery.scope_scoped (d : Delivery) : d.scoped.scope = d.scope := by
  rw [Delivery.scoped]
  split <;> rfl

/-- A diagnostic is at a place in a file of the package that was not generated, and the place has a position. -/
structure Subject.Points (s : Subject) (x : Diagnostic) : Prop where
  pos : x.pos ≠ 0
  position : x.position.isValid = true
  file : ∃ f ∈ s.ownSources, ∃ info ∈ s.files.files, info.name = f.name ∧ Inside info f.clause ∧
    Inside info x.pos

theorem exists_scope_of_subject {d : Delivery} {s : Subject} (h : d.subject = .ok s) :
    ∃ scope, d.scope = some scope := by
  cases hscope : d.scope with
  | none =>
    rw [Delivery.subject, hscope] at h
    split at h
    · cases h
    · split at h <;> cases h
  | some scope => exact ⟨scope, rfl⟩

/-- A loaded package that lacks nothing is the package. -/
theorem eq_ofPackage_of_subject {program : Program} {p : Package} {s : Subject}
    (h : (Delivery.ofPackage program p).subject = .ok s) : s = .ofPackage program p := by
  rw [Delivery.subject] at h
  split at h
  · cases h
  · split at h
    · cases h
    · cases h
      rfl

theorem subject_ofPackage {program : Program} {p : Package} (h : (p.name == "" || p.path == "") = false) :
    (Delivery.ofPackage program p).scoped.subject = .ok (.ofPackage program p) := by
  obtain ⟨hname, hpath⟩ := Bool.or_eq_false_iff.1 h
  change (Delivery.ofPackage program p).subject = _
  simp only [Delivery.subject, Delivery.ofPackage, hname, hpath]
  rfl

/-- The linter shows what building reports. -/
theorem analyse_of_subject {d : Delivery} {s : Subject} (workingDir : String) (names : PackageNames)
    (h : d.scoped.subject = .ok s) :
    Lint.analyse workingDir names d =
      .ok ((s.build.findings.map fun f =>
        ErrorTree.located (f.diagnostic (s.wording workingDir names.current))).filterMap Lint.warning?) := by
  obtain ⟨scope, hscope⟩ := exists_scope_of_subject h
  rw [Delivery.scope_scoped] at hscope
  simp only [Delivery.scoped, hscope] at h
  rw [Lint.analyse, hscope]
  dsimp only
  rw [h]
  exact congrArg (Except.ok <| List.filterMap Lint.warning? ·) (errors_add_error? _ _)

/-- In a package of a loaded program, what building finds is at a place in a file that was not generated. -/
theorem points_of_mem_findings {sources : List (String × List (String × String))} {program : Program}
    {p : Package} (hload : ({} : Program).loadAll? sources = some program) (hp : p ∈ program.packages)
    {x : Finding} (hx : x ∈ (Subject.ofPackage program p).build.findings) (workingDir : String)
    (nameOf : String → String) :
    (Subject.ofPackage program p).Points
      (x.diagnostic ((Subject.ofPackage program p).wording workingDir nameOf)) := by
  have hspelled := spelled_of_loadAll? hload
  obtain ⟨f, hf, info, hinfo, hat, hinside⟩ := exists_inside_of_mem_findings hspelled hp hx
  exact ⟨hspelled.placed.files.ne_zero hinfo hinside, hspelled.placed.files.position_isValid hinfo hinside,
    f, hf, info, hinfo, hat.name.symm, hat.clause, hinside⟩

/-- The linter agrees with building: for a package that lacks nothing, building reports some diagnostics, joined,
and the linter shows one warning for each of them, in order. So it shows none iff building succeeds. In a
package of a loaded program, all of them are at places in files that were not generated. -/
theorem analyse_agrees {d : Delivery} {s : Subject} (workingDir : String) (names : PackageNames)
    (h : d.scoped.subject = .ok s) :
    ∃ diagnostics warnings,
      ((Session.start s names).build workingDir).1 = ErrorTree.join? (diagnostics.map fun x => some (.located x)) ∧
      Lint.analyse workingDir names d = .ok warnings ∧
      List.Forall₂ Lint.Shows diagnostics warnings ∧
      (warnings = [] ↔ ((Session.start s names).build workingDir).1 = none) ∧
      ∀ sources program p, ({} : Program).loadAll? sources = some program → p ∈ program.packages →
        d = .ofPackage program p → ∀ x ∈ diagnostics, s.Points x := by
  have hshows := Lint.shows_filterMap (s.wording workingDir names.current) s.build.findings
  refine ⟨_, _, error?_eq_join? _ _, analyse_of_subject workingDir names h, hshows, ?_, ?_⟩
  · refine Iff.trans ?_ (error?_eq_none_iff _ _).symm
    rw [← List.length_eq_zero_iff, ← hshows.length_eq, List.length_map, List.length_eq_zero_iff]
    rfl
  · rintro sources program p hload hp rfl
    cases eq_ofPackage_of_subject h
    exact List.forall_mem_map.2 fun x hx => points_of_mem_findings hload hp hx _ _

/-- A directive on a variable and a struct without a tag field are both shown, in order. -/
theorem twoFindings_shown :
    let sources := [("p", [("a.go",
      "package p\n\n//enumorph:derive\nvar x int\n\n//enumorph:derive\ntype T struct\x7b A int \x7d\n")])]
    ∃ program p s diagnostics warnings, ({} : Program).loadAll? sources = some program ∧ p ∈ program.packages ∧
      (Delivery.ofPackage program p).scoped.subject = .ok s ∧
      ((Session.start s {}).build "").1 = ErrorTree.join? (diagnostics.map fun x => some (.located x)) ∧
      Lint.analyse "" {} (.ofPackage program p) = .ok warnings ∧ List.Forall₂ Lint.Shows diagnostics warnings ∧
      (warnings.map fun w => (w.pos, w.category)) =
        [(12, "misplaced directive"), (66, "not a tagged union")] ∧
      ∀ x ∈ diagnostics, s.Points x := by
  intro sources
  have hshown : ((({} : Program).loadAll? sources).map fun program => program.packages.map fun p =>
      (p.name == "" || p.path == "", (Lint.analyse "" {} (.ofPackage program p)).toOption.map fun warnings =>
        warnings.map fun w => (w.pos, w.category))) =
      some [(false, some [(12, "misplaced directive"), (66, "not a tagged union")])] := by
    rw [loadAll?_cons, String.toList_ofList]
    decide +kernel
  obtain ⟨program, hload, hprogram⟩ := Option.map_eq_some_iff.1 hshown
  obtain ⟨p, rest, hpackages, hp, -⟩ := List.map_eq_cons_iff.1 hprogram
  obtain ⟨hnamed, hwarnings⟩ := Prod.mk.inj hp
  have hmem : p ∈ program.packages := hpackages ▸ List.mem_cons_self
  obtain ⟨diagnostics, warnings, hbuild, hanalyse, hshows, -, hpoints⟩ :=
    analyse_agrees "" {} (@subject_ofPackage program p hnamed)
  rw [hanalyse] at hwarnings
  exact ⟨program, p, _, diagnostics, warnings, hload, hmem, subject_ofPackage hnamed, hbuild, hanalyse, hshows,
    Option.some.inj hwarnings, hpoints sources program p hload hmem rfl⟩

end TaggedUnion
