import TaggedUnion.Proofs.Batch.Twin

/-!
# Packages on their own

What a batch comes to for a package is what the package comes to on its own, if the packages before
it left the names that its result shows as they were (`together_eq_alone_iff`). Only then: a message
that shows another name is another message, and code that refers to a package of another name has
another table or another text.

So a batch is nothing but its packages on their own as long as no package is renamed that a later
one depends on (`results_eq_map`). In general it is not: the names that the code for one package
needs carry over to the code for the next (`pointPackage_after_clash`).
-/

namespace TaggedUnion

open Source TaggedUnion.Types

/-! ## Code -/

/-- Code with conversions imports the package of errors. -/
theorem errorsPath_mem_paths (s : Subject) (names : PackageNames) {unions : List Built}
    (h : ¬unions.all (·.conversions.isEmpty) = true) : errorsPath ∈ (s.draftOf names unions).paths := by
  simp only [List.all_eq_true, not_forall] at h
  obtain ⟨b, hb, hne⟩ := h
  have hkept : Draft.Kept s fun d => errorsPath ∈ d.paths :=
    { frame := fun d e himports _ h => by rwa [Draft.paths, himports]
      importPackage := fun d path h => ((Draft.imports_prefix_importPackage s d path).map _).subset h
      importedName := fun d path h =>
        ((Draft.imports_prefix_of_eq_enter (Draft.importedName_eq s d path)).1.map _).subset h }
  refine hkept.writeUnions_of_request (fun d => ?_) hb (fun hnil => hne (by rw [hnil]; rfl)) _
  obtain ⟨found, hfound, heq⟩ := errorsNameIn_eq_enter s d
  rw [← errorsNameIn_snd, heq]
  obtain ⟨j, hj, hpath⟩ := Draft.lookup_enter (i := ⟨errorsPath, found !=
    Draft.knownName s d errorsPath errorsName⟩) (Draft.admits_of_importName? hfound) rfl
  have hmem := Draft.mem_paths_of_lookup hj
  rwa [hpath] at hmem

/-- What code comes to depends on the table and the text of its draft. -/
theorem codeResult_congr {d e : Draft} (job : Job) (paths : List String) (s : Subject)
    (himports : e.imports = d.imports) (htext : e.text = d.text) :
    codeResult job paths s e = codeResult job paths s d := by
  simp only [codeResult, generatedFile_congr himports htext]

/-! ## Messages -/

/-- The types that the message of a fault shows. -/
def Fault.types : Fault → List Ty
  | tagNotString _ _ type => [type]
  | samePayload _ _ _ payload _ => [payload]
  | _ => []

/-- A message shows no type, or one within a text that is the same however packages are written. -/
theorem Fault.message_cases (workingDir : String) (files : FileSet) (f : Fault) :
    (f.types = [] ∧ ∀ q q' : Qualifier,
        f.message ⟨workingDir, files, q⟩ = f.message ⟨workingDir, files, q'⟩) ∨
      ∃ before after t, f.types = [t] ∧
        ∀ q : Qualifier, f.message ⟨workingDir, files, q⟩ = before ++ t.text q ++ after := by
  cases f with
  | tagNotString union field type =>
    refine .inr ⟨union ++ " is not a tagged union: " ++
      ("tag field " ++ field ++ " must be a string, have "), "", type, rfl, fun q => ?_⟩
    change union ++ " is not a tagged union: " ++
      ("tag field " ++ field ++ " must be a string, have " ++ type.text q) = _
    simp only [String.append_assoc, String.append_empty]
  | samePayload union earlier variant payload previous =>
    refine .inr ⟨union ++ "." ++ earlier ++ " and " ++ union ++ "." ++ variant ++ " both carry ",
      "; conversions would conflict" ++ previously ⟨workingDir, files, fun _ => ""⟩ previous,
      payload, rfl, fun q => ?_⟩
    change union ++ "." ++ earlier ++ " and " ++ union ++ "." ++ variant ++ " both carry " ++
      payload.text q ++ "; conversions would conflict" ++
        previously ⟨workingDir, files, fun _ => ""⟩ previous = _
    simp only [String.append_assoc]
  | _ => exact .inl ⟨rfl, fun _ _ => rfl⟩

section Messages

variable {names later : PackageNames} (hl : names.Later later)
  (hdot : ∀ path, '.' ∉ (names.current path).toList)

include hl hdot

/-- A message is the same iff the packages that it shows have the same names. -/
theorem Fault.message_eq_iff (s : Subject) (workingDir : String) (f : Fault) :
    f.message (s.wording workingDir later.current) = f.message (s.wording workingDir names.current) ↔
      names.AgreesOn later (f.types.flatMap (·.shown s)) := by
  rcases f.message_cases workingDir s.files with ⟨htypes, hsame⟩ | ⟨before, after, t, htypes, hmessage⟩
  · rw [htypes]
    exact iff_of_true (hsame _ _) fun _ h => absurd h List.not_mem_nil
  · rw [htypes, List.flatMap_singleton, Subject.wording, Subject.wording, hmessage, hmessage]
    rcases (Draft.Twin.start names later).typeText hl hdot s t with ⟨htext, hagree⟩ | ⟨hdiv, hchanged⟩
    · exact iff_of_true (congrArg (before ++ · ++ after) htext) hagree
    · exact iff_of_false ((hdiv.prepend before).append after after).ne.symm hchanged

/-- The same is reported about a package iff the packages that the messages show have the same
names. -/
theorem findingErrors_eq_iff (job : Job) (s : Subject) :
    findingErrors job s later = findingErrors job s names ↔
      names.AgreesOn later (s.build.findings.flatMap fun f => f.fault.types.flatMap (·.shown s)) := by
  have hone : ∀ f : Finding,
      ErrorTree.located (f.diagnostic (s.wording job.workingDir later.current)) =
          .located (f.diagnostic (s.wording job.workingDir names.current)) ↔
        names.AgreesOn later (f.fault.types.flatMap (·.shown s)) := by
    intro f
    rw [← Fault.message_eq_iff hl hdot s job.workingDir f.fault, ErrorTree.located.injEq]
    simp [Finding.diagnostic, Subject.wording]
  rw [findingErrors, findingErrors, List.map_inj_left]
  simp only [hone, PackageNames.AgreesOn, List.mem_flatMap]
  constructor
  · rintro h path ⟨f, hf, hpath⟩
    exact h f hf path hpath
  · exact fun h f hf path hpath => h path ⟨f, hf, hpath⟩

end Messages

/-! ## Results -/

/-- The packages whose names the result for a package shows: in messages if something is wrong, and
otherwise in the table and the text of the code. -/
def Subject.dependencies (s : Subject) (names : PackageNames) : List String :=
  if s.build.findings.isEmpty then
    (s.draftOf names s.built).paths ++ (payloads s.built).flatMap (·.shown s)
  else s.build.findings.flatMap fun f => f.fault.types.flatMap (·.shown s)

section Dependencies

variable {s : Subject} {names later : PackageNames}

theorem Subject.dependencies_of_clean (h : s.build.findings = []) :
    s.dependencies names =
      (s.draftOf names s.built).paths ++ (payloads s.built).flatMap (·.shown s) := by
  rw [dependencies, h]
  rfl

theorem Subject.dependencies_of_findings (h : s.build.findings ≠ []) :
    s.dependencies names =
      s.build.findings.flatMap fun f => f.fault.types.flatMap (·.shown s) := by
  have hempty : s.build.findings.isEmpty = false := by simpa using h
  rw [dependencies, hempty, if_neg Bool.false_ne_true]

/-- With the names that its result depends on as they were, a package comes to the same. -/
theorem generateOne_eq_of_agreesOn (job : Job) (hl : names.Later later)
    (hdot : ∀ path, '.' ∉ (names.current path).toList) {p : Loaded} (herrors : p.errors = [])
    (hs : p.delivery.subject = .ok s) (h : names.AgreesOn later (s.dependencies names)) :
    (generateOne job later p).1 = (generateOne job names p).1 := by
  by_cases hf : s.build.findings = []
  · rw [generateOne_of_clean herrors hs hf, generateOne_of_clean herrors hs hf]
    rw [Subject.dependencies_of_clean hf] at h
    by_cases hall : s.built.all (·.conversions.isEmpty) = true
    · simp only [codeResult, hall, if_true]
    · -- So the package of errors is among those that have the same name.
      have hmem := errorsPath_mem_paths s names hall
      obtain ⟨himports, htext⟩ :=
        (s.draftOf_eq_iff hl hdot (h _ (List.mem_append_left _ hmem)) s.built).2 h
      exact codeResult_congr job p.paths s himports htext
  · rw [generateOne_of_findings herrors hs hf, generateOne_of_findings herrors hs hf]
    rw [Subject.dependencies_of_findings hf] at h
    rw [(findingErrors_eq_iff hl hdot job s).2 h]

end Dependencies

/-- What is said about a package that could not be loaded shows no names of other packages. -/
theorem generateOne_eq_of_unloaded (job : Job) (names later : PackageNames) {p : Loaded}
    (h : p.errors ≠ [] ∨ ∃ part, p.delivery.subject = .error part) :
    (generateOne job later p).1 = (generateOne job names p).1 := by
  by_cases herrors : p.errors = []
  · obtain ⟨part, hpart⟩ := h.resolve_left (not_not_intro herrors)
    simp only [generateOne, herrors, hpart, List.isEmpty_nil, Bool.not_true, Bool.false_eq_true,
      if_false]
  · have hne : (!p.errors.isEmpty) = true := by simpa using herrors
    simp only [generateOne, hne, if_true]

/-- The result for a package within a batch, compared with the result for the package on its own:
what could not be loaded comes to the same in both. Otherwise the results are the same if the
packages that the result depends on have the same names after the packages before it. The condition
is exact for what is reported, and for the table and the text of the code if it holds of the package
of errors. -/
theorem together_eq_alone_iff (job : Job) (names : PackageNames)
    (hdot : ∀ path, '.' ∉ (names.current path).toList) (pre post : List Loaded) (p : Loaded) :
    let later := namesAfter job names pre
    ∃ alone together : Result,
      results job names [p] = [alone] ∧
      (results job names (pre ++ p :: post))[pre.length]? = some together ∧
      (p.errors ≠ [] ∨ (∃ part, p.delivery.subject = .error part) → together = alone) ∧
      ∀ s, p.errors = [] → p.delivery.subject = .ok s →
        (names.AgreesOn later (s.dependencies names) → together = alone) ∧
        (s.build.findings ≠ [] → (together = alone ↔ names.AgreesOn later (s.dependencies names))) ∧
        (s.build.findings = [] →
          alone = codeResult job p.paths s (s.draftOf names s.built) ∧
          together = codeResult job p.paths s (s.draftOf later s.built) ∧
          (later.current errorsPath = names.current errorsPath →
            ((s.draftOf later s.built).imports = (s.draftOf names s.built).imports ∧
                (s.draftOf later s.built).text = (s.draftOf names s.built).text ↔
              names.AgreesOn later (s.dependencies names)))) := by
  intro later
  have hl : names.Later later := later_namesAfter job names pre
  refine ⟨(generateOne job names p).1, (generateOne job later p).1, rfl,
    results_getElem? job names pre post p, generateOne_eq_of_unloaded job names later,
    fun s herrors hs => ⟨generateOne_eq_of_agreesOn job hl hdot herrors hs, fun hf => ?_, fun hf => ?_⟩⟩
  · rw [generateOne_of_findings herrors hs hf, generateOne_of_findings herrors hs hf,
      Subject.dependencies_of_findings hf, Result.reported.injEq, ErrorTree.joined.injEq]
    exact findingErrors_eq_iff hl hdot job s
  · rw [generateOne_of_clean herrors hs hf, generateOne_of_clean herrors hs hf,
      Subject.dependencies_of_clean hf]
    exact ⟨rfl, rfl, fun hsame => s.draftOf_eq_iff hl hdot hsame s.built⟩

/-- If no package leaves another name for one that a later package depends on, every package of a
batch comes to what it comes to on its own, wherever it stands. -/
theorem results_eq_map (job : Job) (names : PackageNames)
    (hdot : ∀ path, '.' ∉ (names.current path).toList) (ps : List Loaded)
    (h : ∀ pre p post s, ps = pre ++ p :: post → p.delivery.subject = .ok s →
      names.AgreesOn (namesAfter job names pre) (s.dependencies names)) :
    results job names ps = ps.map fun p => (generateOne job names p).1 := by
  -- By induction on the packages that are left, with those before them generalized.
  have hall : ∀ pre rest, ps = pre ++ rest → results job (namesAfter job names pre) rest =
      rest.map fun p => (generateOne job names p).1 := by
    intro pre rest hps
    induction rest generalizing pre with
    | nil => rfl
    | cons p rest ih =>
      have hone : (generateOne job (namesAfter job names pre) p).1 = (generateOne job names p).1 := by
        by_cases herrors : p.errors = []
        · cases hs : p.delivery.subject with
          | error part => exact generateOne_eq_of_unloaded job names _ (.inr ⟨part, hs⟩)
          | ok s =>
            exact generateOne_eq_of_agreesOn job (later_namesAfter job names pre) hdot herrors hs
              (h pre p rest s hps hs)
        · exact generateOne_eq_of_unloaded job names _ (.inl herrors)
      have hnext : namesAfter job names (pre ++ [p]) =
          (generateOne job (namesAfter job names pre) p).2 := List.foldl_append
      rw [results, List.map_cons, hone, ← hnext, ih (pre ++ [p]) (by rw [hps, List.append_assoc]; rfl)]
  exact hall [] ps rfl

/-! ## A package after another -/

/-- A package with one union `Shape`, of which the only variant is a `geo.Point`, and with variables
of the given names. -/
def pointSubject (path : String) (vars : List String) : Subject :=
  let shape : Program.Object :=
    { name := "Shape", home := path, pos := 3, kind := .type, type := .named ⟨path, "Shape", 3⟩ [] [] }
  { name := path
    path := path
    objects := shape :: vars.map fun name =>
      { name, home := path, pos := 9, kind := .var, type := .basic "int" }
    imports := ["geo"]
    files := {}
    sources := [{
      name := "shape.go"
      clause := 1
      package := path
      decls := [.types (some [⟨2, directiveText⟩])
        [{ name := { pos := 3, name := "Shape" }
           type := .struct 0 0
            [({ names := [{ pos := 4, name := "Kind" }] }, .ident { pos := 0, name := "string" }),
             ({ names := [{ pos := 5, name := "P" }] },
              .selector (.ident { pos := 0, name := "geo" }) { pos := 0, name := "Point" })] 0 }]]
      comments := [[⟨2, directiveText⟩]] }]
    info := ⟨[
      { name := ⟨path, "Shape", 3⟩
        rhs := .struct
          [(⟨"Kind", path, false, Text.Bytes.ofText "enumorph:\"tag\"", 4⟩, .basic "string"),
           (⟨"P", path, false, [], 5⟩, .named ⟨"geo", "Point", 6⟩ [] [])] },
      { name := ⟨"geo", "Point", 6⟩, rhs := .basic "int" }], [shape]⟩ }

/-- The package as the loader delivers it. -/
def pointPackage (path : String) (vars : List String) : Loaded :=
  let s := pointSubject path vars
  { delivery :=
      { name := s.name, path := s.path, scope := some ⟨s.name, s.path, s.objects, s.imports⟩
        files := some s.files, sources := some s.sources, info := some s.info }
    paths := [path ++ "/shape.go"] }
/-- A package that declares `geo` itself imports the package of that name as `geo2`, and so does the
code for the next package, which has no use for an alias. Its table says that there is none, so it
differs from the one on its own, and no import has the name that the code refers to. -/
theorem pointPackage_after_clash :
    let job : Job := ⟨"", "", "", "gen.go"⟩
    let names : PackageNames := ⟨[("geo", "geo")]⟩
    let later := namesAfter job names [pointPackage "a" ["geo"]]
    let s := pointSubject "b" []
    (s.draftOf names s.built).imports.lookup "geo" = some ⟨"geo", false⟩ ∧
      (s.draftOf later s.built).imports.lookup "geo2" = some ⟨"geo", false⟩ ∧
      ¬((s.draftOf later s.built).imports = (s.draftOf names s.built).imports ∧
        (s.draftOf later s.built).text = (s.draftOf names s.built).text) := by
  intro job names later s
  have hdot : ∀ path, '.' ∉ (names.current path).toList := by
    intro path
    rw [PackageNames.current, List.lookup_cons]
    cases path == "geo" <;> simp
  obtain ⟨_, _, -, -, -, hcondition⟩ :=
    together_eq_alone_iff job names hdot [pointPackage "a" ["geo"]] [] (pointPackage "b" [])
  obtain ⟨-, -, hclean⟩ := hcondition s rfl rfl
  obtain ⟨-, -, hiff⟩ := hclean (List.isEmpty_iff.1 (by decide +kernel))
  refine ⟨by decide +kernel, by decide +kernel, fun hsame => ?_⟩
  have hagree := (hiff (by decide +kernel)).1 hsame
  exact absurd (hagree "geo" (by decide +kernel)) (by decide +kernel)

end TaggedUnion
