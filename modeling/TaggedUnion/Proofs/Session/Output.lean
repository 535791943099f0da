import TaggedUnion.Proofs.Code.Sections
import TaggedUnion.Proofs.Program.Characters
import TaggedUnion.Proofs.Session.Repetition

/-!
# What code consists of

After a successful build, whatever else was called for, code consists of the header, the package clause, the imports,
and a section for each union with a variant that is asked for, in the order of the declarations (`code_after_build`).
So there are two functions for each of these variants, and there is no code iff there is no such variant. That no text
is left over from code that was answered before is an invariant of the calls (`text_run`).
-/

namespace TaggedUnion

open Source TaggedUnion.Types Syntax Program

/-! ## Calls before -/

namespace Session

variable {σ : Session} {workingDir version : String}

/-- Only builds answer that something was built. -/
theorem mem_of_built {calls : List Call} {error : Option ErrorTree}
    (h : .built error ∈ (σ.run workingDir version calls).1) : .build ∈ calls := by
  induction calls generalizing σ with
  | nil => cases h
  | cons c rest ih =>
    rw [run] at h
    rcases List.mem_cons.1 h with hfirst | hrest
    · cases c with
      | build => exact List.mem_cons_self
      | unions => cases hfirst
      | generate =>
        cases hready : σ.ready with
        | false =>
          rw [call_generate_of_not_ready hready] at hfirst
          cases hfirst
        | true =>
          rw [call_generate_of_ready hready] at hfirst
          cases hfirst
    · exact List.mem_cons_of_mem _ (ih hrest)

/-- No call leaves text behind. -/
theorem text_call (h : σ.draft.text = "") (c : Call) : (σ.call workingDir version c).2.draft.text = "" := by
  cases c with
  | build => exact h
  | unions => exact h
  | generate =>
    cases hready : σ.ready with
    | false => rwa [call_generate_of_not_ready hready]
    | true => rw [call_generate_of_ready hready, code_eq_codeOf h]

theorem text_run (h : σ.draft.text = "") (calls : List Call) :
    (σ.run workingDir version calls).2.draft.text = "" := by
  induction calls generalizing σ with
  | nil => exact h
  | cons c rest ih => exact ih (text_call h c)

end Session

/-! ## Unions with variants that are asked for -/

theorem flatMap_names_filter (unions : List Union) :
    (unions.filter fun u => !u.wanted.isEmpty).flatMap Union.names = unions.flatMap Union.names := by
  induction unions with
  | nil => rfl
  | cons u rest ih =>
    rw [List.filter_cons, List.flatMap_cons]
    split
    next => rw [List.flatMap_cons, ih]
    next hempty =>
      have hwanted : u.wanted = [] := by simpa using hempty
      rw [ih, Union.names, hwanted, List.flatMap_nil, List.nil_append]

theorem length_flatMap_names (unions : List Union) :
    (unions.flatMap Union.names).length = 2 * (unions.flatMap Union.wanted).length := by
  induction unions with
  | nil => rfl
  | cons u rest ih =>
    rw [List.flatMap_cons, List.flatMap_cons, List.length_append, List.length_append, ih, length_names, Nat.mul_add]

variable {s : Subject}

theorem map_union_build (s : Subject) : s.build.unions.map (·.union) = s.unionsOf s.requests :=
  map_union_buildAll s s.takenNames s.requests

/-- In a clean build, a union has conversions iff it has variants that are asked for. -/
theorem isEmpty_conversions_of_clean (h : s.build.findings = []) {b : Built} (hb : b ∈ s.build.unions) :
    b.conversions.isEmpty = b.union.wanted.isEmpty := by
  have hlength := (isFor_of_build_clean h b hb).length_eq
  rw [Bool.eq_iff_iff, List.isEmpty_iff_length_eq_zero, List.isEmpty_iff_length_eq_zero, hlength]

theorem all_isEmpty_of_clean (h : s.build.findings = []) :
    s.build.unions.all (·.conversions.isEmpty) = true ↔ (s.unionsOf s.requests).flatMap Union.wanted = [] := by
  rw [← map_union_build, List.flatMap_map, List.flatMap_eq_nil_iff, List.all_eq_true]
  refine forall₂_congr fun b hb => ?_
  rw [isEmpty_conversions_of_clean h hb, List.isEmpty_iff]

/-- The sections of the code after a clean build are those of the unions with variants that are asked for. -/
theorem exists_sections_of_clean (h : s.build.findings = []) (d : Draft) :
    ∃ sections, List.Forall₂ (fun u x => ∃ b ∈ s.build.unions, b.union = u ∧ s.Renders b x)
        ((s.unionsOf s.requests).filter fun u => !u.wanted.isEmpty) sections ∧
      (s.build.unions.foldl (Session.writeUnion s) d).text = d.text ++ String.join (sections.map Section.text) := by
  obtain ⟨sections, hrenders, htext⟩ := Draft.exists_sections s d (isFor_of_build_clean h)
  refine ⟨sections, ?_, htext⟩
  have hfilter : (s.build.unions.filter fun b => !b.conversions.isEmpty) =
      s.build.unions.filter ((fun u => !u.wanted.isEmpty) ∘ Built.union) :=
    List.filter_congr fun b hb => congrArg not (isEmpty_conversions_of_clean h hb)
  have hunions : (s.unionsOf s.requests).filter (fun u => !u.wanted.isEmpty) =
      (s.build.unions.filter fun b => !b.conversions.isEmpty).map (·.union) := by
    rw [hfilter, ← List.filter_map, map_union_build]
  rw [hunions, List.forall₂_map_left_iff]
  have hmem : ∀ b ∈ s.build.unions.filter fun b => !b.conversions.isEmpty, b ∈ s.build.unions :=
    fun b hb => (List.mem_filter.1 hb).1
  exact ((List.forall₂_and_left _ _).2 ⟨hmem, hrenders⟩).imp fun b x hb => ⟨b, hb.1, rfl, hb.2⟩

/-! ## Code -/

/-- After a successful build of a loaded package, whatever calls came before, code is answered. There is none iff no
variant is asked for. Otherwise it consists of header, package clause, imports, and a section for each union with a
variant that is asked for, in order; these have two functions for each such variant, all under different names. -/
theorem code_after_build {sources : List (String × List (String × String))} {program : Program} {p : Package}
    (h : ({} : Program).loadAll? sources = some program) (hp : p ∈ program.packages) (names : PackageNames)
    (workingDir version : String) (before : List Session.Call) :
    let s := Subject.ofPackage program p
    let start := Session.start s names
    let σ := (start.run workingDir version before).2
    let wanted := (s.unionsOf s.requests).flatMap Union.wanted
    .built none ∈ (start.run workingDir version before).1 →
      ∃ answer, (σ.call workingDir version .generate).1 = .code answer ∧ (answer = none ↔ wanted = []) ∧
        ∀ code, answer = some code → ∃ imports sections,
          let raw := headerLine version ++ "\n" ++ "package " ++ s.name ++ "\n\n" ++ importBlock imports ++
            String.join (sections.map Section.text)
          let functions := sections.flatMap Section.functions
          code = (Layout.format? raw).getD raw ∧
            List.Forall₂ (fun u x => ∃ b ∈ s.build.unions, b.union = u ∧ s.Renders b x)
              ((s.unionsOf s.requests).filter fun u => !u.wanted.isEmpty) sections ∧
            functions.length = 2 * wanted.length ∧ (functions.map (·.name)).Nodup := by
  intro s start σ wanted hbuilt
  have hreached : Session.Reached s names before _ σ :=
    (Session.reached_start s names).run (nodup_requests (wellPlaced_of_loadAll? h) hp) workingDir version before
  have hready : σ.ready = true := hreached.ready.2 hbuilt
  have hclean : s.build.findings = [] := hreached.clean hready
  have hunions : σ.unions = s.build.unions := by
    rw [hreached.unions, if_pos (Session.mem_of_built hbuilt)]
  have htext : σ.draft.text = "" := Session.text_run (σ := start) rfl before
  let d := s.build.unions.foldl (Session.writeUnion s) σ.draft
  have hanswer : (σ.code version).1 = s.codeOf version s.build.unions d := by
    rw [Session.code_eq_codeOf htext, hreached.subject, hunions]
  refine ⟨_, congrArg Prod.fst (Session.call_generate_of_ready hready), ?_, fun code hcode => ?_⟩
  · rw [hanswer, Subject.codeOf, ← all_isEmpty_of_clean hclean]
    split
    next hall => exact iff_of_true rfl hall
    next hnot => exact iff_of_false (Option.some_ne_none _) hnot
  · obtain ⟨sections, hsections, hdtext⟩ := exists_sections_of_clean hclean σ.draft
    have hnames := (map_name_functions hsections).trans (flatMap_names_filter _)
    have hcount : (sections.flatMap Section.functions).length = 2 * wanted.length := by
      rw [← length_flatMap_names, ← hnames, List.length_map]
    refine ⟨d.imports, sections, ?_, hsections, hcount, hnames ▸ ((findings_eq_nil_iff s).1 hclean).nodup⟩
    rw [hanswer, Subject.codeOf] at hcode
    split at hcode
    next => cases hcode
    next => rw [← Option.some.inj hcode, generatedFile, rawFile, hdtext, htext, String.empty_append]

/-- Of three variants, the one that is ignored has no functions, and the others have theirs in order, also if everything
is done twice. -/
theorem ignoredVariant_code :
    let sources := [("p", [("a.go", "package p\n\n//enumorph:derive\ntype Shape struct \x7b\n" ++
      "\tKind string `enumorph:\"tag\"`\n\tB bool\n\tC bool `enumorph:\"ignore\"`\n\tA int\n\x7d\n")])]
    let before := [.build, .generate, .build]
    ∃ program p, ({} : Program).loadAll? sources = some program ∧ p ∈ program.packages ∧
      let start := Session.start (.ofPackage program p) {}
      .built none ∈ (start.run "" "" before).1 ∧
        ∃ code imports x, ((start.run "" "" before).2.call "" "" .generate).1 = .code (some code) ∧
          let raw := headerLine "" ++ "\n" ++ "package " ++ p.name ++ "\n\n" ++ importBlock imports ++ Section.text x
          code = (Layout.format? raw).getD raw ∧ x.union = "Shape" ∧
            x.functions.map (·.name) = ["ShapeToB", "ShapeFromB", "ShapeToA", "ShapeFromA"] := by
  intro sources before
  have hloaded : (({} : Program).loadAll? sources).map (fun program => program.packages.map fun p =>
      let s := Subject.ofPackage program p
      let unions := (s.unionsOf s.requests).filter fun u => !u.wanted.isEmpty
      (s.build.findings.isEmpty, unions.map fun u => (u.name, u.names))) =
        some [(true, [("Shape", ["ShapeToB", "ShapeFromB", "ShapeToA", "ShapeFromA"])])] := by
    rw [loadAll?_cons, String.toList_append, String.toList_ofList, String.toList_ofList]
    decide +kernel
  obtain ⟨program, hload, hprogram⟩ := Option.map_eq_some_iff.1 hloaded
  obtain ⟨p, rest, hpackages, hp, -⟩ := List.map_eq_cons_iff.1 hprogram
  obtain ⟨hclean, hunions⟩ := Prod.mk.inj hp
  obtain ⟨u, others, hfilter, hu, hothers⟩ := List.map_eq_cons_iff.1 hunions
  rw [List.map_eq_nil_iff.1 hothers] at hfilter
  obtain ⟨hname, hnames⟩ := Prod.mk.inj hu
  have hmem : p ∈ program.packages := hpackages ▸ List.mem_cons_self
  have hfirst : ((Session.start (.ofPackage program p) {}).call "" "" .build).1 = .built none :=
    congrArg Session.Answer.built ((error?_eq_none_iff _ _).2 (List.isEmpty_iff.1 hclean))
  have hbuilt : .built none ∈ ((Session.start (.ofPackage program p) {}).run "" "" before).1 :=
    hfirst ▸ List.mem_cons_self
  obtain ⟨answer, hanswer, hnone, hcode⟩ := code_after_build hload hmem {} "" "" before hbuilt
  obtain ⟨humem, hwanted⟩ := List.mem_filter.1 (hfilter ▸ List.mem_singleton_self u)
  cases answer with
  | none =>
    have hempty : u.wanted = [] := List.flatMap_eq_nil_iff.1 (hnone.1 rfl) u humem
    rw [hempty] at hwanted
    cases hwanted
  | some code =>
    obtain ⟨imports, sections, hraw, hsections, -⟩ := hcode code rfl
    rw [hfilter] at hsections
    obtain ⟨x, rest, ⟨b, -, rfl, hx⟩, hrest, hsections⟩ := List.forall₂_cons_left_iff.1 hsections
    rw [hsections, List.forall₂_nil_left_iff.1 hrest, List.map_singleton, String.join_cons, String.join_nil,
      String.append_empty] at hraw
    exact ⟨program, p, hload, hmem, hbuilt, code, imports, x, hanswer, hraw, hx.union.trans hname,
      hx.map_name.trans hnames⟩

end TaggedUnion
