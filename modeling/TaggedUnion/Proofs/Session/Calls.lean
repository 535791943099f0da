import TaggedUnion.Proofs.Program.Characters
import TaggedUnion.Proofs.Union.Acceptance
import TaggedUnion.Proofs.Union.Positions

/-!
# Calls of a session

A session can be called in any order: it is built, code is generated, and its unions are counted. Although it keeps
what it found, and generating changes what packages are called, nothing of that comes back in a later build
(`call_after_run`):

* every build answers the same;
* code is refused exactly if no build before it succeeded;
* no unions are counted before the first build, and afterwards those that are accepted.

What a run of calls leaves behind is described by `Session.Reached`, which each call keeps (`Reached.call`). That a
further build registers nothing new rests on the places of unions, which are distinct
(`pairwise_unionsOf`).
-/

namespace TaggedUnion

open Source TaggedUnion.Types Syntax Program

/-! ## Calls -/

namespace Session

/-- What a session can be called for. -/
inductive Call
  | build
  | generate
  | unions
deriving Repr, DecidableEq

/-- What a call answers. -/
inductive Answer
  /-- The package was built, perhaps with an error. -/
  | built (error : Option ErrorTree)
  /-- The code, if there is any. -/
  | code (code : Option String)
  /-- It is too early for code. -/
  | refused
  /-- The number of unions. -/
  | count (unions : Nat)

/-- The answer to a call, and the session after it. -/
def call (workingDir version : String) (σ : Session) : Call → Answer × Session
  | .build => let (error, σ) := σ.build workingDir; (.built error, σ)
  | .generate =>
    match σ.generate? version with
    | none => (.refused, σ)
    | some (code, σ) => (.code code, σ)
  | .unions => (.count σ.unions.length, σ)

/-- The answers to calls that are made one after the other, and the session after them. -/
def run (workingDir version : String) (σ : Session) : List Call → List Answer × Session
  | [] => ([], σ)
  | c :: rest =>
    let (answer, σ) := σ.call workingDir version c
    let (answers, σ) := σ.run workingDir version rest
    (answer :: answers, σ)

end Session

/-! ## Registered unions -/

section

variable {unions bs : List Built} {b : Built}

theorem register_of_fresh (h : b.union.pos ∉ unions.map (·.union.pos)) : register unions b = unions ++ [b] := by
  rw [register, if_neg]
  rw [List.any_eq_true]
  rintro ⟨old, hold, hpos⟩
  exact h (List.mem_map.2 ⟨old, hold, beq_iff_eq.1 hpos⟩)

/-- Registering a union again changes nothing. -/
theorem register_of_mem (h : (unions.map (·.union.pos)).Nodup) (hb : b ∈ unions) : register unions b = unions := by
  rw [register, if_pos (List.any_eq_true.2 ⟨b, hb, beq_self_eq_true b.union.pos⟩)]
  refine (List.map_congr_left fun old hold => ?_).trans (List.map_id unions)
  split
  next hpos => exact List.inj_on_of_nodup_map h hb hold (beq_iff_eq.1 hpos).symm
  next => rfl

theorem foldl_register_of_fresh (h : ((unions ++ bs).map (·.union.pos)).Nodup) :
    bs.foldl register unions = unions ++ bs := by
  induction bs generalizing unions with
  | nil => exact (List.append_nil _).symm
  | cons b rest ih =>
    have hfresh : b.union.pos ∉ unions.map (·.union.pos) := by
      rw [List.map_append, List.map_cons] at h
      exact fun hmem => (List.nodup_append.1 h).2.2 _ hmem _ List.mem_cons_self rfl
    rw [List.foldl_cons, register_of_fresh hfresh, ih (by rwa [List.append_assoc]), List.append_assoc]
    rfl

theorem foldl_register_of_subset (h : (unions.map (·.union.pos)).Nodup) (hsub : bs ⊆ unions) :
    bs.foldl register unions = unions := by
  induction bs with
  | nil => rfl
  | cons b rest ih =>
    obtain ⟨hb, hrest⟩ := List.cons_subset.1 hsub
    rw [List.foldl_cons, register_of_mem h hb, ih hrest]

end

/-! ## Places of unions -/

section

variable {s : Subject} {spec : TypeSpec} {u : Union}

/-- A union is at the name of its declaration. -/
theorem union_pos (h : s.union spec = .ok u) : u.pos = spec.name.pos := by
  rw [Subject.union] at h
  split at h
  · cases h
  · split at h
    · cases h
    · rename_i o ho
      have hpos : o.pos = spec.name.pos := by simpa using List.find?_some ho
      split at h
      · exact (unionOf_eq_ok h).1.2.1.trans hpos
      · cases h

theorem sublist_unionsOf (s : Subject) (rs : List Request) :
    ((s.unionsOf rs).map (·.pos)).Sublist (rs.map (·.spec.name.pos)) := by
  induction rs with
  | nil => exact .refl _
  | cons r rest ih =>
    cases hu : s.union r.spec with
    | error _ =>
      rw [Subject.unionsOf, List.filterMap_cons_none (by rw [hu]; rfl)]
      exact ih.cons _
    | ok u =>
      rw [Subject.unionsOf_cons_ok hu, List.map_cons, List.map_cons, union_pos hu]
      exact ih.cons_cons _

/-- Building finds the unions that declarations make up. -/
theorem map_union_buildAll (s : Subject) (taken : TakenNames) (rs : List Request) :
    (buildAll s taken rs).unions.map (·.union) = s.unionsOf rs := by
  induction rs generalizing taken with
  | nil => rfl
  | cons r rest ih =>
    rw [buildAll]
    cases hu : s.union r.spec with
    | error _ =>
      rw [Subject.unionsOf, List.filterMap_cons_none (by rw [hu]; rfl)]
      exact ih taken
    | ok u =>
      rw [Subject.unionsOf_cons_ok hu, List.map_cons, ih]

/-- The unions that building finds are at distinct places if what asks for them is. -/
theorem nodup_unions_build (h : (s.requests.map (·.spec.name.pos)).Nodup) :
    (s.build.unions.map (·.union.pos)).Nodup := by
  have hunions : s.build.unions.map (·.union.pos) = (s.unionsOf s.requests).map (·.pos) := by
    rw [← map_union_buildAll s s.takenNames s.requests, List.map_map]
    rfl
  exact hunions ▸ h.sublist (sublist_unionsOf s s.requests)

theorem sublist_declRequests (doc : Option (List Comment)) (specs : List TypeSpec) :
    ((declRequests (.types doc specs)).map (·.spec)).Sublist specs := by
  rw [declRequests]
  induction specs with
  | nil => exact .refl _
  | cons spec rest ih =>
    rw [List.filterMap_cons]
    split
    · exact ih.cons _
    · next r hr =>
      obtain ⟨c, -, rfl⟩ := Option.map_eq_some_iff.1 hr
      exact ih.cons_cons _

theorem sublist_requestedNames (d : Decl) : ((declRequests d).map (·.spec.name)).Sublist d.names := by
  cases d with
  | types doc specs =>
    have hsub := (sublist_declRequests doc specs).map (·.name)
    rwa [List.map_map] at hsub
  | vars _ | consts _ | func _ => exact List.nil_sublist _

/-- In a loaded program, the declarations that ask for conversions are at distinct places. -/
theorem nodup_requests {program : Program} {p : Package} (h : program.WellPlaced) (hp : p ∈ program.packages) :
    ((Subject.ofPackage program p).requests.map (·.spec.name.pos)).Nodup := by
  obtain ⟨infos, hsub, hat⟩ := h.packages p hp
  have hordered := pairwise_flatMap_of_fileAt (fun _ _ hf => hf.names) (fun _ _ hf => hf.namesOrdered)
    (h.files.apart.sublist hsub) hat
  have hnames : ((Subject.ofPackage program p).requests.map (·.spec.name)).Sublist
      (p.files.flatMap fun f => f.decls.flatMap Decl.names) := by
    rw [Subject.requests, List.map_flatMap]
    refine (List.filter_sublist.flatMap _).trans (List.Sublist.flatMap_right _ fun f _ => ?_)
    rw [List.map_flatMap]
    exact List.Sublist.flatMap_right _ fun d _ => sublist_requestedNames d
  have hpos := List.pairwise_map.2 ((hordered.sublist hnames).imp Nat.ne_of_lt)
  rwa [List.map_map] at hpos

end

/-! ## Runs -/

namespace Session

/-- What calls of a new session leave behind: whether it is ready depends on the builds before, and unless it is,
nothing was written. -/
structure Reached (s : Subject) (names : PackageNames) (calls : List Call) (answers : List Answer)
    (σ : Session) : Prop where
  subject : σ.subject = s
  unions : σ.unions = if .build ∈ calls then s.build.unions else []
  ready : σ.ready = true ↔ .built none ∈ answers
  clean : σ.ready = true → s.build.findings = []
  draft : σ.ready = false → σ.draft = { names }

variable {s : Subject} {names : PackageNames} {calls : List Call} {answers : List Answer} {σ : Session}

theorem reached_start (s : Subject) (names : PackageNames) : Reached s names [] [] (start s names) :=
  ⟨rfl, rfl, by simp [start], nofun, fun _ => rfl⟩

/-- A build finds what the package says, and words it as the first build would. -/
theorem Reached.build (h : Reached s names calls answers σ) (workingDir : String) :
    (σ.build workingDir).1 = s.build.error? (s.wording workingDir names.current) := by
  rw [Session.build, h.subject]
  cases hready : σ.ready with
  | false => rw [h.draft hready]
  | true =>
    -- names may have changed, but there is nothing to word
    have hclean := h.clean hready
    rw [(error?_eq_none_iff _ _).2 hclean, (error?_eq_none_iff _ _).2 hclean]

section

variable {workingDir version : String}

theorem call_generate_of_not_ready (h : σ.ready = false) :
    σ.call workingDir version .generate = (.refused, σ) := by
  rw [Session.call, generate?, h]
  rfl

theorem call_generate_of_ready (h : σ.ready = true) :
    σ.call workingDir version .generate = (.code (σ.code version).1, (σ.code version).2) := by
  rw [Session.call, generate?, if_pos h]

/-- Writing code changes nothing but what is written. -/
theorem exists_draft_code (version : String) (σ : Session) : ∃ d, (σ.code version).2 = { σ with draft := d } := by
  rw [code]
  split
  · exact ⟨_, rfl⟩
  · exact ⟨_, rfl⟩

end

/-- Each call leaves behind what is described. -/
theorem Reached.call (hs : (s.requests.map (·.spec.name.pos)).Nodup) (h : Reached s names calls answers σ)
    (workingDir version : String) (c : Call) :
    Reached s names (calls ++ [c]) (answers ++ [(σ.call workingDir version c).1])
      (σ.call workingDir version c).2 := by
  cases c with
  | build =>
    have hclean : s.build.isClean = true ↔ s.build.findings = [] := List.isEmpty_iff
    have hnodup := nodup_unions_build hs
    change Reached s names _ (answers ++ [.built (σ.build workingDir).1]) (σ.build workingDir).2
    rw [h.build workingDir, Session.build, h.subject]
    refine ⟨rfl, ?_, ?_, fun hready => ?_, fun hready => h.draft (Bool.or_eq_false_iff.1 hready).1⟩
    · -- What was found before is found again; the first time, all of it is new.
      rw [if_pos (List.mem_append_right _ List.mem_cons_self), h.unions]
      split
      · exact foldl_register_of_subset hnodup (List.Subset.refl _)
      · exact foldl_register_of_fresh hnodup
    · rw [Bool.or_eq_true, List.mem_append, List.mem_singleton, Answer.built.injEq, h.ready, hclean,
        ← error?_eq_none_iff s.build (s.wording workingDir names.current), eq_comm (a := none)]
    · exact (Bool.or_eq_true_iff.1 hready).elim h.clean hclean.1
  | generate =>
    cases hready : σ.ready with
    | false =>
      rw [call_generate_of_not_ready hready]
      exact ⟨h.subject, by simpa using h.unions, by simp [h.ready], h.clean, h.draft⟩
    | true =>
      obtain ⟨d, hcode⟩ := exists_draft_code version σ
      rw [call_generate_of_ready hready, hcode]
      exact ⟨h.subject, by simpa using h.unions, by simp [h.ready], h.clean, fun hnot => by cases hready.symm.trans hnot⟩
  | unions =>
    exact ⟨h.subject, by simpa [Session.call] using h.unions, by simp [h.ready, Session.call], h.clean, h.draft⟩

/-- So do calls that are made one after the other. -/
theorem Reached.run (hs : (s.requests.map (·.spec.name.pos)).Nodup) (h : Reached s names calls answers σ)
    (workingDir version : String) (more : List Call) :
    Reached s names (calls ++ more) (answers ++ (σ.run workingDir version more).1)
      (σ.run workingDir version more).2 := by
  induction more generalizing calls answers σ with
  | nil => simpa [Session.run] using h
  | cons c rest ih => simpa [Session.run] using ih (h.call hs workingDir version c)

end Session

/-- In a package of a loaded program, whatever calls came before: a build answers what it would answer at first,
code is refused exactly if no build succeeded, and the unions that are counted are those that are accepted, or none
before the first build. -/
theorem call_after_run {sources : List (String × List (String × String))} {program : Program} {p : Package}
    (h : ({} : Program).loadAll? sources = some program) (hp : p ∈ program.packages) (names : PackageNames)
    (workingDir version : String) (before : List Session.Call) :
    let s := Subject.ofPackage program p
    let start := Session.start s names
    let answers := (start.run workingDir version before).1
    let σ := (start.run workingDir version before).2
    (σ.call workingDir version .build).1 = (start.call workingDir version .build).1 ∧
      ((σ.call workingDir version .generate).1 = .refused ↔ .built none ∉ answers) ∧
      (σ.call workingDir version .unions).1 =
        .count (if .build ∈ before then (s.unionsOf s.requests).length else 0) := by
  intro s start answers σ
  have hs := nodup_requests (wellPlaced_of_loadAll? h) hp
  have hreached : Session.Reached s names before answers σ :=
    (Session.reached_start s names).run hs workingDir version before
  refine ⟨?_, ?_, ?_⟩
  · exact congrArg Session.Answer.built
      ((hreached.build workingDir).trans ((Session.reached_start s names).build workingDir).symm)
  · rw [← hreached.ready]
    cases hready : σ.ready with
    | false => exact iff_of_true (congrArg Prod.fst (Session.call_generate_of_not_ready hready)) (by decide)
    | true =>
      refine iff_of_false (fun hrefused => ?_) (fun hnot => hnot rfl)
      rw [Session.call_generate_of_ready hready] at hrefused
      cases hrefused
  · have hlength : s.build.unions.length = (s.unionsOf s.requests).length := by
      rw [← map_union_buildAll s s.takenNames s.requests, List.length_map]
      rfl
    change Session.Answer.count σ.unions.length = _
    rw [hreached.unions]
    split
    · rw [hlength]
    · rfl

/-- A union that is built, written and built again is still there, and can be written. -/
theorem builtAgain_answers :
    let sources := [("p", [("a.go", "package p\n\n//enumorph:derive\ntype Shape struct \x7b\n" ++
      "\tKind string `enumorph:\"tag\"`\n\tA int\n\x7d\n")])]
    ∃ program p, ({} : Program).loadAll? sources = some program ∧ p ∈ program.packages ∧
      let σ := ((Session.start (.ofPackage program p) {}).run "" "" [.build, .generate, .build]).2
      (σ.call "" "" .build).1 = .built none ∧ (σ.call "" "" .generate).1 ≠ .refused ∧
        (σ.call "" "" .unions).1 = .count 1 := by
  intro sources
  have hbuilt : (({} : Program).loadAll? sources).map (fun program => program.packages.map fun p =>
      let s := Subject.ofPackage program p
      (s.build.findings.isEmpty, (s.unionsOf s.requests).length)) = some [(true, 1)] := by
    rw [loadAll?_cons, String.toList_append, String.toList_ofList, String.toList_ofList]
    decide +kernel
  obtain ⟨program, hload, hprogram⟩ := Option.map_eq_some_iff.1 hbuilt
  obtain ⟨p, rest, hpackages, hp, -⟩ := List.map_eq_cons_iff.1 hprogram
  obtain ⟨hclean, hlength⟩ := Prod.mk.inj hp
  have hmem : p ∈ program.packages := hpackages ▸ List.mem_cons_self
  have hfirst : ((Session.start (.ofPackage program p) {}).call "" "" .build).1 = .built none :=
    congrArg Session.Answer.built ((error?_eq_none_iff _ _).2 (List.isEmpty_iff.1 hclean))
  obtain ⟨hbuild, hgenerate, hunions⟩ := call_after_run hload hmem {} "" "" [.build, .generate, .build]
  refine ⟨program, p, hload, hmem, hbuild.trans hfirst, fun hrefused => ?_, ?_⟩
  · exact hgenerate.1 hrefused (hfirst ▸ List.mem_cons_self)
  · rw [hunions, hlength]
    rfl

end TaggedUnion
