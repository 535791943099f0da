import TaggedUnion.Proofs.Union.Check
import TaggedUnion.Session

/-!
# When a package is accepted

Building goes through the declarations and their variants in order, with the names that are taken as
a state that all unions share. What it accepts can be said without an order (`Subject.Acceptable`):
a condition on each declaration, one on each variant, one on the payload types of each union, and
one on all names together.

The condition on the names is on the list of all of them, so that an induction over the declarations
carries it along (`buildAll_spec`).
-/

namespace TaggedUnion

open TaggedUnion.Types

/-- The unions that declarations make up, of those that do. -/
def Subject.unionsOf (s : Subject) (rs : List Request) : List Union :=
  rs.filterMap fun r => (s.union r.spec).toOption

/-- The names of all conversions that a union asks for. -/
def Union.names (u : Union) : List String :=
  u.wanted.flatMap u.conversionNames

/-- The names of all conversions that are asked for in a package. -/
def Subject.conversionNames (s : Subject) : List String :=
  (s.unionsOf s.requests).flatMap Union.names

/-- What is required of the variants of a union among themselves. -/
structure Union.Sound (table : TypeTable) (u : Union) : Prop where
  /-- A variant that conversions are asked for has no unknown option, and carries one value. -/
  derivable : ∀ v ∈ u.wanted, v.Derivable
  /-- No two of them carry identical types. -/
  different : (payloadTypes u.wanted).Pairwise fun t t' => t.identical table t' = false

/-- What is required of a package. -/
structure Subject.Acceptable (s : Subject) : Prop where
  /-- No directive is misplaced. -/
  placed : s.misplaced = []
  /-- Every declaration that asks for conversions is a tagged union. -/
  unions : ∀ r ∈ s.requests, ∃ u, s.union r.spec = .ok u
  sound : ∀ u ∈ s.unionsOf s.requests, u.Sound s.info.table
  /-- No two conversions have one name. -/
  nodup : s.conversionNames.Nodup
  /-- No conversion has the name of something declared, except in what an earlier run generated. -/
  free : ∀ o ∈ s.objects, s.isGenerated o = false → o.name ∉ s.conversionNames

variable {s : Subject} {r : Request} {rs : List Request} {u : Union}

theorem Subject.unionsOf_cons_ok (h : s.union r.spec = .ok u) :
    s.unionsOf (r :: rs) = u :: s.unionsOf rs :=
  List.filterMap_cons_some (by rw [h]; rfl)

/-- The variants of a union all pass iff the union is sound and its names are free and different;
then these are taken besides. -/
theorem check_spec (table : TypeTable) (u : Union) (taken : TakenNames) :
    (failed (u.check table none taken).2 = [] ↔
      u.Sound table ∧ u.names.Nodup ∧ ∀ n ∈ u.names, n ∉ taken.names) ∧
    (failed (u.check table none taken).2 = [] →
      ∀ n, n ∈ (u.check table none taken).1.names ↔ n ∈ u.names ∨ n ∈ taken.names) := by
  obtain ⟨hiff, hnames⟩ := checkVariants_spec table u { taken } u.wanted
  refine ⟨hiff.trans ⟨fun h => ?_, fun ⟨hsound, hnodup, hfree⟩ => ?_⟩, fun h => hnames (hiff.1 h)⟩
  · exact ⟨⟨h.derivable, h.different⟩, h.nodup, h.free⟩
  · exact ⟨hsound.derivable, hsound.different, fun _ _ _ he => absurd he List.not_mem_nil, hnodup,
      hfree⟩

/-- Nothing is wrong with declarations iff they are unions, each is sound, and the names of all of
them are free and different. -/
theorem buildAll_spec (s : Subject) (taken : TakenNames) (rs : List Request) :
    (buildAll s taken rs).findings = [] ↔
      (∀ r ∈ rs, ∃ u, s.union r.spec = .ok u) ∧
      (∀ u ∈ s.unionsOf rs, u.Sound s.info.table) ∧
      ((s.unionsOf rs).flatMap Union.names).Nodup ∧
      ∀ n ∈ (s.unionsOf rs).flatMap Union.names, n ∉ taken.names := by
  induction rs generalizing taken with
  | nil => simp [buildAll, Subject.unionsOf]
  | cons r rest ih =>
    cases hu : s.union r.spec with
    | error finding =>
      rw [buildAll, hu]
      refine iff_of_false (List.cons_ne_nil _ _) fun ⟨hall, _⟩ => ?_
      obtain ⟨u, hok⟩ := hall r List.mem_cons_self
      rw [hu] at hok
      cases hok
    | ok u =>
      obtain ⟨hiff, hnames⟩ := check_spec s.info.table u taken
      rw [buildAll, hu, Subject.unionsOf_cons_ok hu]
      change failed (u.check s.info.table none taken).2 ++
        (buildAll s (u.check s.info.table none taken).1 rest).findings = [] ↔ _
      rw [List.append_eq_nil_iff, ih, List.flatMap_cons, List.nodup_append]
      simp only [List.forall_mem_cons, List.forall_mem_append]
      constructor
      · rintro ⟨hcheck, hall, hsound, hnodup, hfree⟩
        obtain ⟨hsound', hnodup', hfree'⟩ := hiff.1 hcheck
        refine ⟨⟨⟨u, hu⟩, hall⟩, ⟨hsound', hsound⟩, ⟨hnodup', hnodup, ?_⟩, hfree', fun n hn hin => ?_⟩
        · intro a ha b hb hab
          exact hfree b hb ((hnames hcheck b).2 (.inl (hab ▸ ha)))
        · exact hfree n hn ((hnames hcheck n).2 (.inr hin))
      · rintro ⟨⟨-, hall⟩, ⟨hsound', hsound⟩, ⟨hnodup', hnodup, hdisj⟩, hfree', hfree⟩
        have hcheck := hiff.2 ⟨hsound', hnodup', hfree'⟩
        refine ⟨hcheck, hall, hsound, hnodup, fun n hn hin => ?_⟩
        -- What the first union took is what the names of the others must differ from.
        rcases (hnames hcheck n).1 hin with hin | hin
        · exact hdisj n hin n hn rfl
        · exact hfree n hn hin

/-- The names that are taken before the first declaration. -/
theorem mem_takenNames_iff {name : String} :
    name ∈ s.takenNames.names ↔ ∃ o ∈ s.objects, s.isGenerated o = false ∧ o.name = name := by
  rw [Subject.takenNames, Name.Reserved.mem_names_ofList]
  simp [and_assoc]

/-- Nothing is wrong with a package iff it is acceptable. -/
theorem findings_eq_nil_iff (s : Subject) : s.build.findings = [] ↔ s.Acceptable := by
  rw [Subject.build]
  change s.misplacedFindings ++ (buildAll s s.takenNames s.requests).findings = [] ↔ _
  rw [List.append_eq_nil_iff, buildAll_spec, Subject.misplacedFindings, List.map_eq_nil_iff]
  constructor
  · rintro ⟨hplaced, hunions, hsound, hnodup, hfree⟩
    refine ⟨hplaced, hunions, hsound, hnodup, fun o ho hgen hin => ?_⟩
    exact hfree o.name hin (mem_takenNames_iff.2 ⟨o, ho, hgen, rfl⟩)
  · rintro ⟨hplaced, hunions, hsound, hnodup, hfree⟩
    refine ⟨hplaced, hunions, hsound, hnodup, fun n hn hin => ?_⟩
    obtain ⟨o, ho, hgen, rfl⟩ := mem_takenNames_iff.1 hin
    exact hfree o ho hgen hn

/-- Every finding makes an error of its own. -/
theorem errors_foldl_add (w : Wording) (r : Report) (fs : List Finding) :
    (fs.foldl (fun r f => r.add (some (.located (f.diagnostic w)))) r).errors =
      r.errors ++ fs.map fun f => .located (f.diagnostic w) := by
  induction fs generalizing r with
  | nil => simp
  | cons f rest ih =>
    rw [List.foldl_cons, ih, List.map_cons, Report.add, ErrorTree.leaves, List.append_assoc]
    rfl

/-- Building reports no error iff there are no findings. -/
theorem error?_eq_none_iff (b : Build) (w : Wording) : b.error? w = none ↔ b.findings = [] := by
  rw [Build.error?, Report.error?, errors_foldl_add]
  cases b.findings <;> simp

end TaggedUnion
