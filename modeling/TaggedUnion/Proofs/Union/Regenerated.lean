import TaggedUnion.Proofs.Union.Origin

/-!
# Building a package once more

What an earlier run generated is part of the package in the next one (`Regenerated`): a file more,
and what it declares. The file is passed over, so the same is asked for, and what it declares takes up no
names. So if the package can be built without it, it can be built with it, and comes to the same
(`Regenerated.build_eq`).

Which names are taken decides whether a variant passes, but not what a conversion is; so two checks
under which all variants pass come to the same conversions (`passed_check_of_clean`).
-/

namespace TaggedUnion

open Source TaggedUnion.Types Syntax Program

/-! ## Conversions of variants that pass -/

/-- The conversion of a variant, if it carries one value. -/
def conversionOf? (u : Union) (v : Variant) : Option Conversion :=
  match v.shape with
  | .single accessor payload =>
    some { variant := v.name, accessor, payload, unwrap := u.unwrapName v.name,
           wrap := u.wrapName v.name, pos := v.pos }
  | _ => none

theorem Conversion.IsFor.conversionOf?_eq {u : Union} {c : Conversion} {v : Variant}
    (h : c.IsFor u v) : conversionOf? u v = some c := by
  obtain ⟨variant, accessor, payload, unwrap, wrap, pos⟩ := c
  obtain ⟨rfl, hshape, rfl, rfl, rfl⟩ := h
  rw [conversionOf?, hshape]

section Check

variable {table : TypeTable} {u : Union}

/-- Variants that all pass make the conversions that they determine. -/
theorem passed_checkVariants_of_clean {c : Checking} {vs : List Variant}
    (h : failed (checkVariants table u c vs).2 = []) :
    passed (checkVariants table u c vs).2 = vs.filterMap (conversionOf? u) := by
  induction vs generalizing c with
  | nil => rfl
  | cons v rest ih =>
    rw [checkVariants] at h ⊢
    cases hout : checkVariant table u v c with
    | mk c' outcome =>
      rw [hout] at h
      cases outcome with
      | error finding => exact absurd h (List.cons_ne_nil _ _)
      | ok conversion =>
        obtain ⟨hfor, -, -⟩ := isFor_of_checkVariant hout
        rw [List.filterMap_cons_some hfor.conversionOf?_eq, ← ih h]
        rfl

theorem passed_check_of_clean {taken : TakenNames} (h : failed (u.check table none taken).2 = []) :
    passed (u.check table none taken).2 = u.wanted.filterMap (conversionOf? u) :=
  passed_checkVariants_of_clean h

end Check

/-- Two packages of which the same declarations are clean come to the same unions and conversions. -/
theorem unions_buildAll_of_clean {s s' : Subject} {taken taken' : TakenNames} {rs : List Request}
    (hunion : ∀ r ∈ rs, s'.union r.spec = s.union r.spec)
    (h : (buildAll s taken rs).findings = []) (h' : (buildAll s' taken' rs).findings = []) :
    (buildAll s' taken' rs).unions = (buildAll s taken rs).unions := by
  induction rs generalizing taken taken' with
  | nil => rfl
  | cons r rest ih =>
    have hr : s'.union r.spec = s.union r.spec := hunion r List.mem_cons_self
    cases hu : s.union r.spec with
    | error finding =>
      rw [buildAll, hu] at h
      exact absurd h (List.cons_ne_nil _ _)
    | ok u =>
      rw [hu] at hr
      rw [buildAll, hu] at h
      rw [buildAll, hr] at h'
      obtain ⟨hcheck, hrest⟩ := List.append_eq_nil_iff.1 h
      obtain ⟨hcheck', hrest'⟩ := List.append_eq_nil_iff.1 h'
      -- Other names are taken in the second package, but they do not show in what passes.
      have hpassed := (passed_check_of_clean hcheck').trans (passed_check_of_clean hcheck).symm
      have hunions := ih (fun r hr => hunion r (List.mem_cons_of_mem _ hr)) hrest hrest'
      rw [buildAll, hr, buildAll, hu]
      exact congrArg₂ List.cons (congrArg (Built.mk u) hpassed) hunions

/-! ## The package in the next run -/

/-- The second package is the first one with a generated file, which declares the given objects: it has
one more file, which is passed over, and otherwise the declarations are the same and mean the same. -/
structure Regenerated (s s' : Subject) (added : List Object) : Prop where
  name : s'.name = s.name
  path : s'.path = s.path
  table : s'.info.table = s.info.table
  definitions : ∀ r ∈ s.requests, s'.definition? r.spec.name.pos = s.definition? r.spec.name.pos
  /-- Nothing of the first package was generated. -/
  own : ∀ f ∈ s.sources, isGeneratedFile f = false
  sources : ∃ l r f, s.sources = l ++ r ∧ s'.sources = l ++ f :: r ∧ isGeneratedFile f = true
  objects : s'.objects.Perm (s.objects ++ added)
  /-- The positions of objects that are added tell that they were generated. -/
  new : ∀ o ∈ added, s'.isGenerated o = true

namespace Regenerated

variable {s s' : Subject} {added : List Object} (h : Regenerated s s' added)

include h

theorem ownSources_eq : s'.ownSources = s.ownSources := by
  obtain ⟨l, r, f, hs, hs', hf⟩ := h.sources
  rw [Subject.ownSources, Subject.ownSources, hs, hs', List.filter_append, List.filter_append,
    List.filter_cons_of_neg (by simp [hf])]

theorem requests_eq : s'.requests = s.requests := by
  rw [Subject.requests, h.ownSources_eq, Subject.requests]

theorem misplaced_eq : s'.misplaced = s.misplaced := by
  rw [Subject.misplaced, h.ownSources_eq, Subject.misplaced]

theorem union_eq {r : Request} (hr : r ∈ s.requests) : s'.union r.spec = s.union r.spec := by
  rw [Subject.union, Subject.union, h.definitions r hr, h.table]

theorem unionsOf_eq : s'.unionsOf s'.requests = s.unionsOf s.requests := by
  rw [h.requests_eq]
  exact List.filterMap_congr fun r hr => by rw [h.union_eq hr]

theorem conversionNames_eq : s'.conversionNames = s.conversionNames := by
  rw [Subject.conversionNames, h.unionsOf_eq, Subject.conversionNames]

theorem isGenerated_eq_false (o : Object) : s.isGenerated o = false := by
  have hnone : s.generatedNames = [] := by
    rw [Subject.generatedNames, List.filter_eq_nil_iff.2 fun f hf => by simp [h.own f hf], List.map_nil]
  rw [Subject.isGenerated, hnone, List.contains_nil, Bool.and_false]

theorem acceptable (hs : s.Acceptable) : s'.Acceptable := by
  obtain ⟨hplaced, hunions, hsound, hnodup, hfree⟩ := hs
  refine ⟨h.misplaced_eq ▸ hplaced, ?_, ?_, h.conversionNames_eq ▸ hnodup, fun o ho hown => ?_⟩
  · rw [h.requests_eq]
    exact fun r hr => h.union_eq hr ▸ hunions r hr
  · rw [h.unionsOf_eq, h.table]
    exact hsound
  · rw [h.conversionNames_eq]
    rcases List.mem_append.1 (h.objects.mem_iff.1 ho) with ho | ho
    · exact hfree o ho (h.isGenerated_eq_false o)
    · rw [h.new o ho] at hown
      cases hown

/-- A package that can be built comes to the same with what was generated for it. -/
theorem build_eq (hclean : s.build.findings = []) : s'.build = s.build := by
  have hclean' := (findings_eq_nil_iff s').2 (h.acceptable ((findings_eq_nil_iff s).1 hclean))
  have hfindings : s'.build.findings = s.build.findings := hclean'.trans hclean.symm
  have hunions : s'.build.unions = s.build.unions := by
    have hall := List.append_eq_nil_iff.1 hclean
    have hall' := List.append_eq_nil_iff.1 hclean'
    have heq := unions_buildAll_of_clean (fun r hr => h.union_eq hr) hall.2
      (h.requests_eq ▸ hall'.2)
    rw [Subject.build, Subject.build]
    change (buildAll s' s'.takenNames s'.requests).unions = _
    rw [h.requests_eq, heq]
  cases hb : s.build
  cases hb' : s'.build
  rw [hb, hb'] at hfindings hunions
  cases hfindings
  cases hunions
  rfl

end Regenerated

end TaggedUnion
