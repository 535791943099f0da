import TaggedUnion.Proofs.Union.Acceptance

/-!
# Where conversions come from

A union keeps what its declaration says: its name, its type parameters, its tag field and its variants
are those of the struct that is written out (`union_eq_ok`). A conversion keeps what its variant says
(`conversion_origin`), and the variant is a field of the struct other than the tag
(`exists_field`). So every name in a conversion is the name of a declaration, of a field or of a type
parameter, and two conversions of a union are for different variants (`pairwise_variant_ne`).
-/

namespace TaggedUnion

open Source TaggedUnion.Types Syntax Program

/-- The fields of the struct that a declaration writes out. -/
def Subject.fieldsOf (s : Subject) (spec : TypeSpec) : List WrittenField :=
  match s.definition? spec.name.pos, spec.type with
  | some o, .struct _ _ groups _ => writtenFields groups ((o.type.struct? s.info.table).getD [])
  | _, _ => []

variable {s : Subject} {spec : TypeSpec} {u : Union} {table : TypeTable}

/-! ## The tag field -/

section Fields

variable {union : String} {tag : Option FieldHead} {fields : List WrittenField}

theorem findTag_some_eq_ok_iff {found : FieldHead} :
    findTag table union (some found) fields = .ok tag ↔
      fields.filter WrittenField.isTag = [] ∧ tag = some found := by
  induction fields with
  | nil =>
    rw [findTag, Except.ok.injEq, eq_comm, List.filter_nil]
    exact (and_iff_right rfl).symm
  | cons f rest ih =>
    rw [findTag]
    cases hf : f.isTag with
    | true => simp [hf]
    | false => simpa [hf] using ih

/-- There must be no tag field, or a single one that holds a string, wherever it stands. -/
theorem findTag_none_eq_ok_iff :
    findTag table union none fields = .ok tag ↔
      (fields.filter WrittenField.isTag = [] ∧ tag = none) ∨
        ∃ f, fields.filter WrittenField.isTag = [f] ∧ f.type.isString table = true ∧
          tag = some f.head := by
  induction fields with
  | nil =>
    rw [findTag, Except.ok.injEq, eq_comm]
    simp
  | cons f rest ih =>
    rw [findTag]
    cases hf : f.isTag with
    | true =>
      cases hs : f.type.isString table with
      | true => simp [hf, hs, findTag_some_eq_ok_iff]
      | false => simp [hf, hs]
    | false => simpa [hf] using ih

end Fields

/-! ## Unions -/

/-- The tag field of a union is the only one with the tag option, and its variants are the other fields
that have names. -/
theorem unionOf_eq_ok {o : Object} {fields : List WrittenField}
    (h : unionOf table spec o fields = .ok u) :
    (u.name = spec.name.name ∧ u.pos = o.pos ∧ u.params = spec.params) ∧
      (∃ f, fields.filter WrittenField.isTag = [f] ∧ f.type.isString table = true ∧ u.tag = f.head) ∧
      u.variants = variantsOf table fields := by
  rw [unionOf] at h
  cases htag : findTag table spec.name.name none fields with
  | error finding =>
    rw [htag] at h
    cases h
  | ok tag =>
    rw [htag] at h
    rcases findTag_none_eq_ok_iff.1 htag with ⟨-, rfl⟩ | ⟨f, hf, hstring, rfl⟩
    · -- Without a tag field there is no union.
      cases h
    · simp only [bind, Except.bind] at h
      split at h
      · cases h
      · cases h
        exact ⟨⟨rfl, rfl, rfl⟩, ⟨f, hf, hstring, rfl⟩, rfl⟩

/-- What a union takes over from its declaration. -/
theorem union_eq_ok (h : s.union spec = .ok u) :
    (u.name = spec.name.name ∧ u.params = spec.params) ∧
      (∃ f, (s.fieldsOf spec).filter WrittenField.isTag = [f] ∧
        f.type.isString s.info.table = true ∧ u.tag = f.head) ∧
      u.variants = variantsOf s.info.table (s.fieldsOf spec) := by
  rw [Subject.union] at h
  split at h
  · cases h
  · split at h
    · cases h
    · rename_i o ho
      split at h
      · rename_i groups _ htype
        have hfields : s.fieldsOf spec =
            writtenFields groups ((o.type.struct? s.info.table).getD []) := by
          rw [Subject.fieldsOf, ho, htype]
        obtain ⟨⟨hname, -, hparams⟩, htag, hvariants⟩ := unionOf_eq_ok h
        rw [hfields]
        exact ⟨⟨hname, hparams⟩, htag, hvariants⟩
      · cases h

/-- A declaration makes a union iff it is no alias and, among the fields that it writes out, there is a single
tag, which holds a string, and a variant. -/
theorem exists_union_eq_ok_iff :
    (∃ u, s.union spec = .ok u) ↔ spec.isAlias = false ∧
      (∃ f, (s.fieldsOf spec).filter WrittenField.isTag = [f] ∧ f.type.isString s.info.table = true) ∧
      variantsOf s.info.table (s.fieldsOf spec) ≠ [] := by
  have hof : ∀ (o : Object) (fields : List WrittenField), (∃ u, unionOf s.info.table spec o fields = .ok u) ↔
      (∃ f, fields.filter WrittenField.isTag = [f] ∧ f.type.isString s.info.table = true) ∧
        variantsOf s.info.table fields ≠ [] := by
    intro o fields
    constructor
    · rintro ⟨u, hu⟩
      obtain ⟨-, ⟨f, hf, hstring, -⟩, -⟩ := unionOf_eq_ok hu
      refine ⟨⟨f, hf, hstring⟩, fun hnil => ?_⟩
      simp [unionOf, findTag_none_eq_ok_iff.2 (.inr ⟨f, hf, hstring, rfl⟩), bind, Except.bind, hnil] at hu
    · rintro ⟨⟨f, hf, hstring⟩, hne⟩
      simp [unionOf, findTag_none_eq_ok_iff.2 (.inr ⟨f, hf, hstring, rfl⟩), bind, Except.bind, hne]
  -- Without an object or a struct there are no fields, so there is no tag.
  have hnone : ∀ finding : Finding, (∃ u : Union, Except.error finding = Except.ok u) ↔
      (∃ f : WrittenField, ([] : List WrittenField).filter WrittenField.isTag = [f] ∧
        f.type.isString s.info.table = true) ∧ variantsOf s.info.table [] ≠ [] := by simp
  rw [Subject.union, Subject.fieldsOf]
  cases spec.isAlias with
  | true => simp
  | false =>
    simp only [Bool.false_eq_true, if_false, true_and]
    cases s.definition? spec.name.pos with
    | none => exact hnone _
    | some o =>
      cases spec.type with
      | struct _ _ groups _ => exact hof o _
      | _ => exact hnone _

/-- A variant is a field of the struct that has a name and is not the tag. -/
theorem exists_field (h : s.union spec = .ok u) {v : Variant} (hv : v ∈ u.variants) :
    ∃ f ∈ s.fieldsOf spec, f.isTag = false ∧ f.head.name ≠ "_" ∧
      v = .ofField s.info.table (f.head, f.type) f.expr := by
  rw [(union_eq_ok h).2.2, variantsOf] at hv
  obtain ⟨f, hf, rfl⟩ := List.mem_map.1 hv
  obtain ⟨hmem, hpass⟩ := List.mem_filter.1 hf
  simp only [WrittenField.isBlank, Bool.and_eq_true, Bool.not_eq_true', beq_eq_false_iff_ne] at hpass
  exact ⟨f, hmem, hpass.1, hpass.2, rfl⟩

/-! ## Conversions -/

section Conversion

variable {c c' : Checking} {v : Variant} {vs : List Variant} {conversion : Conversion}

/-- What a conversion takes over from its variant. -/
structure Conversion.IsFor (u : Union) (conversion : Conversion) (v : Variant) : Prop where
  variant : conversion.variant = v.name
  shape : v.shape = .single conversion.accessor conversion.payload
  unwrap : conversion.unwrap = u.unwrapName v.name
  wrap : conversion.wrap = u.wrapName v.name
  pos : conversion.pos = v.pos

/-- A variant that passes makes a conversion for it, and it was admissible. -/
theorem isFor_of_checkVariant (h : checkVariant table u v c = (c', .ok conversion)) :
    conversion.IsFor u v ∧ Admissible table u c v conversion.payload ∧
      ∀ n, n ∈ c'.taken.names ↔ n ∈ u.conversionNames v ∨ n ∈ c.taken.names := by
  by_cases hadm : ∃ payload, Admissible table u c v payload
  · obtain ⟨payload, hadm⟩ := hadm
    obtain ⟨accessor, hshape⟩ := exists_shape_iff.2 hadm.shape
    obtain ⟨taken', htaken, hmem⟩ := takeNames_of_free (u := u) (v := v) hadm.nodup hadm.free
    rw [Union.conversionNames] at htaken
    rw [checkVariant_of_single hadm.known hshape, convert, Index.put_of_forall v hadm.fresh] at h
    simp only [htaken, Prod.mk.injEq, Except.ok.injEq] at h
    obtain ⟨rfl, rfl⟩ := h
    exact ⟨⟨rfl, hshape, rfl, rfl, rfl⟩, hadm, hmem⟩
  · obtain ⟨finding, hfinding⟩ := checkVariant_of_not_admissible fun payload h => hadm ⟨payload, h⟩
    rw [h] at hfinding
    cases hfinding

/-- Taking names gives none back. -/
theorem subset_takeNames (u : Union) (v : Variant) (taken : TakenNames) (names : List String) :
    taken.names ⊆ (takeNames u v taken names).1.names := by
  induction names generalizing taken with
  | nil => exact List.Subset.refl _
  | cons name rest ih =>
    rw [takeNames]
    by_cases hmem : name ∈ taken.names
    · obtain ⟨previous, hprev⟩ := Name.Reserved.reserve_of_mem v.pos hmem
      rw [hprev]
      exact List.Subset.refl _
    · rw [Name.Reserved.reserve_of_not_mem v.pos hmem]
      exact List.Subset.trans (List.subset_cons_self _ _) (ih ⟨(name, v.pos) :: taken.entries⟩)

/-- No check gives a name back, whether the variant passes or not. -/
theorem subset_checkVariant (table : TypeTable) (u : Union) (v : Variant) (c : Checking) :
    c.taken.names ⊆ (checkVariant table u v c).1.taken.names := by
  rw [checkVariant]
  split
  · exact List.Subset.refl _
  · exact List.Subset.refl _
  · exact List.Subset.refl _
  · rename_i payload _ _
    rw [convert]
    cases c.payloads.put table payload v with
    | error earlier => exact List.Subset.refl _
    | ok payloads =>
      have hsub := subset_takeNames u v c.taken [u.unwrapName v.name, u.wrapName v.name]
      cases htaken : takeNames u v c.taken [u.unwrapName v.name, u.wrapName v.name] with
      | mk taken finding =>
        rw [htaken] at hsub
        simp only [htaken]
        cases finding <;> exact hsub

theorem mem_of_passed {outcomes : List (Except Finding Conversion)} (h : conversion ∈ passed outcomes) :
    .ok conversion ∈ outcomes := by
  obtain ⟨outcome, hmem, hpass⟩ := List.mem_filterMap.1 h
  cases outcome with
  | error finding => cases hpass
  | ok _ =>
    cases hpass
    exact hmem

/-- The conversions that variants make are for these, and none of their names was taken before. -/
theorem isFor_of_checkVariants (h : .ok conversion ∈ (checkVariants table u c vs).2) :
    ∃ v ∈ vs, conversion.IsFor u v ∧ u.unwrapName v.name ∉ c.taken.names := by
  induction vs generalizing c with
  | nil => exact absurd h List.not_mem_nil
  | cons v rest ih =>
    rw [checkVariants] at h
    rcases List.mem_cons.1 h with heq | hmem
    · obtain ⟨hfor, hadm, -⟩ := isFor_of_checkVariant (c := c) (Prod.ext rfl heq.symm)
      exact ⟨v, List.mem_cons_self, hfor, hadm.free _ List.mem_cons_self⟩
    · obtain ⟨w, hw, hfor, hfree⟩ := ih hmem
      exact ⟨w, List.mem_cons_of_mem _ hw, hfor, fun hin => hfree (subset_checkVariant table u v c hin)⟩

/-- No two conversions of a union are for variants of one name: the second would have to take the same
names. -/
theorem pairwise_of_checkVariants (table : TypeTable) (u : Union) (c : Checking) (vs : List Variant) :
    (passed (checkVariants table u c vs).2).Pairwise fun a b => a.variant ≠ b.variant := by
  induction vs generalizing c with
  | nil => exact List.Pairwise.nil
  | cons v rest ih =>
    have hrest := ih (checkVariant table u v c).1
    rw [checkVariants]
    cases hout : checkVariant table u v c with
    | mk c' outcome =>
      rw [hout] at hrest
      cases outcome with
      | error finding => exact hrest
      | ok conversion =>
        obtain ⟨hfor, -, htaken⟩ := isFor_of_checkVariant hout
        refine List.pairwise_cons.2 ⟨fun b hb heq => ?_, hrest⟩
        -- A later conversion for a variant of the same name found the names taken.
        obtain ⟨w, -, hforw, hfree⟩ := isFor_of_checkVariants (mem_of_passed hb)
        refine hfree ((htaken _).2 (.inl ?_))
        rw [← hforw.variant, ← heq, hfor.variant]
        exact List.mem_cons_self

end Conversion

section Check

variable {limit : Option Nat} {taken : TakenNames} {c : Conversion}

/-- The variants that are checked are variants of the union that are not skipped. -/
theorem mem_wanted_of_limit {v : Variant}
    (h : v ∈ (match limit with
      | none => u.wanted
      | some n => u.wanted.take (max n 1))) : v ∈ u.wanted := by
  cases limit with
  | none => exact h
  | some n => exact List.mem_of_mem_take h

/-- A conversion of a union is for a variant of it. -/
theorem conversion_origin (h : .ok c ∈ (u.check table limit taken).2) :
    ∃ v ∈ u.wanted, c.IsFor u v := by
  obtain ⟨v, hv, hfor, -⟩ := isFor_of_checkVariants h
  exact ⟨v, mem_wanted_of_limit hv, hfor⟩

/-- The conversions of a union are for different variants. -/
theorem pairwise_variant_ne (table : TypeTable) (u : Union) (limit : Option Nat) (taken : TakenNames) :
    (passed (u.check table limit taken).2).Pairwise fun a b => a.variant ≠ b.variant :=
  pairwise_of_checkVariants table u _ _

/-- The variant of a conversion is a field of the struct that has a name and is not the tag. -/
theorem conversion_field (hu : s.union spec = .ok u)
    (hc : .ok c ∈ (u.check s.info.table limit taken).2) :
    ∃ f ∈ s.fieldsOf spec, f.isTag = false ∧ f.head.name ≠ "_" ∧ c.variant = f.head.name ∧
      Shape.ofType s.info.table f.type = .single c.accessor c.payload := by
  obtain ⟨v, hv, hfor⟩ := conversion_origin hc
  obtain ⟨f, hf, htag, hblank, rfl⟩ := exists_field hu (List.mem_filter.1 hv).1
  exact ⟨f, hf, htag, hblank, hfor.variant, hfor.shape⟩

end Check

end TaggedUnion
