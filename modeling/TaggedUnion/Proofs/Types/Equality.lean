import TaggedUnion.Types.Index

/-!
# Equality of types

The test for equality of types as trees is equality (`beq_iff`), by recursion on both of them. So
identity of types, which is equality of normal forms, is an equivalence, and it does not matter in
which order an index asks for it (`identical_comm`).
-/

namespace TaggedUnion.Types.Ty

mutual

theorem beq_iff : ∀ t u : Ty, t.beq u = true ↔ t = u
  | basic _, u => by cases u <;> simp [beq]
  | pointer a, u => by cases u <;> simp [beq, beq_iff a]
  | slice a, u => by cases u <;> simp [beq, beq_iff a]
  | array _ a, u => by cases u <;> simp [beq, beq_iff a]
  | map k a, u => by cases u <;> simp [beq, beq_iff k, beq_iff a]
  | chan _ a, u => by cases u <;> simp [beq, beq_iff a]
  | func g p r _, u => by
    cases u <;> simp [beq, beqGroups_iff g, beqParams_iff p, beqParams_iff r, and_assoc]
  | struct fs, u => by cases u <;> simp [beq, beqFields_iff fs]
  | interface ms es _, u => by cases u <;> simp [beq, beqMethods_iff ms, beqAll_iff es, and_assoc]
  | union ts, u => by cases u <;> simp [beq, beqTerms_iff ts]
  | named _ g as, u => by cases u <;> simp [beq, beqGroups_iff g, beqAll_iff as, and_assoc]
  | synonym _ g as t, u => by
    cases u <;> simp [beq, beqGroups_iff g, beqAll_iff as, beq_iff t, and_assoc]
  | param _ _, u => by cases u <;> simp [beq]
termination_by structural t => t

theorem beqAll_iff : ∀ ts us : List Ty, beq.beqAll ts us = true ↔ ts = us
  | [], us => by cases us <;> simp [beq.beqAll]
  | t :: ts, us => by cases us <;> simp [beq.beqAll, beq_iff t, beqAll_iff ts]
termination_by structural ts => ts

theorem beqGroups_iff : ∀ ts us : List (List ParamDecl × Ty), beq.beqGroups ts us = true ↔ ts = us
  | [], us => by cases us <;> simp [beq.beqGroups]
  | (n, t) :: ts, us => by
    cases us <;> simp [beq.beqGroups, beq_iff t, beqGroups_iff ts, Prod.ext_iff, and_assoc]
termination_by structural ts => ts

theorem beqParams_iff : ∀ ts us : List (String × Ty), beq.beqParams ts us = true ↔ ts = us
  | [], us => by cases us <;> simp [beq.beqParams]
  | (n, t) :: ts, us => by
    cases us <;> simp [beq.beqParams, beq_iff t, beqParams_iff ts, Prod.ext_iff, and_assoc]
termination_by structural ts => ts

theorem beqFields_iff : ∀ ts us : List (FieldHead × Ty), beq.beqFields ts us = true ↔ ts = us
  | [], us => by cases us <;> simp [beq.beqFields]
  | (n, t) :: ts, us => by
    cases us <;> simp [beq.beqFields, beq_iff t, beqFields_iff ts, Prod.ext_iff, and_assoc]
termination_by structural ts => ts

theorem beqMethods_iff : ∀ ts us : List (MethodHead × Ty), beq.beqMethods ts us = true ↔ ts = us
  | [], us => by cases us <;> simp [beq.beqMethods]
  | (n, t) :: ts, us => by
    cases us <;> simp [beq.beqMethods, beq_iff t, beqMethods_iff ts, Prod.ext_iff, and_assoc]
termination_by structural ts => ts

theorem beqTerms_iff : ∀ ts us : List (Bool × Ty), beq.beqTerms ts us = true ↔ ts = us
  | [], us => by cases us <;> simp [beq.beqTerms]
  | (n, t) :: ts, us => by
    cases us <;> simp [beq.beqTerms, beq_iff t, beqTerms_iff ts, Prod.ext_iff, and_assoc]
termination_by structural ts => ts

end

instance : LawfulBEq Ty where
  eq_of_beq h := (beq_iff _ _).1 h
  rfl := (beq_iff _ _).2 rfl

instance : DecidableEq Ty := instDecidableEqOfLawfulBEq

/-! ## Identity -/

variable (table : TypeTable) (t u : Ty)

/-- Types are identical iff they have one normal form. -/
theorem identical_iff : t.identical table u = true ↔ t.normal table = u.normal table := by
  rw [identical, beq_iff_eq]

theorem identical_comm : t.identical table u = u.identical table t := by
  rw [Bool.eq_iff_iff, identical_iff, identical_iff, eq_comm]

variable {table t u}

/-- Identical types are identical to the same types. -/
theorem identical_congr (h : t.identical table u = true) (v : Ty) :
    v.identical table t = v.identical table u := by
  rw [identical, identical, (identical_iff table t u).1 h]

end TaggedUnion.Types.Ty

namespace TaggedUnion.Types.Index

variable {α : Type} {table : TypeTable} {index : Index α} {t : Ty}

/-- A value can be added iff no type in the index is identical to the given one. -/
theorem put_of_forall (value : α) (h : ∀ e ∈ index.entries, e.1.identical table t = false) :
    index.put table t value = .ok ⟨(t, value) :: index.entries⟩ := by
  have hnone : index.find? table t = none := by
    rw [find?, Option.map_eq_none_iff, List.find?_eq_none]
    intro e he
    rw [h e he]
    exact Bool.false_ne_true
  rw [put, hnone]

theorem put_of_exists (value : α) (h : ∃ e ∈ index.entries, e.1.identical table t = true) :
    ∃ old, index.put table t value = .error old := by
  obtain ⟨e, he, hid⟩ := h
  have hsome : (index.find? table t).isSome = true := by
    rw [find?, Option.isSome_map, List.find?_isSome]
    exact ⟨e, he, hid⟩
  obtain ⟨old, hold⟩ := Option.isSome_iff_exists.1 hsome
  exact ⟨old, by rw [put, hold]⟩

/-- A value that is added is found from then on under all types identical to its own. -/
theorem find?_cons (index : Index α) (t u : Ty) (value : α) :
    find? table ⟨(t, value) :: index.entries⟩ u =
      if t.identical table u then some value else index.find? table u := by
  rw [find?, find?, List.find?_cons]
  cases t.identical table u <;> rfl

end TaggedUnion.Types.Index
