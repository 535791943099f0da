import TaggedUnion.Types.Identity

/-!
# Codes of types

The code of a type can be read back: what a list of numbers starts with is the code of one type at most, and the rest of
the list is determined too (`code_append_inj`). Codes are totally ordered, so terms are, and sorting them forgets their
order and nothing else (`mergeSort_terms_iff`).
-/

namespace TaggedUnion.Types

open Source

section

variable {r s : List Nat}

theorem textCode_append_inj {a b : String} : textCode a ++ r = textCode b ++ s ↔ a = b ∧ r = s := by
  constructor
  · intro h
    rw [textCode, textCode, List.cons_append, List.cons_append, List.cons.injEq] at h
    obtain ⟨hlength, happend⟩ := h
    have hlist : (a.toList.map Char.toNat).length = (b.toList.map Char.toNat).length := by
      rwa [List.length_map, List.length_map, String.length_toList, String.length_toList]
    obtain ⟨hchars, hrest⟩ := List.append_inj happend hlist
    have hinj : ∀ c d : Char, c.toNat = d.toNat → c = d := fun c d hcd => by
      rw [← Char.ofNat_toNat c, hcd, Char.ofNat_toNat]
    exact ⟨String.toList_inj.1 ((List.map_inj_right hinj).1 hchars), hrest⟩
  · rintro ⟨rfl, rfl⟩
    rfl

theorem bytesCode_append_inj {a b : Text.Bytes} : bytesCode a ++ r = bytesCode b ++ s ↔ a = b ∧ r = s := by
  constructor
  · intro h
    rw [bytesCode, bytesCode, List.cons_append, List.cons_append, List.cons.injEq] at h
    obtain ⟨hlength, happend⟩ := h
    obtain ⟨hbytes, hrest⟩ := List.append_inj happend (by rwa [List.length_map, List.length_map])
    exact ⟨(List.map_inj_right fun _ _ => UInt8.toNat_inj.1).1 hbytes, hrest⟩
  · rintro ⟨rfl, rfl⟩
    rfl

theorem toNat_inj {a b : Bool} : a.toNat = b.toNat ↔ a = b := by
  cases a <;> cases b <;> decide

theorem TypeName.code_append_inj {a b : TypeName} : a.code ++ r = b.code ++ s ↔ a = b ∧ r = s := by
  obtain ⟨_, _, _⟩ := a
  obtain ⟨_, _, _⟩ := b
  simp [TypeName.code, textCode_append_inj, and_assoc]

theorem FieldHead.code_append_inj {a b : FieldHead} : a.code ++ r = b.code ++ s ↔ a = b ∧ r = s := by
  obtain ⟨_, _, _, _, _⟩ := a
  obtain ⟨_, _, _, _, _⟩ := b
  simp [FieldHead.code, textCode_append_inj, bytesCode_append_inj, toNat_inj, and_assoc]

theorem MethodHead.code_append_inj {a b : MethodHead} : a.code ++ r = b.code ++ s ↔ a = b ∧ r = s := by
  obtain ⟨_, _⟩ := a
  obtain ⟨_, _⟩ := b
  simp [MethodHead.code, textCode_append_inj, and_assoc]

theorem Direction.code_inj {a b : Direction} : a.code = b.code ↔ a = b := by
  cases a <;> cases b <;> decide

theorem paramsCode_append_inj {as bs : List ParamDecl} : paramsCode as ++ r = paramsCode bs ++ s ↔ as = bs ∧ r = s := by
  induction as generalizing bs with
  | nil => cases bs <;> simp [paramsCode]
  | cons a as ih =>
    cases bs with
    | nil => simp [paramsCode]
    | cons b bs =>
      obtain ⟨_, _⟩ := a
      obtain ⟨_, _⟩ := b
      simp [paramsCode, textCode_append_inj, ih, and_assoc]

end

namespace Ty

mutual

theorem code_append_inj : ∀ (t u : Ty) (r s : List Nat), t.code ++ r = u.code ++ s ↔ t = u ∧ r = s
  | basic _, u, _, _ => by cases u <;> simp [code, textCode_append_inj]
  | pointer t, u, _, _ => by cases u <;> simp [code, code_append_inj t]
  | slice t, u, _, _ => by cases u <;> simp [code, code_append_inj t]
  | array _ t, u, _, _ => by cases u <;> simp [code, code_append_inj t, and_assoc]
  | map k t, u, _, _ => by cases u <;> simp [code, code_append_inj k, code_append_inj t, and_assoc]
  | chan _ t, u, _, _ => by cases u <;> simp [code, code_append_inj t, Direction.code_inj, and_assoc]
  | func g p q _, u, _, _ => by
    cases u <;> simp [code, codeGroups_append_inj g, codeParams_append_inj p, codeParams_append_inj q, toNat_inj]
    grind
  | struct fs, u, _, _ => by cases u <;> simp [code, codeFields_append_inj fs]
  | interface ms es _, u, _, _ => by
    cases u <;> simp [code, codeMethods_append_inj ms, codeAll_append_inj es, toNat_inj]
    grind
  | union ts, u, _, _ => by cases u <;> simp [code, codeTerms_append_inj ts]
  | named _ g as, u, _, _ => by
    cases u <;> simp [code, TypeName.code_append_inj, codeGroups_append_inj g, codeAll_append_inj as, and_assoc]
  | synonym _ g as t, u, _, _ => by
    cases u <;>
      simp [code, TypeName.code_append_inj, codeGroups_append_inj g, codeAll_append_inj as, code_append_inj t,
        and_assoc]
  | param _ _, u, _, _ => by
    cases u <;> simp [code, textCode_append_inj]
    grind
termination_by structural t => t

theorem codeAll_append_inj : ∀ (ts us : List Ty) (r s : List Nat),
    code.codeAll ts ++ r = code.codeAll us ++ s ↔ ts = us ∧ r = s
  | [], us, _, _ => by cases us <;> simp [code.codeAll]
  | t :: ts, us, _, _ => by cases us <;> simp [code.codeAll, code_append_inj t, codeAll_append_inj ts, and_assoc]
termination_by structural ts => ts

theorem codeGroups_append_inj : ∀ (ts us : List (List ParamDecl × Ty)) (r s : List Nat),
    code.codeGroups ts ++ r = code.codeGroups us ++ s ↔ ts = us ∧ r = s
  | [], us, _, _ => by cases us <;> simp [code.codeGroups]
  | (_, t) :: ts, us, _, _ => by
    cases us <;> simp [code.codeGroups, paramsCode_append_inj, code_append_inj t, codeGroups_append_inj ts,
      Prod.ext_iff, and_assoc]
termination_by structural ts => ts

theorem codeParams_append_inj : ∀ (ts us : List (String × Ty)) (r s : List Nat),
    code.codeParams ts ++ r = code.codeParams us ++ s ↔ ts = us ∧ r = s
  | [], us, _, _ => by cases us <;> simp [code.codeParams]
  | (_, t) :: ts, us, _, _ => by
    cases us <;> simp [code.codeParams, textCode_append_inj, code_append_inj t, codeParams_append_inj ts, Prod.ext_iff,
      and_assoc]
termination_by structural ts => ts

theorem codeFields_append_inj : ∀ (ts us : List (FieldHead × Ty)) (r s : List Nat),
    code.codeFields ts ++ r = code.codeFields us ++ s ↔ ts = us ∧ r = s
  | [], us, _, _ => by cases us <;> simp [code.codeFields]
  | (_, t) :: ts, us, _, _ => by
    cases us <;> simp [code.codeFields, FieldHead.code_append_inj, code_append_inj t, codeFields_append_inj ts,
      Prod.ext_iff, and_assoc]
termination_by structural ts => ts

theorem codeMethods_append_inj : ∀ (ts us : List (MethodHead × Ty)) (r s : List Nat),
    code.codeMethods ts ++ r = code.codeMethods us ++ s ↔ ts = us ∧ r = s
  | [], us, _, _ => by cases us <;> simp [code.codeMethods]
  | (_, t) :: ts, us, _, _ => by
    cases us <;> simp [code.codeMethods, MethodHead.code_append_inj, code_append_inj t, codeMethods_append_inj ts,
      Prod.ext_iff, and_assoc]
termination_by structural ts => ts

theorem codeTerms_append_inj : ∀ (ts us : List (Bool × Ty)) (r s : List Nat),
    code.codeTerms ts ++ r = code.codeTerms us ++ s ↔ ts = us ∧ r = s
  | [], us, _, _ => by cases us <;> simp [code.codeTerms]
  | (_, t) :: ts, us, _, _ => by
    cases us <;> simp [code.codeTerms, toNat_inj, code_append_inj t, codeTerms_append_inj ts, Prod.ext_iff, and_assoc]
termination_by structural ts => ts

end

theorem code_inj {t u : Ty} : t.code = u.code ↔ t = u := by
  have h := code_append_inj t u [] []
  rwa [List.append_nil, List.append_nil, and_iff_left rfl] at h

end Ty

/-! ## The order of codes -/

section

variable {as bs cs : List Nat}

theorem codeLe_cons_iff {a b : Nat} : codeLe (a :: as) (b :: bs) = true ↔ a < b ∨ a = b ∧ codeLe as bs = true := by
  simp [codeLe]

theorem codeLe_trans (h : codeLe as bs = true) (h' : codeLe bs cs = true) : codeLe as cs = true := by
  induction as generalizing bs cs with
  | nil => rfl
  | cons a as ih =>
    cases bs with
    | nil => cases h
    | cons b bs =>
      cases cs with
      | nil => cases h'
      | cons c cs =>
        rw [codeLe_cons_iff] at h h' ⊢
        rcases h with h | ⟨rfl, h⟩ <;> rcases h' with h' | ⟨rfl, h'⟩
        · exact .inl (Nat.lt_trans h h')
        · exact .inl h
        · exact .inl h'
        · exact .inr ⟨rfl, ih h h'⟩

theorem codeLe_total (as bs : List Nat) : (codeLe as bs || codeLe bs as) = true := by
  rw [Bool.or_eq_true]
  induction as generalizing bs with
  | nil => exact .inl rfl
  | cons a as ih =>
    cases bs with
    | nil => exact .inr rfl
    | cons b bs =>
      rw [codeLe_cons_iff, codeLe_cons_iff]
      rcases Nat.lt_trichotomy a b with h | rfl | h
      · exact .inl (.inl h)
      · exact (ih bs).imp (fun h => .inr ⟨rfl, h⟩) fun h => .inr ⟨rfl, h⟩
      · exact .inr (.inl h)

theorem codeLe_antisymm (h : codeLe as bs = true) (h' : codeLe bs as = true) : as = bs := by
  induction as generalizing bs with
  | nil =>
    cases bs with
    | nil => rfl
    | cons b bs => cases h'
  | cons a as ih =>
    cases bs with
    | nil => cases h
    | cons b bs =>
      rw [codeLe_cons_iff] at h h'
      rcases h with h | ⟨rfl, h⟩
      · omega
      · rw [ih h (h'.resolve_left (Nat.lt_irrefl a)).2]

end

/-! ## The order of terms -/

namespace Demand

theorem termLe_trans (a b c : Term) (hab : termLe a b = true) (hbc : termLe b c = true) : termLe a c = true :=
  codeLe_trans hab hbc

theorem termLe_total (a b : Term) : (termLe a b || termLe b a) = true :=
  codeLe_total _ _

theorem termLe_antisymm {a b : Term} (hab : termLe a b = true) (hba : termLe b a = true) : a = b := by
  have heq := codeLe_antisymm hab hba
  rw [List.cons.injEq, toNat_inj, Ty.code_inj] at heq
  exact Prod.ext heq.1 heq.2

/-- Terms are the same after sorting iff they were up to their order. -/
theorem mergeSort_terms_iff {as bs : List Term} : as.mergeSort termLe = bs.mergeSort termLe ↔ as.Perm bs := by
  constructor
  · intro h
    exact (List.mergeSort_perm as termLe).symm.trans (h ▸ List.mergeSort_perm bs termLe)
  · intro h
    have hperm := (List.mergeSort_perm as termLe).trans (h.trans (List.mergeSort_perm bs termLe).symm)
    exact hperm.eq_of_pairwise (fun _ _ _ _ => termLe_antisymm) (List.pairwise_mergeSort termLe_trans termLe_total as)
      (List.pairwise_mergeSort termLe_trans termLe_total bs)

end Demand

end TaggedUnion.Types
