import Mathlib.Data.List.Forall2
import TaggedUnion.Program.Check

/-!
# What computations ensure

Computations that ask for declarations pass on a store, whether they fail or not. `Ensures I Q m` says that
`m` keeps the invariant `I` of the store, and that a result of it is one of `Q`. It goes through computations
step by step: `Ensures.bind` for one after the other, `Ensures.mapM` for one for each member of a list.
-/

namespace TaggedUnion.Program

/-- From a store with the invariant `I` a computation leaves one with the invariant, and if it has a result,
that is one of `Q`. -/
def Ensures {α : Type} (I : Store → Prop) (Q : α → Prop) (m : Check α) : Prop :=
  ∀ σ, I σ → I (m.run.run σ).2 ∧ ∀ a, (m.run.run σ).1 = .ok a → Q a

/-- From a store with the invariant a computation has no results but those of `Q`. -/
def Returns {α : Type} (I : Store → Prop) (Q : α → Prop) (m : Check α) : Prop :=
  ∀ σ, I σ → ∀ a, (m.run.run σ).1 = .ok a → Q a

/-- Any store. -/
abbrev anyStore (_ : Store) : Prop := True

/-- Each member of the second of two related lists is related to one of the first. -/
theorem exists_related {α β : Type} {S : α → β → Prop} {as : List α} {bs : List β}
    (h : List.Forall₂ S as bs) : ∀ b ∈ bs, ∃ a ∈ as, S a b := by
  induction h with
  | nil => exact nofun
  | @cons a b _ _ hab _ ih =>
    refine List.forall_mem_cons.2 ⟨⟨a, List.mem_cons_self, hab⟩, fun c hc => ?_⟩
    obtain ⟨a', ha', hrel⟩ := ih c hc
    exact ⟨a', List.mem_cons_of_mem _ ha', hrel⟩

/-- Each member of the first of two related lists stands next to one of the second that it is related to. -/
theorem exists_mem_zip {α β : Type} {S : α → β → Prop} {as : List α} {bs : List β}
    (h : List.Forall₂ S as bs) : ∀ a ∈ as, ∃ b, (a, b) ∈ as.zip bs ∧ S a b := by
  induction h with
  | nil => exact nofun
  | @cons a b _ _ hab _ ih =>
    refine List.forall_mem_cons.2 ⟨⟨b, List.mem_cons_self, hab⟩, fun c hc => ?_⟩
    obtain ⟨d, hd, hrel⟩ := ih c hc
    exact ⟨d, List.mem_cons_of_mem _ hd, hrel⟩

/-- What is the same for related members is the same for all of them together. -/
theorem flatMap_eq_of_related {α β γ : Type} {S : α → β → Prop} {as : List α} {bs : List β}
    {f : α → List γ} {g : β → List γ} (h : List.Forall₂ S as bs) (hfg : ∀ a b, S a b → g b = f a) :
    bs.flatMap g = as.flatMap f := by
  induction h with
  | nil => rfl
  | cons hab _ ih => rw [List.flatMap_cons, List.flatMap_cons, hfg _ _ hab, ih]

/-! ## Runs -/

theorem run_bind {α β : Type} (m : Check α) (f : α → Check β) (σ : Store) :
    (m >>= f).run.run σ = match m.run.run σ with
      | (.ok a, τ) => (f a).run.run τ
      | (.error e, τ) => (.error e, τ) := by
  rw [ExceptT.run_bind, StateT.run_bind]
  rcases m.run.run σ with ⟨_ | _, _⟩ <;> rfl

theorem run_tryCatch {α : Type} (m : Check α) (g : Trouble → Check α) (σ : Store) :
    (tryCatch m g : Check α).run.run σ = match m.run.run σ with
      | (.ok a, τ) => (.ok a, τ)
      | (.error e, τ) => (g e).run.run τ := by
  rw [ExceptT.run_tryCatch, StateT.run_bind]
  rcases m.run.run σ with ⟨_ | _, _⟩ <;> rfl

/-! ## Steps -/

section

variable {α β : Type} {I : Store → Prop} {P : α → Prop} {Q R : β → Prop} {m : Check α}
  {f : α → Check β}

theorem Ensures.pure {a : α} (h : P a) : Ensures I P (pure a : Check α) := by
  refine fun _ hσ => ⟨hσ, ?_⟩
  rintro _ ⟨⟩
  exact h

theorem Ensures.throw {e : Trouble} : Ensures I P (throw e : Check α) :=
  fun _ hσ => ⟨hσ, nofun⟩

/-- What follows a computation starts with its result. -/
theorem Ensures.bind (hm : Ensures I P m) (hf : ∀ a, P a → Ensures I Q (f a)) :
    Ensures I Q (m >>= f) := by
  intro σ hσ
  obtain ⟨hkept, hresult⟩ := hm σ hσ
  rw [run_bind]
  rcases hrun : m.run.run σ with ⟨_ | a, τ⟩ <;> rw [hrun] at hkept hresult
  · exact ⟨hkept, nofun⟩
  · exact hf a (hresult a rfl) τ hkept

/-- Nothing follows a failure. -/
theorem Ensures.throw_bind {e : Trouble} : Ensures I Q ((MonadExcept.throw e : Check α) >>= f) :=
  .bind (P := fun _ => False) .throw fun _ h => h.elim

/-- What fails in one way can go on in another. -/
theorem Ensures.tryCatch {g : Trouble → Check α} (hm : Ensures I P m) (hg : ∀ e, Ensures I P (g e)) :
    Ensures I P (tryCatch m g) := by
  intro σ hσ
  obtain ⟨hkept, hresult⟩ := hm σ hσ
  rw [run_tryCatch]
  rcases hrun : m.run.run σ with ⟨e | a, τ⟩ <;> rw [hrun] at hkept hresult
  · exact hg e τ hkept
  · exact ⟨hkept, hresult⟩

/-- Looking at the store changes nothing. -/
theorem Ensures.get {g : Store → Check α} (hg : ∀ σ, I σ → Ensures I P (g σ)) :
    Ensures I P (get >>= g) :=
  fun σ hσ => hg σ hσ σ hσ

theorem Ensures.set {τ : Store} (h : I τ) : Ensures I (fun _ => True) (set τ : Check PUnit) :=
  fun _ _ => ⟨h, fun _ _ => trivial⟩

theorem Ensures.modify {g : Store → Store} (h : ∀ σ, I σ → I (g σ)) :
    Ensures I (fun _ => True) (modify g : Check PUnit) :=
  fun σ hσ => ⟨h σ hσ, fun _ _ => trivial⟩

theorem Ensures.imp {n : Check β} (h : Ensures I Q n) (hQ : ∀ b, Q b → R b) : Ensures I R n :=
  fun σ hσ => ⟨(h σ hσ).1, fun b hb => hQ b ((h σ hσ).2 b hb)⟩

/-- Of a store of which nothing is known, nothing has to be kept. -/
theorem ensures_any {m : Check α} : Ensures anyStore (fun _ => True) m :=
  fun _ _ => ⟨trivial, fun _ _ => trivial⟩

/-- What comes first need not matter to the rest. -/
theorem Ensures.skip (hf : ∀ a, Ensures anyStore Q (f a)) : Ensures anyStore Q (m >>= f) :=
  ensures_any.bind fun a _ => hf a

/-- A computation for each member of a list relates the members to the results. -/
theorem Ensures.mapM {S : α → β → Prop} {as : List α} (h : ∀ a ∈ as, Ensures I (S a) (f a)) :
    Ensures I (List.Forall₂ S as) (as.mapM f) := by
  induction as with
  | nil => exact .pure .nil
  | cons a as ih =>
    rw [List.mapM_cons]
    refine (h a List.mem_cons_self).bind fun b hb => ?_
    exact (ih fun a ha => h a (List.mem_cons_of_mem _ ha)).bind fun bs hbs => .pure (.cons hb hbs)

/-- What each computation ensures holds of all results. -/
theorem Ensures.mapM_all {as : List α} (h : ∀ a ∈ as, Ensures I Q (f a)) :
    Ensures I (fun bs => ∀ b ∈ bs, Q b) (as.mapM f) :=
  (Ensures.mapM (S := fun _ b => Q b) h).imp fun _ hall b hb => (exists_related hall b hb).elim fun _ hb => hb.2

/-- A computation for each member of a list relates the members to the results, of which those are kept that there
are. -/
theorem Ensures.filterMapM_related {S : α → Option β → Prop} {g : α → Check (Option β)} {as : List α}
    (h : ∀ a ∈ as, Ensures I (S a) (g a)) :
    Ensures I (fun bs => ∃ results, List.Forall₂ S as results ∧ bs = results.filterMap id) (as.filterMapM g) := by
  induction as with
  | nil => exact .pure ⟨[], .nil, rfl⟩
  | cons a as ih =>
    have hrest := ih fun a ha => h a (List.mem_cons_of_mem _ ha)
    rw [List.filterMapM_cons]
    refine (h a List.mem_cons_self).bind fun b? hb? => ?_
    cases b? with
    | none => exact hrest.imp fun bs ⟨results, hrelated, hbs⟩ => ⟨none :: results, .cons hb? hrelated, hbs⟩
    | some b =>
      refine hrest.bind fun bs ⟨results, hrelated, hbs⟩ => .pure ⟨some b :: results, .cons hb? hrelated, ?_⟩
      rw [hbs]
      rfl

/-- What is kept of a computation for each member of a list comes from a member. -/
theorem Ensures.filterMapM {S : α → β → Prop} {g : α → Check (Option β)} {as : List α}
    (h : ∀ a ∈ as, Ensures I (fun b? => ∀ b, b? = some b → S a b) (g a)) :
    Ensures I (fun bs => ∀ b ∈ bs, ∃ a ∈ as, S a b) (as.filterMapM g) := by
  refine (Ensures.filterMapM_related h).imp ?_
  rintro _ ⟨results, hrelated, rfl⟩ b hb
  obtain ⟨b?, hb?, rfl⟩ := List.mem_filterMap.1 hb
  obtain ⟨a, ha, hrel⟩ := exists_related hrelated _ hb?
  exact ⟨a, ha, hrel b rfl⟩

/-- What comes last need not keep the invariant. -/
theorem Ensures.returns (h : Ensures anyStore P m) : Returns I P m :=
  fun σ _ => (h σ trivial).2

theorem Ensures.bindReturns (hm : Ensures I P m) (hf : ∀ a, P a → Returns I Q (f a)) :
    Returns I Q (m >>= f) := by
  intro σ hσ b h
  obtain ⟨hkept, hresult⟩ := hm σ hσ
  rw [run_bind] at h
  rcases hrun : m.run.run σ with ⟨_ | a, τ⟩ <;> rw [hrun] at h hkept hresult
  · cases h
  · exact hf a (hresult a rfl) τ hkept b h

end

end TaggedUnion.Program
