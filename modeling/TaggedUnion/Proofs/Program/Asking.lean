import TaggedUnion.Proofs.Program.Evaluation

/-!
# Answers to questions

What holds of each answer that a declaration gives, given that it holds of the answers to what the declaration
asks for itself, holds of every answer (`ensures_ask`). The store remembers answers, so this takes an invariant of
the store: all answers that have been found are of the kind (`Store.Answers`).
-/

namespace TaggedUnion.Program

open Source TaggedUnion.Types Syntax

variable {α β : Type} {A : Key → Answer → Prop}

/-! ## Declarations -/

section

variable (s : Site) {ask : Ask} (hask : AskKeeps A ask)

include hask

@[grind ←]
theorem keeps_boundGroups (params : List ParamDecl) (bound : Ty) :
    Keeps A (boundGroups s ask params bound) := by
  unfold boundGroups
  grind

@[grind ←]
theorem keeps_genericsOf (groups : List (GroupHead × Expr)) : Keeps A (genericsOf s ask groups) := by
  unfold genericsOf
  grind

omit hask in
@[grind ←]
theorem keeps_checkNames (others : List String) (params results : List (String × Ty)) :
    Keeps A (checkNames others params results) := by
  unfold checkNames
  grind

@[grind ←]
theorem keeps_funcType (spec : FuncSpec) : Keeps A (funcType s ask spec) := by
  unfold funcType
  grind

@[grind ←]
theorem keeps_shareOf (type : Option Ty) (x : Operand) (part : Option (Nat × Nat)) :
    Keeps A (shareOf s ask type x part) := by
  unfold shareOf
  grind

@[grind ←]
theorem keeps_initialValue (type : Option Ty) (value : Option Expr) (part : Option (Nat × Nat)) :
    Keeps A (initialValue s ask type value part) := by
  have hoperand := fun x => keeps_operand s hask x none
  unfold initialValue
  grind

@[grind ←]
theorem keeps_varType (type value : Option Expr) (part : Option (Nat × Nat)) :
    Keeps A (varType s ask type value part) := by
  unfold varType
  grind

@[grind ←]
theorem keeps_claimOf (type value : Option Expr) (part : Option (Nat × Nat)) :
    Keeps A (claimOf s ask type value part) := by
  unfold claimOf
  grind

@[grind ←]
theorem keeps_constantOf (type value : Option Expr) : Keeps A (constantOf s ask type value) := by
  have hoperand := fun x => keeps_operand s hask x none
  unfold constantOf
  grind

end


/-- What asks for the bounds of type parameters. -/
theorem keeps_bounds (s : Site) {ask : Ask} (hask : AskKeeps A ask) (params : List (GroupHead × Expr)) :
    Keeps A (forIn params PUnit.unit fun g _ => do
      let _ ← boundOf s ask g.2
      return ForInStep.yield PUnit.unit) :=
  keeps_forIn (fun _ _ => keeps_bind (keeps_boundOf s hask _) fun _ => keeps_pure _) _ _

theorem keeps_ownAnswer (env : Env) {ask : Ask} (hask : AskKeeps A ask) (d : OwnDecl) :
    Keeps A (d.answer env ask) := by
  unfold OwnDecl.answer
  dsimp only
  split
  · refine keeps_bind (keeps_bounds _ hask _) fun _ => keeps_bind (keeps_typeOf _ hask _) fun rhs => ?_
    split <;> grind
  all_goals grind

theorem keeps_ownMethodAnswer (env : Env) {ask : Ask} (hask : AskKeeps A ask) (m : OwnMethod) :
    Keeps A (m.answer env ask) := by
  unfold OwnMethod.answer
  grind

theorem keeps_answer (env : Env) {ask : Ask} (hask : AskKeeps A ask) (k : Key) :
    Keeps A (env.answer ask k) := by
  cases k with
  | name name => exact keeps_bind (keeps_orWrong _) fun d => keeps_ownAnswer env hask d
  | method base name =>
    exact keeps_bind (keeps_orWrong _) fun m => keeps_bind (keeps_ownMethodAnswer env hask m) fun _ =>
      keeps_pure _

/-! ## Asking -/

/-- What runs apart from the rest has the results that it has otherwise. -/
theorem Ensures.apart {P : α → Prop} {m : Check α} (h : Ensures (Store.Answers A) P m) :
    Ensures (Store.Answers A) (fun r => ∀ a, r = .ok a → P a) (apart m) := by
  unfold Program.apart
  refine .get fun σ _ => ?_
  refine (Ensures.tryCatch (P := fun r => ∀ a, r = .ok a → P a) ?_ fun e => ?_).bind fun r hr => ?_
  · refine h.bind fun a ha => .pure ?_
    rintro _ ⟨⟩
    exact ha
  · exact .pure (by rintro _ ⟨⟩)
  · exact (Ensures.modify fun _ h => h).bind fun _ _ => .pure hr

/-- Answers are of a kind if those of all declarations are, given that asking keeps to the kind. -/
theorem ensures_askTo {env : Env}
    (hanswer : ∀ ask, AskKeeps A ask → ∀ k, Ensures (Store.Answers A) (A k) (env.answer ask k))
    (length : Nat) (k : Key) : Ensures (Store.Answers A) (A k) (env.askTo length k) := by
  induction length generalizing k with
  | zero => exact .throw
  | succ length ih =>
    have hresult : ∀ r : Except Trouble Answer, (∀ a, r = .ok a → A k a) →
        Ensures (Store.Answers A) (A k) (MonadExcept.ofExcept r) := by
      intro r hr
      cases r with
      | error e => exact .throw
      | ok a => exact .pure (hr a rfl)
    rw [Env.askTo]
    refine .get fun σ hσ => ?_
    split
    next r hfound =>
      refine hresult r fun a ha => hσ k a (ha ▸ ?_)
      obtain ⟨before, after, hsplit, -⟩ := List.lookup_eq_some_iff.1 hfound
      exact hsplit ▸ List.mem_append_right _ List.mem_cons_self
    next =>
      refine .get fun σ _ => ?_
      have hrest : Ensures (Store.Answers A) (A k) (do
          let r ← apart (do
            modify fun σ => { σ with active := k :: σ.active }
            env.answer (env.askTo length) k)
          modify fun σ => { σ with found := (k, r) :: σ.found }
          MonadExcept.ofExcept r) := by
        have hask : AskKeeps A (env.askTo length) := fun k => (ih k).keeps
        have hrun := (Ensures.modify (g := fun σ => { σ with active := k :: σ.active }) fun _ h => h).bind
          fun _ _ => hanswer _ hask k
        refine hrun.apart.bind fun r hr => ?_
        refine (Ensures.modify fun σ hσ => ?_).bind fun _ _ => hresult r hr
        intro k' a hmem
        obtain hnew | hold := List.mem_cons.1 hmem
        · cases hnew
          exact hr a rfl
        · exact hσ k' a hold
      split
      · exact .throw_bind
      · exact hrest

/-- What holds of the answers of all declarations holds of the answers to all questions. -/
theorem ensures_ask {env : Env}
    (hanswer : ∀ ask, AskKeeps A ask → ∀ k, Ensures (Store.Answers A) (A k) (env.answer ask k))
    (k : Key) : Ensures (Store.Answers A) (A k) (env.ask k) :=
  ensures_askTo hanswer _ k

end TaggedUnion.Program
