import TaggedUnion.Program.Load
import TaggedUnion.Proofs.Program.Ensures

/-!
# Answers that are found stay

Whatever is evaluated, answers are added to a store only where something is asked for. So what holds of all
answers of a store holds of them after any evaluation, provided that it is kept by asking (`Keeps`). There is one
lemma for each function; the lemmas are tagged, so that `grind` goes through the steps of a computation with them.
-/

namespace TaggedUnion.Program

open Source TaggedUnion.Types Syntax

/-- All answers that a store has found are of the given kind. -/
def Store.Answers (A : Key → Answer → Prop) (σ : Store) : Prop :=
  ∀ k a, (k, .ok a) ∈ σ.found → A k a

/-- If all answers that are found are of some kind before a computation, they are so after it. -/
def Keeps {α : Type} (A : Key → Answer → Prop) (m : Check α) : Prop :=
  Ensures (Store.Answers A) (fun _ => True) m

/-- Asking keeps to some kind of answers. -/
def AskKeeps (A : Key → Answer → Prop) (ask : Ask) : Prop :=
  ∀ k, Keeps A (ask k)

variable {α β : Type} {A : Key → Answer → Prop}

/-! ## Steps -/

theorem Ensures.keeps {P : α → Prop} {m : Check α} (h : Ensures (Store.Answers A) P m) : Keeps A m :=
  h.imp fun _ _ => trivial

@[grind ←]
theorem keeps_pure (a : α) : Keeps A (pure a : Check α) :=
  .pure trivial

@[grind ←]
theorem keeps_throw (e : Trouble) : Keeps A (throw e : Check α) :=
  .throw

@[grind ←]
theorem keeps_bind {m : Check α} {f : α → Check β} (hm : Keeps A m) (hf : ∀ a, Keeps A (f a)) :
    Keeps A (m >>= f) :=
  hm.bind fun a _ => hf a

@[grind ←]
theorem keeps_tryCatch {m : Check α} {g : Trouble → Check α} (hm : Keeps A m)
    (hg : ∀ e, Keeps A (g e)) : Keeps A (tryCatch m g) :=
  Ensures.tryCatch hm hg

@[grind ←]
theorem keeps_map (f : α → β) {m : Check α} (hm : Keeps A m) : Keeps A (f <$> m) := by
  rw [map_eq_pure_bind]
  exact keeps_bind hm fun a => keeps_pure (f a)

@[grind ←]
theorem keeps_mapM {f : α → Check β} (hf : ∀ a, Keeps A (f a)) (as : List α) :
    Keeps A (as.mapM f) := by
  induction as with
  | nil => exact keeps_pure []
  | cons a as ih =>
    rw [List.mapM_cons]
    exact keeps_bind (hf a) fun b => keeps_bind ih fun bs => keeps_pure _

@[grind ←]
theorem keeps_foldlM {f : β → α → Check β} (hf : ∀ b a, Keeps A (f b a)) (as : List α) (b : β) :
    Keeps A (as.foldlM f b) := by
  induction as generalizing b with
  | nil => exact keeps_pure b
  | cons a as ih =>
    rw [List.foldlM_cons]
    exact keeps_bind (hf b a) ih

theorem keeps_forM {f : α → Check PUnit} {as : List α} (hf : ∀ a ∈ as, Keeps A (f a)) :
    Keeps A (as.forM f) := by
  induction as with
  | nil => exact keeps_pure _
  | cons a as ih =>
    exact keeps_bind (hf a List.mem_cons_self) fun _ => ih fun b hb => hf b (List.mem_cons_of_mem _ hb)

/-- A loop over a list keeps what its steps keep. -/
theorem keeps_forIn {f : α → β → Check (ForInStep β)} (hf : ∀ a b, Keeps A (f a b)) (as : List α) (b : β) :
    Keeps A (forIn as b f) := by
  induction as generalizing b with
  | nil => exact keeps_pure b
  | cons a as ih =>
    rw [List.forIn_cons]
    refine keeps_bind (hf a b) fun step => ?_
    cases step with
    | done b => exact keeps_pure b
    | yield b => exact ih b

@[grind ←]
theorem keeps_optionMapM {f : α → Check β} (hf : ∀ a, Keeps A (f a)) (o : Option α) :
    Keeps A (o.mapM f) := by
  cases o with
  | none => exact keeps_pure none
  | some a => exact keeps_map some (hf a)

theorem keeps_get {f : Store → Check α} (hf : ∀ σ : Store, σ.Answers A → Keeps A (f σ)) :
    Keeps A (get >>= f) :=
  .get hf

/-- Noting something else adds no answer. -/
theorem keeps_modify {f : Store → Store} (hf : ∀ σ : Store, σ.Answers A → (f σ).Answers A) :
    Keeps A (modify f) :=
  .modify hf

theorem keeps_set {τ : Store} (h : τ.Answers A) : Keeps A (set τ : Check PUnit) :=
  .set h

@[grind ←]
theorem keeps_orWrong (o : Option α) : Keeps A (orWrong o) := by
  unfold orWrong
  grind

@[grind ←]
theorem keeps_orUnclear (o : Option α) : Keeps A (orUnclear o) := by
  unfold orUnclear
  grind

@[grind ←]
theorem keeps_attempt {m : Check α} (hm : Keeps A m) : Keeps A (attempt m) := by
  unfold attempt
  refine keeps_bind (keeps_tryCatch (keeps_bind hm fun a => keeps_pure _) fun e => ?_) fun r => ?_
  · cases e
    · exact keeps_bind (keeps_throw _) fun r => keeps_pure _
    · exact keeps_pure _
  · cases r <;> exact keeps_pure _

@[grind ←]
theorem keeps_knownTypes (env : Env) : Keeps A (knownTypes env) :=
  keeps_get fun _ _ => keeps_pure _

@[grind ←]
theorem keeps_visit (env : Env) {ask : Ask} (hask : AskKeeps A ask) (name : String) :
    Keeps A (visit env ask name) := by
  unfold visit
  refine keeps_get fun σ hσ => ?_
  dsimp only
  split
  · split
    · exact keeps_throw _
    · exact keeps_pure _
  · split
    · -- what is being visited changes, the answers do not
      refine keeps_bind (keeps_set hσ) fun _ => ?_
      refine keeps_tryCatch (keeps_bind (hask _) fun _ => keeps_pure _) fun _ => ?_
      exact keeps_modify fun _ _ => hσ
    · exact keeps_pure _

/-! ## Instances -/

section

variable (env : Env)

@[grind ←]
theorem keeps_instanceOf (name : TypeName) (args : List Ty) : Keeps A (instanceOf env name args) := by
  unfold instanceOf
  refine keeps_get fun σ hσ => ?_
  dsimp only
  split
  · exact keeps_pure _
  · split
    · exact keeps_pure _
    · exact keeps_bind (keeps_set hσ) fun _ => keeps_pure _

mutual

theorem keeps_substIn (σ : List (Pos × Ty)) : ∀ t, Keeps A (substIn env σ t)
  | .basic _ | .param _ _ => keeps_pure _
  | .pointer t | .slice t | .array _ t | .chan _ t => keeps_bind (keeps_substIn σ t) fun _ => keeps_pure _
  | .map k t => keeps_bind (keeps_substIn σ k) fun _ => keeps_bind (keeps_substIn σ t) fun _ => keeps_pure _
  | .func gs ps rs _ => keeps_bind (keeps_substParams σ ps) fun _ => keeps_bind (keeps_substParams σ rs)
      fun _ => keeps_bind (keeps_substGroups σ gs) fun _ => keeps_pure _
  | .struct fs => keeps_bind (keeps_substFields σ fs) fun _ => keeps_pure _
  | .interface ms es _ => keeps_bind (keeps_substMethods σ ms) fun _ => keeps_bind (keeps_substAll σ es)
      fun _ => keeps_pure _
  | .union ts => keeps_bind (keeps_substTerms σ ts) fun _ => keeps_pure _
  | .named _ _ as => keeps_bind (keeps_substAll σ as) fun _ => by
      split
      · exact keeps_pure _
      · exact keeps_instanceOf env _ _
  | .synonym _ _ as t => keeps_bind (keeps_substAll σ as) fun _ => by
      split
      · exact keeps_pure _
      · exact keeps_bind (keeps_substIn σ t) fun _ => keeps_pure _

theorem keeps_substAll (σ : List (Pos × Ty)) : ∀ ts, Keeps A (substIn.substAll env σ ts)
  | [] => keeps_pure _
  | t :: ts => keeps_bind (keeps_substIn σ t) fun _ => keeps_bind (keeps_substAll σ ts) fun _ =>
      keeps_pure _

theorem keeps_substGroups (σ : List (Pos × Ty)) : ∀ ts, Keeps A (substIn.substGroups env σ ts)
  | [] => keeps_pure _
  | (_, t) :: ts => keeps_bind (keeps_substIn σ t) fun _ => keeps_bind (keeps_substGroups σ ts) fun _ =>
      keeps_pure _

theorem keeps_substParams (σ : List (Pos × Ty)) : ∀ ts, Keeps A (substIn.substParams env σ ts)
  | [] => keeps_pure _
  | (_, t) :: ts => keeps_bind (keeps_substIn σ t) fun _ => keeps_bind (keeps_substParams σ ts) fun _ =>
      keeps_pure _

theorem keeps_substFields (σ : List (Pos × Ty)) : ∀ ts, Keeps A (substIn.substFields env σ ts)
  | [] => keeps_pure _
  | (_, t) :: ts => keeps_bind (keeps_substIn σ t) fun _ => keeps_bind (keeps_substFields σ ts) fun _ =>
      keeps_pure _

theorem keeps_substMethods (σ : List (Pos × Ty)) : ∀ ts, Keeps A (substIn.substMethods env σ ts)
  | [] => keeps_pure _
  | (_, t) :: ts => keeps_bind (keeps_substIn σ t) fun _ => keeps_bind (keeps_substMethods σ ts) fun _ =>
      keeps_pure _

theorem keeps_substTerms (σ : List (Pos × Ty)) : ∀ ts, Keeps A (substIn.substTerms env σ ts)
  | [] => keeps_pure _
  | (_, t) :: ts => keeps_bind (keeps_substIn σ t) fun _ => keeps_bind (keeps_substTerms σ ts) fun _ =>
      keeps_pure _

end

attribute [grind ←] keeps_substIn

@[grind ←]
theorem keeps_aliasOf (name : TypeName) (params : List ParamDecl) (target : Ty) (args : List Ty) :
    Keeps A (aliasOf env name params target args) := by
  unfold aliasOf
  split
  · exact keeps_pure _
  · refine keeps_get fun σ _ => keeps_get fun σ _ => ?_
    split
    · exact keeps_pure _
    · refine keeps_bind (keeps_substIn env _ _) fun _ => keeps_bind ?_ fun _ => keeps_pure _
      exact keeps_modify fun _ h => h

@[grind ←]
theorem keeps_expandDecl (d : TypeDecl) (args : List Ty) : Keeps A (expandDecl env d args) :=
  keeps_substIn env _ _

@[grind ←]
theorem keeps_expandMethod (m : MethodDecl) (args : List Ty) : Keeps A (expandMethod env m args) :=
  keeps_substIn env _ _

end

/-! ## Operands -/

@[grind ←]
theorem keeps_asType (x : Operand) : Keeps A x.asType := by
  unfold Operand.asType
  grind

section

variable (s : Site) {ask : Ask} (hask : AskKeeps A ask)

include hask

@[grind ←]
theorem keeps_unfoldOnce (name : TypeName) (args : List Ty) : Keeps A (unfoldOnce s ask name args) := by
  have hname := hask (.name name.name)
  unfold unfoldOnce
  grind

@[grind ←]
theorem keeps_unfoldTo (depth : Nat) (t : Ty) : Keeps A (unfoldTo s ask depth t) := by
  induction depth generalizing t with
  | zero => exact keeps_pure _
  | succ depth ih =>
    rw [unfoldTo]
    grind

@[grind ←]
theorem keeps_underlying (t : Ty) : Keeps A (underlying s ask t) :=
  keeps_unfoldTo s hask _ t

@[grind ←]
theorem keeps_basicName? (t : Ty) : Keeps A (basicName? s ask t) := by
  unfold basicName?
  grind

@[grind ←]
theorem keeps_interfaceMethods (depth : Nat) (t : Ty) : Keeps A (interfaceMethods s ask depth t) := by
  induction depth generalizing t with
  | zero => exact keeps_pure _
  | succ depth ih =>
    rw [interfaceMethods]
    grind

@[grind ←]
theorem keeps_declaredMethod? (t : Ty) (name : String) : Keeps A (declaredMethod? s ask t name) := by
  have hmethod := fun base => hask (.method base name)
  unfold declaredMethod?
  split
  next type _ _ _ =>
    have htype := hmethod type.name
    grind
  next => grind

@[grind ←]
theorem keeps_membersAt (t : Ty) (name : String) : Keeps A (membersAt s ask t name) := by
  unfold membersAt
  grind

@[grind ←]
theorem keeps_memberAmong (name : String) (depth : Nat) (seen level : List Ty) :
    Keeps A (memberAmong s ask name depth seen level) := by
  induction depth generalizing seen level with
  | zero => rw [memberAmong]; exact keeps_pure _
  | succ depth ih =>
    unfold memberAmong
    grind

@[grind ←]
theorem keeps_member? (t : Ty) (name : String) : Keeps A (member? s ask t name) :=
  keeps_memberAmong s hask name _ _ _

@[grind ←]
theorem keeps_spaceTo (depth : Nat) (t : Ty) : Keeps A (spaceTo s ask depth t) := by
  induction depth generalizing t with
  | zero => exact keeps_throw _
  | succ depth ih =>
    rw [spaceTo]
    grind

@[grind ←]
theorem keeps_space (t : Ty) : Keeps A (space s ask t) :=
  keeps_spaceTo s hask _ t

/-! ## Inference -/

@[grind ←]
theorem keeps_isInterface (t : Ty) : Keeps A (isInterface s ask t) := by
  unfold isInterface
  grind

@[grind ←]
theorem keeps_preferred (known given : Ty) : Keeps A (preferred s ask known given) := by
  unfold preferred
  grind

@[grind ←]
theorem keeps_memberPairs? (methods : List (MethodHead × Ty)) (t : Ty) :
    Keeps A (memberPairs? s ask methods t) := by
  unfold memberPairs?
  grind

@[grind ←]
theorem keeps_interfacePairs? (x y : Ty) : Keeps A (interfacePairs? s ask x y) := by
  unfold interfacePairs?
  grind

omit hask in
theorem keeps_unifyAll (targets : List Pos) (depth : Nat) (m : Matching) (pairs : List (Ty × Ty)) (σ : Solution)
    (h : ∀ σ a b, Keeps A (unify s ask targets depth m σ a b)) :
    Keeps A (pairs.foldlM (fun acc (a, b) => do
      match acc with
      | none => return none
      | some σ => unify s ask targets depth m σ a b) (some σ)) := by
  grind

-- Not tagged, as all that goes by tagged lemmas waits for their proofs, and this one takes long.
theorem keeps_unify (targets : List Pos) (depth : Nat) (m : Matching) (σ : Solution) (x y : Ty) :
    Keeps A (unify s ask targets depth m σ x y) := by
  induction depth generalizing m σ x y with
  | zero => rw [unify]; exact keeps_pure _
  | succ depth ih =>
    have hall := fun m pairs σ => keeps_unifyAll s targets depth m pairs σ fun σ => ih m σ
    rw [unify]
    dsimp only
    split
    · exact keeps_pure _
    · split <;> refine keeps_bind (keeps_isInterface s hask _) fun _ => ?_
      all_goals split <;> refine keeps_bind (by grind) fun y => ?_
      all_goals split <;> [grind; grind; skip]
      -- neither is a type parameter: methods are matched, or elements
      all_goals split <;> refine keeps_bind (by grind) fun methods => ?_
      all_goals split <;> [exact keeps_pure _; exact hall _ _ _; skip]
      all_goals split <;> grind

@[grind ←]
theorem keeps_termsTo (depth : Nat) (t : Ty) : Keeps A (termsTo s ask depth t) := by
  induction depth generalizing t with
  | zero => exact keeps_pure _
  | succ depth ih =>
    rw [termsTo]
    grind

@[grind ←]
theorem keeps_core? (bound : Ty) : Keeps A (core? s ask bound) := by
  unfold core?
  refine keeps_bind (keeps_termsTo s hask _ _) fun terms => ?_
  split <;> grind

@[grind ←]
theorem keeps_demandMatch (targets : List Pos) (m : Matching) (σ : Solution) (x y : Ty) :
    Keeps A (demandMatch s ask targets m σ x y) := by
  have hunify := keeps_unify s hask targets
  unfold demandMatch
  grind

@[grind ←]
theorem keeps_solveBound (targets : List Pos) (σ : Solution) (pos : Pos) (bound : Ty) :
    Keeps A (solveBound s ask targets σ pos bound) := by
  unfold solveBound
  grind

@[grind ←]
theorem keeps_solveBounds (targets : List Pos) (bounds : List (Pos × Ty)) (count : Nat) (σ : Solution) :
    Keeps A (solveBounds s ask targets bounds count σ) := by
  induction count generalizing σ with
  | zero => exact keeps_pure _
  | succ count ih =>
    rw [solveBounds]
    grind

omit hask in
@[grind ←]
theorem keeps_settle (targets : List Pos) (count : Nat) (σ : Solution) :
    Keeps A (settle s targets count σ) := by
  induction count generalizing σ with
  | zero => exact keeps_pure _
  | succ count ih =>
    rw [settle]
    grind

@[grind ←]
theorem keeps_infer (bounds : List (Pos × Ty)) (start : Solution) (given : List (Ty × Operand)) :
    Keeps A (infer s ask bounds start given) := by
  unfold infer
  grind

end

end TaggedUnion.Program
