import TaggedUnion.Proofs.Types.Equality
import TaggedUnion.Proofs.Types.Methods

/-!
# The rules of type identity

Two types are identical by rules that follow their structure (`Ty.Same`): an alias stands for its target; the names of
parameters make no difference, nor does the second name of a basic type; type parameters of functions correspond by
their places; fields have one name, of one package if it is not exported, and one tag; and interfaces ask for the same.

Main statement: types have one normal form iff they are identical by the rules (`normalWith_eq_iff`). So identity by the
rules is decided by normal forms, and is an equivalence. For methods of interfaces it makes no difference in which order
they stand (`same_interface_iff`), nor whether they are listed or embedded (`same_embedded`).
-/

namespace TaggedUnion.Types.Ty

open Source

variable (expand : Ty → Ty)

/-! ## The rules -/

/-- What an interface asks for, with all types in normal form: which types the elements admit together depends on which
of them are identical. -/
def demand (numbers : List (Pos × Nat)) (methods : List (MethodHead × Ty)) (embedded : List Ty) : Demand :=
  ((normalWith.normalAll false expand numbers embedded).map fun e => Demand.ofElement expand e.unalias).foldl
    (Demand.and expand) { methods := normalWith.normalMethods false expand numbers methods }

/-- The bounds of type parameters, one for each of them. -/
def bounds (generics : List (List ParamDecl × Ty)) : List Ty :=
  generics.flatMap fun (params, bound) => List.replicate params.length bound

/-- The rules of identity. Type parameters of functions around either type are given with their numbers. -/
def Same (numbers numbers' : List (Pos × Nat)) : Ty → Ty → Prop
  | basic name, u => ∃ name', u.unalias = basic name' ∧ basicNormal name = basicNormal name'
  | pointer elem, u => ∃ elem', u.unalias = pointer elem' ∧ elem.Same numbers numbers' elem'
  | slice elem, u => ∃ elem', u.unalias = slice elem' ∧ elem.Same numbers numbers' elem'
  | array length elem, u => ∃ elem', u.unalias = array length elem' ∧ elem.Same numbers numbers' elem'
  | map key elem, u =>
    ∃ key' elem', u.unalias = map key' elem' ∧ key.Same numbers numbers' key' ∧ elem.Same numbers numbers' elem'
  | chan direction elem, u => ∃ elem', u.unalias = chan direction elem' ∧ elem.Same numbers numbers' elem'
  | func generics params results variadic, u =>
    ∃ generics' params' results', u.unalias = func generics' params' results' variadic ∧
      sameBounds (numbering numbers generics) (numbering numbers' generics') generics (bounds generics') ∧
      sameParams (numbering numbers generics) (numbering numbers' generics') params params' ∧
      sameParams (numbering numbers generics) (numbering numbers' generics') results results'
  | struct fields, u => ∃ fields', u.unalias = struct fields' ∧ sameFields numbers numbers' fields fields'
  | interface methods embedded _, u =>
    ∃ methods' embedded' implicit', u.unalias = interface methods' embedded' implicit' ∧
      (demand expand numbers methods embedded).Same (demand expand numbers' methods' embedded')
  | union terms, u => ∃ terms', u.unalias = union terms' ∧ sameTerms numbers numbers' terms terms'
  | named name _ args, u =>
    ∃ generics' args', u.unalias = named name generics' args' ∧ sameAll numbers numbers' args args'
  | synonym _ _ _ target, u => target.Same numbers numbers' u
  | param name pos, u =>
    ∃ name' pos', u.unalias = param name' pos' ∧ normalParam numbers name pos = normalParam numbers' name' pos'
where
  sameAll (numbers numbers' : List (Pos × Nat)) : List Ty → List Ty → Prop
    | [], us => us = []
    | t :: rest, us => ∃ u rest', us = u :: rest' ∧ t.Same numbers numbers' u ∧ sameAll numbers numbers' rest rest'
  /-- All parameters of a group have its bound. -/
  sameBounds (numbers numbers' : List (Pos × Nat)) : List (List ParamDecl × Ty) → List Ty → Prop
    | [], us => us = []
    | (params, bound) :: rest, us =>
      ∃ own others, us = own ++ others ∧ own.length = params.length ∧ (∀ u ∈ own, bound.Same numbers numbers' u) ∧
        sameBounds numbers numbers' rest others
  sameParams (numbers numbers' : List (Pos × Nat)) : List (String × Ty) → List (String × Ty) → Prop
    | [], us => us = []
    | (_, t) :: rest, us =>
      ∃ name' u rest', us = (name', u) :: rest' ∧ t.Same numbers numbers' u ∧ sameParams numbers numbers' rest rest'
  sameFields (numbers numbers' : List (Pos × Nat)) : List (FieldHead × Ty) → List (FieldHead × Ty) → Prop
    | [], us => us = []
    | (head, t) :: rest, us =>
      ∃ head' u rest', us = (head', u) :: rest' ∧
        (head.name = head'.name ∧ ownedBy head.name head.home = ownedBy head'.name head'.home ∧
          head.embedded = head'.embedded ∧ head.tag = head'.tag) ∧
        t.Same numbers numbers' u ∧ sameFields numbers numbers' rest rest'
  sameTerms (numbers numbers' : List (Pos × Nat)) : List (Bool × Ty) → List (Bool × Ty) → Prop
    | [], us => us = []
    | (tilde, t) :: rest, us =>
      ∃ u rest', us = (tilde, u) :: rest' ∧ t.Same numbers numbers' u ∧ sameTerms numbers numbers' rest rest'

/-! ## Normal forms and the rules -/

section

variable {expand} {numbers numbers' : List (Pos × Nat)} {t : Ty}

@[simp] theorem unalias_ne_synonym (t : Ty) {name : TypeName} {generics : List (List ParamDecl × Ty)} {args : List Ty}
    {target : Ty} : t.unalias ≠ synonym name generics args target := by
  fun_induction unalias t with
  | case1 _ _ _ _ ih => exact ih
  | case2 t h => exact h _ _ _ _

theorem normalWith_unalias (t : Ty) :
    t.unalias.normalWith false expand numbers = t.normalWith false expand numbers := by
  fun_induction unalias t with
  | case1 _ _ _ _ ih => rw [ih, normalWith, if_neg Bool.false_ne_true]
  | case2 => rfl

theorem exists_normalParam (numbers : List (Pos × Nat)) (name : String) (pos : Pos) :
    ∃ name' pos', normalParam numbers name pos = param name' pos' := by
  rw [normalParam]
  split
  · exact ⟨_, _, rfl⟩
  · exact ⟨_, _, rfl⟩

@[simp] theorem ne_normalParam (h : ∀ name pos, t ≠ param name pos) {name : String} {pos : Pos} :
    t ≠ normalParam numbers name pos := by
  obtain ⟨_, _, heq⟩ := exists_normalParam numbers name pos
  exact heq ▸ h _ _

@[simp] theorem ne_interface (h : ∀ methods embedded implicit, t ≠ interface methods embedded implicit) {d : Demand} :
    t ≠ d.interface :=
  h _ _ _

end

variable {expand}

theorem bounds_cons (params : List ParamDecl) (bound : Ty) (generics : List (List ParamDecl × Ty)) :
    bounds ((params, bound) :: generics) = List.replicate params.length bound ++ bounds generics :=
  List.flatMap_cons

theorem flatBounds_normalGroups (numbers : List (Pos × Nat)) (generics : List (List ParamDecl × Ty)) :
    flatBounds (normalWith.normalGroups false expand numbers generics) =
      ((bounds generics).map (normalWith false expand numbers)).map fun bound => ([], bound) := by
  induction generics with
  | nil => rfl
  | cons g generics ih =>
    obtain ⟨params, bound⟩ := g
    rw [normalWith.normalGroups, flatBounds, List.flatMap_cons, ← flatBounds, ih, bounds_cons, List.map_append,
      List.map_append, List.map_replicate, List.map_replicate, ← List.map_const']

theorem flatBounds_normalGroups_eq_iff {numbers numbers' : List (Pos × Nat)}
    {generics generics' : List (List ParamDecl × Ty)} :
    flatBounds (normalWith.normalGroups false expand numbers generics) =
        flatBounds (normalWith.normalGroups false expand numbers' generics') ↔
      (bounds generics).map (normalWith false expand numbers) =
        (bounds generics').map (normalWith false expand numbers') := by
  rw [flatBounds_normalGroups, flatBounds_normalGroups]
  exact List.map_inj_right fun _ _ h => (Prod.mk.inj h).2

mutual

/-- Two types have one normal form iff they are identical by the rules. -/
theorem normalWith_eq_iff (numbers numbers' : List (Pos × Nat)) : ∀ t u : Ty,
    t.normalWith false expand numbers = u.normalWith false expand numbers' ↔ Same expand numbers numbers' t u
  | basic _, u => by
    rw [← normalWith_unalias u, Same]
    -- What has the normal form of a basic type is one, but for aliases; so it is for all sorts of types.
    cases hu : u.unalias <;> simp_all [normalWith]
  | pointer elem, u => by
    rw [← normalWith_unalias u, Same]
    cases hu : u.unalias <;> simp_all [normalWith, normalWith_eq_iff numbers numbers' elem]
  | slice elem, u => by
    rw [← normalWith_unalias u, Same]
    cases hu : u.unalias <;> simp_all [normalWith, normalWith_eq_iff numbers numbers' elem]
  | array length elem, u => by
    rw [← normalWith_unalias u, Same]
    cases hu : u.unalias <;> simp_all [normalWith, normalWith_eq_iff numbers numbers' elem, eq_comm (a := length)]
  | map key elem, u => by
    rw [← normalWith_unalias u, Same]
    cases hu : u.unalias <;>
      simp_all [normalWith, normalWith_eq_iff numbers numbers' key, normalWith_eq_iff numbers numbers' elem]
  | chan direction elem, u => by
    rw [← normalWith_unalias u, Same]
    cases hu : u.unalias <;> simp_all [normalWith, normalWith_eq_iff numbers numbers' elem, eq_comm (a := direction)]
  | func generics params results variadic, u => by
    rw [← normalWith_unalias u, Same]
    cases hu : u.unalias with
    | func generics' params' results' variadic' =>
      -- Type parameters have their numbers first, on both sides, and all else is compared with them.
      rw [normalWith, normalWith, func.injEq, flatBounds_normalGroups_eq_iff, normalBounds_eq_iff _ _ generics,
        normalParams_eq_iff _ _ params, normalParams_eq_iff _ _ results]
      constructor
      · rintro ⟨hbounds, hparams, hresults, rfl⟩
        exact ⟨_, _, _, rfl, hbounds, hparams, hresults⟩
      · rintro ⟨_, _, _, heq, hbounds, hparams, hresults⟩
        cases heq
        exact ⟨hbounds, hparams, hresults, rfl⟩
    | _ => simp_all [normalWith]
  | struct fields, u => by
    rw [← normalWith_unalias u, Same]
    cases hu : u.unalias <;> simp_all [normalWith, normalFields_eq_iff numbers numbers' fields]
  | interface methods embedded _, u => by
    rw [← normalWith_unalias u, Same]
    cases hu : u.unalias with
    | interface methods' embedded' implicit' => simp_all [normalWith, demand, Demand.interface_eq_iff]
    -- An interface in normal form is an interface, whatever it asks for.
    | _ => simp_all [normalWith, Demand.interface]
  | union terms, u => by
    rw [← normalWith_unalias u, Same]
    cases hu : u.unalias <;> simp_all [normalWith, normalTerms_eq_iff numbers numbers' terms]
  | named name _ args, u => by
    rw [← normalWith_unalias u, Same]
    cases hu : u.unalias <;> simp_all [normalWith, normalAll_eq_iff numbers numbers' args,
        eq_comm (a := name)]
  | synonym _ _ _ target, u => by
    rw [normalWith, Same, if_neg Bool.false_ne_true, normalWith_eq_iff numbers numbers' target]
  | param name pos, u => by
    rw [← normalWith_unalias u, Same]
    obtain ⟨_, _, heq⟩ := exists_normalParam numbers name pos
    cases hu : u.unalias <;> simp_all [normalWith, Demand.interface]
termination_by structural t => t

theorem normalAll_eq_iff (numbers numbers' : List (Pos × Nat)) : ∀ ts us : List Ty,
    normalWith.normalAll false expand numbers ts = normalWith.normalAll false expand numbers' us ↔
      Same.sameAll expand numbers numbers' ts us
  | [], us => by cases us <;> simp [normalWith.normalAll, Same.sameAll]
  | t :: ts, us => by
    cases us <;>
      simp [normalWith.normalAll, Same.sameAll, normalWith_eq_iff numbers numbers' t,
        normalAll_eq_iff numbers numbers' ts]
termination_by structural ts => ts

theorem normalBounds_eq_iff (numbers numbers' : List (Pos × Nat)) : ∀ (gs : List (List ParamDecl × Ty)) (us : List Ty),
    (bounds gs).map (normalWith false expand numbers) = us.map (normalWith false expand numbers') ↔
      Same.sameBounds expand numbers numbers' gs us
  | [], us => by simp [bounds, Same.sameBounds]
  | (params, bound) :: gs, us => by
    rw [bounds_cons, List.map_append, List.map_replicate, eq_comm, List.map_eq_append_iff, Same.sameBounds]
    -- The group splits the bounds on the other side into its own and those of the later groups.
    refine exists_congr fun own => exists_congr fun others => and_congr_right fun _ => ?_
    rw [List.eq_replicate_iff, List.length_map, List.forall_mem_map, and_assoc, ← normalBounds_eq_iff _ _ gs]
    simp only [← normalWith_eq_iff numbers numbers' bound, eq_comm]
termination_by structural gs => gs

theorem normalParams_eq_iff (numbers numbers' : List (Pos × Nat)) : ∀ ts us : List (String × Ty),
    normalWith.normalParams false expand numbers ts = normalWith.normalParams false expand numbers' us ↔
      Same.sameParams expand numbers numbers' ts us
  | [], us => by cases us <;> simp [normalWith.normalParams, Same.sameParams]
  | (_, t) :: ts, us => by
    rcases us with _ | ⟨⟨_, u⟩, us⟩ <;>
      simp [normalWith.normalParams, Same.sameParams, normalWith_eq_iff numbers numbers' t,
        normalParams_eq_iff numbers numbers' ts]
termination_by structural ts => ts

theorem normalFields_eq_iff (numbers numbers' : List (Pos × Nat)) : ∀ ts us : List (FieldHead × Ty),
    normalWith.normalFields false expand numbers ts = normalWith.normalFields false expand numbers' us ↔
      Same.sameFields expand numbers numbers' ts us
  | [], us => by cases us <;> simp [normalWith.normalFields, Same.sameFields]
  | (_, t) :: ts, us => by
    rcases us with _ | ⟨⟨_, u⟩, us⟩ <;>
      simp [normalWith.normalFields, Same.sameFields, and_assoc, normalWith_eq_iff numbers numbers' t,
        normalFields_eq_iff numbers numbers' ts]
termination_by structural ts => ts

theorem normalTerms_eq_iff (numbers numbers' : List (Pos × Nat)) : ∀ ts us : List (Bool × Ty),
    normalWith.normalTerms false expand numbers ts = normalWith.normalTerms false expand numbers' us ↔
      Same.sameTerms expand numbers numbers' ts us
  | [], us => by cases us <;> simp [normalWith.normalTerms, Same.sameTerms]
  | (tilde, t) :: ts, us => by
    rcases us with _ | ⟨⟨_, u⟩, us⟩ <;>
      simp [normalWith.normalTerms, Same.sameTerms, and_assoc, eq_comm (a := tilde),
        normalWith_eq_iff numbers numbers' t, normalTerms_eq_iff numbers numbers' ts]
termination_by structural ts => ts

end

/-! ## Identity -/

/-- Two types are identical by the rules, for the given declarations. -/
def Identical (table : TypeTable) (t u : Ty) : Prop :=
  Same (expandTo false table table.length) [] [] t u

section

variable {table : TypeTable} {t u : Ty}

/-- The rules are decided by normal forms. -/
theorem identical_iff_rules : t.identical table u = true ↔ t.Identical table u := by
  rw [identical_iff, Identical, ← normalWith_eq_iff]
  rfl

theorem equivalence_identical (table : TypeTable) : Equivalence (Identical table) where
  refl t := identical_iff_rules.1 ((identical_iff table t t).2 rfl)
  symm {t u} h := identical_iff_rules.1 (identical_comm table t u ▸ identical_iff_rules.2 h)
  trans {t _ _} h h' := identical_iff_rules.1 (identical_congr (identical_iff_rules.2 h') t ▸ identical_iff_rules.2 h)

/-- An alias is identical to what it stands for. -/
theorem identical_unalias (table : TypeTable) (t : Ty) : t.unalias.Identical table t :=
  normalWith_eq_iff _ _ _ _ |>.1 (normalWith_unalias t)

end

/-! ## Methods of interfaces -/

section

variable {numbers numbers' : List (Pos × Nat)}

/-- What tells a method of an interface from the others: its name, and its package if it is not exported. -/
def ownedHead (head : MethodHead) : MethodHead :=
  { head with home := ownedBy head.name head.home }

theorem normalMethods_eq_map (numbers : List (Pos × Nat)) (methods : List (MethodHead × Ty)) :
    normalWith.normalMethods false expand numbers methods =
      methods.map fun m => (ownedHead m.1, m.2.normalWith false expand numbers) := by
  induction methods with
  | nil => rfl
  | cons m methods ih => rw [normalWith.normalMethods, ih, List.map_cons, ownedHead]

/-- Interfaces that embed nothing are identical iff under each head they have methods of identical types, or none. It
does not matter in which order the methods stand. -/
theorem same_interface_iff {methods methods' : List (MethodHead × Ty)} {implicit implicit' : Bool} :
    Same expand numbers numbers' (interface methods [] implicit) (interface methods' [] implicit') ↔
      ∀ head, Option.Rel (fun m m' => Same expand numbers numbers' m.2 m'.2)
        (methods.find? fun m => ownedHead m.1 == head) (methods'.find? fun m => ownedHead m.1 == head) := by
  have hdemand : Same expand numbers numbers' (interface methods [] implicit) (interface methods' [] implicit') ↔
      (demand expand numbers methods []).Same (demand expand numbers' methods' []) := by
    simp [Same, unalias]
  have hfind : ∀ numbers methods head, (demand expand numbers methods []).methods.find? (·.1 == head) =
      (methods.find? fun m => ownedHead m.1 == head).map
        fun m => (ownedHead m.1, m.2.normalWith false expand numbers) := by
    intro numbers methods head
    rw [demand, normalMethods_eq_map, normalWith.normalAll, List.map_nil, List.foldl_nil, List.find?_map]
    rfl
  rw [hdemand, Demand.same_iff]
  -- Nothing is embedded, so that both admit all types.
  refine (and_iff_left ⟨rfl, .none⟩).trans (forall_congr' fun head => ?_)
  rw [hfind, hfind]
  cases hm : methods.find? (fun m => ownedHead m.1 == head) with
  | none => cases methods'.find? (fun m => ownedHead m.1 == head) <;> simp
  | some m =>
    cases hm' : methods'.find? (fun m => ownedHead m.1 == head) with
    | none => simp
    | some m' =>
      have hhead := List.find?_some hm
      have hhead' := List.find?_some hm'
      simp_all [normalWith_eq_iff]

/-- Embedding an interface comes to listing its methods. -/
theorem same_embedded (numbers : List (Pos × Nat)) (methods methods' : List (MethodHead × Ty))
    (implicit implicit' implicit'' : Bool) :
    Same expand numbers numbers (interface methods [interface methods' [] implicit] implicit')
      (interface (methods ++ methods') [] implicit'') := by
  have hdemand : demand expand numbers methods [interface methods' [] implicit] =
      { methods := normalWith.normalMethods false expand numbers methods ++
          sortMethods (normalWith.normalMethods false expand numbers methods') } := rfl
  rw [Same, hdemand]
  refine ⟨_, _, _, rfl, fun head => ?_, rfl, .none⟩
  -- The methods of the embedded interface are sorted already, which makes no difference to what is found.
  rw [List.find?_append, find?_sortMethods, ← List.find?_append, normalMethods_eq_map, normalMethods_eq_map,
    ← List.map_append, ← normalMethods_eq_map]
  rfl

end

end TaggedUnion.Types.Ty
