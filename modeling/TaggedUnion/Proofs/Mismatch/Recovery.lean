import TaggedUnion.Mismatch
import TaggedUnion.Proofs.Tree.Preorder

/-!
# Recovering unions from errors

A failed conversion gives its union back in a mismatch, which may come up under any messages and next to any other
errors. The mismatches of a tree stand in it in pre-order (`inOrder_mismatches`), and both searches go by them: the
union that is found is that of the first mismatch of its type (`carried?_eq_find?`), and the tree is a mismatch in
general if any part of it is (`isMismatch_iff`).

Main statement: a union is found iff the tree has a mismatch of its type, and it is that of the first one in pre-order;
so it is found under any number of messages, and behind any errors that have no mismatch of its type
(`searches_exact`).
-/

namespace TaggedUnion.Failure

variable {V : Type}

/-- The error at a path, whose numbers say which member of joined errors to take; what is wrapped is under number 0. -/
def at? : List Nat → Failure V → Option (Failure V)
  | [], e => some e
  | i :: path, wrapped _ inner => if i = 0 then at? path inner else none
  | i :: path, joined members => members[i]?.bind (at? path)
  | _ :: _, _ => none

/-- An error as a tree. -/
def tree (e : Failure V) : List Nat → Option (Failure V) :=
  fun path => at? path e

/-- The errors right below an error. -/
def inside : Failure V → List (Failure V)
  | wrapped _ inner => [inner]
  | joined members => members
  | _ => []

theorem tree_eq_node (e : Failure V) : e.tree = Tree.node e (e.inside.map tree) := by
  funext path
  cases path with
  | nil => rfl
  | cons i path =>
    rw [Tree.node_cons, List.getElem?_map, Option.bind_map]
    cases e with
    | wrapped context inner => cases i <;> rfl
    | _ => rfl

/-- Whether an error is itself a mismatch, of whatever type. -/
def isFailedConversion : Failure V → Bool
  | mismatch _ => true
  | _ => false

/-! ## Mismatches in pre-order -/

theorem all_eq_flatten (es : List (Failure V)) : mismatches.all es = (es.map mismatches).flatten := by
  induction es with
  | nil => rfl
  | cons e es ih => rw [mismatches.all, ih, List.map_cons, List.flatten_cons]

theorem mismatches_eq (e : Failure V) : e.mismatches.map mismatch =
    (if e.isFailedConversion then [e] else []) ++
      (e.inside.map fun inner => inner.mismatches.map mismatch).flatten := by
  cases e with
  | joined members => simp [mismatches, isFailedConversion, inside, all_eq_flatten, Function.comp_def]
  | _ => simp [mismatches, isFailedConversion, inside]

/-- The mismatches of an error are listed in pre-order if those right below it are. -/
theorem inOrder_of_inside {e : Failure V}
    (h : List.Forall₂ (Tree.InOrder · (·.isFailedConversion = true) ·) (e.inside.map tree)
      (e.inside.map fun inner => inner.mismatches.map mismatch)) :
    Tree.InOrder e.tree (·.isFailedConversion = true) (e.mismatches.map mismatch) := by
  rw [tree_eq_node, mismatches_eq]
  exact Tree.inOrder_node e h

mutual

theorem inOrder_mismatches : ∀ e : Failure V,
    Tree.InOrder e.tree (·.isFailedConversion = true) (e.mismatches.map mismatch)
  | plain _ | anyMismatch | mismatch _ => inOrder_of_inside .nil
  | wrapped _ inner => inOrder_of_inside (.cons (inOrder_mismatches inner) .nil)
  | joined members => inOrder_of_inside (inOrder_mismatches_members members)
termination_by structural e => e

theorem inOrder_mismatches_members : ∀ es : List (Failure V),
    List.Forall₂ (Tree.InOrder · (·.isFailedConversion = true) ·) (es.map tree)
      (es.map fun e => e.mismatches.map mismatch)
  | [] => .nil
  | e :: es => .cons (inOrder_mismatches e) (inOrder_mismatches_members es)
termination_by structural es => es

end

/-! ## Searches -/

mutual

/-- The union that is found is that of the first mismatch of its type. -/
theorem carried?_eq_find? (type : String) : ∀ e : Failure V,
    e.carried? type = (e.mismatches.find? (·.type == type)).map (·.value)
  | plain _ | anyMismatch => rfl
  | mismatch m => by
    rw [carried?, mismatches, List.find?_singleton]
    cases m.type == type <;> rfl
  | wrapped _ inner => carried?_eq_find? type inner
  | joined members => first_eq_find? type members
termination_by structural e => e

theorem first_eq_find? (type : String) : ∀ es : List (Failure V),
    carried?.first type es = ((mismatches.all es).find? (·.type == type)).map (·.value)
  | [] => rfl
  | e :: es => by
    rw [carried?.first, mismatches.all, List.find?_append, Option.map_or, carried?_eq_find? type e,
      first_eq_find? type es]
termination_by structural es => es

end

theorem exists_tree_iff {keep : Failure V → Prop} (e : Failure V) :
    (∃ p, ∃ x ∈ e.tree p, keep x) ↔ keep e ∨ ∃ inner ∈ e.inside, ∃ p, ∃ x ∈ inner.tree p, keep x := by
  rw [tree_eq_node, Tree.exists_node_iff]
  simp only [List.mem_map, exists_exists_and_eq_and]

mutual

/-- A tree is a mismatch in general iff any error of it is. -/
theorem isMismatch_iff : ∀ e : Failure V,
    e.isMismatch = true ↔ ∃ p, ∃ x ∈ e.tree p, x = anyMismatch ∨ ∃ m, x = mismatch m
  | plain _ | anyMismatch | mismatch _ => by
    rw [exists_tree_iff]
    simp [isMismatch, inside]
  | wrapped _ inner => by
    rw [exists_tree_iff, isMismatch, isMismatch_iff inner]
    simp [inside]
  | joined members => by
    rw [exists_tree_iff, isMismatch, anyOf_iff members]
    simp [inside]
termination_by structural e => e

theorem anyOf_iff : ∀ es : List (Failure V),
    isMismatch.anyOf es = true ↔ ∃ e ∈ es, ∃ p, ∃ x ∈ e.tree p, x = anyMismatch ∨ ∃ m, x = mismatch m
  | [] => by simp [isMismatch.anyOf]
  | e :: es => by rw [isMismatch.anyOf, Bool.or_eq_true, isMismatch_iff e, anyOf_iff es, List.exists_mem_cons_iff]
termination_by structural es => es

end

/-- Whether an error is itself a mismatch of the given type. -/
def isOfType (type : String) : Failure V → Bool
  | mismatch m => m.type == type
  | _ => false

theorem isOfType_eq_false_iff {type : String} {e : Failure V} :
    e.isOfType type = false ↔ ∀ m, e = mismatch m → m.type ≠ type := by
  cases e <;> simp [isOfType]

/-- A union is found iff it is that of a mismatch of its type, and no other mismatch of the type comes before. -/
theorem carried?_eq_some_iff {e : Failure V} {type : String} {union : V} :
    e.carried? type = some union ↔
      ∃ p m, e.at? p = some (mismatch m) ∧ m.type = type ∧ m.value = union ∧
        ∀ q < p, ∀ m', e.at? q = some (mismatch m') → m'.type ≠ type := by
  have hfind : ∀ m, e.mismatches.find? (·.type == type) = some m ↔
      (e.mismatches.map mismatch).find? (isOfType type) = some (mismatch m) := fun m => by
    rw [List.find?_map, Option.map_eq_some_iff]
    simp [Function.comp_def, isOfType]
  rw [carried?_eq_find?, Option.map_eq_some_iff]
  simp only [hfind, (inOrder_mismatches e).find?_eq_some_iff]
  constructor
  · rintro ⟨m, ⟨p, hp, -, htype, hbefore⟩, hvalue⟩
    exact ⟨p, m, hp, beq_iff_eq.1 htype, hvalue, fun q hq m' hm' =>
      isOfType_eq_false_iff.1 (hbefore q hq _ hm' rfl) m' rfl⟩
  · rintro ⟨p, m, hp, htype, hvalue, hbefore⟩
    refine ⟨m, ⟨p, hp, rfl, beq_iff_eq.2 htype, fun q hq x hx _ => ?_⟩, hvalue⟩
    exact isOfType_eq_false_iff.2 fun m' hm' => hbefore q hq m' (hm' ▸ hx)

theorem isSome_carried?_iff {e : Failure V} {type : String} :
    (e.carried? type).isSome = true ↔ ∃ p m, e.at? p = some (mismatch m) ∧ m.type = type := by
  have hmem : ∀ m, m ∈ e.mismatches ↔ ∃ p, e.at? p = some (mismatch m) := fun m => by
    rw [← List.mem_map_of_injective (f := mismatch) fun _ _ => mismatch.inj, (inOrder_mismatches e).mem_iff]
    exact and_iff_right rfl
  rw [carried?_eq_find?, Option.isSome_map, List.find?_isSome]
  simp only [hmem, beq_iff_eq]
  exact ⟨fun ⟨m, ⟨p, hp⟩, htype⟩ => ⟨p, m, hp, htype⟩, fun ⟨p, m, hp, htype⟩ => ⟨m, ⟨p, hp⟩, htype⟩⟩

theorem carried?_foldr_wrapped (contexts : List String) (e : Failure V) (type : String) :
    (contexts.foldr wrapped e).carried? type = e.carried? type := by
  induction contexts with
  | nil => rfl
  | cons context contexts ih => exact ih

/-- Searches go by what a tree contains. A union is found iff there is a mismatch of its type, and then it is that of
the first one in pre-order; a tree is a mismatch in general iff it contains one of any type, or the error that stands
for them. So whatever messages are put in front of a mismatch, its union is found again. -/
theorem searches_exact (e : Failure V) (type : String) :
    ((e.carried? type).isSome = true ↔ ∃ p m, e.at? p = some (mismatch m) ∧ m.type = type) ∧
      (∀ union, e.carried? type = some union ↔
        ∃ p m, e.at? p = some (mismatch m) ∧ m.type = type ∧ m.value = union ∧
          ∀ q < p, ∀ m', e.at? q = some (mismatch m') → m'.type ≠ type) ∧
      (e.isMismatch = true ↔ ∃ p, e.at? p = some anyMismatch ∨ ∃ m, e.at? p = some (mismatch m)) ∧
      ∀ (contexts : List String) (m : Mismatch V),
        (contexts.foldr wrapped (mismatch m)).carried? m.type = some m.value := by
  refine ⟨isSome_carried?_iff, fun union => carried?_eq_some_iff, ?_, fun contexts m => ?_⟩
  · refine (isMismatch_iff e).trans (exists_congr fun p => ⟨?_, ?_⟩)
    · rintro ⟨_, hp, rfl | ⟨m, rfl⟩⟩
      · exact .inl hp
      · exact .inr ⟨m, hp⟩
    · rintro (hp | ⟨m, hp⟩)
      · exact ⟨_, hp, .inl rfl⟩
      · exact ⟨_, hp, .inr ⟨m, rfl⟩⟩
  · rw [carried?_foldr_wrapped, carried?, if_pos (beq_self_eq_true _)]

end TaggedUnion.Failure
