import Mathlib.Data.List.Basic
import Mathlib.Data.List.Forall2

/-!
# Trees in pre-order

A tree is given by what stands at each *path*, a list of numbers that says which branch to take at each node. In
pre-order, which is the lexicographic order of paths, a node comes before what is below it, and what is below a branch
before what is below the next one.

The nodes with a property stand in pre-order in a list (`InOrder`) if they are those at an increasing list of all paths
that have such a node. The list of a node is made of the lists of its branches (`inOrder_node`), and the first member
of a list is the one at the least path (`InOrder.find?_eq_some_iff`).
-/

namespace TaggedUnion.Tree

variable {α : Type}

/-- Trees side by side; the first number of a path says which of them. -/
def forest (trees : List (List Nat → Option α)) : List Nat → Option α
  | [] => none
  | i :: path => trees[i]?.bind fun tree => tree path

/-- A node with its branches. -/
def node (root : α) (branches : List (List Nat → Option α)) : List Nat → Option α
  | [] => some root
  | path => forest branches path

/-- The given list has the nodes with a property, each as often as the tree has it, in pre-order. -/
def InOrder (tree : List Nat → Option α) (keep : α → Prop) (xs : List α) : Prop :=
  ∃ paths : List (List Nat), paths.Pairwise (· < ·) ∧ (∀ p, p ∈ paths ↔ ∃ x ∈ tree p, keep x) ∧
    paths.map tree = xs.map some

theorem node_cons (root : α) (branches : List (List Nat → Option α)) (i : Nat) (path : List Nat) :
    node root branches (i :: path) = branches[i]?.bind fun tree => tree path :=
  rfl

variable {keep : α → Prop}

/-- What a tree has is its root, or in one of its branches. -/
theorem exists_node_iff {root : α} {branches : List (List Nat → Option α)} :
    (∃ p, ∃ x ∈ node root branches p, keep x) ↔ keep root ∨ ∃ tree ∈ branches, ∃ p, ∃ x ∈ tree p, keep x := by
  constructor
  · rintro ⟨p, x, hx, hkeep⟩
    cases p with
    | nil => exact .inl (Option.some.inj hx ▸ hkeep)
    | cons i p =>
      obtain ⟨tree, htree, hx⟩ := Option.bind_eq_some_iff.1 hx
      exact .inr ⟨tree, List.mem_of_getElem? htree, p, x, hx, hkeep⟩
  · rintro (hkeep | ⟨tree, htree, p, x, hx, hkeep⟩)
    · exact ⟨[], root, rfl, hkeep⟩
    · obtain ⟨i, hi⟩ := List.mem_iff_getElem?.1 htree
      exact ⟨i :: p, x, Option.bind_eq_some_iff.2 ⟨tree, hi, hx⟩, hkeep⟩

theorem InOrder.mem_iff {tree : List Nat → Option α} {xs : List α} (h : InOrder tree keep xs) {x : α} :
    x ∈ xs ↔ keep x ∧ ∃ p, tree p = some x := by
  obtain ⟨paths, -, hmem, hxs⟩ := h
  rw [← List.mem_map_of_injective (f := some) fun _ _ => Option.some.inj, ← hxs, List.mem_map]
  constructor
  · rintro ⟨p, hp, htree⟩
    obtain ⟨y, hy, hkeep⟩ := (hmem p).1 hp
    cases hy.symm.trans htree
    exact ⟨hkeep, p, htree⟩
  · rintro ⟨hkeep, p, htree⟩
    exact ⟨p, (hmem p).2 ⟨x, htree, hkeep⟩, htree⟩

/-- The path in the trees after the first one. -/
def next : List Nat → List Nat
  | [] => []
  | i :: path => (i + 1) :: path

theorem forest_next (tree : List Nat → Option α) (trees : List (List Nat → Option α)) (path : List Nat) :
    forest (tree :: trees) (next path) = forest trees path := by
  cases path with
  | nil => rfl
  | cons i path => rw [next, forest, forest, List.getElem?_cons_succ]

theorem next_lt_next {p q : List Nat} (h : p < q) : next p < next q := by
  cases p with
  | nil =>
    cases q with
    | nil => exact h
    | cons j q => exact List.nil_lt_cons _ _
  | cons i p =>
    cases q with
    | nil => exact absurd h (List.not_lt_nil _)
    | cons j q =>
      rw [List.cons_lt_cons_iff] at h
      rw [next, next, List.cons_lt_cons_iff]
      exact h.imp Nat.succ_lt_succ (And.imp_left (congrArg _))

/-- A path in trees side by side is one in the first tree, or one in the others. -/
theorem exists_forest_cons_iff {tree : List Nat → Option α} {trees : List (List Nat → Option α)} {p : List Nat} :
    (∃ x ∈ forest (tree :: trees) p, keep x) ↔
      (∃ q, (∃ x ∈ tree q, keep x) ∧ 0 :: q = p) ∨ ∃ q, (∃ x ∈ forest trees q, keep x) ∧ next q = p := by
  constructor
  · intro h
    match p with
    | [] => simp [forest] at h
    | 0 :: q => exact .inl ⟨q, h, rfl⟩
    | (i + 1) :: q => exact .inr ⟨i :: q, forest_next tree trees (i :: q) ▸ h, rfl⟩
  · rintro (⟨q, h, rfl⟩ | ⟨q, h, rfl⟩)
    · exact h
    · rwa [forest_next]

theorem inOrder_forest {trees : List (List Nat → Option α)} {lists : List (List α)}
    (h : List.Forall₂ (InOrder · keep ·) trees lists) : InOrder (forest trees) keep lists.flatten := by
  induction h with
  | nil =>
    refine ⟨[], .nil, fun p => ?_, rfl⟩
    cases p <;> simp [forest]
  | @cons tree xs trees lists hfirst _ ih =>
    obtain ⟨own, hown, hmem, hxs⟩ := hfirst
    obtain ⟨others, hothers, hmem', hxs'⟩ := ih
    -- Paths in the first tree begin with 0 now, and those in the others with more than that.
    refine ⟨own.map (0 :: ·) ++ others.map next, List.pairwise_append.2 ⟨?_, ?_, ?_⟩, fun p => ?_, ?_⟩
    · exact hown.map _ fun p q hpq => List.cons_lt_cons_iff.2 (.inr ⟨rfl, hpq⟩)
    · exact hothers.map _ fun p q hpq => next_lt_next hpq
    · simp only [List.forall_mem_map]
      intro p _ q hq
      obtain ⟨x, hx, _⟩ := (hmem' q).1 hq
      cases q with
      | nil => cases hx
      | cons i q => exact List.cons_lt_cons_iff.2 (.inl i.succ_pos)
    · rw [List.mem_append, List.mem_map, List.mem_map, exists_forest_cons_iff]
      simp only [hmem, hmem']
    · have hnext : forest (tree :: trees) ∘ next = forest trees := funext (forest_next tree trees)
      have hzero : (forest (tree :: trees) ∘ fun q => 0 :: q) = tree := rfl
      rw [List.map_append, List.map_map, List.map_map, hnext, hzero, hxs, hxs', ← List.map_append, List.flatten_cons]

/-- The list of a node is the node, if it has the property, and the lists of its branches. -/
theorem inOrder_node [DecidablePred keep] (root : α) {branches : List (List Nat → Option α)} {lists : List (List α)}
    (h : List.Forall₂ (InOrder · keep ·) branches lists) :
    InOrder (node root branches) keep ((if keep root then [root] else []) ++ lists.flatten) := by
  obtain ⟨paths, hsorted, hmem, hlists⟩ := inOrder_forest h
  -- The paths of the branches are those of the node but for the empty one, which is before all of them.
  have hne : [] ∉ paths := fun hnil => by simpa [forest] using (hmem []).1 hnil
  have hbelow : ∀ p, p ≠ [] → node root branches p = forest branches p := fun p hp => by
    cases p with
    | nil => exact absurd rfl hp
    | cons i p => rfl
  have hmap : paths.map (node root branches) = lists.flatten.map some :=
    (List.map_congr_left fun p hp => hbelow p fun hnil => hne (hnil ▸ hp)).trans hlists
  have hmem' : ∀ p, p ∈ paths ↔ p ≠ [] ∧ ∃ x ∈ node root branches p, keep x := fun p => by
    rw [hmem]
    cases p with
    | nil => simp [forest]
    | cons i p => simp [node]
  split
  · rename_i hroot
    refine ⟨[] :: paths, List.pairwise_cons.2 ⟨fun p hp => ?_, hsorted⟩, fun p => ?_, ?_⟩
    · cases p with
      | nil => exact absurd hp hne
      | cons i p => exact List.nil_lt_cons _ _
    · rw [List.mem_cons, hmem']
      cases p with
      | nil => simpa [node] using hroot
      | cons i p => simp
    · rw [List.map_cons, hmap, List.singleton_append, List.map_cons, node]
  · rename_i hroot
    refine ⟨paths, hsorted, fun p => ?_, hmap⟩
    rw [hmem']
    cases p with
    | nil => simpa [node] using hroot
    | cons i p => simp

/-- What is found in an increasing list is the least member that could be found. -/
theorem find?_eq_some_iff_of_pairwise {paths : List (List Nat)} (h : paths.Pairwise (· < ·)) {f : List Nat → Bool}
    {p : List Nat} : paths.find? f = some p ↔ p ∈ paths ∧ f p = true ∧ ∀ q ∈ paths, q < p → f q = false := by
  induction paths with
  | nil => simp
  | cons first paths ih =>
    obtain ⟨hfirst, hpaths⟩ := List.pairwise_cons.1 h
    rw [List.find?_cons]
    cases hf : f first with
    | true =>
      simp only [Option.some.injEq, List.mem_cons]
      constructor
      · rintro rfl
        refine ⟨.inl rfl, hf, fun q hq hlt => ?_⟩
        rcases hq with rfl | hq
        · exact absurd hlt (List.lt_irrefl _)
        · exact absurd hlt (List.lt_asymm (hfirst q hq))
      · rintro ⟨rfl | hp, -, hleast⟩
        · rfl
        · simp [hleast first (.inl rfl) (hfirst p hp)] at hf
    | false =>
      simp only [ih hpaths, List.mem_cons, forall_eq_or_imp]
      constructor
      · rintro ⟨hp, hfp, hleast⟩
        exact ⟨.inr hp, hfp, fun _ => hf, hleast⟩
      · rintro ⟨rfl | hp, hfp, -, hleast⟩
        · simp [hf] at hfp
        · exact ⟨hp, hfp, hleast⟩

/-- What is found in the list stands at the least path of all that could be found. -/
theorem InOrder.find?_eq_some_iff {tree : List Nat → Option α} {xs : List α} (h : InOrder tree keep xs)
    {f : α → Bool} {x : α} :
    xs.find? f = some x ↔
      ∃ p, tree p = some x ∧ keep x ∧ f x = true ∧ ∀ q < p, ∀ y ∈ tree q, keep y → f y = false := by
  obtain ⟨paths, hsorted, hmem, hxs⟩ := h
  have hfilter : paths.filterMap tree = xs := by
    rw [← Function.id_comp tree, ← List.filterMap_map, hxs, List.filterMap_map]
    exact List.filterMap_some
  rw [← hfilter, List.find?_filterMap, Option.bind_eq_some_iff]
  refine exists_congr fun p => ?_
  rw [find?_eq_some_iff_of_pairwise hsorted, hmem]
  constructor
  · rintro ⟨⟨⟨y, hy, hkeep⟩, hf, hleast⟩, hp⟩
    cases hy.symm.trans hp
    refine ⟨hp, hkeep, by simpa [hp] using hf, fun q hq z hz hz' => ?_⟩
    have hnone := hleast q ((hmem q).2 ⟨z, hz, hz'⟩) hq
    rwa [Option.mem_def.1 hz, Option.any_some] at hnone
  · rintro ⟨hp, hkeep, hf, hleast⟩
    refine ⟨⟨⟨x, hp, hkeep⟩, by rwa [hp, Option.any_some], fun q hq hlt => ?_⟩, hp⟩
    obtain ⟨z, hz, hz'⟩ := (hmem q).1 hq
    rw [Option.mem_def.1 hz, Option.any_some, hleast q hlt z hz hz']

end TaggedUnion.Tree
