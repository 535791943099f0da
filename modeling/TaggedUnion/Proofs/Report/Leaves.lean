import TaggedUnion.Proofs.Report.Order
import TaggedUnion.Proofs.Tree.Preorder

/-!
# What a report has

A report has the errors that were added, taken apart: those within them that are not joined, from left to right and as
often as they occur (`inOrder_added`). None of its errors is joined itself, whatever is done with it
(`isJoined_of_mem_after`), so that joining them and taking the result apart again changes nothing.

Main statement: a report loses nothing and invents nothing, on its own, when its error is added to another one, and when
it is sorted; sorting it again changes nothing (`errors_after`).
-/

namespace TaggedUnion

namespace ErrorTree

/-- Whether an error is several ones, joined. -/
def isJoined : ErrorTree → Bool
  | joined _ => true
  | _ => false

/-- The error at a path, whose numbers say which members of joined errors to take. -/
def at? : List Nat → ErrorTree → Option ErrorTree
  | [], e => some e
  | i :: path, joined members => members[i]?.bind (at? path)
  | _ :: _, _ => none

/-- The errors within several ones, of which some may be missing. The first number of a path says within which. -/
def within (errors : List (Option ErrorTree)) : List Nat → Option ErrorTree :=
  Tree.forest (errors.map fun e path => e.bind (at? path))

/-! ## Leaves -/

theorem at?_joined (members : List ErrorTree) :
    (fun path => at? path (joined members)) =
      Tree.node (joined members) (members.map fun e path => at? path e) := by
  funext path
  cases path with
  | nil => rfl
  | cons i path =>
    rw [Tree.node_cons, List.getElem?_map, Option.bind_map]
    rfl

theorem at?_of_isJoined_eq_false {e : ErrorTree} (h : e.isJoined = false) :
    (fun path => at? path e) = Tree.node e [] := by
  funext path
  cases path with
  | nil => rfl
  | cons i path =>
    cases e with
    | joined => cases h
    | _ => rfl

theorem allLeaves_eq_flatten (es : List ErrorTree) : leaves.allLeaves es = (es.map leaves).flatten := by
  induction es with
  | nil => rfl
  | cons e es ih => rw [leaves.allLeaves, ih, List.map_cons, List.flatten_cons]

theorem inOrder_singleton {e : ErrorTree} (h : e.isJoined = false) :
    Tree.InOrder (fun path => at? path e) (·.isJoined = false) [e] := by
  have hnode : Tree.InOrder (Tree.node e []) (·.isJoined = false) _ := Tree.inOrder_node e .nil
  rwa [if_pos h, ← at?_of_isJoined_eq_false h] at hnode

mutual

/-- The leaves of an error are the errors within it that are not joined, from left to right. -/
theorem inOrder_leaves : ∀ e : ErrorTree, Tree.InOrder (fun path => at? path e) (·.isJoined = false) e.leaves
  | plain _ | located _ | wrapped _ _ => inOrder_singleton rfl
  | joined members => by
    have hnode := Tree.inOrder_node (joined members) (inOrder_leaves_members members)
    rwa [← at?_joined, if_neg (by simp [isJoined]), List.nil_append, ← allLeaves_eq_flatten] at hnode
termination_by structural e => e

theorem inOrder_leaves_members : ∀ es : List ErrorTree,
    List.Forall₂ (Tree.InOrder · (·.isJoined = false) ·) (es.map fun e path => at? path e) (es.map leaves)
  | [] => .nil
  | e :: es => .cons (inOrder_leaves e) (inOrder_leaves_members es)
termination_by structural es => es

end

theorem isJoined_of_mem_leaves {e leaf : ErrorTree} (h : leaf ∈ e.leaves) : leaf.isJoined = false :=
  ((inOrder_leaves e).mem_iff.1 h).1

theorem leaves_of_isJoined_eq_false {e : ErrorTree} (h : e.isJoined = false) : e.leaves = [e] := by
  cases e with
  | joined => cases h
  | _ => rfl

end ErrorTree

/-- Errors that are not joined are all the leaves that they have. -/
theorem allLeaves_of_forall {es : List ErrorTree} (h : ∀ e ∈ es, e.leaves = [e]) :
    ErrorTree.leaves.allLeaves es = es := by
  rw [ErrorTree.allLeaves_eq_flatten, List.map_congr_left h, ← List.flatMap_def, List.flatMap_singleton']

namespace Report

/-! ## Additions -/

/-- What an error that may be missing comes to. -/
def parts (e : Option ErrorTree) : List ErrorTree :=
  (e.map (·.leaves)).getD []

theorem errors_add (r : Report) (e : Option ErrorTree) : (r.add e).errors = r.errors ++ parts e := by
  cases e with
  | none => exact (List.append_nil _).symm
  | some e => rfl

theorem errors_foldl (r : Report) (added : List (Option ErrorTree)) :
    (added.foldl add r).errors = r.errors ++ (added.map parts).flatten := by
  induction added generalizing r with
  | nil => exact (List.append_nil _).symm
  | cons e added ih => rw [List.foldl_cons, ih, errors_add, List.map_cons, List.flatten_cons, List.append_assoc]

/-- What is added are the errors within the given ones that are not joined, from left to right. -/
theorem inOrder_added (added : List (Option ErrorTree)) :
    Tree.InOrder (ErrorTree.within added) (·.isJoined = false) (added.map parts).flatten := by
  refine Tree.inOrder_forest ?_
  induction added with
  | nil => exact .nil
  | cons e added ih =>
    refine .cons ?_ ih
    cases e with
    | none => exact ⟨[], .nil, by simp, rfl⟩
    | some e => exact ErrorTree.inOrder_leaves e

/-- The error of a report, added to another one, is taken apart into the errors that it was joined from. -/
theorem errors_add_error?_of_forall {r : Report} (h : ∀ e ∈ r.errors, e.isJoined = false) (other : Report) :
    (other.add r.error?).errors = other.errors ++ r.errors := by
  rw [errors_add, error?]
  cases hes : r.errors with
  | nil => rfl
  | cons e es =>
    have hleaves := allLeaves_of_forall fun e he => ErrorTree.leaves_of_isJoined_eq_false (h e he)
    rw [if_neg (by simp), ← hes]
    exact congrArg _ hleaves

theorem error?_eq_none_iff (r : Report) : r.error? = none ↔ r.errors = [] := by
  rw [error?]
  cases r.errors <;> simp

/-! ## Any calls -/

/-- A call on a report. -/
inductive Call
  | add (e : Option ErrorTree)
  | sort

/-- The report after a call. -/
def call (r : Report) : Call → Report
  | .add e => r.add e
  | .sort => r.inSourceOrder

/-- A new report after the given calls. -/
def after (calls : List Call) : Report :=
  calls.foldl call {}

theorem isJoined_of_mem_call {r : Report} (h : ∀ e ∈ r.errors, e.isJoined = false) (c : Call) :
    ∀ e ∈ (r.call c).errors, e.isJoined = false := by
  cases c with
  | add added =>
    rw [call, errors_add]
    refine List.forall_mem_append.2 ⟨h, ?_⟩
    cases added with
    | none => nofun
    | some e => exact fun _ => ErrorTree.isJoined_of_mem_leaves
  | sort => exact fun e he => h e ((inSourceOrder_errors r).perm.mem_iff.1 he)

theorem isJoined_of_mem_after (calls : List Call) : ∀ e ∈ (after calls).errors, e.isJoined = false := by
  -- Any report without joined errors stays one, as the induction on the calls starts from each of them.
  suffices h : ∀ r : Report, (∀ e ∈ r.errors, e.isJoined = false) →
      ∀ e ∈ (calls.foldl call r).errors, e.isJoined = false from h {} nofun
  induction calls with
  | nil => exact fun _ h => h
  | cons c calls ih => exact fun r h => ih _ (isJoined_of_mem_call h c)

/-- Sorting a sorted report changes nothing. -/
theorem inSourceOrder_inSourceOrder (r : Report) : r.inSourceOrder.inSourceOrder = r.inSourceOrder :=
  congrArg mk (List.mergeSort_of_pairwise (List.pairwise_mergeSort before_trans before_total r.errors))

/-- Reports lose nothing and invent nothing. What is added to a report, which may have been sorted in between, comes to
it as its leaves, from left to right; its error, added to another report, comes to the errors that it has, in their
order; and sorting puts these into the order of the source, once and for all. -/
theorem errors_after (added : List (Option ErrorTree)) (calls : List Call) (other : Report) :
    let r := after calls
    Tree.InOrder (ErrorTree.within added) (·.isJoined = false) (after (added.map .add)).errors ∧
      (after (calls ++ added.map .add)).errors = r.errors ++ (after (added.map .add)).errors ∧
      (r.error? = none ↔ r.errors = []) ∧
      (other.add r.error?).errors = other.errors ++ r.errors ∧
      (other.add r.inSourceOrder.error?).errors = other.errors ++ r.inSourceOrder.errors ∧
      InSourceOrder r.errors r.inSourceOrder.errors ∧ r.inSourceOrder.inSourceOrder = r.inSourceOrder := by
  intro r
  have hadded : ∀ start : Report, ((added.map Call.add).foldl call start).errors =
      start.errors ++ (added.map parts).flatten := fun start => by
    rw [List.foldl_map]
    exact errors_foldl start added
  have hnew : (after (added.map .add)).errors = (added.map parts).flatten :=
    (hadded {}).trans (List.nil_append _)
  refine ⟨?_, ?_, error?_eq_none_iff r, errors_add_error?_of_forall (isJoined_of_mem_after calls) other,
    errors_add_error?_of_forall (isJoined_of_mem_call (isJoined_of_mem_after calls) .sort) other,
    inSourceOrder_errors r, inSourceOrder_inSourceOrder r⟩
  · rw [hnew]
    exact inOrder_added added
  · rw [hnew, after, List.foldl_append]
    exact hadded r

/-- Joined errors are taken apart at any depth, and an error that is added twice is there twice. -/
example : (after [.add (some (.joined [.plain "a", .joined [.plain "b", .plain "a"]])), .add none]).errors =
    [.plain "a", .plain "b", .plain "a"] :=
  rfl

end Report

end TaggedUnion
