import TaggedUnion.Proofs.Report.Leaves
import TaggedUnion.Proofs.Union.Acceptance

/-!
# Findings in reports

What building finds is joined into one error. Adding that error to a report takes it apart again, so
that the report has one diagnostic for each finding, in order (`errors_add_error?`).
-/

namespace TaggedUnion

/-- What building reports is one error for each finding. -/
theorem error?_eq (b : Build) (w : Wording) :
    b.error? w = if b.findings.isEmpty then none
      else some (.joined (b.findings.map fun f => .located (f.diagnostic w))) := by
  rw [Build.error?, Report.error?, errors_foldl_add, List.nil_append, List.isEmpty_map]

/-- A report of what building reports has one diagnostic for each finding, in order. -/
theorem errors_add_error? (b : Build) (w : Wording) :
    (Report.add {} (b.error? w)).errors = b.findings.map fun f => .located (f.diagnostic w) := by
  rw [error?_eq]
  cases hfindings : b.findings with
  | nil => rfl
  | cons f rest =>
    change [] ++ ErrorTree.leaves (.joined _) = _
    rw [List.nil_append, ErrorTree.leaves]
    exact allLeaves_of_forall (List.forall_mem_map.2 fun _ _ => rfl)

end TaggedUnion
