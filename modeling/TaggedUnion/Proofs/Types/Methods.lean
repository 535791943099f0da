import Mathlib.Data.List.Perm.Basic
import Mathlib.Data.String.Basic
import TaggedUnion.Proofs.Types.Code

/-!
# What interfaces ask for

The order of methods and of terms makes no difference to the normal form of an interface. Of methods with one head the
first one counts, and of terms all of them do (`interface_eq_iff`).
-/

namespace TaggedUnion.Types

/-! ## The order of methods -/

section

variable {a b : MethodHead × Ty} {ms ms' : List (MethodHead × Ty)}

theorem methodKeyLe_iff :
    methodKeyLe a b = true ↔ a.1.name < b.1.name ∨ a.1.name = b.1.name ∧ a.1.home ≤ b.1.home := by
  simp [methodKeyLe]

theorem methodKeyLe_trans (a b c : MethodHead × Ty) (hab : methodKeyLe a b = true) (hbc : methodKeyLe b c = true) :
    methodKeyLe a c = true := by
  rw [methodKeyLe_iff] at *
  rcases hab with hab | ⟨hab, hab'⟩ <;> rcases hbc with hbc | ⟨hbc, hbc'⟩
  · exact .inl (lt_trans hab hbc)
  · exact .inl (hbc ▸ hab)
  · exact .inl (hab ▸ hbc)
  · exact .inr ⟨hab.trans hbc, le_trans hab' hbc'⟩

theorem methodKeyLe_total (a b : MethodHead × Ty) : (methodKeyLe a b || methodKeyLe b a) = true := by
  rw [Bool.or_eq_true, methodKeyLe_iff, methodKeyLe_iff]
  rcases lt_trichotomy a.1.name b.1.name with h | h | h
  · exact .inl (.inl h)
  · exact (le_total a.1.home b.1.home).imp (fun h' => .inr ⟨h, h'⟩) fun h' => .inr ⟨h.symm, h'⟩
  · exact .inr (.inl h)

/-- Methods of one rank have one head. -/
theorem methodKeyLe_antisymm (hab : methodKeyLe a b = true) (hba : methodKeyLe b a = true) : a.1 = b.1 := by
  rw [methodKeyLe_iff] at hab hba
  have hname : a.1.name = b.1.name := by
    refine le_antisymm ?_ ?_
    · exact hab.elim le_of_lt fun h => le_of_eq h.1
    · exact hba.elim le_of_lt fun h => le_of_eq h.1
  have hhome : a.1.home = b.1.home :=
    le_antisymm (hab.resolve_left (not_lt_of_ge (le_of_eq hname.symm))).2
      (hba.resolve_left (not_lt_of_ge (le_of_eq hname))).2
  calc
    a.1 = ⟨a.1.name, a.1.home⟩ := rfl
    _ = ⟨b.1.name, b.1.home⟩ := by rw [hname, hhome]

/-- Sorting keeps the order of methods with one head. -/
theorem find?_mergeSort (ms : List (MethodHead × Ty)) (head : MethodHead) :
    (ms.mergeSort methodKeyLe).find? (·.1 == head) = ms.find? (·.1 == head) := by
  -- The methods with that head are sorted as they stand, so that all of them keep their order.
  have hsorted : (ms.filter (·.1 == head)).Pairwise fun a b => methodKeyLe a b := by
    refine List.pairwise_of_forall_mem_list fun a ha b hb => ?_
    rw [methodKeyLe_iff, beq_iff_eq.1 (List.mem_filter.1 ha).2, beq_iff_eq.1 (List.mem_filter.1 hb).2]
    exact .inr ⟨rfl, le_refl _⟩
  have hsub := (List.sublist_mergeSort methodKeyLe_trans methodKeyLe_total hsorted List.filter_sublist).filter
    (·.1 == head)
  simp only [List.filter_filter, Bool.and_self] at hsub
  rw [← List.head?_filter, ← List.head?_filter,
    hsub.eq_of_length ((List.mergeSort_perm _ _).filter _).length_eq.symm]

open sortMethods (dropRepeated)

theorem find?_dropRepeated (ms : List (MethodHead × Ty)) (head : MethodHead) :
    (dropRepeated ms).find? (·.1 == head) = ms.find? (·.1 == head) := by
  fun_induction dropRepeated ms with
  | case1 a b rest heq ih =>
    rw [ih, List.find?_cons, List.find?_cons, List.find?_cons, beq_iff_eq.1 heq]
    cases b.1 == head <;> rfl
  | case2 a b rest _ ih => simp only [List.find?_cons, ih]
  | case3 => rfl

theorem dropRepeated_sublist (ms : List (MethodHead × Ty)) : (dropRepeated ms).Sublist ms := by
  fun_induction dropRepeated ms with
  | case1 a b rest _ ih => exact ih.trans ((List.sublist_cons_self b rest).cons_cons a)
  | case2 a b rest _ ih => exact ih.cons_cons a
  | case3 ms => exact .refl ms

/-- Of sorted methods, no two are left that have one head. -/
theorem pairwise_dropRepeated (h : ms.Pairwise fun a b => methodKeyLe a b = true) :
    (dropRepeated ms).Pairwise fun a b => a.1 ≠ b.1 := by
  fun_induction dropRepeated ms with
  | case1 a b rest _ ih => exact ih (h.sublist ((List.sublist_cons_self b rest).cons_cons a))
  | case2 a b rest hne ih =>
    obtain ⟨hfirst, hrest⟩ := List.pairwise_cons.1 h
    refine List.pairwise_cons.2 ⟨fun c hc heq => hne (beq_iff_eq.2 ?_), ih hrest⟩
    -- What has the head of the first method stands before the second, and after it.
    have hcb : methodKeyLe c b = true := by
      have hab := hfirst b List.mem_cons_self
      rw [methodKeyLe_iff] at hab ⊢
      rwa [← heq]
    rcases List.mem_cons.1 ((dropRepeated_sublist _).subset hc) with rfl | hmem
    · exact heq
    · exact heq.trans (methodKeyLe_antisymm hcb ((List.pairwise_cons.1 hrest).1 c hmem))
  | case3 ms hnot =>
    match ms, hnot with
    | [], _ => exact .nil
    | [a], _ => exact List.pairwise_singleton _ a
    | a :: b :: rest, hnot => exact (hnot a b rest rfl).elim

theorem find?_sortMethods (ms : List (MethodHead × Ty)) (head : MethodHead) :
    (sortMethods ms).find? (·.1 == head) = ms.find? (·.1 == head) := by
  rw [sortMethods, find?_dropRepeated, find?_mergeSort]

/-- What is in a list of methods with different heads is found under its head. -/
theorem mem_iff_find? (h : ms.Pairwise fun a b => a.1 ≠ b.1) : a ∈ ms ↔ ms.find? (·.1 == a.1) = some a := by
  refine ⟨fun hmem => ?_, List.mem_of_find?_eq_some⟩
  induction ms with
  | nil => cases hmem
  | cons b rest ih =>
    obtain ⟨hfirst, hrest⟩ := List.pairwise_cons.1 h
    rcases List.mem_cons.1 hmem with rfl | hmem
    · exact List.find?_cons_of_pos (beq_self_eq_true a.1)
    · rw [List.find?_cons_of_neg (by simpa using hfirst a hmem)]
      exact ih hrest hmem

/-- Methods are the same after sorting iff the first method under each head is the same. -/
theorem sortMethods_eq_iff :
    sortMethods ms = sortMethods ms' ↔ ∀ head, ms.find? (·.1 == head) = ms'.find? (·.1 == head) := by
  constructor
  · intro h head
    rw [← find?_sortMethods ms, h, find?_sortMethods]
  · intro h
    have hsorted : ∀ ms, (sortMethods ms).Pairwise fun a b => methodKeyLe a b = true := fun ms =>
      (List.pairwise_mergeSort methodKeyLe_trans methodKeyLe_total ms).sublist (dropRepeated_sublist _)
    have hheads : ∀ ms, (sortMethods ms).Pairwise fun a b => a.1 ≠ b.1 := fun ms =>
      pairwise_dropRepeated (List.pairwise_mergeSort methodKeyLe_trans methodKeyLe_total ms)
    have hmem : ∀ a, a ∈ sortMethods ms ↔ a ∈ sortMethods ms' := fun a => by
      rw [mem_iff_find? (hheads ms), mem_iff_find? (hheads ms'), find?_sortMethods, find?_sortMethods, h]
    have hnodup : ∀ ms, (sortMethods ms).Nodup := fun ms => (hheads ms).imp fun hne heq => hne (congrArg Prod.fst heq)
    -- Lists with the same members that are sorted are the same, as no two members have one rank.
    refine ((List.perm_ext_iff_of_nodup (hnodup ms) (hnodup ms')).2 hmem).eq_of_pairwise (fun a b ha hb hab hba => ?_)
      (hsorted ms) (hsorted ms')
    have hfind := (mem_iff_find? (hheads ms)).1 ((hmem b).2 hb)
    rw [← methodKeyLe_antisymm hab hba, (mem_iff_find? (hheads ms)).1 ha] at hfind
    exact Option.some.inj hfind

end

/-! ## Demands -/

/-- Two demands are the same: they find one method under each head, and admit the same types. -/
@[mk_iff]
structure Demand.Same (d e : Demand) : Prop where
  methods : ∀ head, d.methods.find? (·.1 == head) = e.methods.find? (·.1 == head)
  comparable : d.types.comparable = e.types.comparable
  terms : Option.Rel List.Perm d.types.terms e.types.terms

/-- Interfaces in normal form are the same iff their demands are. -/
theorem Demand.interface_eq_iff {d e : Demand} : d.interface = e.interface ↔ d.Same e := by
  obtain ⟨ms, ⟨terms, comparable⟩⟩ := d
  obtain ⟨ms', ⟨terms', comparable'⟩⟩ := e
  rw [interface, interface, Ty.interface.injEq, sortMethods_eq_iff, same_iff]
  refine and_congr_right fun _ => ?_
  cases comparable <;> cases comparable' <;> cases terms <;> cases terms' <;>
    simp [comparableType, mergeSort_terms_iff]

end TaggedUnion.Types
