import Mathlib.Data.List.Perm.Subperm
import Mathlib.Data.List.Nodup
import TaggedUnion.Name.Candidate

/-!
# Candidate names

The candidates of a name are pairwise distinct (`candidate_injective`), so a search that finitely
many names block ends at the first acceptable candidate (`search?_eq_some_iff`, `exists_search?`).

A name that was numbered once (`Numbered`) stays apart from the candidates of the name it comes
from: its numbers are separated by underscores, which no number contains
(`candidate_ne_of_numbered`).
-/

namespace TaggedUnion.Name

/-- The characters of a candidate other than the name itself. -/
theorem candidate_succ_toList (base : String) (n : Nat) :
    (candidate base (n + 1)).toList =
      base.toList ++ ((separator base).toList ++ Nat.toDigits 10 (n + 2)) := by
  rw [candidate, String.toList_append, String.toList_append, List.append_assoc]
  exact congrArg _ (congrArg _ Nat.toList_repr)

/-- Distinct numbers make distinct candidates. -/
theorem candidate_injective (base : String) : Function.Injective (candidate base) := by
  intro m n h
  have hl := congrArg String.toList h
  cases m with
  | zero =>
    cases n with
    | zero => rfl
    | succ n =>
      -- A numbered candidate is longer than the name.
      rw [candidate_succ_toList, candidate, List.self_eq_append_right, List.append_eq_nil_iff] at hl
      exact absurd hl.2 Nat.toDigits_ne_nil
  | succ m =>
    cases n with
    | zero =>
      rw [candidate_succ_toList, candidate, List.append_right_eq_self, List.append_eq_nil_iff] at hl
      exact absurd hl.2 Nat.toDigits_ne_nil
    | succ n =>
      rw [candidate_succ_toList, candidate_succ_toList, List.append_cancel_left_eq,
        List.append_cancel_left_eq] at hl
      have hnum : m + 2 = n + 2 := by
        rw [← Nat.ofDigitChars_ten_toDigits (n := m + 2), hl, Nat.ofDigitChars_ten_toDigits]
      omega

theorem candidate_ne_empty {base : String} (hb : base ≠ "") (n : Nat) : candidate base n ≠ "" := by
  cases n with
  | zero => exact hb
  | succ n =>
    intro h
    have hl := congrArg String.toList h
    rw [candidate_succ_toList] at hl
    exact hb (String.toList_injective (List.append_eq_nil_iff.1 hl).1)

/-! ## Searches -/

variable {base name : String} {blocked : Nat} {acceptable : String → Bool}

/-- A search finds the first acceptable candidate. -/
theorem search?_eq_some_iff :
    search? base blocked acceptable = some name ↔
      base ≠ "" ∧ ∃ n ≤ blocked, name = candidate base n ∧ acceptable name = true ∧
        ∀ m < n, acceptable (candidate base m) = false := by
  rw [search?]
  by_cases hb : base = ""
  · simp [hb]
  · have he : base.isEmpty = false := by simpa using hb
    simp only [he, Bool.false_eq_true, if_false, List.find?_map, Option.map_eq_some_iff,
      List.find?_range_eq_some, Function.comp_apply, List.mem_range, ne_eq, hb, not_false_eq_true,
      true_and, Bool.not_eq_eq_eq_not, Bool.not_true]
    constructor
    · rintro ⟨n, ⟨hn, hlt, hmin⟩, rfl⟩
      exact ⟨n, Nat.le_of_lt_succ hlt, rfl, hn, hmin⟩
    · rintro ⟨n, hn, rfl, hok, hmin⟩
      exact ⟨n, ⟨hok, Nat.lt_succ_of_le hn, hmin⟩, rfl⟩

/-- A search succeeds if all names that are not acceptable are among as many as it allows for. -/
theorem exists_search? (hb : base ≠ "") (blockers : List String) (hlen : blockers.length ≤ blocked)
    (hblock : ∀ k, acceptable k = false → k ∈ blockers) :
    ∃ k, search? base blocked acceptable = some k := by
  by_contra hnone
  have he : base.isEmpty = false := by simpa using hb
  have hall : ∀ m < blocked + 1, acceptable (candidate base m) = false := by
    intro m hm
    by_contra hok
    refine hnone (Option.isSome_iff_exists.1 ?_)
    rw [search?, he]
    simp only [Bool.false_eq_true, if_false, List.find?_isSome, List.mem_map, List.mem_range]
    exact ⟨_, ⟨m, hm, rfl⟩, by simpa using hok⟩
  -- Too many distinct candidates would be among the blocking names.
  have hnodup : ((List.range (blocked + 1)).map (candidate base)).Nodup :=
    List.nodup_range.map (candidate_injective base)
  have hsub : ((List.range (blocked + 1)).map (candidate base)) ⊆ blockers := by
    intro k hk
    obtain ⟨m, hm, rfl⟩ := List.mem_map.1 hk
    exact hblock _ (hall m (List.mem_range.1 hm))
  have := (List.subperm_of_subset hnodup hsub).length_le
  rw [List.length_map, List.length_range] at this
  omega

/-- A search from an acceptable name finds that name. -/
theorem search?_self (hb : base ≠ "") (hok : acceptable base = true) :
    search? base blocked acceptable = some base :=
  search?_eq_some_iff.2 ⟨hb, 0, Nat.zero_le _, rfl, hok, fun _ hm => absurd hm (Nat.not_lt_zero _)⟩

/-! ## Names that were numbered -/

/-- `name` is `base` with numbers behind it: the characters after the separator are digits and
underscores, and the last of them is a digit. -/
def Numbered (base name : String) : Prop :=
  ∃ tail : List Char, (∃ c, tail.getLast? = some c ∧ c.isDigit = true) ∧
    (∀ c ∈ tail, c.isDigit = true ∨ c = '_') ∧
    name.toList = base.toList ++ ((separator base).toList ++ tail)

theorem isDigit_of_mem_toDigits {n : Nat} {c : Char} (h : c ∈ Nat.toDigits 10 n) : c.isDigit = true :=
  Nat.isDigit_of_mem_toDigits (by decide) (by decide) h

theorem exists_getLast?_toDigits (n : Nat) :
    ∃ c, (Nat.toDigits 10 n).getLast? = some c ∧ c.isDigit = true := by
  have hsome : (Nat.toDigits 10 n).getLast?.isSome := List.getLast?_isSome.2 Nat.toDigits_ne_nil
  obtain ⟨c, hc⟩ := Option.isSome_iff_exists.1 hsome
  exact ⟨c, hc, isDigit_of_mem_toDigits (List.mem_of_getLast? hc)⟩

theorem numbered_candidate (base : String) (n : Nat) : Numbered base (candidate base (n + 1)) :=
  ⟨_, exists_getLast?_toDigits _, fun _ hc => .inl (isDigit_of_mem_toDigits hc),
    candidate_succ_toList base n⟩

/-- A numbered name ends in a digit, so that further numbers are set off by an underscore. -/
theorem Numbered.separator_eq (h : Numbered base name) : separator name = "_" := by
  obtain ⟨tail, ⟨c, hc, hd⟩, -, hl⟩ := h
  rw [separator, hl]
  simp [List.getLast?_append, hc, hd]

theorem Numbered.candidate (h : Numbered base name) (n : Nat) :
    Numbered base (Name.candidate name (n + 1)) := by
  have hsep := h.separator_eq
  obtain ⟨tail, -, hall, hl⟩ := h
  obtain ⟨c, hc, hd⟩ := exists_getLast?_toDigits (n + 2)
  refine ⟨tail ++ ('_' :: Nat.toDigits 10 (n + 2)), ⟨c, ?_, hd⟩, fun x hx => ?_, ?_⟩
  · simp [List.getLast?_append, List.getLast?_cons, hc]
  · rcases List.mem_append.1 hx with hx | hx
    · exact hall x hx
    · rcases List.mem_cons.1 hx with hx | hx
      · exact .inr hx
      · exact .inl (isDigit_of_mem_toDigits hx)
  · rw [candidate_succ_toList, hsep, hl]
    simp

/-- The numbered candidates of a name that was numbered before are no candidates of the original: an
underscore stands within what would have to be a number. -/
theorem candidate_ne_of_numbered (h : Numbered base name) (m n : Nat) :
    candidate name (m + 1) ≠ candidate base n := by
  intro heq
  have hsep := h.separator_eq
  obtain ⟨tail, -, -, hl⟩ := h
  have hl' := congrArg String.toList heq
  rw [candidate_succ_toList, hsep, hl] at hl'
  cases n with
  | zero =>
    rw [candidate, List.append_assoc, List.append_right_eq_self] at hl'
    exact absurd hl' (by simp)
  | succ n =>
    rw [candidate_succ_toList, List.append_assoc, List.append_cancel_left_eq, List.append_assoc,
      List.append_cancel_left_eq] at hl'
    have hmem : '_' ∈ Nat.toDigits 10 (n + 2) := by
      rw [← hl']
      simp
    exact absurd (isDigit_of_mem_toDigits hmem) (by decide)

theorem Numbered.ne (h : Numbered base name) : name ≠ base := by
  rintro rfl
  obtain ⟨tail, ⟨c, hc, -⟩, -, hl⟩ := h
  rw [List.self_eq_append_right, List.append_eq_nil_iff] at hl
  rw [hl.2] at hc
  simp at hc

theorem Numbered.ne_empty (h : Numbered base name) : name ≠ "" := by
  rintro rfl
  obtain ⟨tail, ⟨c, hc, -⟩, -, hl⟩ := h
  rw [String.toList_empty, eq_comm, List.append_eq_nil_iff, List.append_eq_nil_iff] at hl
  rw [hl.2.2] at hc
  simp at hc

/-- Numbers add nothing to a name but digits and underscores. -/
theorem Numbered.dot_notMem (h : Numbered base name) (hb : '.' ∉ base.toList) : '.' ∉ name.toList := by
  obtain ⟨tail, -, hall, hl⟩ := h
  rw [hl, List.mem_append, List.mem_append]
  rintro (hin | hin | hin)
  · exact hb hin
  · have hsep : separator base = "_" ∨ separator base = "" := by
      rw [separator]
      split
      · split
        · exact .inl rfl
        · exact .inr rfl
      · exact .inr rfl
    rcases hsep with hsep | hsep <;> rw [hsep] at hin <;> simp at hin
  · rcases hall '.' hin with hd | hd
    · exact absurd hd (by decide)
    · exact absurd hd (by decide)

end TaggedUnion.Name
