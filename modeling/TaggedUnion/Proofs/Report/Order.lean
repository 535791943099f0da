import Mathlib.Data.List.Perm.Basic
import Mathlib.Data.String.Basic
import TaggedUnion.Report

/-!
# Errors in the order of the source

Sorting a report loses nothing and invents nothing. Errors without a position come first, as they
were; the others follow by file name and offset, and errors at one position stay as they were
(`inSourceOrder_errors`). The keys that errors are sorted by say no more than that: an error without a
position has a key before all others (`sortKey_eq_iff`).
-/

namespace TaggedUnion

open Source

/-- Where an error is, if it has a valid position. -/
def ErrorTree.position? (e : ErrorTree) : Option Position :=
  (e.diagnostic?.map Diagnostic.position).filter Position.isValid

/-- A position comes before another one, or is at the same place: files go by name, places in a file by
offset. -/
def Source.Position.Precedes (p q : Position) : Prop :=
  p.file < q.file ∨ p.file = q.file ∧ p.offset ≤ q.offset

/-- Whether an error is at the place of a position. -/
def ErrorTree.isAt (p : Position) (e : ErrorTree) : Bool :=
  e.position?.any fun q => q.file == p.file && q.offset == p.offset

/-- A list of errors sorted by position. -/
structure InSourceOrder (es sorted : List ErrorTree) : Prop where
  /-- The errors are those that there were, each as often as before. -/
  perm : sorted.Perm es
  /-- Those without a position come first, in the order they had. -/
  unplaced : ∃ placed, sorted = es.filter (·.position?.isNone) ++ placed ∧
    ∀ e ∈ placed, e.position?.isSome
  /-- The others follow by position. -/
  ordered : sorted.Pairwise fun a b => ∀ p ∈ a.position?, ∀ q ∈ b.position?, p.Precedes q
  /-- Errors at one place stay in order. -/
  stable : ∀ p, sorted.filter (·.isAt p) = es.filter (·.isAt p)

namespace Report

/-! ## Keys -/

theorem keyLe_iff {a b : String × Int} : keyLe a b ↔ a.1 < b.1 ∨ a.1 = b.1 ∧ a.2 ≤ b.2 := by
  simp [keyLe]

/-- An error comes before another one, or is at the same place. -/
def before (a b : ErrorTree) : Bool :=
  keyLe (sortKey a) (sortKey b)

theorem before_trans (a b c : ErrorTree) (hab : before a b) (hbc : before b c) : before a c := by
  rw [before, keyLe_iff] at *
  rcases hab with hab | ⟨hab, hab'⟩ <;> rcases hbc with hbc | ⟨hbc, hbc'⟩
  · exact .inl (lt_trans hab hbc)
  · exact .inl (hbc ▸ hab)
  · exact .inl (hab ▸ hbc)
  · exact .inr ⟨hab.trans hbc, Int.le_trans hab' hbc'⟩

theorem before_total (a b : ErrorTree) : before a b || before b a := by
  rw [Bool.or_eq_true, before, before, keyLe_iff, keyLe_iff]
  rcases lt_trichotomy (sortKey a).1 (sortKey b).1 with h | h | h
  · exact .inl (.inl h)
  · rcases Int.le_total (sortKey a).2 (sortKey b).2 with h' | h'
    · exact .inl (.inr ⟨h, h'⟩)
    · exact .inr (.inr ⟨h.symm, h'⟩)
  · exact .inr (.inl h)

theorem sortKey_of_position? {e : ErrorTree} {p : Position} (h : e.position? = some p) :
    sortKey e = (p.file, (p.offset : Int)) := by
  rw [ErrorTree.position?, Option.filter_eq_some_iff, Option.map_eq_some_iff] at h
  obtain ⟨⟨d, hd, rfl⟩, hvalid⟩ := h
  rw [sortKey, hd]
  exact if_pos hvalid

/-- Errors without a position have a key of their own. -/
theorem sortKey_eq_iff {e : ErrorTree} : sortKey e = ("", -1) ↔ e.position? = none := by
  cases hp : e.position? with
  | none =>
    refine iff_of_true ?_ rfl
    rw [sortKey]
    cases hd : e.diagnostic? with
    | none => rfl
    | some d =>
      have hinvalid : ¬d.position.isValid = true := by simpa [ErrorTree.position?, hd] using hp
      exact if_neg hinvalid
  | some p =>
    refine iff_of_false (fun h => ?_) nofun
    rw [sortKey_of_position? hp, Prod.mk.injEq] at h
    omega

/-! ## Sorting -/

/-- Sorting keeps the order of errors that have one key. -/
theorem filter_inSourceOrder (r : Report) {f : ErrorTree → Bool} {k : String × Int}
    (hf : ∀ e, f e = true ↔ sortKey e = k) :
    r.inSourceOrder.errors.filter f = r.errors.filter f := by
  -- Errors of one key are sorted as they are, so that sorting all of them keeps them in a row; there
  -- are no more of them afterwards.
  have hsorted : (r.errors.filter f).Pairwise fun a b => before a b := by
    refine List.pairwise_of_forall_mem_list fun a ha b hb => ?_
    rw [before, (hf a).1 (List.mem_filter.1 ha).2, (hf b).1 (List.mem_filter.1 hb).2, keyLe_iff]
    exact .inr ⟨rfl, Int.le_refl _⟩
  have hsub : (r.errors.filter f).Sublist r.inSourceOrder.errors :=
    List.sublist_mergeSort before_trans before_total hsorted List.filter_sublist
  have hkept := hsub.filter f
  simp only [List.filter_filter, Bool.and_self] at hkept
  exact (hkept.eq_of_length ((List.mergeSort_perm _ _).filter f).length_eq.symm).symm

/-- A list in which nothing comes before what has a property, unless it has the property too, consists of
the part that has the property and the part that has it not. -/
theorem eq_filter_append {α : Type*} {f : α → Bool} {l : List α}
    (h : l.Pairwise fun a b => f b = true → f a = true) :
    l = l.filter f ++ l.filter fun a => !f a := by
  induction l with
  | nil => rfl
  | cons a l ih =>
    obtain ⟨hall, hrest⟩ := List.pairwise_cons.1 h
    cases ha : f a with
    | true => simpa [ha] using ih hrest
    | false =>
      have hnone : ∀ b ∈ l, f b = false := fun b hb =>
        Bool.eq_false_iff.2 fun hfb => by simp [hall b hb hfb] at ha
      have hfilter : l.filter f = [] := List.filter_eq_nil_iff.2 fun b hb => by simp [hnone b hb]
      have hself : (l.filter fun b => !f b) = l := List.filter_eq_self.2 fun b hb => by simp [hnone b hb]
      simp [ha, hfilter, hself]

/-- Sorting a report puts its errors in the order of the source. -/
theorem inSourceOrder_errors (r : Report) : InSourceOrder r.errors r.inSourceOrder.errors := by
  have hordered : r.inSourceOrder.errors.Pairwise fun a b => before a b :=
    List.pairwise_mergeSort before_trans before_total r.errors
  refine ⟨List.mergeSort_perm _ _, ?_, ?_, fun p => ?_⟩
  · refine ⟨r.inSourceOrder.errors.filter fun e => !e.position?.isNone, ?_, fun e he => ?_⟩
    · have hfirst : r.inSourceOrder.errors.filter (·.position?.isNone) =
          r.errors.filter (·.position?.isNone) :=
        filter_inSourceOrder r fun e => by rw [sortKey_eq_iff, Option.isNone_iff_eq_none]
      rw [← hfirst]
      -- No offset is less than that of an error without a position.
      refine eq_filter_append (hordered.imp fun {a b} hab hb => ?_)
      rw [Option.isNone_iff_eq_none] at hb ⊢
      rw [before, sortKey_eq_iff.2 hb, keyLe_iff] at hab
      cases hp : a.position? with
      | none => rfl
      | some p =>
        rw [sortKey_of_position? hp] at hab
        rcases hab with hlt | ⟨-, hle⟩
        · exact absurd (String.lt_iff_toList_lt.1 hlt) (List.not_lt_nil _)
        · omega
    · simpa [Option.not_isSome] using (List.mem_filter.1 he).2
  · refine hordered.imp fun {a b} hab p hp q hq => ?_
    rw [before, sortKey_of_position? hp, sortKey_of_position? hq, keyLe_iff] at hab
    exact hab.imp_right (And.imp_right Int.ofNat_le.1)
  · refine filter_inSourceOrder r (k := (p.file, (p.offset : Int))) fun e => ?_
    cases hq : e.position? with
    | none => simp [ErrorTree.isAt, hq, sortKey_eq_iff.2 hq]
    | some q => simp [ErrorTree.isAt, hq, sortKey_of_position? hq, Int.ofNat_inj]

/-- A sorted report has an error iff the report has. -/
theorem error?_inSourceOrder (r : Report) :
    r.inSourceOrder.error? =
      if r.errors = [] then none else some (.joined r.inSourceOrder.errors) := by
  have hperm := (inSourceOrder_errors r).perm
  refine if_congr (List.isEmpty_iff.trans ⟨fun h => ?_, fun h => ?_⟩) rfl rfl
  · rw [h] at hperm
    exact hperm.symm.eq_nil
  · rw [h] at hperm
    exact hperm.eq_nil

end Report

end TaggedUnion
