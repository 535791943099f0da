import TaggedUnion.Text.Casing

/-!
# Sets of code points

A set of code points is kept as the number whose bits tell which code points it has. Whether two sets meet, or one is
part of the other, is then one operation on numbers, so a fact about all entries of a table can be computed with one
step for each entry, and holds of all characters of a class.

Here are the sets that the tables of classes and of case mappings stand for, and what it means to have a bit of them:
`testBit_spansBits`, `testBit_runsBits`, `testBit_sourcesBits`.
-/

namespace TaggedUnion.Text

/-! ## Intervals and progressions -/

/-- The code points from `first` to `last`. -/
def spanBits (first last : Nat) : Nat :=
  (1 <<< (last + 1 - first) - 1) <<< first

/-- As many code points as are asked for, the first one being `first`, with the distance `step`. -/
def stepBits (step : Nat) : Nat → Nat → Nat
  | _, 0 => 0
  | first, count + 1 => 1 <<< first ||| stepBits step (first + step) count

/-- The code points `first, first + step, …` up to `last`. -/
def runBits (first last step : Nat) : Nat :=
  if last < first then 0 else stepBits step first ((last - first) / step + 1)

section

variable {first last step n : Nat}

theorem testBit_spanBits : (spanBits first last).testBit n = true ↔ first ≤ n ∧ n ≤ last := by
  rw [spanBits, Nat.testBit_shiftLeft, Nat.one_shiftLeft, Nat.testBit_two_pow_sub_one, Bool.and_eq_true,
    decide_eq_true_iff, decide_eq_true_iff]
  omega

theorem testBit_stepBits (count : Nat) :
    (stepBits step first count).testBit n = true ↔ ∃ i < count, n = first + i * step := by
  induction count generalizing first with
  | zero => simp [stepBits]
  | succ count ih =>
    rw [stepBits, Nat.testBit_or, Bool.or_eq_true, ih, Nat.one_shiftLeft, Nat.testBit_two_pow, decide_eq_true_iff]
    constructor
    · rintro (rfl | ⟨i, hi, rfl⟩)
      · exact ⟨0, Nat.succ_pos count, by simp⟩
      · exact ⟨i + 1, Nat.succ_lt_succ hi, by rw [Nat.succ_mul]; omega⟩
    · rintro ⟨i, hi, rfl⟩
      cases i with
      | zero => exact .inl (by simp)
      | succ i => exact .inr ⟨i, Nat.lt_of_succ_lt_succ hi, by rw [Nat.succ_mul]; omega⟩

theorem testBit_runBits :
    (runBits first last step).testBit n = true ↔ first ≤ n ∧ n ≤ last ∧ (n - first) % step = 0 := by
  rw [runBits]
  split
  next hlast =>
    rw [Nat.zero_testBit]
    exact iff_of_false Bool.false_ne_true fun h => by omega
  next hlast =>
    rw [testBit_stepBits]
    constructor
    · rintro ⟨i, hi, rfl⟩
      have hmul : i * step ≤ last - first :=
        Nat.le_trans (Nat.mul_le_mul_right step (Nat.le_of_lt_succ hi)) (Nat.div_mul_le_self _ _)
      refine ⟨Nat.le_add_right _ _, by omega, ?_⟩
      rw [Nat.add_sub_cancel_left, Nat.mul_mod_left]
    · rintro ⟨hfirst, hn, hmod⟩
      refine ⟨(n - first) / step, ?_, ?_⟩
      · exact Nat.lt_succ_of_le (Nat.div_le_div_right (by omega))
      · rw [Nat.div_mul_cancel (Nat.dvd_of_mod_eq_zero hmod)]
        omega

end

/-! ## Tables -/

/-- The code points of all entries of a table. -/
def unionBits {α : Type} (bits : α → Nat) (table : List α) : Nat :=
  table.foldr (fun entry rest => bits entry ||| rest) 0

theorem testBit_unionBits {α : Type} {bits : α → Nat} {table : List α} {n : Nat} :
    (unionBits bits table).testBit n = true ↔ ∃ entry ∈ table, (bits entry).testBit n = true := by
  induction table with
  | nil => simp [unionBits]
  | cons entry rest ih =>
    change (bits entry ||| unionBits bits rest).testBit n = true ↔ _
    simp [Nat.testBit_or, ih]

/-- The code points of a table of intervals. -/
def spansBits (table : List (Nat × Nat)) : Nat :=
  unionBits (fun s => spanBits s.1 s.2) table

/-- The code points of a table of runs. -/
def runsBits (table : List (Nat × Nat × Nat)) : Nat :=
  unionBits (fun r => runBits r.1 r.2.1 r.2.2) table

namespace Shift

/-- What a run of a mapping takes to something else. -/
def sourceBits (r : Shift) : Nat :=
  runBits r.1 r.2.1 r.2.2.1

/-- What a run of a mapping takes it to. -/
def imageBits (r : Shift) : Nat :=
  runBits r.2.2.2 (r.2.2.2 + (r.2.1 - r.1)) r.2.2.1

end Shift

/-- What a mapping takes to something else. -/
def sourcesBits (table : List Shift) : Nat :=
  unionBits Shift.sourceBits table

section

variable {n m : Nat}

theorem testBit_spansBits {table : List (Nat × Nat)} : (spansBits table).testBit n = inSpans table n := by
  rw [Bool.eq_iff_iff, spansBits, testBit_unionBits, inSpans, List.any_eq_true]
  simp [testBit_spanBits]

theorem testBit_runsBits {table : List (Nat × Nat × Nat)} : (runsBits table).testBit n = inRuns table n := by
  rw [Bool.eq_iff_iff, runsBits, testBit_unionBits, inRuns, List.any_eq_true]
  simp [testBit_runBits, and_assoc]

theorem testBit_sourcesBits {table : List Shift} :
    (sourcesBits table).testBit n = (shifted? table n).isSome := by
  rw [Bool.eq_iff_iff, sourcesBits, testBit_unionBits, shifted?, Option.isSome_map, List.find?_isSome]
  simp [Shift.sourceBits, testBit_runBits, and_assoc]

/-- A mapping takes a code point to another with one of its runs. -/
theorem exists_run_of_shifted? {table : List Shift} (h : shifted? table n = some m) :
    ∃ r ∈ table, (Shift.sourceBits r).testBit n = true ∧ (Shift.imageBits r).testBit m = true := by
  obtain ⟨r, hr, rfl⟩ := Option.map_eq_some_iff.1 h
  have hrun := List.find?_some hr
  simp only [Bool.and_eq_true, decide_eq_true_iff, beq_iff_eq] at hrun
  obtain ⟨⟨hfirst, hlast⟩, hstep⟩ := hrun
  refine ⟨r, List.mem_of_find?_eq_some hr, testBit_runBits.2 ⟨hfirst, hlast, hstep⟩, ?_⟩
  refine testBit_runBits.2 ⟨Nat.le_add_right _ _, by omega, ?_⟩
  rwa [Nat.add_sub_cancel_left]

end

/-! ## Comparing sets -/

section

variable {a b n : Nat}

theorem testBit_of_subset (h : a &&& b = a) (hn : a.testBit n = true) : b.testBit n = true := by
  rw [← h, Nat.testBit_and, Bool.and_eq_true] at hn
  exact hn.2

theorem testBit_of_disjoint (h : a &&& b = 0) (hn : a.testBit n = true) : b.testBit n = false := by
  have hand : (a &&& b).testBit n = false := by rw [h, Nat.zero_testBit]
  rwa [Nat.testBit_and, hn, Bool.true_and] at hand

end

end TaggedUnion.Text
