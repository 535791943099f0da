import TaggedUnion.Text.Quoted

/-!
# Quoted names

Letters and digits of any script are printable (`isPrintable_of_isIdentPart`), so a literal shows a name
as it is (`quote_of_isIdentPart`). That the tables of letters and digits lie within the one of
printable characters is checked interval by interval, in the order of the tables.
-/

namespace TaggedUnion.Text

/-! ## Tables within tables -/

/-- Whether the intervals of a table are used up by going through another one: each of the latter takes
off those at the front that lie within it. -/
def usedUp (table : List (Nat × Nat)) : List (Nat × Nat) → Bool
  | [] => table.isEmpty
  | t :: rest => usedUp (table.dropWhile fun s => t.1 ≤ s.1 && s.2 ≤ t.2) rest

theorem exists_of_usedUp {table larger : List (Nat × Nat)} (h : usedUp table larger = true)
    {s : Nat × Nat} (hs : s ∈ table) : ∃ t ∈ larger, t.1 ≤ s.1 ∧ s.2 ≤ t.2 := by
  induction larger generalizing table with
  | nil =>
    rw [usedUp, List.isEmpty_iff] at h
    rw [h] at hs
    exact absurd hs List.not_mem_nil
  | cons t rest ih =>
    let p : Nat × Nat → Bool := fun s => t.1 ≤ s.1 && s.2 ≤ t.2
    rw [← List.takeWhile_append_dropWhile (p := p) (l := table), List.mem_append] at hs
    rcases hs with hs | hs
    · have hp : p s = true := List.all_eq_true.1 List.all_takeWhile s hs
      exact ⟨t, List.mem_cons_self, by simpa [p] using hp⟩
    · obtain ⟨t', ht', hsub⟩ := ih h hs
      exact ⟨t', List.mem_cons_of_mem _ ht', hsub⟩

theorem inSpans_of_usedUp {table larger : List (Nat × Nat)} (h : usedUp table larger = true) {n : Nat}
    (hn : inSpans table n = true) : inSpans larger n = true := by
  obtain ⟨s, hs, hin⟩ := List.any_eq_true.1 hn
  obtain ⟨t, ht, hsub⟩ := exists_of_usedUp h hs
  simp only [Bool.and_eq_true, decide_eq_true_eq] at hin
  refine List.any_eq_true.2 ⟨t, ht, ?_⟩
  simp only [Bool.and_eq_true, decide_eq_true_eq]
  omega

/-- Plain text is not decided by a table, and its intervals come first. -/
theorem usedUp_letterSpans : usedUp (letterSpans.drop 2) printableSpans = true := by
  decide +kernel

theorem usedUp_digitSpans : usedUp (digitSpans.drop 1) printableSpans = true := by
  decide +kernel

/-- Intervals that end below a number have no part in whether it is in a table. -/
theorem inSpans_cons_of_lt {table : List (Nat × Nat)} {s : Nat × Nat} {n : Nat} (h : s.2 < n) :
    inSpans (s :: table) n = inSpans table n := by
  have hs : (decide (s.1 ≤ n) && decide (n ≤ s.2)) = false := by
    rw [Bool.and_eq_false_iff, decide_eq_false_iff_not, decide_eq_false_iff_not]
    omega
  rw [inSpans, List.any_cons, hs, Bool.false_or]
  rfl

theorem inSpans_letterSpans {n : Nat} (h : 128 ≤ n) :
    inSpans letterSpans n = inSpans (letterSpans.drop 2) n := by
  rw [show letterSpans = (0x41, 0x5a) :: (0x61, 0x7a) :: letterSpans.drop 2 from rfl,
    inSpans_cons_of_lt (by simp only; omega), inSpans_cons_of_lt (by simp only; omega)]
  rfl

theorem inSpans_digitSpans {n : Nat} (h : 128 ≤ n) :
    inSpans digitSpans n = inSpans (digitSpans.drop 1) n := by
  rw [show digitSpans = (0x30, 0x39) :: digitSpans.drop 1 from rfl,
    inSpans_cons_of_lt (by simp only; omega)]
  rfl

/-! ## Names -/

variable {c : Char} {name : String}

theorem isPrintable_of_isIdentPart (h : isIdentPart c = true) : isPrintable c = true := by
  simp only [isIdentPart, isLetter, isDigit, Bool.or_eq_true, beq_iff_eq] at h
  rw [isPrintable]
  by_cases hplain : c.toNat < 128
  · simp only [hplain, if_true] at h ⊢
    delta Char.isAlpha Char.isUpper Char.isLower Char.isDigit at h
    simp only [Bool.or_eq_true, Bool.and_eq_true, decide_eq_true_eq, UInt32.le_iff_toNat_le] at h ⊢
    have hval : c.val.toNat = c.toNat := rfl
    rcases h with ((h | h) | h) | rfl
    · simp only [hval, Char.reduceVal, UInt32.reduceToNat] at h
      omega
    · simp only [hval, Char.reduceVal, UInt32.reduceToNat] at h
      omega
    · simp only [hval, Char.reduceVal, UInt32.reduceToNat] at h
      omega
    · decide
  · simp only [hplain, if_false] at h ⊢
    have hlarge : 128 ≤ c.toNat := Nat.le_of_not_lt hplain
    rcases h with (h | h) | rfl
    · exact inSpans_of_usedUp usedUp_letterSpans (inSpans_letterSpans hlarge ▸ h)
    · exact inSpans_of_usedUp usedUp_digitSpans (inSpans_digitSpans hlarge ▸ h)
    · exact absurd (show '_'.toNat < 128 by decide) hplain

/-- A name has none of the characters that are not of names. -/
theorem ne_of_isIdentPart {d : Char} (h : isIdentPart c = true) (hd : isIdentPart d = false) :
    c ≠ d := by
  rintro rfl
  rw [h] at hd
  cases hd

/-- A literal shows a name as it is. -/
theorem quote_of_isIdentPart (h : ∀ c ∈ name.toList, isIdentPart c = true) :
    quote name = "\"" ++ name ++ "\"" := by
  have hchar : ∀ c ∈ name.toList, quoteChar c = String.singleton c := by
    intro c hc
    have hmark : c ≠ '"' := ne_of_isIdentPart (h c hc) (by decide)
    have hback : c ≠ '\\' := ne_of_isIdentPart (h c hc) (by decide)
    simp [quoteChar, quoteCharBy, hmark, hback, isPrintable_of_isIdentPart (h c hc)]
  have hjoin : String.join (name.toList.map quoteChar) = name := by
    rw [List.map_congr_left hchar]
    exact String.toList_injective (by simp [List.flatMap_map])
  rw [quote, hjoin]

end TaggedUnion.Text
