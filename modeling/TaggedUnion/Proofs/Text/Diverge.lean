import Mathlib.Data.List.Basic

/-!
# Texts that diverge

Two texts *diverge* if after a common start each goes on with a word and a dot, and the words are
different and have no dots. Whatever stands before and after them, such texts are different
(`Diverge.ne`).
-/

namespace TaggedUnion

/-- After a common start the texts have different words up to the next dot. -/
def Diverge (x y : String) : Prop :=
  ∃ start a b r r' : List Char, a ≠ b ∧ '.' ∉ a ∧ '.' ∉ b ∧
    x.toList = start ++ (a ++ '.' :: r) ∧ y.toList = start ++ (b ++ '.' :: r')

/-- The word in front of the first dot. -/
theorem takeWhile_word {a : List Char} (ha : '.' ∉ a) (r : List Char) :
    (a ++ '.' :: r).takeWhile (· != '.') = a := by
  have hall : ∀ c ∈ a, (c != '.') = true := fun c hc => bne_iff_ne.2 fun h => ha (h ▸ hc)
  rw [List.takeWhile_append_of_pos hall, List.takeWhile_cons_of_neg (by simp), List.append_nil]

namespace Diverge

variable {x y : String}

theorem ne (h : Diverge x y) : x ≠ y := by
  rintro rfl
  obtain ⟨start, a, b, r, r', hab, ha, hb, hx, hy⟩ := h
  rw [hx, List.append_cancel_left_eq] at hy
  exact hab (by rw [← takeWhile_word ha r, hy, takeWhile_word hb r'])

/-- What stands before diverging texts is part of their common start. -/
theorem prepend (h : Diverge x y) (p : String) : Diverge (p ++ x) (p ++ y) := by
  obtain ⟨start, a, b, r, r', hab, ha, hb, hx, hy⟩ := h
  exact ⟨p.toList ++ start, a, b, r, r', hab, ha, hb,
    by rw [String.toList_append, hx, List.append_assoc],
    by rw [String.toList_append, hy, List.append_assoc]⟩

/-- Whatever stands after diverging texts, they diverge. -/
theorem append (h : Diverge x y) (u v : String) : Diverge (x ++ u) (y ++ v) := by
  obtain ⟨start, a, b, r, r', hab, ha, hb, hx, hy⟩ := h
  exact ⟨start, a, b, r ++ u.toList, r' ++ v.toList, hab, ha, hb,
    by rw [String.toList_append, hx]; simp, by rw [String.toList_append, hy]; simp⟩

theorem of_words {a b : String} (hab : a ≠ b) (ha : '.' ∉ a.toList) (hb : '.' ∉ b.toList)
    (r r' : String) :
    Diverge (a ++ "." ++ r) (b ++ "." ++ r') :=
  ⟨[], a.toList, b.toList, r.toList, r'.toList, fun h => hab (String.toList_injective h), ha, hb,
    by simp, by simp⟩

end Diverge

end TaggedUnion
