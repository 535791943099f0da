import Mathlib.Data.List.Permutation

/-!
# Rearranged lists

A list stands for another one in any order, element by element (`Rearranged`). What is made of the elements one
by one stands for what is made of the others, and what is told of all elements, of some element, of a single
element or of any two is told of the others, too.
-/

namespace TaggedUnion

/-- The second list is the first one in another order, up to a relation of their elements. -/
def Rearranged {α β : Type} (R : α → β → Prop) (l : List α) (l' : List β) : Prop :=
  ∃ m : List α, m.Perm l ∧ List.Forall₂ R m l'

theorem forall_iff_of_forall₂ {α β : Type} {R : α → β → Prop} {l : List α} {l' : List β}
    (h : List.Forall₂ R l l') {P : α → Prop} {Q : β → Prop} (hPQ : ∀ a b, R a b → (P a ↔ Q b)) :
    (∀ a ∈ l, P a) ↔ ∀ b ∈ l', Q b := by
  induction h with
  | nil => simp
  | cons hab _ ih => rw [List.forall_mem_cons, List.forall_mem_cons, hPQ _ _ hab, ih]

theorem any_eq_of_forall₂ {α β : Type} {R : α → β → Prop} {l : List α} {l' : List β}
    (h : List.Forall₂ R l l') {p : α → Bool} {q : β → Bool} (hpq : ∀ a b, R a b → p a = q b) :
    l.any p = l'.any q := by
  induction h with
  | nil => rfl
  | cons hab _ ih => rw [List.any_cons, List.any_cons, hpq _ _ hab, ih]

section Option

variable {α β γ δ : Type} {R : α → β → Prop} {S : γ → δ → Prop} {a b : Option α} {a' b' : Option β}

theorem rel_or (ha : Option.Rel R a a') (hb : Option.Rel R b b') :
    Option.Rel R (a.or b) (a'.or b') := by
  cases ha with
  | none => exact hb
  | some h => exact .some h

theorem rel_map {f : α → γ} {g : β → δ} (ha : Option.Rel R a a') (hfg : ∀ x y, R x y → S (f x) (g y)) :
    Option.Rel S (a.map f) (a'.map g) := by
  cases ha with
  | none => exact .none
  | some h => exact .some (hfg _ _ h)

end Option

namespace Rearranged

variable {α β γ δ : Type} {R : α → β → Prop} {S : γ → δ → Prop} {l : List α} {l' : List β}

theorem of_perm {l l' : List α} {R : α → α → Prop} (hR : ∀ a, R a a) (h : l'.Perm l) :
    Rearranged R l l' :=
  ⟨l', h, List.forall₂_same.2 fun a _ => hR a⟩

theorem append {m : List α} {m' : List β} (h : Rearranged R l l') (h' : Rearranged R m m') :
    Rearranged R (l ++ m) (l' ++ m') := by
  obtain ⟨n, hperm, hall⟩ := h
  obtain ⟨n', hperm', hall'⟩ := h'
  exact ⟨n ++ n', hperm.append hperm', List.rel_append hall hall'⟩

theorem flatMap {f : α → List γ} {g : β → List δ} (h : Rearranged R l l')
    (hfg : ∀ a b, R a b → Rearranged S (f a) (g b)) :
    Rearranged S (l.flatMap f) (l'.flatMap g) := by
  obtain ⟨m, hperm, hall⟩ := h
  -- Along the related lists; the permutation comes back in at the end.
  have hm : Rearranged S (m.flatMap f) (l'.flatMap g) := by
    clear hperm
    induction hall with
    | nil => exact ⟨[], .nil, .nil⟩
    | cons hab _ ih => exact (hfg _ _ hab).append ih
  obtain ⟨n, hn, hrel⟩ := hm
  exact ⟨n, hn.trans (hperm.flatMap_right f), hrel⟩

theorem filterMap {f : α → Option γ} {g : β → Option δ} (h : Rearranged R l l')
    (hfg : ∀ a b, R a b → Option.Rel S (f a) (g b)) :
    Rearranged S (l.filterMap f) (l'.filterMap g) := by
  obtain ⟨m, hperm, hall⟩ := h
  exact ⟨m.filterMap f, hperm.filterMap f, List.rel_filterMap (fun {a b} hab => hfg a b hab) hall⟩

theorem map {f : α → γ} {g : β → δ} (h : Rearranged R l l') (hfg : ∀ a b, R a b → S (f a) (g b)) :
    Rearranged S (l.map f) (l'.map g) := by
  obtain ⟨m, hperm, hall⟩ := h
  exact ⟨m.map f, hperm.map f, List.rel_map (fun {a b} hab => hfg a b hab) hall⟩

theorem filter {p : α → Bool} {q : β → Bool} (h : Rearranged R l l')
    (hpq : ∀ a b, R a b → p a = q b) : Rearranged R (l.filter p) (l'.filter q) := by
  obtain ⟨m, hperm, hall⟩ := h
  have hrel : List.Forall₂ R (m.filter p) (l'.filter q) :=
    List.rel_filter (fun {a b} hab => iff_of_eq (congrArg (· = true) (hpq a b hab))) hall
  exact ⟨m.filter p, hperm.filter p, hrel⟩

theorem forall_iff {P : α → Prop} {Q : β → Prop} (h : Rearranged R l l')
    (hPQ : ∀ a b, R a b → (P a ↔ Q b)) : (∀ a ∈ l, P a) ↔ ∀ b ∈ l', Q b := by
  obtain ⟨m, hperm, hall⟩ := h
  rw [← forall_iff_of_forall₂ hall hPQ]
  exact ⟨fun hl a ha => hl a (hperm.mem_iff.1 ha), fun hm a ha => hm a (hperm.mem_iff.2 ha)⟩

theorem exists_iff {P : α → Prop} {Q : β → Prop} (h : Rearranged R l l')
    (hPQ : ∀ a b, R a b → (P a ↔ Q b)) : (∃ a ∈ l, P a) ↔ ∃ b ∈ l', Q b := by
  have hnot := not_congr (h.forall_iff fun a b hab => not_congr (hPQ a b hab))
  push Not at hnot
  exact hnot

theorem eq_nil_iff (h : Rearranged R l l') : l = [] ↔ l' = [] := by
  obtain ⟨m, hperm, hall⟩ := h
  rw [← List.length_eq_zero_iff, ← List.length_eq_zero_iff, ← hperm.length_eq, hall.length_eq]

/-- Of two rearranged lists, each has a single element or none has. -/
theorem exists_singleton_iff {P : α → Prop} {Q : β → Prop} (h : Rearranged R l l')
    (hPQ : ∀ a b, R a b → (P a ↔ Q b)) : (∃ a, l = [a] ∧ P a) ↔ ∃ b, l' = [b] ∧ Q b := by
  obtain ⟨m, hperm, hall⟩ := h
  constructor
  · rintro ⟨a, rfl, ha⟩
    rw [List.perm_singleton.1 hperm] at hall
    obtain ⟨b, rest, hab, hrest, rfl⟩ := List.forall₂_cons_left_iff.1 hall
    exact ⟨b, by rw [List.forall₂_nil_left_iff.1 hrest], (hPQ a b hab).1 ha⟩
  · rintro ⟨b, rfl, hb⟩
    obtain ⟨a, rest, hab, hrest, rfl⟩ := List.forall₂_cons_right_iff.1 hall
    rw [List.forall₂_nil_right_iff.1 hrest] at hperm
    exact ⟨a, List.perm_singleton.1 hperm.symm, (hPQ a b hab).2 hb⟩

/-- What holds of any two elements, whichever comes first, does so in any order. -/
theorem pairwise_iff {P : α → α → Prop} {Q : β → β → Prop} (h : Rearranged R l l')
    (hsymm : ∀ a b, P a b → P b a) (hPQ : ∀ a a' b b', R a b → R a' b' → (P a a' ↔ Q b b')) :
    l.Pairwise P ↔ l'.Pairwise Q := by
  obtain ⟨m, hperm, hall⟩ := h
  -- The relation is symmetric, so it holds pairwise of any permutation.
  rw [← hperm.pairwise_iff fun {a b} => hsymm a b]
  clear hperm
  induction hall with
  | nil => simp
  | cons hab hrest ih =>
    rw [List.pairwise_cons, List.pairwise_cons, ih,
      forall_iff_of_forall₂ hrest fun a' b' hab' => hPQ _ _ _ _ hab hab']

/-- With equality as the relation, nothing but the order is different. -/
theorem perm {l l' : List α} (h : Rearranged Eq l l') : l'.Perm l := by
  obtain ⟨m, hperm, hall⟩ := h
  rw [List.forall₂_eq_eq_eq] at hall
  exact hall ▸ hperm

end Rearranged

/-- All orders can be tried. -/
theorem rearranged_iff {α β : Type} {R : α → β → Prop} {l : List α} {l' : List β} :
    Rearranged R l l' ↔ ∃ m ∈ l.permutations', List.Forall₂ R m l' := by
  simp only [Rearranged, List.mem_permutations']

instance decidableRearranged {α β : Type} {R : α → β → Prop} [∀ a b, Decidable (R a b)] (l : List α) (l' : List β) :
    Decidable (Rearranged R l l') :=
  decidable_of_iff _ rearranged_iff.symm

instance decidableOptionRel {α β : Type} {R : α → β → Prop} [∀ a b, Decidable (R a b)] :
    ∀ (a : Option α) (b : Option β), Decidable (Option.Rel R a b)
  | none, none => .isTrue .none
  | none, some _ => .isFalse nofun
  | some _, none => .isFalse nofun
  | some a, some b => decidable_of_iff (R a b) ⟨.some, fun | .some h => h⟩

end TaggedUnion
