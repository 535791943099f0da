import TaggedUnion.Name.Reserved

/-!
# Reserved names

A name can be reserved iff it is not among the names reserved before (`reserve_of_not_mem`,
`reserve_of_mem`), and reserving the names of a list reserves exactly those (`mem_names_ofList`).
-/

namespace TaggedUnion.Name.Reserved

variable {α : Type} {r : Reserved α} {name : String}

/-- The reserved names. -/
def names (r : Reserved α) : List String :=
  r.entries.map (·.1)

theorem find?_eq_none_iff : r.find? name = none ↔ name ∉ r.names := by
  rw [find?, List.lookup_eq_none_iff, names, List.mem_map]
  constructor
  · rintro h ⟨e, he, rfl⟩
    exact absurd (h e he) (by simp)
  · intro h e he
    refine bne_iff_ne.2 fun heq => h ⟨e, he, heq.symm⟩

theorem reserve_of_not_mem (at' : α) (h : name ∉ r.names) :
    r.reserve name at' = .ok ⟨(name, at') :: r.entries⟩ := by
  rw [reserve, find?_eq_none_iff.2 h]

theorem reserve_of_mem (at' : α) (h : name ∈ r.names) :
    ∃ previous, r.reserve name at' = .error previous := by
  cases hf : r.find? name with
  | none => exact absurd h (find?_eq_none_iff.1 hf)
  | some previous => exact ⟨previous, by rw [reserve, hf]⟩

/-- The place of a name that is reserved is known from then on, and no other place changes. -/
theorem find?_cons (r : Reserved α) (name other : String) (at' : α) :
    find? ⟨(name, at') :: r.entries⟩ other = if other = name then some at' else r.find? other := by
  rw [find?, find?, List.lookup_cons]
  by_cases h : other = name
  · rw [if_pos h, h, beq_self_eq_true]
  · rw [if_neg h, beq_false_of_ne h]

/-- If each step of a fold reserves the name of an element, all of them are reserved besides those
before. -/
theorem mem_names_foldl {f : Reserved α → String × α → Reserved α}
    (hf : ∀ r e, name ∈ (f r e).names ↔ name ∈ r.names ∨ name = e.1) (r : Reserved α)
    (l : List (String × α)) : name ∈ (l.foldl f r).names ↔ name ∈ r.names ∨ name ∈ l.map (·.1) := by
  induction l generalizing r with
  | nil => simp
  | cons e rest ih => rw [List.foldl_cons, ih, hf, List.map_cons, List.mem_cons, or_assoc]

/-- The names of a list are reserved, each once. -/
theorem mem_names_ofList {names : List (String × α)} :
    name ∈ (ofList names).names ↔ name ∈ names.map (·.1) := by
  rw [ofList, mem_names_foldl]
  · exact or_iff_right List.not_mem_nil
  · intro r e
    by_cases hmem : e.1 ∈ r.names
    · obtain ⟨previous, hprev⟩ := reserve_of_mem e.2 hmem
      simp only [hprev]
      refine ⟨.inl, ?_⟩
      rintro (h | rfl)
      · exact h
      · exact hmem
    · simp only [reserve_of_not_mem e.2 hmem]
      rw [Reserved.names, List.map_cons, List.mem_cons]
      exact or_comm

/-- If each step of a fold reserves nothing but the name of an element at its place, a place that is known in the end
was known before or is that of an element. -/
theorem mem_of_find?_foldl {f : Reserved α → String × α → Reserved α} {at' : α}
    (hf : ∀ r e, (f r e).find? name = some at' → r.find? name = some at' ∨ (name, at') = e) (r : Reserved α)
    (l : List (String × α)) (h : (l.foldl f r).find? name = some at') :
    r.find? name = some at' ∨ (name, at') ∈ l := by
  induction l generalizing r with
  | nil => exact .inl h
  | cons e rest ih =>
    refine (ih (f r e) h).elim (fun hstep => ?_) fun hmem => .inr (List.mem_cons_of_mem _ hmem)
    exact (hf r e hstep).imp_right fun heq => List.mem_cons.2 (.inl heq)

/-- A name that was reserved along a list is at the place that an element of the list gives it. -/
theorem mem_of_find?_ofList {names : List (String × α)} {at' : α} (h : (ofList names).find? name = some at') :
    (name, at') ∈ names := by
  refine (mem_of_find?_foldl (fun r e hstep => ?_) {} names h).resolve_left nofun
  by_cases hmem : e.1 ∈ r.names
  · obtain ⟨previous, hprev⟩ := reserve_of_mem e.2 hmem
    simp only [hprev] at hstep
    exact .inl hstep
  · simp only [reserve_of_not_mem e.2 hmem, find?_cons] at hstep
    split at hstep
    next heq =>
      cases hstep
      exact .inr (Prod.ext heq rfl)
    next => exact .inl hstep

end TaggedUnion.Name.Reserved
