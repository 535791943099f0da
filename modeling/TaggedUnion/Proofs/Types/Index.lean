import TaggedUnion.Proofs.Types.Identity

/-!
# Indices after any calls

After any calls of `put`, an index finds for each type the value of the first call for a type identical to it
(`find?_after`), though it keeps one type only of those that are identical.

Main statement: a value is added iff no call before was for an identical type; otherwise the value of the first such
call is returned, and the call makes no difference to what comes later (`put_after`).
-/

namespace TaggedUnion.Types.Index

variable {α : Type} {table : TypeTable} {index : Index α} {t u : Ty} {value old : α}

/-- One call of `put`. If the value is refused, the index stays as it is. -/
def step (table : TypeTable) (index : Index α) (call : Ty × α) : Index α :=
  match index.put table call.1 call.2 with
  | .ok next => next
  | .error _ => index

/-- The index after the given calls, one after the other. -/
def after (table : TypeTable) (calls : List (Ty × α)) : Index α :=
  calls.foldl (step table) {}

/-! ## One call -/

/-- Under identical types an index finds the same. -/
theorem find?_congr (index : Index α) (h : t.identical table u = true) : index.find? table t = index.find? table u := by
  rw [find?, find?, funext fun e : Ty × α => Ty.identical_congr h e.1]

theorem put_eq_error_iff : index.put table t value = .error old ↔ index.find? table t = some old := by
  rw [put]
  cases index.find? table t <;> simp

theorem put_eq_ok_iff : index.put table t value = .ok (step table index (t, value)) ↔ index.find? table t = none := by
  rw [step, put]
  cases index.find? table t <;> simp

theorem step_of_some (h : index.find? table t = some old) : step table index (t, value) = index := by
  rw [step, put_eq_error_iff.2 h]

theorem step_of_none (h : index.find? table t = none) :
    step table index (t, value) = ⟨(t, value) :: index.entries⟩ := by
  rw [step, put, h]

/-- A call adds its value under all types identical to its own, unless the index finds a value there already. -/
theorem find?_step (index : Index α) (t u : Ty) (value : α) :
    (step table index (t, value)).find? table u =
      (index.find? table u).or (if t.identical table u then some value else none) := by
  cases h : index.find? table t with
  | some old =>
    rw [step_of_some h]
    split
    -- The index finds for an identical type what it finds for this one, so that the refused value is not missed.
    · next hid =>
      rw [← find?_congr index hid, h]
      rfl
    · rw [Option.or_none]
  | none =>
    rw [step_of_none h, find?_cons]
    split
    · next hid => rw [← find?_congr index hid, h, Option.none_or]
    · rw [Option.or_none]

/-! ## Any calls -/

theorem after_append (calls later : List (Ty × α)) :
    after table (calls ++ later) = later.foldl (step table) (after table calls) :=
  List.foldl_append

theorem find?_foldl_step (calls : List (Ty × α)) (index : Index α) (t : Ty) :
    (calls.foldl (step table) index).find? table t =
      (index.find? table t).or ((calls.find? fun call => call.1.identical table t).map (·.2)) := by
  -- By induction on the calls, with any index to start from: what it finds goes before what is put later.
  induction calls generalizing index with
  | nil => rw [List.foldl_nil, List.find?_nil, Option.map_none, Option.or_none]
  | cons call calls ih =>
    rw [List.foldl_cons, ih, find?_step, Option.or_assoc, List.find?_cons]
    cases call.1.identical table t <;> rfl

/-- An index finds the value of the first call for a type identical to the given one. -/
theorem find?_after (calls : List (Ty × α)) (t : Ty) :
    (after table calls).find? table t = (calls.find? fun call => call.1.identical table t).map (·.2) :=
  (find?_foldl_step calls {} t).trans Option.none_or

theorem find?_after_eq_none_iff {calls : List (Ty × α)} :
    (after table calls).find? table t = none ↔ ∀ call ∈ calls, ¬ call.1.Identical table t := by
  rw [find?_after, Option.map_eq_none_iff, List.find?_eq_none]
  simp only [Ty.identical_iff_rules]

theorem find?_after_eq_some_iff {calls : List (Ty × α)} :
    (after table calls).find? table t = some old ↔
      ∃ before u rest, calls = before ++ (u, old) :: rest ∧ u.Identical table t ∧
        ∀ call ∈ before, ¬ call.1.Identical table t := by
  simp only [find?_after, Option.map_eq_some_iff, List.find?_eq_some_iff_append, ← Ty.identical_iff_rules]
  constructor
  · rintro ⟨⟨u, _⟩, ⟨hid, before, rest, heq, hbefore⟩, rfl⟩
    exact ⟨before, u, rest, heq, hid, fun call hcall => by simpa using hbefore call hcall⟩
  · rintro ⟨before, u, rest, heq, hid, hbefore⟩
    exact ⟨(u, old), ⟨hid, before, rest, heq, fun call hcall => by simpa using hbefore call hcall⟩, rfl⟩

/-- An index is a map by type identity. After any calls, a value is added iff no call was for an identical type.
Otherwise the value of the first such call is returned, and all later calls go as if this one had not been made. -/
theorem put_after (table : TypeTable) (calls : List (Ty × α)) (t : Ty) (value : α) :
    ((after table calls).put table t value = .ok (after table (calls ++ [(t, value)])) ↔
      ∀ call ∈ calls, ¬ call.1.Identical table t) ∧
    ∀ old, (after table calls).put table t value = .error old ↔
      (∃ before u rest, calls = before ++ (u, old) :: rest ∧ u.Identical table t ∧
        ∀ call ∈ before, ¬ call.1.Identical table t) ∧
      ∀ later, after table (calls ++ (t, value) :: later) = after table (calls ++ later) := by
  constructor
  · rw [after_append, List.foldl_cons, List.foldl_nil, put_eq_ok_iff, find?_after_eq_none_iff]
  · intro old
    rw [put_eq_error_iff, ← find?_after_eq_some_iff]
    refine ⟨fun h => ⟨h, fun later => ?_⟩, And.left⟩
    rw [after_append, after_append, List.foldl_cons, step_of_some h]

/-- Names of parameters make no difference, nor does the second name of a basic type. -/
example : (after [] [(.func [] [("x", .basic "byte")] [] false, "A")]).put [] (.func [] [("", .basic "uint8")] [] false)
    "B" = .error "A" :=
  rfl

end TaggedUnion.Types.Index
