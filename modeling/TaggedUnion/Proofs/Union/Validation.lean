import TaggedUnion.Proofs.Program.Characters
import TaggedUnion.Proofs.Syntax.Equality
import TaggedUnion.Proofs.Union.Origin

/-!
# Unions that are checked one after the other

One set of taken names serves the unions of a package, each of which is checked to its end or up to a limit
(`checkUnions`). What a check comes to is said by what was checked before it (`Verdict`), and not by the state: the
index of payload types finds the first variant that carries a type (`Indexes`), and a name is taken by an object of
the package or by an earlier variant (`Subject.Held`). A variant that is rejected for its second name has taken the
first one, and its payload type is in the index, so both are about variants that came to be converted, and not about
those that passed.

The names of the conversions that pass are none that were taken before, and different from each other, over all of
the unions (`Takes`).
-/

namespace TaggedUnion

open Source TaggedUnion.Types Program

/-! ## What was checked before -/

/-- The type that a variant is converted to and from; there is none if its option is unknown or it does not carry
one value. -/
def Variant.carried? (v : Variant) : Option Ty :=
  match v.option with
  | .unknown _ => none
  | _ => v.shape.payload?

/-- Whether a variant is converted to and from a type identical to the given one. -/
def Variant.carries (table : TypeTable) (t : Ty) (v : Variant) : Bool :=
  v.carried?.any (·.identical table t)

/-- The variants of a union that are checked if checking may end early: those that are wanted, or the first of
them. -/
def Union.checked (u : Union) (limit : Option Nat) : List Variant :=
  match limit with
  | none => u.wanted
  | some n => u.wanted.take (max n 1)

/-- Checks unions one after the other, each to its end or up to a limit, with the names that are taken in common. -/
def checkUnions (table : TypeTable) : TakenNames → List (Union × Option Nat) → List (List (Except Finding Conversion))
  | _, [] => []
  | taken, (u, limit) :: rest =>
    let (taken, outcomes) := u.check table limit taken
    outcomes :: checkUnions table taken rest

/-- The variants that are checked in unions, each with its union. -/
def checkedVariants (runs : List (Union × Option Nat)) : List (Union × Variant) :=
  runs.flatMap fun (u, limit) => (u.checked limit).map (u, ·)

/-- A name is taken at a place: by an object of the package that no earlier run generated, or by a variant that was
checked earlier. -/
def Subject.Held (s : Subject) (earlier : List (Union × Variant)) (name : String) (pos : Pos) : Prop :=
  (∃ o ∈ s.objects, s.isGenerated o = false ∧ o.name = name ∧ o.pos = pos) ∨
    ∃ e ∈ earlier, e.2.carried?.isSome ∧ name ∈ e.1.conversionNames e.2 ∧ e.2.pos = pos

/-- What comes of checking a variant of a union after others of it, with names that are held at places. -/
inductive Verdict (table : TypeTable) (held : String → Pos → Prop) (u : Union) (before : List Variant) (v : Variant) :
    Except Finding Conversion → Prop
  | unknownOption {text : Text.Bytes} : v.option = .unknown text →
    Verdict table held u before v (.error ⟨.unknownOption u.name v.name text, v.pos, 0⟩)
  | unit : (∀ text, v.option ≠ .unknown text) → v.shape = .unit →
    Verdict table held u before v (.error ⟨.unitVariant u.name v.name, v.pos, 0⟩)
  | multi {count : Nat} : (∀ text, v.option ≠ .unknown text) → v.shape = .multi count →
    Verdict table held u before v (.error ⟨.multiField u.name v.name count, v.expr.pos, v.expr.stop⟩)
  /-- The first of the earlier variants that carry the type is named. -/
  | samePayload {payload : Ty} {earlier : Variant} : v.carried? = some payload →
    before.find? (·.carries table payload) = some earlier →
    Verdict table held u before v
      (.error ⟨.samePayload u.name earlier.name v.name payload earlier.pos, v.pos, 0⟩)
  | nameTaken {payload : Ty} {name : String} {previous : Pos} : v.carried? = some payload →
    before.find? (·.carries table payload) = none → name ∈ u.conversionNames v → held name previous →
    Verdict table held u before v (.error ⟨.nameTaken u.name v.name name previous, v.pos, 0⟩)
  | passed {c : Conversion} : v.carried? = some c.payload →
    before.find? (·.carries table c.payload) = none → c.IsFor u v → Verdict table held u before v (.ok c)

/-! ## Names -/

/-- The preposition tells the two names of a variant apart: both start with the title of the union. -/
theorem Union.unwrapName_ne_wrapName (u : Union) (name : String) : u.unwrapName name ≠ u.wrapName name := by
  have htitled : ∀ preposition, Name.titled [u.name, preposition, name] =
      Name.titled [u.name] ++ Name.titled [preposition] ++ Name.titled [name] := fun preposition => by
    simp [Name.titled, List.append_assoc]
  have hto : Name.titled ["to"] = ['T', 'o'] := by decide
  have hfrom : Name.titled ["from"] = ['F', 'r', 'o', 'm'] := by decide
  have hupper : Text.toUpper 'T' ≠ Text.toUpper 'F' := by decide
  have hlower : Text.toLower 'T' ≠ Text.toLower 'F' := by decide
  rw [Union.unwrapName, Union.wrapName, conversionName, conversionName, Name.join?, Name.join?, htitled, htitled,
    hto, hfrom]
  intro heq
  cases htitle : Name.titled [u.name] with
  | nil =>
    rw [htitle] at heq
    have hfirst := congrArg (fun s : String => s.toList.head?) heq
    cases hexported : u.isExported <;> simp_all
  | cons c rest =>
    rw [htitle] at heq
    simpa using congrArg (fun s : String => s.toList) heq

theorem Union.nodup_conversionNames (u : Union) (v : Variant) : (u.conversionNames v).Nodup := by
  simp [Union.conversionNames, u.unwrapName_ne_wrapName v.name]

section Names

variable {s : Subject} {earlier more : List (Union × Variant)} {u : Union} {v : Variant} {taken : TakenNames}
  {names : List String} {name : String} {pos : Pos}

theorem Subject.Held.append (h : s.Held earlier name pos) (more : List (Union × Variant)) :
    s.Held (earlier ++ more) name pos :=
  h.imp_right fun ⟨e, he, h⟩ => ⟨e, List.mem_append_left _ he, h⟩

/-- Before anything is checked, a name is taken where an object of the package has it. -/
theorem held_of_takenNames (h : s.takenNames.find? name = some pos) : s.Held [] name pos := by
  obtain ⟨o, ho, heq⟩ := List.mem_map.1 (Name.Reserved.mem_of_find?_ofList h)
  obtain ⟨hobject, hgenerated⟩ := List.mem_filter.1 ho
  cases heq
  exact .inl ⟨o, hobject, by simpa using hgenerated, rfl, rfl⟩

/-- Names that are taken for a variant are at its place; the others stay where they are. -/
theorem find?_takeNames (h : (takeNames u v taken names).1.find? name = some pos) :
    taken.find? name = some pos ∨ name ∈ names ∧ v.pos = pos := by
  induction names generalizing taken with
  | nil => exact .inl h
  | cons first rest ih =>
    rw [takeNames] at h
    by_cases hmem : first ∈ taken.names
    · obtain ⟨previous, hprev⟩ := Name.Reserved.reserve_of_mem v.pos hmem
      rw [hprev] at h
      exact .inl h
    · rw [Name.Reserved.reserve_of_not_mem v.pos hmem] at h
      obtain hfound | ⟨hrest, hpos⟩ := ih h
      · rw [Name.Reserved.find?_cons] at hfound
        split at hfound
        next heq =>
          cases hfound
          exact .inr ⟨heq ▸ List.mem_cons_self, rfl⟩
        next => exact .inl hfound
      · exact .inr ⟨List.mem_cons_of_mem _ hrest, hpos⟩

/-- Different names cannot be taken if one of them was taken before, and then its place is told. -/
theorem exists_of_takeNames_eq_some {x : Finding} (hnodup : names.Nodup)
    (h : (takeNames u v taken names).2 = some x) :
    ∃ name ∈ names, ∃ previous, taken.find? name = some previous ∧
      x = ⟨.nameTaken u.name v.name name previous, v.pos, 0⟩ := by
  induction names generalizing taken with
  | nil => cases h
  | cons first rest ih =>
    obtain ⟨hnot, hrest⟩ := List.nodup_cons.1 hnodup
    rw [takeNames, Name.Reserved.reserve] at h
    cases hfind : taken.find? first with
    | some previous =>
      rw [hfind] at h
      cases h
      exact ⟨first, List.mem_cons_self, previous, hfind, rfl⟩
    | none =>
      rw [hfind] at h
      obtain ⟨name, hname, previous, hprev, rfl⟩ := ih hrest h
      -- What was taken just now is none of the other names.
      have hne : name ≠ first := fun heq => hnot (heq ▸ hname)
      rw [Name.Reserved.find?_cons, if_neg hne] at hprev
      exact ⟨name, List.mem_cons_of_mem _ hname, previous, hprev, rfl⟩

end Names

/-! ## A single variant -/

section Variant

variable {table : TypeTable} {s : Subject} {u : Union} {before : List Variant} {v : Variant} {c : Checking}
  {payload t : Ty} {held : String → Pos → Prop}

/-- The index has the payload types of the variants that were checked, each with the first one that carries it. -/
def Checking.Indexes (table : TypeTable) (c : Checking) (before : List Variant) : Prop :=
  ∀ t, c.payloads.find? table t = before.find? (·.carries table t)

theorem Variant.carries_of_carried? (h : v.carried? = some payload) (t : Ty) :
    v.carries table t = payload.identical table t := by
  rw [Variant.carries, h, Option.any_some]

theorem Variant.carries_of_none (h : v.carried? = none) (t : Ty) : v.carries table t = false := by
  rw [Variant.carries, h, Option.any_none]

theorem exists_of_carried? (h : v.carried? = some payload) :
    (∀ text, v.option ≠ .unknown text) ∧ ∃ accessor, v.shape = .single accessor payload := by
  rw [Variant.carried?] at h
  split at h
  next => cases h
  next hopt => exact ⟨hopt, exists_shape_iff.2 h⟩

/-- A variant that is not converted is rejected on its own account, and nothing is remembered of it. -/
theorem checkVariant_of_none (h : v.carried? = none) :
    ∃ x, checkVariant table u v c = (c, .error x) ∧ ∀ held before, Verdict table held u before v (.error x) := by
  rw [checkVariant]
  cases hopt : v.option with
  | unknown text => exact ⟨_, rfl, fun _ _ => .unknownOption hopt⟩
  | derive | ignore =>
    have hknown : ∀ text, v.option ≠ .unknown text := fun text heq => by
      rw [hopt] at heq
      cases heq
    cases hshape : v.shape with
    | unit => exact ⟨_, rfl, fun _ _ => .unit hknown hshape⟩
    | multi count => exact ⟨_, rfl, fun _ _ => .multi hknown hshape⟩
    | single accessor payload => simp [Variant.carried?, hopt, hshape, Shape.payload?] at h

/-- A type that an earlier variant carries is not added to the index, and no name is taken. -/
theorem checkVariant_of_find? {earlier : Variant} (h : v.carried? = some payload)
    (hfind : c.payloads.find? table payload = some earlier) :
    checkVariant table u v c =
      (c, .error ⟨.samePayload u.name earlier.name v.name payload earlier.pos, v.pos, 0⟩) := by
  obtain ⟨hknown, accessor, hshape⟩ := exists_of_carried? h
  rw [checkVariant_of_single hknown hshape, convert, Index.put, hfind]

/-- Any other type is added, whether or not the names can be taken. -/
theorem checkVariant_of_find?_eq_none (h : v.carried? = some payload)
    (hfind : c.payloads.find? table payload = none) :
    (checkVariant table u v c).1 =
        ⟨(takeNames u v c.taken (u.conversionNames v)).1, ⟨(payload, v) :: c.payloads.entries⟩⟩ ∧
      ((∃ x, (takeNames u v c.taken (u.conversionNames v)).2 = some x ∧
          (checkVariant table u v c).2 = .error x) ∨
        ∃ conversion, conversion.IsFor u v ∧ conversion.payload = payload ∧
          (checkVariant table u v c).2 = .ok conversion) := by
  obtain ⟨hknown, accessor, hshape⟩ := exists_of_carried? h
  rw [checkVariant_of_single hknown hshape, convert, Index.put, hfind, Union.conversionNames]
  cases htaken : takeNames u v c.taken [u.unwrapName v.name, u.wrapName v.name] with
  | mk taken finding =>
    simp only [htaken]
    cases finding with
    | some x => exact ⟨rfl, .inl ⟨x, rfl, rfl⟩⟩
    | none => exact ⟨rfl, .inr ⟨_, ⟨rfl, hshape, rfl, rfl, rfl⟩, rfl, rfl⟩⟩

/-- Identical types are found with the same variant. -/
theorem Checking.Indexes.find?_congr (h : c.Indexes table before) (hid : payload.identical table t = true) :
    c.payloads.find? table t = c.payloads.find? table payload := by
  rw [h t, h payload]
  congr 1
  funext w
  rw [Variant.carries, Variant.carries]
  congr 1
  exact funext fun t' => (Ty.identical_congr hid t').symm

/-- After a check, the index has the payload type of the variant as well. -/
theorem Checking.Indexes.checkVariant (h : c.Indexes table before) (u : Union) (v : Variant) :
    (TaggedUnion.checkVariant table u v c).1.Indexes table (before ++ [v]) := by
  intro t
  rw [List.find?_append, ← h t, List.find?_singleton]
  cases hcarried : v.carried? with
  | none =>
    obtain ⟨x, heq, -⟩ := @checkVariant_of_none table u v c hcarried
    rw [heq, Variant.carries_of_none hcarried, if_neg Bool.false_ne_true, Option.or_none]
  | some payload =>
    rw [Variant.carries_of_carried? hcarried]
    cases hfind : c.payloads.find? table payload with
    | some earlier =>
      rw [checkVariant_of_find? hcarried hfind]
      split
      next hid => rw [h.find?_congr hid, hfind, Option.some_or]
      next => rw [Option.or_none]
    | none =>
      rw [(checkVariant_of_find?_eq_none hcarried hfind).1, Index.find?_cons]
      split
      next hid => rw [h.find?_congr hid, hfind, Option.none_or]
      next => rw [Option.or_none]

end Variant

/-! ## What checking follows -/

/-- The state of checking a union, after the given variants of it and others that were checked earlier: the index
has the payload types of the former, and names are taken where they are held by any of them. -/
structure Checking.Follows (s : Subject) (earlier : List (Union × Variant)) (u : Union) (before : List Variant)
    (c : Checking) : Prop where
  indexes : c.Indexes s.info.table before
  held : ∀ name pos, c.taken.find? name = some pos → s.Held (earlier ++ before.map (u, ·)) name pos

section Follows

variable {s : Subject} {earlier : List (Union × Variant)} {u : Union} {before : List Variant} {c : Checking}

theorem follows_start {taken : TakenNames}
    (hheld : ∀ name pos, taken.find? name = some pos → s.Held earlier name pos) (u : Union) :
    Checking.Follows s earlier u [] { taken } where
  indexes _ := rfl
  held := by simpa using hheld

namespace Checking.Follows

variable (h : c.Follows s earlier u before)

include h

/-- What a check comes to is said by what was checked before. -/
theorem verdict (v : Variant) :
    Verdict s.info.table (s.Held (earlier ++ before.map (u, ·))) u before v (TaggedUnion.checkVariant s.info.table u v c).2 := by
  cases hcarried : v.carried? with
  | none =>
    obtain ⟨x, heq, hverdict⟩ := @checkVariant_of_none s.info.table u v c hcarried
    rw [heq]
    exact hverdict _ _
  | some payload =>
    cases hfind : c.payloads.find? s.info.table payload with
    | some earlier =>
      rw [checkVariant_of_find? hcarried hfind]
      exact .samePayload hcarried (h.indexes payload ▸ hfind)
    | none =>
      have hfirst := h.indexes payload ▸ hfind
      obtain ⟨-, ⟨x, htaken, hx⟩ | ⟨conversion, hfor, rfl, hok⟩⟩ := checkVariant_of_find?_eq_none hcarried hfind
      · obtain ⟨name, hname, previous, hprev, rfl⟩ :=
          exists_of_takeNames_eq_some (u.nodup_conversionNames v) htaken
        rw [hx]
        exact .nameTaken hcarried hfirst hname (h.held name previous hprev)
      · rw [hok]
        exact .passed hcarried hfirst hfor

/-- After a check, names are held where they were before, and by the variant if it is converted. -/
theorem checkVariant (v : Variant) :
    (TaggedUnion.checkVariant s.info.table u v c).1.Follows s earlier u (before ++ [v]) := by
  refine ⟨h.indexes.checkVariant u v, fun name pos hfound => ?_⟩
  rw [List.map_append, ← List.append_assoc]
  cases hcarried : v.carried? with
  | none =>
    obtain ⟨x, heq, -⟩ := @checkVariant_of_none s.info.table u v c hcarried
    rw [heq] at hfound
    exact (h.held name pos hfound).append _
  | some payload =>
    cases hfind : c.payloads.find? s.info.table payload with
    | some earlier =>
      rw [checkVariant_of_find? hcarried hfind] at hfound
      exact (h.held name pos hfound).append _
    | none =>
      rw [(checkVariant_of_find?_eq_none hcarried hfind).1] at hfound
      obtain hbefore | ⟨hname, hpos⟩ := find?_takeNames hfound
      · exact (h.held name pos hbefore).append _
      · refine .inr ⟨(u, v), List.mem_append_right _ List.mem_cons_self, ?_, hname, hpos⟩
        rw [hcarried, Option.isSome_some]

end Checking.Follows

/-! ## Several variants and unions -/

theorem checkVariants_cons (table : TypeTable) (u : Union) (c : Checking) (v : Variant) (rest : List Variant) :
    checkVariants table u c (v :: rest) =
      ((checkVariants table u (checkVariant table u v c).1 rest).1,
        (checkVariant table u v c).2 :: (checkVariants table u (checkVariant table u v c).1 rest).2) :=
  rfl

theorem check_eq (table : TypeTable) (u : Union) (limit : Option Nat) (taken : TakenNames) :
    u.check table limit taken =
      ((checkVariants table u { taken } (u.checked limit)).1.taken,
        (checkVariants table u { taken } (u.checked limit)).2) := by
  cases limit <;> rfl

/-- Each variant gets one outcome. -/
theorem length_checkVariants (table : TypeTable) (u : Union) (c : Checking) (vs : List Variant) :
    (checkVariants table u c vs).2.length = vs.length := by
  induction vs generalizing c with
  | nil => rfl
  | cons v rest ih => rw [checkVariants_cons, List.length_cons, List.length_cons, ih]

theorem length_checkUnions (table : TypeTable) (taken : TakenNames) (runs : List (Union × Option Nat)) :
    (checkUnions table taken runs).length = runs.length := by
  induction runs generalizing taken with
  | nil => rfl
  | cons r rest ih => rw [checkUnions, List.length_cons, List.length_cons, ih]

theorem Checking.Follows.checkVariants (h : c.Follows s earlier u before) (vs : List Variant) :
    (TaggedUnion.checkVariants s.info.table u c vs).1.Follows s earlier u (before ++ vs) := by
  induction vs generalizing before c with
  | nil => rwa [List.append_nil]
  | cons v rest ih =>
    rw [checkVariants_cons, List.append_cons]
    exact ih (h.checkVariant v)

/-- The outcomes for the variants of a union are said by what was checked before each. -/
theorem Checking.Follows.verdicts {vs : List Variant} (h : c.Follows s earlier u before) {j : Nat} {v : Variant}
    (hv : vs[j]? = some v) :
    ∃ outcome, (TaggedUnion.checkVariants s.info.table u c vs).2[j]? = some outcome ∧
      Verdict s.info.table (s.Held (earlier ++ (before ++ vs.take j).map (u, ·))) u (before ++ vs.take j) v outcome := by
  induction vs generalizing before c j with
  | nil => cases hv
  | cons w rest ih =>
    rw [checkVariants_cons]
    cases j with
    | zero =>
      cases hv
      simpa using h.verdict v
    | succ j => simpa using ih (h.checkVariant w) hv

/-- The outcomes for unions are said by what was checked before, in the same union and in all of them. -/
theorem verdicts_checkUnions {taken : TakenNames} {runs : List (Union × Option Nat)}
    (hheld : ∀ name pos, taken.find? name = some pos → s.Held earlier name pos) {i : Nat} {limit : Option Nat}
    (hrun : runs[i]? = some (u, limit)) :
    ∃ outcomes, (checkUnions s.info.table taken runs)[i]? = some outcomes ∧
      outcomes.length = (u.checked limit).length ∧
      ∀ j v, (u.checked limit)[j]? = some v → ∃ outcome, outcomes[j]? = some outcome ∧
        Verdict s.info.table
          (s.Held (earlier ++ checkedVariants (runs.take i) ++ ((u.checked limit).take j).map (u, ·))) u
          ((u.checked limit).take j) v outcome := by
  induction runs generalizing taken earlier i with
  | nil => cases hrun
  | cons r rest ih =>
    rw [checkUnions, check_eq]
    cases i with
    | zero =>
      cases hrun
      refine ⟨_, rfl, length_checkVariants _ u _ _, fun j v hv => ?_⟩
      simpa [checkedVariants] using (follows_start hheld u).verdicts hv
    | succ i =>
      have hend := ((follows_start hheld r.1).checkVariants (r.1.checked r.2)).held
      simpa [checkedVariants] using ih hend hrun

end Follows

/-! ## Names of conversions -/

/-- The names of the two functions of a conversion. -/
def Conversion.names (c : Conversion) : List String :=
  [c.unwrap, c.wrap]

/-- Names are taken besides those that were taken before. -/
structure Takes (taken taken' : TakenNames) (names : List String) : Prop where
  grows : taken.names ⊆ taken'.names
  nodup : names.Nodup
  fresh : ∀ n ∈ names, n ∉ taken.names
  kept : ∀ n ∈ names, n ∈ taken'.names

namespace Takes

variable {taken taken' taken'' : TakenNames} {names more : List String}

theorem none (h : taken.names ⊆ taken'.names) : Takes taken taken' [] :=
  ⟨h, List.nodup_nil, List.forall_mem_nil _, List.forall_mem_nil _⟩

/-- What is taken later is none of what was taken first. -/
theorem append (h : Takes taken taken' names) (h' : Takes taken' taken'' more) : Takes taken taken'' (names ++ more) where
  grows := List.Subset.trans h.grows h'.grows
  nodup := List.nodup_append.2 ⟨h.nodup, h'.nodup, fun _ ha b hb hab => h'.fresh b hb (hab ▸ h.kept _ ha)⟩
  fresh := List.forall_mem_append.2 ⟨h.fresh, fun n hn hin => h'.fresh n hn (h.grows hin)⟩
  kept := List.forall_mem_append.2 ⟨fun n hn => h'.grows (h.kept n hn), h'.kept⟩

end Takes

section

variable {table : TypeTable} {u : Union}

/-- A conversion that passes takes its names, and a check that fails may take some that no conversion has. -/
theorem takes_checkVariant (table : TypeTable) (u : Union) (v : Variant) (c : Checking) :
    Takes c.taken (checkVariant table u v c).1.taken ((passed [(checkVariant table u v c).2]).flatMap Conversion.names) := by
  have hgrows := subset_checkVariant table u v c
  cases hout : checkVariant table u v c with
  | mk c' outcome =>
    rw [hout] at hgrows
    cases outcome with
    | error x => exact .none hgrows
    | ok conversion =>
      obtain ⟨hfor, hadm, htaken⟩ := isFor_of_checkVariant hout
      have hnames : (passed [.ok conversion]).flatMap Conversion.names = u.conversionNames v := by
        simp [passed, Conversion.names, Union.conversionNames, hfor.unwrap, hfor.wrap]
      rw [hnames]
      exact ⟨hgrows, hadm.nodup, hadm.free, fun n hn => (htaken n).2 (.inl hn)⟩

theorem takes_checkVariants (table : TypeTable) (u : Union) (c : Checking) (vs : List Variant) :
    Takes c.taken (checkVariants table u c vs).1.taken
      ((passed (checkVariants table u c vs).2).flatMap Conversion.names) := by
  induction vs generalizing c with
  | nil => exact .none (List.Subset.refl _)
  | cons v rest ih =>
    have hall := (takes_checkVariant table u v c).append (ih (checkVariant table u v c).1)
    rwa [← List.flatMap_append, passed, passed, ← List.filterMap_append] at hall

/-- The names of all conversions that pass are different, and none was taken before. -/
theorem takes_checkUnions (table : TypeTable) (taken : TakenNames) (runs : List (Union × Option Nat)) :
    ∃ taken', Takes taken taken' ((passed (checkUnions table taken runs).flatten).flatMap Conversion.names) := by
  induction runs generalizing taken with
  | nil => exact ⟨taken, .none (List.Subset.refl _)⟩
  | cons r rest ih =>
    obtain ⟨u, limit⟩ := r
    obtain ⟨taken', hrest⟩ := ih (u.check table limit taken).1
    rw [checkUnions, List.flatten_cons, passed, List.filterMap_append, List.flatMap_append]
    refine ⟨taken', Takes.append ?_ hrest⟩
    rw [check_eq]
    exact takes_checkVariants table u { taken } (u.checked limit)

end

section

variable {s : Subject} {earlier : List (Union × Variant)} {u : Union} {before vs : List Variant} {c : Checking}

/-- No variant that was checked before carries the payload type of a conversion that passes. -/
theorem Checking.Follows.find?_eq_none {a : Conversion} (h : c.Follows s earlier u before)
    (ha : a ∈ passed (TaggedUnion.checkVariants s.info.table u c vs).2) :
    before.find? (·.carries s.info.table a.payload) = none := by
  induction vs generalizing before c with
  | nil => cases ha
  | cons v rest ih =>
    rw [checkVariants_cons, passed, List.filterMap_cons] at ha
    have hverdict := h.verdict v
    have hrest : a ∈ passed (TaggedUnion.checkVariants s.info.table u (TaggedUnion.checkVariant s.info.table u v c).1 rest).2 →
        before.find? (·.carries s.info.table a.payload) = none := fun hmem => by
      have hall := ih (h.checkVariant v) hmem
      rw [List.find?_append, Option.or_eq_none_iff] at hall
      exact hall.1
    cases hout : (TaggedUnion.checkVariant s.info.table u v c).2 with
    | error x =>
      rw [hout] at ha
      exact hrest ha
    | ok conversion =>
      rw [hout] at ha hverdict
      obtain rfl | hmem := List.mem_cons.1 ha
      · cases hverdict with
        | passed _ hfirst _ => exact hfirst
      · exact hrest hmem

/-- The payload types of the conversions of a union are pairwise not identical. -/
theorem Checking.Follows.pairwise_payloads (h : c.Follows s earlier u before) :
    (passed (TaggedUnion.checkVariants s.info.table u c vs).2).Pairwise fun a b =>
      a.payload.identical s.info.table b.payload = false := by
  induction vs generalizing before c with
  | nil => exact List.Pairwise.nil
  | cons v rest ih =>
    have hrest := ih (h.checkVariant v)
    have hverdict := h.verdict v
    rw [checkVariants_cons, passed, List.filterMap_cons]
    cases hout : (TaggedUnion.checkVariant s.info.table u v c).2 with
    | error x => exact hrest
    | ok conversion =>
      refine List.pairwise_cons.2 ⟨fun b hb => ?_, hrest⟩
      -- The variant of the first conversion is one that was checked before the second.
      have hnone := (h.checkVariant v).find?_eq_none hb
      rw [hout] at hverdict
      cases hverdict with
      | passed hcarried _ _ =>
        rw [List.find?_append, Option.or_eq_none_iff, List.find?_singleton,
          Variant.carries_of_carried? hcarried] at hnone
        simpa using hnone.2

theorem pairwise_payloads_checkUnions {taken : TakenNames}
    (hheld : ∀ name pos, taken.find? name = some pos → s.Held earlier name pos)
    (runs : List (Union × Option Nat)) :
    ∀ outcomes ∈ checkUnions s.info.table taken runs,
      (passed outcomes).Pairwise fun a b => a.payload.identical s.info.table b.payload = false := by
  induction runs generalizing taken earlier with
  | nil => exact List.forall_mem_nil _
  | cons r rest ih =>
    have hstart := follows_start hheld r.1
    rw [checkUnions, check_eq]
    exact List.forall_mem_cons.2 ⟨hstart.pairwise_payloads, ih (hstart.checkVariants _).held⟩

end

/-- Unions are checked one after the other with the names of a package, each to its end or up to a limit. Each
variant that is wanted gets one outcome, in order, up to the limit. The names of all conversions that pass are
different, and no object of the package has one that was not generated; the payload types of those of one union are
not identical. Any other outcome is the finding that the variant deserves: an unknown option, or else no value, or
several, or else an earlier variant of the union that came to be converted carries an identical type, and the first
such one is named, or else a name is taken, where an object of the package has it or an earlier variant that came to
be converted. -/
theorem verdicts_of_checkUnions (s : Subject) (runs : List (Union × Option Nat)) :
    let yields := checkUnions s.info.table s.takenNames runs
    let names := (passed yields.flatten).flatMap fun c => [c.unwrap, c.wrap]
    yields.length = runs.length ∧
    (∀ i u limit, runs[i]? = some (u, limit) →
      u.checked none = u.wanted ∧ u.checked limit <+: u.wanted ∧
      ∃ outcomes, yields[i]? = some outcomes ∧ outcomes.length = (u.checked limit).length ∧
        ∀ j v, (u.checked limit)[j]? = some v → ∃ outcome, outcomes[j]? = some outcome ∧
          Verdict s.info.table
            (s.Held (checkedVariants (runs.take i) ++ ((u.checked limit).take j).map (u, ·))) u
            ((u.checked limit).take j) v outcome) ∧
    names.Nodup ∧ (∀ o ∈ s.objects, s.isGenerated o = false → o.name ∉ names) ∧
    ∀ outcomes ∈ yields, (passed outcomes).Pairwise fun a b => a.payload.identical s.info.table b.payload = false := by
  intro yields names
  have hheld : ∀ name pos, s.takenNames.find? name = some pos → s.Held [] name pos := fun _ _ => held_of_takenNames
  obtain ⟨taken', htakes⟩ := takes_checkUnions s.info.table s.takenNames runs
  refine ⟨length_checkUnions _ _ runs, fun i u limit hrun => ⟨rfl, ?_, ?_⟩, htakes.nodup, fun o ho hgen hin => ?_,
    pairwise_payloads_checkUnions hheld runs⟩
  · cases limit with
    | none => exact List.prefix_rfl
    | some n => exact List.take_prefix _ _
  · simpa using verdicts_checkUnions hheld hrun
  · exact htakes.fresh _ hin (mem_takenNames_iff.2 ⟨o, ho, hgen, rfl⟩)

deriving instance DecidableEq for Fault, Finding, Conversion

/-- A struct whose first variant has an option that is not known; all of its variants have the same type. -/
def misspeltSources : List (String × List (String × String)) :=
  [("p", [("a.go", "package p\n\n//enumorph:derive\ntype U struct \x7b\n\tKind string `enumorph:\"tag\"`\n" ++
      "\tA int `enumorph:\"x\"`\n\tB int\n\tC int\n\x7d\n")])]

/-- The finding for the last variant names the second one, and not the first of those before it that carry one value
of an identical type: the first one is not skipped, but was not converted. -/
theorem misspelt_names_second :
    ∃ program : Program, ({} : Program).loadAll? misspeltSources = some program ∧ ∃ p ∈ program.packages,
      let s := Subject.ofPackage program p
      ∃ r ∈ s.requests, ∃ u, s.union r.spec = .ok u ∧
        checkUnions s.info.table s.takenNames [(u, none)] =
          [[.error ⟨.unknownOption "U" "A" (Text.Bytes.ofText "x"), 77, 0⟩,
            .ok ⟨"B", .whole 0, .basic "int", "UToB", "UFromB", 99⟩,
            .error ⟨.samePayload "U" "B" "C" (.basic "int") 99, 106, 0⟩]] ∧
        (u.wanted.find? fun v => v.shape.payload?.any (·.identical s.info.table (.basic "int"))).map
          (·.name) = some "A" := by
  let shown (s : Subject) (r : Request) (u : Union) :=
    (checkUnions s.info.table s.takenNames [(u, none)],
      (u.wanted.find? fun v => v.shape.payload?.any (·.identical s.info.table (.basic "int"))).map (·.name))
  let expected : List (List (Except Finding Conversion)) × Option String :=
    ([[.error ⟨.unknownOption "U" "A" (Text.Bytes.ofText "x"), 77, 0⟩,
      .ok ⟨"B", .whole 0, .basic "int", "UToB", "UFromB", 99⟩,
      .error ⟨.samePayload "U" "B" "C" (.basic "int") 99, 106, 0⟩]], some "A")
  have hshown : (({} : Program).loadAll? misspeltSources).map (fun program => program.packages.flatMap fun p =>
      (Subject.ofPackage program p).requests.flatMap fun r =>
        ((Subject.ofPackage program p).union r.spec).toOption.toList.map (shown (.ofPackage program p) r)) =
      some [expected] := by
    rw [misspeltSources, loadAll?_cons, String.toList_append, String.toList_ofList, String.toList_ofList]
    decide +kernel
  obtain ⟨program, hload, hprogram⟩ := Option.map_eq_some_iff.1 hshown
  have hmem := List.mem_singleton_self expected
  rw [← hprogram] at hmem
  obtain ⟨p, hp, hmem⟩ := List.mem_flatMap.1 hmem
  obtain ⟨r, hr, hmem⟩ := List.mem_flatMap.1 hmem
  obtain ⟨u, hu, heq⟩ := List.mem_map.1 hmem
  obtain ⟨hchecked, hfirst⟩ := Prod.mk.inj heq
  refine ⟨program, hload, p, hp, r, hr, u, ?_, hchecked, hfirst⟩
  cases hunion : (Subject.ofPackage program p).union r.spec with
  | error x =>
    rw [hunion] at hu
    cases hu
  | ok u' =>
    rw [hunion] at hu
    rw [List.mem_singleton.1 hu]

end TaggedUnion
