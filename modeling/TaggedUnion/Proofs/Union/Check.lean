import Mathlib.Data.List.Nodup
import TaggedUnion.Proofs.Name.Reserved
import TaggedUnion.Proofs.Types.Equality
import TaggedUnion.Union.Build

/-!
# Checking variants

Variants are checked one after the other, with the names and the payload types so far as the state.
A variant passes iff it is admissible in the state (`checkVariant_of_admissible`,
`checkVariant_of_not_admissible`), and then the state has its names and its payload type besides. So
all variants pass iff each of them carries one value, no two payload types are identical, and no
name is taken, by an earlier variant or before (`checkVariants_spec`); the order of the variants is
not part of this.
-/

namespace TaggedUnion

open TaggedUnion.Types

/-- The names of the two conversions of a variant. -/
def Union.conversionNames (u : Union) (v : Variant) : List String :=
  [u.unwrapName v.name, u.wrapName v.name]

/-- Whether conversions can be derived for a variant on its own. -/
structure Variant.Derivable (v : Variant) : Prop where
  known : ∀ text, v.option ≠ .unknown text
  single : ∃ accessor payload, v.shape = .single accessor payload

/-- The payload types of variants, of those that carry one value. -/
def payloadTypes (vs : List Variant) : List Ty :=
  vs.filterMap (·.shape.payload?)

section Names

variable {u : Union} {v : Variant} {taken : TakenNames} {names : List String}

/-- Names that are free and different can be taken, and then these are the ones taken besides. -/
theorem takeNames_of_free (hnodup : names.Nodup) (hfree : ∀ n ∈ names, n ∉ taken.names) :
    ∃ taken', takeNames u v taken names = (taken', none) ∧
      ∀ n, n ∈ taken'.names ↔ n ∈ names ∨ n ∈ taken.names := by
  induction names generalizing taken with
  | nil => exact ⟨taken, rfl, by simp⟩
  | cons name rest ih =>
    have hname := Name.Reserved.reserve_of_not_mem v.pos (hfree name List.mem_cons_self)
    obtain ⟨hnot, hrest⟩ := List.nodup_cons.1 hnodup
    obtain ⟨taken', heq, hmem⟩ := @ih ⟨(name, v.pos) :: taken.entries⟩ hrest fun n hn hin => by
      rcases List.mem_cons.1 hin with rfl | hin
      · exact hnot hn
      · exact hfree n (List.mem_cons_of_mem _ hn) hin
    refine ⟨taken', by rw [takeNames, hname]; exact heq, fun n => ?_⟩
    rw [hmem, Name.Reserved.names, List.map_cons, List.mem_cons, List.mem_cons, or_left_comm, or_assoc]
    rfl

/-- If names can be taken, they are free and different. -/
theorem free_of_takeNames (h : (takeNames u v taken names).2 = none) :
    names.Nodup ∧ ∀ n ∈ names, n ∉ taken.names := by
  induction names generalizing taken with
  | nil => exact ⟨List.nodup_nil, by simp⟩
  | cons name rest ih =>
    rw [takeNames] at h
    by_cases hmem : name ∈ taken.names
    · obtain ⟨previous, hprev⟩ := Name.Reserved.reserve_of_mem v.pos hmem
      rw [hprev] at h
      exact absurd h (by simp)
    · rw [Name.Reserved.reserve_of_not_mem v.pos hmem] at h
      obtain ⟨hnodup, hfree⟩ := ih h
      refine ⟨List.nodup_cons.2 ⟨fun hin => ?_, hnodup⟩, fun n hn => ?_⟩
      · exact hfree name hin List.mem_cons_self
      · rcases List.mem_cons.1 hn with rfl | hn
        · exact hmem
        · exact fun hin => hfree n hn (List.mem_cons_of_mem _ hin)

end Names

/-! ## A single variant -/

section Variant

variable {table : TypeTable} {u : Union} {c : Checking} {v : Variant} {payload : Ty}

/-- Whether a variant passes in a state. -/
structure Admissible (table : TypeTable) (u : Union) (c : Checking) (v : Variant) (payload : Ty) :
    Prop where
  known : ∀ text, v.option ≠ .unknown text
  shape : v.shape.payload? = some payload
  fresh : ∀ e ∈ c.payloads.entries, e.1.identical table payload = false
  nodup : (u.conversionNames v).Nodup
  free : ∀ n ∈ u.conversionNames v, n ∉ c.taken.names

theorem exists_shape_iff :
    (∃ accessor, v.shape = .single accessor payload) ↔ v.shape.payload? = some payload := by
  cases v.shape <;> simp [Shape.payload?]

/-- A variant that carries one value is converted if its option is known. -/
theorem checkVariant_of_single {accessor : Accessor} (hknown : ∀ text, v.option ≠ .unknown text)
    (hshape : v.shape = .single accessor payload) :
    checkVariant table u v c = convert table u v accessor payload c := by
  rw [checkVariant, hshape]
  cases hopt : v.option with
  | derive | ignore => rfl
  | unknown text => exact absurd hopt (hknown text)

/-- An admissible variant passes, and its payload type and its names are in the state from then
on. -/
theorem checkVariant_of_admissible (h : Admissible table u c v payload) :
    ∃ conversion c', checkVariant table u v c = (c', .ok conversion) ∧
      c'.payloads.entries = (payload, v) :: c.payloads.entries ∧
      ∀ n, n ∈ c'.taken.names ↔ n ∈ u.conversionNames v ∨ n ∈ c.taken.names := by
  obtain ⟨accessor, hshape⟩ := exists_shape_iff.2 h.shape
  obtain ⟨taken', htaken, hmem⟩ := takeNames_of_free (u := u) (v := v) h.nodup h.free
  rw [checkVariant_of_single h.known hshape, convert, Index.put_of_forall v h.fresh]
  rw [Union.conversionNames] at htaken
  simp only [htaken]
  exact ⟨_, _, rfl, rfl, hmem⟩

/-- A variant that is not admissible does not pass. -/
theorem checkVariant_of_not_admissible (h : ∀ payload, ¬Admissible table u c v payload) :
    ∃ finding, (checkVariant table u v c).2 = .error finding := by
  by_cases hder : v.Derivable
  · obtain ⟨accessor, payload, hshape⟩ := hder.single
    rw [checkVariant_of_single hder.known hshape, convert]
    by_cases hfresh : ∃ e ∈ c.payloads.entries, e.1.identical table payload = true
    · obtain ⟨old, hold⟩ := Index.put_of_exists v hfresh
      rw [hold]
      exact ⟨_, rfl⟩
    · have hall : ∀ e ∈ c.payloads.entries, e.1.identical table payload = false := fun e he =>
        Bool.eq_false_iff.2 fun hid => hfresh ⟨e, he, hid⟩
      rw [Index.put_of_forall v hall]
      cases htaken : takeNames u v c.taken [u.unwrapName v.name, u.wrapName v.name] with
      | mk taken finding =>
        simp only [htaken]
        cases finding with
        | some finding => exact ⟨finding, rfl⟩
        | none =>
          -- With its names free, nothing would keep the variant from passing.
          have hfree := free_of_takeNames (by rw [htaken])
          exact absurd ⟨hder.known, exists_shape_iff.1 ⟨accessor, hshape⟩, hall, hfree.1, hfree.2⟩
            (h payload)
  · rw [checkVariant]
    cases hopt : v.option with
    | unknown text => exact ⟨_, rfl⟩
    | derive | ignore =>
      cases hshape : v.shape with
      | unit => exact ⟨_, rfl⟩
      | multi count => exact ⟨_, rfl⟩
      | single accessor payload =>
        exact absurd ⟨fun text => by rw [hopt]; exact nofun, accessor, payload, hshape⟩ hder

end Variant

/-! ## All variants of a union -/

section Variants

variable {table : TypeTable} {u : Union} {c c' : Checking} {v : Variant} {vs : List Variant}
  {payload : Ty}

/-- Whether all of several variants pass, from a state. -/
structure Passable (table : TypeTable) (u : Union) (c : Checking) (vs : List Variant) : Prop where
  derivable : ∀ v ∈ vs, v.Derivable
  different : (payloadTypes vs).Pairwise fun t t' => t.identical table t' = false
  fresh : ∀ t ∈ payloadTypes vs, ∀ e ∈ c.payloads.entries, e.1.identical table t = false
  nodup : (vs.flatMap u.conversionNames).Nodup
  free : ∀ n ∈ vs.flatMap u.conversionNames, n ∉ c.taken.names

theorem payloadTypes_cons (hshape : v.shape.payload? = some payload) :
    payloadTypes (v :: vs) = payload :: payloadTypes vs :=
  List.filterMap_cons_some hshape

/-- The first of several variants that all pass is admissible. -/
theorem Passable.admissible (h : Passable table u c (v :: vs)) :
    ∃ payload, Admissible table u c v payload := by
  obtain ⟨hknown, accessor, payload, hshape⟩ := h.derivable v List.mem_cons_self
  have hpayload := exists_shape_iff.1 ⟨accessor, hshape⟩
  have hfresh := h.fresh payload (by rw [payloadTypes_cons hpayload]; exact List.mem_cons_self)
  have hnodup := h.nodup
  rw [List.flatMap_cons, List.nodup_append] at hnodup
  refine ⟨payload, hknown, hpayload, hfresh, hnodup.1, fun n hn => h.free n ?_⟩
  rw [List.flatMap_cons]
  exact List.mem_append_left _ hn

/-- After an admissible variant, the others pass iff all of them did from the state before it. -/
theorem passable_cons_iff (h : Admissible table u c v payload)
    (hpayloads : c'.payloads.entries = (payload, v) :: c.payloads.entries)
    (htaken : ∀ n, n ∈ c'.taken.names ↔ n ∈ u.conversionNames v ∨ n ∈ c.taken.names) :
    Passable table u c (v :: vs) ↔ Passable table u c' vs := by
  have hpayload := @payloadTypes_cons v vs payload h.shape
  constructor
  · rintro ⟨hder, hdiff, hfresh, hnodup, hfree⟩
    rw [hpayload, List.pairwise_cons] at hdiff
    rw [hpayload] at hfresh
    rw [List.flatMap_cons] at hnodup hfree
    obtain ⟨-, hrest, hdisj⟩ := List.nodup_append.1 hnodup
    refine ⟨fun w hw => hder w (List.mem_cons_of_mem _ hw), hdiff.2, fun t ht e he => ?_, hrest,
      fun n hn hin => ?_⟩
    · rw [hpayloads] at he
      rcases List.mem_cons.1 he with rfl | he
      · exact hdiff.1 t ht
      · exact hfresh t (List.mem_cons_of_mem _ ht) e he
    · rcases (htaken n).1 hin with hin | hin
      · exact hdisj n hin n hn rfl
      · exact hfree n (List.mem_append_right _ hn) hin
  · rintro ⟨hder, hdiff, hfresh, hnodup, hfree⟩
    rw [hpayloads] at hfresh
    refine ⟨fun w hw => ?_, ?_, fun t ht e he => ?_, ?_, fun n hn => ?_⟩
    · rcases List.mem_cons.1 hw with rfl | hw
      · exact ⟨h.known, by
          obtain ⟨accessor, hshape⟩ := exists_shape_iff.2 h.shape
          exact ⟨accessor, payload, hshape⟩⟩
      · exact hder w hw
    · rw [hpayload, List.pairwise_cons]
      exact ⟨fun t ht => hfresh t ht _ List.mem_cons_self, hdiff⟩
    · rw [hpayload] at ht
      rcases List.mem_cons.1 ht with rfl | ht
      · exact h.fresh e he
      · exact hfresh t ht e (List.mem_cons_of_mem _ he)
    · rw [List.flatMap_cons, List.nodup_append]
      refine ⟨h.nodup, hnodup, fun a ha b hb hab => hfree b hb ?_⟩
      exact (htaken b).2 (.inl (hab ▸ ha))
    · rw [List.flatMap_cons] at hn
      rcases List.mem_append.1 hn with hn | hn
      · exact h.free n hn
      · exact fun hin => hfree n hn ((htaken n).2 (.inr hin))

/-- All variants pass iff they are passable, and then their names are taken besides. -/
theorem checkVariants_spec (table : TypeTable) (u : Union) (c : Checking) (vs : List Variant) :
    (failed (checkVariants table u c vs).2 = [] ↔ Passable table u c vs) ∧
      (Passable table u c vs → ∀ n, n ∈ (checkVariants table u c vs).1.taken.names ↔
        n ∈ vs.flatMap u.conversionNames ∨ n ∈ c.taken.names) := by
  induction vs generalizing c with
  | nil =>
    have hpass : Passable table u c [] :=
      ⟨by simp, List.Pairwise.nil, by simp [payloadTypes], List.nodup_nil, by simp⟩
    exact ⟨iff_of_true rfl hpass, fun _ n => by simp [checkVariants]⟩
  | cons v rest ih =>
    by_cases hadm : ∃ payload, Admissible table u c v payload
    · obtain ⟨payload, hadm⟩ := hadm
      obtain ⟨conversion, c', heq, hpayloads, htaken⟩ := checkVariant_of_admissible hadm
      have hcons : Passable table u c (v :: rest) ↔ Passable table u c' rest :=
        passable_cons_iff hadm hpayloads htaken
      obtain ⟨hiff, hnames⟩ := ih c'
      rw [checkVariants, heq, hcons]
      refine ⟨hiff, fun hpass n => ?_⟩
      change n ∈ (checkVariants table u c' rest).1.taken.names ↔ _
      rw [hnames hpass, htaken, List.flatMap_cons, List.mem_append]
      exact or_left_comm.trans or_assoc.symm
    · have hnot : ¬Passable table u c (v :: rest) := fun hpass => hadm hpass.admissible
      refine ⟨iff_of_false ?_ hnot, fun hpass => absurd hpass hnot⟩
      obtain ⟨finding, hfinding⟩ := checkVariant_of_not_admissible fun payload h => hadm ⟨payload, h⟩
      rw [checkVariants]
      change ¬failed ((checkVariant table u v c).2 :: _) = []
      rw [hfinding]
      simp [failed]

end Variants

end TaggedUnion
