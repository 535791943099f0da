import TaggedUnion.Proofs.Types.Identity
import TaggedUnion.Types.Classify

/-!
# Outlines of types

The *outline* of a type is what unfolding it looks at: which sort of type it is, aliases apart, and of a defined type
its name and the outlines of its arguments. What other types are made of is left out, as is what tells apart the two
names of a basic type.

Identical types have one outline (`outline_of_identical`), and it goes on to be one when type parameters are replaced
(`outline_subst`) and when defined types are unfolded (`outline_unfold`). The classes of a type are classes of its
outline and of that of its underlying type, so they are those of all types identical to it.
-/

namespace TaggedUnion.Types

@[simp] theorem basicNormal_basicNormal (name : String) : basicNormal (basicNormal name) = basicNormal name := by
  by_cases hbyte : name = "byte"
  · rw [hbyte]
    rfl
  · by_cases hrune : name = "rune"
    · rw [hrune]
      rfl
    · simp [basicNormal, hbyte, hrune]

namespace Ty

/-- What unfolding looks at in a type. -/
def outline : Ty → Ty
  | basic name => basic (basicNormal name)
  | pointer _ => pointer invalid
  | slice _ => slice invalid
  | array _ _ => array 0 invalid
  | map _ _ => map invalid invalid
  | chan _ _ => chan .both invalid
  | func _ _ _ _ => func [] [] [] false
  | struct _ => struct []
  | interface _ _ _ => emptyInterface
  | union _ => union []
  | named name _ args => named name [] (outlines args)
  | synonym _ _ _ target => target.outline
  | param name pos => param name pos
where
  outlines : List Ty → List Ty
    | [] => []
    | t :: rest => t.outline :: outlines rest

theorem outlines_eq_map (ts : List Ty) : outline.outlines ts = ts.map outline := by
  induction ts with
  | nil => rfl
  | cons t ts ih => rw [outline.outlines, ih, List.map_cons]

variable {table : TypeTable} {t u : Ty}

theorem outline_unalias (t : Ty) : t.unalias.outline = t.outline := by
  fun_induction unalias t with
  | case1 _ _ _ _ ih => rw [ih, outline]
  | case2 => rfl

/-! ## Identical types -/

mutual

/-- The normal form of a type has the outline of the type. -/
theorem outline_normalWith (expand : Ty → Ty) : ∀ t : Ty, (t.normalWith false expand []).outline = t.outline
  | basic _ => by simp [normalWith, outline]
  | named name _ args => by rw [normalWith, outline, outline, outlines_normalAll expand args]
  | synonym _ _ _ target => by
    rw [normalWith, if_neg Bool.false_ne_true, outline_normalWith expand target, outline]
  | pointer _ | slice _ | array _ _ | map _ _ | chan _ _ | func _ _ _ _ | struct _ | interface _ _ _ | union _
  | param _ _ => rfl
termination_by structural t => t

theorem outlines_normalAll (expand : Ty → Ty) : ∀ ts : List Ty,
    outline.outlines (normalWith.normalAll false expand [] ts) = outline.outlines ts
  | [] => rfl
  | t :: ts => by
    rw [normalWith.normalAll, outline.outlines, outline.outlines, outline_normalWith expand t,
      outlines_normalAll expand ts]
termination_by structural ts => ts

end

theorem outline_of_identical (h : t.Identical table u) : t.outline = u.outline := by
  rw [Identical, ← normalWith_eq_iff] at h
  rw [← outline_normalWith _ t, h, outline_normalWith]

/-! ## Replacing type parameters -/

mutual

/-- Types under one outline, put in the place of a type parameter, make types under one outline. -/
theorem outline_subst {σ τ : List (Source.Pos × Ty)} (h : ∀ p, (σ.lookup p).map outline = (τ.lookup p).map outline) :
    ∀ t : Ty, (t.subst σ).outline = (t.subst τ).outline
  | named name _ args => by rw [subst, subst, outline, outline, outlines_substAll h args]
  | synonym _ _ _ target => by rw [subst, subst, outline, outline, outline_subst h target]
  | param name pos => by
    have hpos := h pos
    rw [subst, subst]
    revert hpos
    cases σ.lookup pos <;> cases τ.lookup pos <;> simp
  | basic _ | pointer _ | slice _ | array _ _ | map _ _ | chan _ _ | func _ _ _ _ | struct _ | interface _ _ _
  | union _ => rfl
termination_by structural t => t

theorem outlines_substAll {σ τ : List (Source.Pos × Ty)}
    (h : ∀ p, (σ.lookup p).map outline = (τ.lookup p).map outline) :
    ∀ ts : List Ty, outline.outlines (subst.substAll σ ts) = outline.outlines (subst.substAll τ ts)
  | [] => rfl
  | t :: ts => by
    rw [subst.substAll, subst.substAll, outline.outlines, outline.outlines, outline_subst h t, outlines_substAll h ts]
termination_by structural ts => ts

end

theorem lookup_zip_map (places : List Source.Pos) (args : List Ty) (p : Source.Pos) :
    ((places.zip args).lookup p).map outline = (places.zip (args.map outline)).lookup p := by
  induction places generalizing args with
  | nil => rfl
  | cons q places ih =>
    cases args with
    | nil => rfl
    | cons t args =>
      rw [List.map_cons, List.zip_cons_cons, List.zip_cons_cons, List.lookup_cons, List.lookup_cons, ← ih]
      cases p == q <;> rfl

theorem outline_instantiate (d : TypeDecl) {args args' : List Ty} (h : args.map outline = args'.map outline) :
    (d.instantiate args).outline = (d.instantiate args').outline :=
  outline_subst (fun p => by rw [lookup_zip_map, lookup_zip_map, h]) _

/-! ## Unfolding -/

theorem outline_eq_named_iff {name : TypeName} {args : List Ty} :
    t.outline = named name [] args ↔
      ∃ generics args', t.unalias = named name generics args' ∧ args'.map outline = args := by
  rw [← outline_unalias]
  cases ht : t.unalias <;> simp_all [outline, emptyInterface, outlines_eq_map]

theorem outline_eq_param_iff {name : String} {pos : Source.Pos} :
    t.outline = param name pos ↔ t.unalias = param name pos := by
  rw [← outline_unalias]
  cases ht : t.unalias <;> simp_all [outline, emptyInterface]

/-- Types under one outline are unfolded to types under one outline. -/
theorem outline_unfold (table : TypeTable) (depth : Nat) (h : t.outline = u.outline) :
    (t.unfold table depth).outline = (u.unfold table depth).outline := by
  induction depth generalizing t u with
  | zero => rw [unfold, unfold, outline_unalias, outline_unalias, h]
  | succ depth ih =>
    cases ht : t.unalias with
    | named name generics args =>
      obtain ⟨generics', args', hu, hargs⟩ := outline_eq_named_iff.1 (h ▸ outline_eq_named_iff.2 ⟨_, _, ht, rfl⟩)
      simp only [unfold, ht, hu]
      cases table.find? name with
      | none => simp [outline, outlines_eq_map, hargs]
      | some d => exact ih (outline_instantiate d hargs.symm)
    | param name pos =>
      have hu : u.unalias = param name pos := outline_eq_param_iff.1 (h ▸ outline_eq_param_iff.2 ht)
      simp only [unfold, ht, hu]
    | _ =>
      -- All other types are left as they are, on the other side too.
      have hu := outline_unalias u ▸ h ▸ (outline_unalias t).symm ▸ congrArg outline ht
      cases hu' : u.unalias <;> simp_all [unfold, outline, emptyInterface]

theorem outline_underlying (h : t.Identical table u) : (t.underlying table).outline = (u.underlying table).outline :=
  outline_unfold table _ (outline_of_identical h)

end Ty

end TaggedUnion.Types
