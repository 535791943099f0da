import Mathlib.Data.List.Flatten
import TaggedUnion.Proofs.Source.Tokens
import TaggedUnion.Proofs.Syntax.Consumption

/-!
# What is read stands in order

The names that declarations declare are read one after the other: they stand at tokens, each at a later one than
those before (`readsPlaces_decls`).
-/

namespace TaggedUnion.Syntax

open Source TaggedUnion.Types

/-- Where the tokens are that are written out. -/
def writtenPlaces (ts : List LedToken) : List Pos :=
  (ts.filter (·.token.isWritten)).map (·.token.pos)

theorem writtenPlaces_append (ts us : List LedToken) :
    writtenPlaces (ts ++ us) = writtenPlaces ts ++ writtenPlaces us := by
  rw [writtenPlaces, List.filter_append, List.map_append]
  rfl

theorem writtenPlaces_cons {t : LedToken} (h : t.token.isWritten = true) (ts : List LedToken) :
    writtenPlaces (t :: ts) = t.token.pos :: writtenPlaces ts := by
  rw [writtenPlaces, List.filter_cons_of_pos (p := fun t : LedToken => t.token.isWritten) h, List.map_cons]
  rfl

/-- The names that a declaration declares. -/
def Decl.names : Decl → List Ident
  | .types _ specs => specs.map (·.name)
  | .vars specs | .consts specs => specs.flatMap (·.names)
  | .func spec => [spec.name]

namespace Parser

variable {α β : Type}

/-! ## Reading places -/

/-- The places of what a parser reads are places that were read so far and places of tokens it takes, in order. -/
def ReadsPlaces (so : List Pos) (f : α → List Pos) (p : Parser α) : Prop :=
  ∀ ts a rest, p.run ts = some (a, rest) → ∃ us, ts = us ++ rest ∧ (f a).Sublist (so ++ writtenPlaces us)

section

variable {so : List Pos} {f : α → List Pos} {g : β → List Pos} {p : Parser α} {q : α → Parser β}

theorem readsPlaces_pure {a : α} (h : (f a).Sublist so) : ReadsPlaces so f (pure a) := by
  rintro ts _ _ ⟨⟩
  exact ⟨[], rfl, h.trans (List.sublist_append_left _ _)⟩

theorem readsPlaces_failure : ReadsPlaces so f (failure : Parser α) :=
  nofun

/-- Reads something, and then more. -/
theorem ReadsPlaces.bind (hp : ReadsPlaces [] f p) (hq : ∀ a, ReadsPlaces (so ++ f a) g (q a)) :
    ReadsPlaces so g (p >>= q) := by
  intro ts b rest hrun
  obtain ⟨a, mid, ha, hb⟩ := run_bind_eq_some.1 hrun
  obtain ⟨us, rfl, hus⟩ := hp ts a mid ha
  obtain ⟨vs, rfl, hvs⟩ := hq a mid b rest hb
  refine ⟨us ++ vs, (List.append_assoc us vs rest).symm, hvs.trans ?_⟩
  rw [writtenPlaces_append, List.append_assoc]
  exact (hus.append_right _).append_left _

/-- Something of which the places do not count may be read in between. -/
theorem Consumes.thenPlaces (hp : Consumes p) (hq : ∀ a, ReadsPlaces so g (q a)) : ReadsPlaces so g (p >>= q) := by
  intro ts b rest hrun
  obtain ⟨a, mid, ha, hb⟩ := run_bind_eq_some.1 hrun
  obtain ⟨us, rfl⟩ := hp ts a mid ha
  obtain ⟨vs, rfl, hvs⟩ := hq a mid b rest hb
  refine ⟨us ++ vs, (List.append_assoc us vs rest).symm, hvs.trans ?_⟩
  rw [writtenPlaces_append]
  exact (List.sublist_append_right _ _).append_left _

theorem ReadsPlaces.map {h : α → β} (hp : ReadsPlaces [] f p) (hg : ∀ a, g (h a) = f a) :
    ReadsPlaces [] g (h <$> p) := by
  rw [map_eq_pure_bind]
  exact hp.bind fun a => readsPlaces_pure (hg a ▸ .refl _)

end

theorem readsPlaces_ident : ReadsPlaces [] (fun id => [id.pos]) ident := by
  intro ts id rest h
  obtain ⟨token, mid, hnext, hmore⟩ := run_bind_eq_some.1 h
  obtain ⟨_, mid', hguard, hpure⟩ := run_bind_eq_some.1 hmore
  cases ts with
  | nil => cases hnext
  | cons t ts =>
    cases hnext
    cases hpure
    obtain ⟨hident, rfl⟩ := run_guard_eq_some hguard
    have hwritten : t.token.isWritten = true := by rw [Token.isWritten, beq_iff_eq.1 hident]; rfl
    exact ⟨[t], rfl, by rw [writtenPlaces_cons hwritten]; exact .refl _⟩

/-! ## Declarations -/

theorem readsPlaces_typeSpec (n : Nat) (doc : Option (List Comment)) :
    ReadsPlaces [] (fun spec => [spec.name.pos]) (typeSpec n doc) :=
  readsPlaces_ident.bind fun _ => (consuming n).typeRest.thenPlaces fun _ =>
    consumes_semicolon.thenPlaces fun _ => readsPlaces_pure (.refl _)

theorem readsPlaces_identList (n : Nat) : ReadsPlaces [] (fun ids => ids.map (·.pos)) (identList n) := by
  induction n with
  | zero => exact readsPlaces_failure
  | succ n ih =>
    rw [identList]
    refine readsPlaces_ident.bind fun name => (consumes_accept _).thenPlaces fun more => ?_
    split
    · exact ih.bind fun names => readsPlaces_pure (.refl _)
    · exact readsPlaces_pure (.refl _)

theorem readsPlaces_valueSpec (n index : Nat) :
    ReadsPlaces [] (fun spec => spec.names.map (·.pos)) (valueSpec n index) := by
  refine (readsPlaces_identList n).bind fun names => consumes_peek.thenPlaces fun t => ?_
  have hvalues : ∀ type, ReadsPlaces (names.map (·.pos)) (fun spec => spec.names.map (·.pos)) (do
      let values ← if ← accept "=" then exprs n true else pure []
      semicolon
      return ({ names, type, values, index } : ValueSpec)) := by
    intro type
    refine (consumes_accept _).thenPlaces fun assigned => ?_
    dsimp only
    split
    · exact ((consuming n).exprs true).thenPlaces fun _ =>
        consumes_semicolon.thenPlaces fun _ => readsPlaces_pure (.refl _)
    · exact (consumes_pure _).thenPlaces fun _ =>
        consumes_semicolon.thenPlaces fun _ => readsPlaces_pure (.refl _)
  dsimp only
  split
  · exact (consumes_pure _).thenPlaces hvalues
  · exact (consumes_map _ (consuming n).typeExpr).thenPlaces hvalues

theorem readsPlaces_funcSpec (n : Nat) (pos : Pos) :
    ReadsPlaces [] (fun spec => [spec.name.pos]) (funcSpec n pos) := by
  have hafter : ∀ name receiver params, ReadsPlaces [name.pos] (fun spec => [spec.name.pos]) (do
      let type ← signature n pos
      let hasBody ← accept "\x7b"
      if hasBody then
        let _ ← closingBrace
      semicolon
      return ({ name, receiver, params, type, hasBody } : FuncSpec)) := by
    intro name receiver params
    refine ((consuming n).signature pos).thenPlaces fun type => (consumes_accept _).thenPlaces fun body => ?_
    dsimp only
    split
    · exact consumes_closingBrace.thenPlaces fun _ =>
        consumes_semicolon.thenPlaces fun _ => readsPlaces_pure (.refl _)
    · exact consumes_semicolon.thenPlaces fun _ => readsPlaces_pure (.refl _)
  have hnamed : ∀ receiver, ReadsPlaces [] (fun spec => [spec.name.pos]) (do
      let name ← ident
      let params ← if ← at? "[" then typeParams n else pure []
      let type ← signature n pos
      let hasBody ← accept "\x7b"
      if hasBody then
        let _ ← closingBrace
      semicolon
      return ({ name, receiver, params, type, hasBody } : FuncSpec)) := by
    intro receiver
    refine readsPlaces_ident.bind fun name => (consumes_at? _).thenPlaces fun generic => ?_
    dsimp only
    split
    · exact (consumes_typeParams n).thenPlaces (hafter name receiver)
    · exact (consumes_pure _).thenPlaces (hafter name receiver)
  unfold funcSpec
  refine (consumes_at? _).thenPlaces fun method => ?_
  dsimp only
  split
  · refine (consuming n).paramList.thenPlaces fun (groups, lparen, rparen) => ?_
    dsimp only
    split
    · exact (consumes_pure _).thenPlaces hnamed
    · exact consumes_failure.thenPlaces hnamed
  · exact (consumes_pure _).thenPlaces hnamed

theorem readsPlaces_many {f : α → List Pos} {spec : Option (List Comment) → Nat → Parser α}
    (h : ∀ doc i, ReadsPlaces [] f (spec doc i)) (fuel i : Nat) :
    ReadsPlaces [] (fun found => found.flatMap f) (specs.many spec fuel i) := by
  induction fuel generalizing i with
  | zero => exact readsPlaces_failure
  | succ fuel ih =>
    intro ts found rest hrun
    cases ts with
    | nil => cases hrun
    | cons t ts =>
      have hhead : ReadsPlaces [] (fun found => found.flatMap f) (if t.token.is ")" then pure [] else do
          let x ← spec t.lead i
          return x :: (← specs.many spec fuel (i + 1))) := by
        split
        · exact readsPlaces_pure (.refl _)
        · exact (h _ _).bind fun x => (ih _).bind fun xs => readsPlaces_pure (.refl _)
      exact hhead _ _ _ hrun

theorem readsPlaces_specs {f : α → List Pos} (n : Nat) {spec : Option (List Comment) → Nat → Parser α}
    (h : ∀ doc i, ReadsPlaces [] f (spec doc i)) :
    ReadsPlaces [] (fun found => found.flatMap f) (specs n spec) := by
  unfold specs
  refine (consumes_accept _).thenPlaces fun group => ?_
  split
  · exact (readsPlaces_many h n 0).bind fun found => (consumes_expect _).thenPlaces fun _ =>
      consumes_semicolon.thenPlaces fun _ => readsPlaces_pure (.refl _)
  · exact (h _ _).bind fun x => readsPlaces_pure (by simp)

theorem readsPlaces_declAfter (n : Nat) (t : LedToken) :
    ReadsPlaces [] (fun d => d.names.map (·.pos)) (declAfter n t) := by
  unfold declAfter
  split
  · exact (readsPlaces_specs n fun doc _ => readsPlaces_typeSpec n doc).map fun specs => by
      rw [Decl.names, List.map_map, List.map_eq_flatMap]
      rfl
  · exact (readsPlaces_specs n fun _ i => readsPlaces_valueSpec n i).map fun specs => List.map_flatMap
  · exact (readsPlaces_specs n fun _ i => readsPlaces_valueSpec n i).map fun specs => List.map_flatMap
  · exact (readsPlaces_funcSpec n _).map fun spec => rfl
  · exact readsPlaces_failure

/-- The names that the declarations of a file declare stand at its tokens, in order. -/
theorem readsPlaces_decls (n : Nat) :
    ReadsPlaces [] (fun ds => ds.flatMap fun d => d.names.map (·.pos)) (decls n) := by
  induction n with
  | zero => exact readsPlaces_failure
  | succ n ih =>
    intro ts ds rest h
    cases ts with
    | nil => cases h
    | cons t ts =>
      obtain ⟨rfl, rfl⟩ | ⟨d, ds', mid, rfl, hd, hds'⟩ := run_decls h
      · exact ⟨[], rfl, List.nil_sublist _⟩
      · obtain ⟨us, rfl, hus⟩ := readsPlaces_declAfter n t _ _ _ hd
        obtain ⟨vs, rfl, hvs⟩ := ih _ _ _ hds'
        refine ⟨t :: us ++ vs, by simp, ?_⟩
        rw [List.nil_append] at hus hvs ⊢
        dsimp only at hvs ⊢
        rw [List.flatMap_cons, List.cons_append, ← List.singleton_append, writtenPlaces_append, writtenPlaces_append]
        exact (hus.append hvs).trans (List.sublist_append_right _ _)

end Parser

end TaggedUnion.Syntax
