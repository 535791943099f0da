import TaggedUnion.Proofs.Text.Diverge
import TaggedUnion.Types.Text

/-!
# Spelling

The text of a type, taken apart into *pieces*: plain texts, which are the same however packages are
written, and names of declarations, which show the qualifier of their package. Written one after the
other, the pieces of a type are its text (`text_eq_written`), whatever the qualifier; so the
qualifiers that a text shows are those of the packages that the pieces name (`mentions`).
-/

namespace TaggedUnion.Types

open Source

/-- A piece of the text of a type. -/
inductive Piece
  /-- Text that does not depend on how packages are written. -/
  | plain (text : String)
  /-- The name of a declaration, with the qualifier of its package. -/
  | declared (home name : String)
deriving Repr, DecidableEq

namespace Piece

variable (q : Qualifier)

/-- A piece as it is written. -/
def text : Piece → String
  | plain t => t
  | declared home name => qualified q home name

/-- Pieces as they are written, one after the other. -/
def written : List Piece → String
  | [] => ""
  | p :: ps => p.text q ++ written ps

/-- Pieces with a plain text between each two groups of them. -/
def separated (sep : String) : List (List Piece) → List Piece
  | [] => []
  | [ps] => ps
  | ps :: rest => ps ++ plain sep :: separated sep rest

/-- Groups of pieces in brackets; nothing if there are none. -/
def bracketed (groups : List (List Piece)) : List Piece :=
  if groups.isEmpty then [] else plain "[" :: (separated ", " groups ++ [plain "]"])

/-- A parameter, given by its name and the pieces of its type. -/
def param (p : String × List Piece) : List Piece :=
  if p.1 == "" then p.2 else plain (p.1 ++ " ") :: p.2

/-- Parameters in brackets. -/
def params (ps : List (String × List Piece)) : List Piece :=
  plain "(" :: (separated ", " (ps.map param) ++ [plain ")"])

/-- Results with a leading blank; a single unnamed result needs no brackets. -/
def results (rs : List (String × List Piece)) : List Piece :=
  match rs with
  | [] => []
  | [(name, ps)] => if name == "" then plain " " :: ps else plain " " :: params [(name, ps)]
  | rs => plain " " :: params rs

@[simp] theorem written_nil : written q [] = "" := rfl

@[simp] theorem written_cons (p : Piece) (ps : List Piece) :
    written q (p :: ps) = p.text q ++ written q ps := rfl

@[simp] theorem written_append (ps qs : List Piece) :
    written q (ps ++ qs) = written q ps ++ written q qs := by
  induction ps with
  | nil => simp
  | cons p ps ih => rw [List.cons_append, written_cons, ih, written_cons, String.append_assoc]

theorem written_separated (sep : String) (groups : List (List Piece)) :
    written q (separated sep groups) = sep.intercalate (groups.map (written q)) := by
  induction groups with
  | nil => rfl
  | cons ps rest ih =>
    cases rest with
    | nil => simp [separated]
    | cons ps' rest =>
      rw [separated, written_append, written_cons, ih]
      · simp [String.intercalate_cons_cons, text, String.append_assoc]
      · simp

theorem written_bracketed (groups : List (List Piece)) :
    written q (bracketed groups) = Types.bracketed (groups.map (written q)) := by
  rw [bracketed, Types.bracketed, List.isEmpty_map]
  split
  · rfl
  · simp [written_separated, text, String.append_assoc]

theorem written_params (ps : List (String × List Piece)) :
    written q (params ps) = paramsText (ps.map fun p => (p.1, written q p.2)) := by
  have hone : ∀ p : String × List Piece, written q (param p) =
      if p.1 == "" then written q p.2 else p.1 ++ " " ++ written q p.2 := by
    intro p
    rw [param]
    split <;> rfl
  simp [params, paramsText, written_separated, text, hone, Function.comp_def, String.append_assoc]

theorem written_results (rs : List (String × List Piece)) :
    written q (results rs) = resultsText (rs.map fun p => (p.1, written q p.2)) := by
  match rs with
  | [] => rfl
  | [(name, ps)] =>
    by_cases h : name = ""
    · subst h
      simp [results, resultsText, text]
    · have hne : (name == "") = false := by simpa using h
      rw [results, hne, if_neg Bool.false_ne_true, written_cons, written_params, List.map_cons,
        List.map_nil, resultsText]
      · rfl
      · simp
      · rintro type ⟨⟩
        exact h rfl
  | a :: b :: rest => simp [results, resultsText, written_params, text]

/-! ### Packages that pieces name -/

/-- The packages whose declarations the pieces name, in order; empty for what no package
declares. -/
def homes : List Piece → List String
  | [] => []
  | plain _ :: ps => homes ps
  | declared home _ :: ps => home :: homes ps

@[simp] theorem homes_nil : homes [] = [] := rfl

@[simp] theorem homes_plain (t : String) (ps : List Piece) : homes (plain t :: ps) = homes ps := rfl

@[simp] theorem homes_declared (home name : String) (ps : List Piece) :
    homes (declared home name :: ps) = home :: homes ps := rfl

@[simp] theorem homes_append (ps ps' : List Piece) : homes (ps ++ ps') = homes ps ++ homes ps' := by
  induction ps with
  | nil => rfl
  | cons p ps ih => cases p <;> simp [ih]

/-- A package is named by pieces iff one of the pieces is a name of one of its declarations. -/
theorem mem_homes_iff {home : String} {ps : List Piece} :
    home ∈ homes ps ↔ ∃ name, declared home name ∈ ps := by
  induction ps with
  | nil => simp
  | cons p ps ih => cases p <;> simp [ih, exists_or]

variable {home sep : String}

@[simp] theorem mem_homes_separated {groups : List (List Piece)} :
    home ∈ homes (separated sep groups) ↔ ∃ ps ∈ groups, home ∈ homes ps := by
  induction groups with
  | nil => simp [separated]
  | cons ps rest ih =>
    cases rest with
    | nil => simp [separated]
    | cons ps' rest =>
      rw [separated, homes_append, List.mem_append, homes_plain, ih]
      · simp
      · simp

@[simp] theorem mem_homes_bracketed {groups : List (List Piece)} :
    home ∈ homes (bracketed groups) ↔ ∃ ps ∈ groups, home ∈ homes ps := by
  rw [bracketed]
  split
  case isTrue h => simp [List.isEmpty_iff.1 h]
  case isFalse => simp

@[simp] theorem homes_param (p : String × List Piece) : homes (param p) = homes p.2 := by
  rw [param]
  split <;> rfl

@[simp] theorem mem_homes_params {ps : List (String × List Piece)} :
    home ∈ homes (params ps) ↔ ∃ p ∈ ps, home ∈ homes p.2 := by
  have hmap : (∃ g ∈ ps.map param, home ∈ homes g) ↔ ∃ p ∈ ps, home ∈ homes p.2 := by
    constructor
    · rintro ⟨_, hg, hmem⟩
      obtain ⟨p, hp, rfl⟩ := List.mem_map.1 hg
      exact ⟨p, hp, homes_param p ▸ hmem⟩
    · rintro ⟨p, hp, hmem⟩
      exact ⟨_, List.mem_map_of_mem hp, (homes_param p).symm ▸ hmem⟩
  rw [params, homes_plain, homes_append, List.mem_append, mem_homes_separated, hmap]
  simp

@[simp] theorem mem_homes_results {rs : List (String × List Piece)} :
    home ∈ homes (results rs) ↔ ∃ p ∈ rs, home ∈ homes p.2 := by
  match rs with
  | [] => simp [results]
  | [(name, ps)] =>
    rw [results]
    split <;> simp
  | a :: b :: rest => simp [results]

/-! ### Pieces under different qualifiers -/

section Qualifiers

variable {q} {q' : Qualifier} {ps : List Piece}

/-- Pieces are written the same if the packages they name are. -/
theorem written_congr (h : ∀ home ∈ homes ps, home ≠ "" → q' home = q home) :
    written q' ps = written q ps := by
  induction ps with
  | nil => rfl
  | cons p ps ih =>
    cases p with
    | plain t => rw [written_cons, written_cons, ih h, text, text]
    | declared home name =>
      rw [homes_declared, List.forall_mem_cons] at h
      have hname : qualified q' home name = qualified q home name := by
        by_cases hhome : home = ""
        · simp [qualified, hhome]
        · rw [qualified, qualified, h.1 hhome]
      rw [written_cons, written_cons, ih h.2, text, text, hname]

/-- If one of the packages that pieces name is written in another way, so are the pieces: the texts
diverge at the first such package, since a qualifier ends at the first dot. -/
theorem written_diverge
    (hdot : ∀ home, q' home ≠ q home → '.' ∉ (q home).toList ∧ '.' ∉ (q' home).toList)
    (hempty : ∀ home, q' home = "" ↔ q home = "")
    (h : ∃ home ∈ homes ps, home ≠ "" ∧ q' home ≠ q home) :
    Diverge (written q ps) (written q' ps) := by
  induction ps with
  | nil =>
    obtain ⟨home, hmem, -⟩ := h
    exact absurd hmem List.not_mem_nil
  | cons p ps ih =>
    cases p with
    | plain t => exact (ih h).prepend t
    | declared home name =>
      rw [written_cons, written_cons, text, text]
      by_cases hsame : home = "" ∨ q' home = q home
      · have hname : qualified q' home name = qualified q home name := by
          rcases hsame with hhome | heq
          · simp [qualified, hhome]
          · rw [qualified, qualified, heq]
        rw [hname]
        refine (ih ?_).prepend _
        obtain ⟨other, hmem, hne, hq⟩ := h
        rcases List.mem_cons.1 hmem with rfl | hmem
        · exact absurd hsame (not_or.2 ⟨hne, hq⟩)
        · exact ⟨other, hmem, hne, hq⟩
      · obtain ⟨hne, hq⟩ := not_or.1 hsame
        have hq₁ : q home ≠ "" := fun h0 => hq (by rw [h0, (hempty home).2 h0])
        have hq₂ : q' home ≠ "" := fun h0 => hq₁ ((hempty home).1 h0)
        obtain ⟨hdot₁, hdot₂⟩ := hdot home hq
        have hdiv := (Diverge.of_words (Ne.symm hq) hdot₁ hdot₂ name name).append
          (written q ps) (written q' ps)
        simpa [qualified, hne, hq₁, hq₂] using hdiv

end Qualifiers

end Piece

namespace Ty

/-- The pieces that the text of a type is made of. -/
def pieces : Ty → List Piece
  | basic name => if name == "Pointer" then [.declared "unsafe" name] else [.plain name]
  | pointer elem => .plain "*" :: elem.pieces
  | slice elem => .plain "[]" :: elem.pieces
  | array length elem => .plain ("[" ++ toString length ++ "]") :: elem.pieces
  | map key elem => .plain "map[" :: (key.pieces ++ .plain "]" :: elem.pieces)
  | chan direction elem =>
    .plain direction.text ::
      (if direction == .both && elem.isReceiveChan then .plain "(" :: (elem.pieces ++ [.plain ")"])
        else elem.pieces)
  | func generics params results variadic =>
    .plain "func" :: (Piece.bracketed (groupPieces generics) ++
      (Piece.params (paramPieces variadic params) ++ Piece.results (paramPieces false results)))
  | struct fields => .plain "struct\x7b" :: (Piece.separated "; " (fieldPieces fields) ++ [.plain "\x7d"])
  | interface methods embedded implicit =>
    match implicit, methods, allPieces embedded with
    | true, [], [only] => only
    | _, _, es =>
      .plain "interface\x7b" :: (Piece.separated "; " (methodPieces methods ++ es) ++ [.plain "\x7d"])
  | union terms => Piece.separated " | " (termPieces terms)
  | named name generics args =>
    .declared name.home name.name ::
      Piece.bracketed (if args.isEmpty then groupPieces generics else allPieces args)
  | synonym name generics args _ =>
    .declared name.home name.name ::
      Piece.bracketed (if args.isEmpty then groupPieces generics else allPieces args)
  | param name _ => [.plain (paramText name)]
where
  allPieces : List Ty → List (List Piece)
    | [] => []
    | t :: rest => t.pieces :: allPieces rest
  groupPieces : List (List ParamDecl × Ty) → List (List Piece)
    | [] => []
    | (params, bound) :: rest =>
      (.plain (", ".intercalate (params.map fun p => paramText p.name) ++ " ") :: bound.pieces) ::
        groupPieces rest
  paramPieces (variadic : Bool) : List (String × Ty) → List (String × List Piece)
    | [] => []
    | [(name, slice elem)] => [(name, .plain (if variadic then "..." else "[]") :: elem.pieces)]
    | (name, t) :: rest => (name, t.pieces) :: paramPieces variadic rest
  fieldPieces : List (FieldHead × Ty) → List (List Piece)
    | [] => []
    | (head, t) :: rest =>
      (.plain (if head.embedded then "" else head.name ++ " ") :: (t.pieces ++
        [.plain (if head.tag.isEmpty then "" else " " ++ Text.quoteBytes head.tag)])) ::
        fieldPieces rest
  methodPieces : List (MethodHead × Ty) → List (List Piece)
    | [] => []
    | (head, func _ params results variadic) :: rest =>
      (.plain head.name :: (Piece.params (paramPieces variadic params) ++
        Piece.results (paramPieces false results))) :: methodPieces rest
    | (head, t) :: rest => (.plain head.name :: t.pieces) :: methodPieces rest
  termPieces : List (Bool × Ty) → List (List Piece)
    | [] => []
    | (tilde, t) :: rest => (.plain (if tilde then "~" else "") :: t.pieces) :: termPieces rest

/-- The packages whose declarations the text of a type names. -/
def mentions (t : Ty) : List String :=
  Piece.homes t.pieces

mutual

/-- The text of a type is what its pieces make, however packages are written. -/
theorem text_eq_written (q : Qualifier) : ∀ t : Ty, t.text q = Piece.written q t.pieces
  | basic name => by
    rw [text, pieces]
    split <;> simp [Piece.text]
  | pointer elem => by rw [text, pieces, text_eq_written q elem]; rfl
  | slice elem => by rw [text, pieces, text_eq_written q elem]; rfl
  | array length elem => by rw [text, pieces, text_eq_written q elem]; rfl
  | map key elem => by
    rw [text, pieces, text_eq_written q key, text_eq_written q elem]
    simp [Piece.text, String.append_assoc]
  | chan direction elem => by
    rw [text, pieces, text_eq_written q elem]
    by_cases h : (direction == .both && elem.isReceiveChan) = true
    · simp [h, Piece.text, String.append_assoc]
    · simp [h, Piece.text]
  | func generics params results variadic => by
    rw [text, pieces, groupTexts_eq q generics, paramTexts_eq q variadic params,
      paramTexts_eq q false results]
    simp [Piece.written_bracketed, Piece.written_params, Piece.written_results, Piece.text,
      String.append_assoc]
  | struct fields => by
    rw [text, pieces, fieldTexts_eq q fields]
    simp [Piece.written_separated, Piece.text, String.append_assoc]
  | interface methods embedded implicit => by
    have hmethods := methodTexts_eq q methods
    rw [text.eq_def, pieces.eq_def]
    simp only [texts_eq q embedded]
    -- Only a constraint that is written as one element leaves out the word.
    rcases implicit with _ | _
    · simp [hmethods, Piece.written_separated, Piece.text, String.append_assoc]
    rcases methods with _ | ⟨m, methods⟩
    · rcases pieces.allPieces embedded with _ | ⟨only, _ | ⟨second, rest⟩⟩ <;>
        simp [text.methodTexts, pieces.methodPieces, Piece.written_separated, Piece.text,
          String.append_assoc]
    · simp [hmethods, Piece.written_separated, Piece.text, String.append_assoc]
  | union terms => by rw [text, pieces, termTexts_eq q terms, Piece.written_separated]
  | named name generics args => by
    rw [text, pieces, groupTexts_eq q generics, texts_eq q args, Piece.written_cons,
      Piece.written_bracketed]
    split <;> rfl
  | synonym name generics args _ => by
    rw [text, pieces, groupTexts_eq q generics, texts_eq q args, Piece.written_cons,
      Piece.written_bracketed]
    split <;> rfl
  | param name _ => by simp [text, pieces, Piece.text]

theorem texts_eq (q : Qualifier) :
    ∀ ts : List Ty, text.texts q ts = (pieces.allPieces ts).map (Piece.written q)
  | [] => rfl
  | t :: rest => by
    rw [text.texts, pieces.allPieces, text_eq_written q t, texts_eq q rest, List.map_cons]

theorem groupTexts_eq (q : Qualifier) :
    ∀ gs : List (List ParamDecl × Ty),
      text.groupTexts q gs = (pieces.groupPieces gs).map (Piece.written q)
  | [] => rfl
  | (params, bound) :: rest => by
    rw [text.groupTexts, pieces.groupPieces, text_eq_written q bound, groupTexts_eq q rest,
      List.map_cons]
    rfl

theorem paramTexts_eq (q : Qualifier) (variadic : Bool) :
    ∀ ps : List (String × Ty),
      text.paramTexts q variadic ps =
        (pieces.paramPieces variadic ps).map fun p => (p.1, Piece.written q p.2)
  | [] => rfl
  | (name, t) :: rest => by
    have ht := text_eq_written q t
    by_cases h : ∃ elem, rest = [] ∧ t = slice elem
    · -- The text of the elements is what follows the brackets in that of the slice.
      obtain ⟨elem, rfl, rfl⟩ := h
      rw [text, pieces, Piece.written_cons, Piece.text, String.append_right_inj] at ht
      rw [text.paramTexts, pieces.paramPieces, ht]
      rfl
    · rw [text.paramTexts, pieces.paramPieces, ht, paramTexts_eq q variadic rest, List.map_cons]
      · exact fun elem hr ht => h ⟨elem, hr, ht⟩
      · exact fun elem hr ht => h ⟨elem, hr, ht⟩

theorem fieldTexts_eq (q : Qualifier) :
    ∀ fs : List (FieldHead × Ty), text.fieldTexts q fs = (pieces.fieldPieces fs).map (Piece.written q)
  | [] => rfl
  | (head, t) :: rest => by
    rw [text.fieldTexts, pieces.fieldPieces, text_eq_written q t, fieldTexts_eq q rest, List.map_cons]
    simp [Piece.text, String.append_assoc]

theorem methodTexts_eq (q : Qualifier) :
    ∀ ms : List (MethodHead × Ty),
      text.methodTexts q ms = (pieces.methodPieces ms).map (Piece.written q)
  | [] => rfl
  | (head, func _ params results variadic) :: rest => by
    rw [text.methodTexts, pieces.methodPieces, paramTexts_eq q variadic params,
      paramTexts_eq q false results, methodTexts_eq q rest]
    simp [Piece.written_params, Piece.written_results, Piece.text, String.append_assoc]
  | (head, basic _) :: rest | (head, pointer _) :: rest | (head, slice _) :: rest
  | (head, array _ _) :: rest | (head, map _ _) :: rest | (head, chan _ _) :: rest
  | (head, struct _) :: rest | (head, interface _ _ _) :: rest | (head, union _) :: rest
  | (head, named _ _ _) :: rest | (head, synonym _ _ _ _) :: rest | (head, param _ _) :: rest => by
    rw [text.methodTexts, pieces.methodPieces, text_eq_written q _, methodTexts_eq q rest,
      List.map_cons]
    · rfl
    · simp
    · simp

theorem termTexts_eq (q : Qualifier) :
    ∀ ts : List (Bool × Ty), text.termTexts q ts = (pieces.termPieces ts).map (Piece.written q)
  | [] => rfl
  | (tilde, t) :: rest => by
    rw [text.termTexts, pieces.termPieces, text_eq_written q t, termTexts_eq q rest, List.map_cons]
    rfl

end

end Ty

end TaggedUnion.Types
