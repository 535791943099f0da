import TaggedUnion.Name.Identifier
import TaggedUnion.Proofs.Text.Casing

/-!
# Names that are joined from identifiers

Title casing leaves the characters of an identifier alone, except for the first cased letter of every word
(`initials`). So a name that is joined from identifiers starts like one, and it is an identifier iff no word of them
starts with a letter whose title case form has combining marks (`isIdentifier_join?_iff`). It is exported iff the first
of the identifiers is, if that is what is asked for (`isExported_join?`).
-/

namespace TaggedUnion.Text

/-! ## Title casing -/

/-- The letters that title casing replaces, given whether the word has its first cased letter already. -/
def initialsFrom (inWord : Bool) : List Char → List Char
  | [] => []
  | c :: rest =>
    if isCased c then (if inWord then [] else [c]) ++ initialsFrom true rest
    else initialsFrom (inWord && !isWordBreak c) rest

/-- The letters that title casing replaces: the first cased one of every word. -/
def initials (piece : List Char) : List Char :=
  initialsFrom false piece

/-- Title casing leads out of the characters of identifiers only where it replaces a letter by one with marks. -/
theorem all_titleFrom_iff {cs : List Char} (h : ∀ c ∈ cs, isIdentPart c = true) (inWord : Bool) :
    (titleFrom inWord cs).all isIdentPart = true ↔ ∀ c ∈ initialsFrom inWord cs, c.toNat ∉ markedTitles := by
  induction cs generalizing inWord with
  | nil => exact iff_of_true rfl nofun
  | cons c rest ih =>
    obtain ⟨hc, hrest⟩ := List.forall_mem_cons.1 h
    rw [titleFrom, initialsFrom]
    split
    next =>
      rw [List.all_append, Bool.and_eq_true, ih hrest, List.forall_mem_append]
      refine and_congr_left fun _ => ?_
      cases inWord with
      | true => exact iff_of_true (by simp [hc]) nofun
      | false =>
        rw [if_neg Bool.false_ne_true, if_neg Bool.false_ne_true, List.forall_mem_singleton]
        exact all_isIdentPart_toTitle_iff hc
    next => rw [List.all_cons, hc, Bool.true_and, ih hrest]

/-- What starts with a character of identifiers starts with one that can stand for it in title case. -/
theorem exists_title {c : Char} (h : isIdentStart c = true) (rest : List Char) :
    ∃ t ts, title (c :: rest) = t :: ts ∧ Fronts c t := by
  rw [title, titleFrom]
  split
  next =>
    obtain ⟨t, ts, htitle, hfronts⟩ := exists_toTitle h
    exact ⟨t, ts ++ titleFrom true rest, by rw [if_neg Bool.false_ne_true, htitle]; rfl, hfronts⟩
  next => exact ⟨c, _, rfl, fronts_self h⟩

/-- An identifier starts with a character that identifiers start with, and goes on with those they go on with. -/
theorem isIdentifier_iff {name : String} : isIdentifier name = true ↔
    ∃ c rest, name.toList = c :: rest ∧ isIdentStart c = true ∧ ∀ d ∈ c :: rest, isIdentPart d = true := by
  rw [isIdentifier]
  cases name.toList with
  | nil => exact iff_of_false Bool.false_ne_true nofun
  | cons c rest =>
    simp only [Bool.and_eq_true, List.all_eq_true, List.cons.injEq, List.forall_mem_cons]
    constructor
    · rintro ⟨hc, hrest⟩
      exact ⟨c, rest, ⟨rfl, rfl⟩, hc, isIdentPart_of_isIdentStart hc, hrest⟩
    · rintro ⟨_, _, ⟨rfl, rfl⟩, hc, -, hrest⟩
      exact ⟨hc, hrest⟩

end TaggedUnion.Text

namespace TaggedUnion.Name

open Text

/-! ## Joining -/

theorem pieces_of_isIdentifier {name : String} (h : isIdentifier name = true) :
    pieces name.toList = [name.toList] := by
  obtain ⟨c, rest, hname, -, hall⟩ := isIdentifier_iff.1 h
  have hgo : ∀ cs : List Char, (∀ d ∈ cs, isIdentPart d = true) → pieces.go cs = [cs] := by
    intro cs hcs
    induction cs with
    | nil => rfl
    | cons d ds ih =>
      obtain ⟨hd, hds⟩ := List.forall_mem_cons.1 hcs
      rw [pieces.go, if_pos hd, ih hds]
  rw [hname, pieces, hgo _ hall]
  rfl

variable {u v : String} {others : List String}

/-- Identifiers are joined in title case, one after the other. -/
theorem titled_of_isIdentifier {names : List String} (h : ∀ name ∈ names, isIdentifier name = true) :
    titled names = names.flatMap fun name => title name.toList := by
  rw [titled, List.flatMap_def, List.flatMap_def]
  refine congrArg List.flatten (List.map_congr_left fun name hmem => ?_)
  rw [pieces_of_isIdentifier (h name hmem), List.flatMap_singleton]

/-- Joining identifiers makes a name. Its first character stands for the one of the first identifier. -/
theorem exists_join? (hu : isIdentifier u = true) (others : List String) (exported : Bool) :
    ∃ c t rest, u.toList.head? = some c ∧ Fronts c t ∧ titled (u :: others) = t :: rest ∧
      join? exported (u :: others) = some (String.ofList ((if exported then toUpper t else toLower t) :: rest)) := by
  obtain ⟨c, cs, hname, hc, -⟩ := isIdentifier_iff.1 hu
  obtain ⟨t, ts, htitle, hfronts⟩ := exists_title hc cs
  have htitled : titled (u :: others) = t :: (ts ++ titled others) := by
    rw [titled, List.flatMap_cons, pieces_of_isIdentifier hu, List.flatMap_singleton, hname, htitle]
    rfl
  exact ⟨c, t, _, by rw [hname]; rfl, hfronts, htitled, by rw [join?, htitled]⟩

/-- The name of a conversion is an identifier iff no word in the names of the union and the variant starts with a letter
that has a title case form with combining marks. -/
theorem isIdentifier_join?_iff (hu : isIdentifier u = true) (hv : isIdentifier v = true) (exported : Bool)
    {preposition : String} (hp : preposition ∈ ["to", "from"]) :
    ∃ name, join? exported [u, preposition, v] = some name ∧
      (isIdentifier name = true ↔ ∀ c ∈ initials u.toList ++ initials v.toList, c.toNat ∉ markedTitles) := by
  have hnames : ∀ name ∈ [u, preposition, v], isIdentifier name = true := by
    have hprepositions : ∀ name ∈ ["to", "from"], isIdentifier name = true := by decide
    simp [hu, hv, hprepositions preposition hp]
  have hpreposition : ∀ c ∈ initials preposition.toList, c.toNat ∉ markedTitles := by
    have hall :
        ["to", "from"].all (fun name => (initials name.toList).all fun c => !markedTitles.contains c.toNat) := by
      decide
    simpa using List.all_eq_true.1 hall preposition hp
  obtain ⟨c, t, rest, -, hfronts, htitled, hjoin⟩ := exists_join? hu [preposition, v] exported
  refine ⟨_, hjoin, ?_⟩
  -- The first character starts an identifier in either case, so that only the others count.
  have hfirst : isIdentStart (if exported then toUpper t else toLower t) = true := by
    cases exported with
    | true => exact isIdentStart_toUpper hfronts.start
    | false => exact isIdentStart_toLower hfronts.start
  have hall : ∀ name ∈ [u, preposition, v], (title name.toList).all isIdentPart = true ↔
      ∀ c ∈ initials name.toList, c.toNat ∉ markedTitles := by
    intro name hmem
    obtain ⟨_, _, hname, -, hpart⟩ := isIdentifier_iff.1 (hnames name hmem)
    exact all_titleFrom_iff (hname ▸ hpart) false
  calc isIdentifier (String.ofList ((if exported then toUpper t else toLower t) :: rest)) = true
      ↔ (t :: rest).all isIdentPart = true := by
        rw [isIdentifier, String.toList_ofList]
        simp [hfirst, isIdentPart_of_isIdentStart hfronts.start]
    _ ↔ ∀ c ∈ initials u.toList ++ initials v.toList, c.toNat ∉ markedTitles := by
        rw [← htitled, titled_of_isIdentifier hnames]
        simp only [List.flatMap_cons, List.flatMap_nil, List.append_nil, List.all_append, Bool.and_eq_true]
        rw [hall u (by simp), hall preposition (by simp), hall v (by simp), List.forall_mem_append]
        exact and_congr_right fun _ => and_iff_right hpreposition

/-- A letter with a caron has a title case form of two characters, of which the second is no letter. -/
theorem caron_isIdentifier_eq_false :
    isIdentifier "Shape" = true ∧ isIdentifier "\u01f0" = true ∧ "to" ∈ ["to", "from"] ∧
      join? true ["Shape", "to", "\u01f0"] = some "ShapeToJ\u030c" ∧ isIdentifier "ShapeToJ\u030c" = false := by
  have hu : isIdentifier "Shape" = true := by decide
  have hv : isIdentifier "\u01f0" = true := by decide +kernel
  have hp : "to" ∈ ["to", "from"] := List.mem_cons_self
  have hname : join? true ["Shape", "to", "\u01f0"] = some "ShapeToJ\u030c" := by decide +kernel
  obtain ⟨name, hjoin, hiff⟩ := isIdentifier_join?_iff hu hv true hp
  rw [hname, Option.some.injEq] at hjoin
  refine ⟨hu, hv, hp, hname, Bool.eq_false_iff.2 fun h => ?_⟩
  have hinitial : initials "\u01f0".toList = ['\u01f0'] := by decide +kernel
  refine hiff.1 (hjoin ▸ h) '\u01f0' (List.mem_append_right _ ?_) (by decide)
  rw [hinitial]
  exact List.mem_cons_self

/-- A name that is to be exported iff its first identifier is, is, whatever follows the identifier. -/
theorem isExported_join? (hu : isIdentifier u = true) (others : List String) :
    ∃ name, join? (isExported u) (u :: others) = some name ∧ isExported name = isExported u := by
  obtain ⟨c, t, rest, hname, hfronts, -, hjoin⟩ := exists_join? hu others (isExported u)
  refine ⟨_, hjoin, ?_⟩
  have hexported : isExported u = isUpper c := by
    obtain ⟨d, ds, hlist, -⟩ := isIdentifier_iff.1 hu
    rw [hlist, List.head?_cons, Option.some.injEq] at hname
    rw [isExported, hlist, ← hname]
  rw [isExported, String.toList_ofList, hexported]
  cases hupper : isUpper c with
  | true => exact hfronts.upper hupper
  | false => exact hfronts.lower hupper

/-- A digraph in title case is no upper case letter, and a name that starts with it is not exported. -/
theorem digraph_isExported_eq_false :
    isIdentifier "\u01c5" = true ∧ isExported "\u01c5" = false ∧
      join? false ["\u01c5", "to", "\u00df"] = some "\u01c6ToSs" ∧ isExported "\u01c6ToSs" = false := by
  have hu : isIdentifier "\u01c5" = true := by decide +kernel
  have hnot : isExported "\u01c5" = false := by decide +kernel
  have hname : join? false ["\u01c5", "to", "\u00df"] = some "\u01c6ToSs" := by decide +kernel
  obtain ⟨name, hjoin, hexported⟩ := isExported_join? hu ["to", "\u00df"]
  rw [hnot] at hjoin hexported
  rw [hname, Option.some.injEq] at hjoin
  exact ⟨hu, hnot, hname, hjoin ▸ hexported⟩

end TaggedUnion.Name
