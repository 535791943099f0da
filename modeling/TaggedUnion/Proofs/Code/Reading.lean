import Mathlib.Data.List.Infix
import TaggedUnion.Code.Function
import TaggedUnion.Proofs.Text.Quoting

/-!
# Reading functions

The body of a function can be read off its text. A reader takes a piece off the front of a text and
tells what it is; what is written is read back, whatever follows it, as long as that cannot be taken for
more of the same (`Reads`). Readers are put together as the texts are, so there is one lemma for each
piece: names, places, terms, statements. A body is read as it was written (`readBody_of_isReadable`).

Statements are nested and listed without a bound, so the number of characters bounds the reader.
-/

namespace TaggedUnion.Code

open Text

/-! ## Readers -/

/-- Takes a piece off the front of a text, if it is there. -/
abbrev Reader (α : Type) := StateT (List Char) Option α

/-- The reader takes the text in front of the rest for the given piece. -/
def Reads {α : Type} (x : Reader α) (text : List Char) (a : α) (rest : List Char) : Prop :=
  x (text ++ rest) = some (a, rest)

namespace Reads

variable {α β : Type} {x : Reader α} {f : α → Reader β} {a : α} {b : β} {text text' rest : List Char}

theorem pure (a : α) (rest : List Char) : Reads (Pure.pure a) [] a rest := rfl

theorem bind (hx : Reads x text a (text' ++ rest)) (hf : Reads (f a) text' b rest) :
    Reads (x >>= f) (text ++ text') b rest := by
  rw [Reads, List.append_assoc]
  change (x (text ++ (text' ++ rest))).bind (fun r => f r.1 r.2) = _
  rw [hx]
  exact hf

/-- A reader that returns something else in the end takes the same text. -/
theorem map {g : α → β} (hx : Reads x text a rest) :
    Reads (x >>= fun a => Pure.pure (g a)) text (g a) rest := by
  have hx' : Reads x text a ([] ++ rest) := hx
  have h := bind (f := fun a => Pure.pure (g a)) hx' (pure (g a) rest)
  rwa [List.append_nil] at h

/-- A reader that takes nothing leaves the text to the next one. -/
theorem skip (hx : Reads x [] a (text ++ rest)) (hf : Reads (f a) text b rest) :
    Reads (x >>= f) text b rest :=
  hx.bind hf

end Reads

/-- Takes a fixed text off. -/
def expect (s : String) : Reader Unit := fun cs =>
  (s.toList.isPrefixOf? cs).map ((), ·)

/-- Takes a fixed text off if it is there, and tells whether it was. -/
def follows (s : String) : Reader Bool := fun cs =>
  match s.toList.isPrefixOf? cs with
  | some rest => some (true, rest)
  | none => some (false, cs)

/-- Takes off what consists of the given characters, if there is any. -/
def takeWhile (p : Char → Bool) : Reader (List Char) := fun cs =>
  if (cs.takeWhile p).isEmpty then none else some (cs.takeWhile p, cs.dropWhile p)

/-- Whether a text does not go on with one of the given characters. -/
def Ends (p : Char → Bool) (rest : List Char) : Prop :=
  ∀ c ∈ rest.head?, p c = false

theorem ends_cons {p : Char → Bool} {c : Char} {rest : List Char} (h : p c = false) :
    Ends p (c :: rest) := by
  intro d hd
  rwa [← Option.some.inj hd]

theorem reads_expect (s : String) (rest : List Char) : Reads (expect s) s.toList () rest := by
  rw [Reads, expect, List.isPrefixOf?_eq_some_iff_append_eq.2 rfl]
  rfl

theorem reads_follows (s : String) (rest : List Char) : Reads (follows s) s.toList true rest := by
  rw [Reads, follows, List.isPrefixOf?_eq_some_iff_append_eq.2 rfl]

theorem reads_not_follows {s : String} {rest : List Char} (h : ¬s.toList <+: rest) :
    Reads (follows s) [] false rest := by
  rw [Reads, follows, List.nil_append]
  cases hs : s.toList.isPrefixOf? rest with
  | none => rfl
  | some r => exact absurd ⟨r, List.isPrefixOf?_eq_some_iff_append_eq.1 hs⟩ h

section TakeWhile

variable {p : Char → Bool} {l rest : List Char}

theorem takeWhile_append_of_ends (hl : ∀ c ∈ l, p c = true) (hrest : Ends p rest) :
    (l ++ rest).takeWhile p = l ∧ (l ++ rest).dropWhile p = rest := by
  rw [List.takeWhile_append_of_pos hl, List.dropWhile_append_of_pos hl]
  cases rest with
  | nil => simp
  | cons c rest =>
    have hc : p c = false := hrest c rfl
    simp [hc]

theorem reads_takeWhile (hne : l ≠ []) (hl : ∀ c ∈ l, p c = true) (hrest : Ends p rest) :
    Reads (takeWhile p) l l rest := by
  obtain ⟨htake, hdrop⟩ := takeWhile_append_of_ends hl hrest
  rw [Reads, takeWhile, htake, hdrop]
  simp [hne]

end TakeWhile

/-! ## Names -/

/-- Reads a name. -/
def readName : Reader String := do
  return String.ofList (← takeWhile isIdentPart)

/-- Reads a name between quotes. -/
def readLiteral : Reader String := do
  expect "\""
  let name ← readName
  expect "\""
  return name

section Names

variable {name : String} (h : isIdentifier name = true)

include h

theorem isIdentPart_of_mem {c : Char} (hc : c ∈ name.toList) : isIdentPart c = true := by
  rw [isIdentifier] at h
  split at h
  · cases h
  · rename_i first others heq
    simp only [Bool.and_eq_true, List.all_eq_true, isIdentStart, Bool.or_eq_true] at h
    rw [heq] at hc
    rcases List.mem_cons.1 hc with rfl | hc
    · rw [isIdentPart, Bool.or_eq_true, Bool.or_eq_true]
      exact h.1.imp_left .inl
    · exact h.2 c hc

theorem toList_ne_nil_of_isIdentifier : name.toList ≠ [] := by
  intro heq
  rw [isIdentifier, heq] at h
  cases h

/-- A character that is not of names is not in one. -/
theorem notMem_of_isIdentifier {c : Char} (hc : isIdentPart c = false) : c ∉ name.toList := by
  intro hmem
  rw [isIdentPart_of_mem h hmem] at hc
  cases hc

theorem reads_readName {rest : List Char} (hrest : Ends isIdentPart rest) :
    Reads readName name.toList name rest := by
  have hread := reads_takeWhile (toList_ne_nil_of_isIdentifier h)
    (fun _ hc => isIdentPart_of_mem h hc) hrest
  have hmap := hread.map (g := String.ofList)
  rwa [String.ofList_toList] at hmap

theorem reads_readLiteral (rest : List Char) : Reads readLiteral (quote name).toList name rest := by
  rw [quote_of_isIdentPart fun c hc => isIdentPart_of_mem h hc, String.toList_append,
    String.toList_append, List.append_assoc]
  exact (reads_expect _ _).bind
    ((reads_readName h (ends_cons (by decide))).bind (reads_expect "\"" rest).map)

end Names

/-! ## Places -/

/-- The characters of places. -/
def isPlaceChar (c : Char) : Bool :=
  isIdentPart c || c == '.'

/-- Reads a place: names with dots between them. -/
def readPlace : Reader Place := do
  match (← takeWhile isPlaceChar).splitOn '.' with
  | root :: fields => return ⟨String.ofList root, fields.map String.ofList⟩
  | [] => failure

/-- The words that are no names of variables. -/
def reservedWords : List String := ["nil", "return", "switch"]

/-- Whether a place has names only. -/
structure Place.IsReadable (p : Place) : Prop where
  names : ∀ name ∈ p.root :: p.fields, isIdentifier name = true
  root : p.root ∉ reservedWords

theorem isPlaceChar_of_isIdentPart {c : Char} (h : isIdentPart c = true) : isPlaceChar c = true := by
  rw [isPlaceChar, h, Bool.true_or]

theorem Ends.isIdentPart {rest : List Char} (h : Ends isPlaceChar rest) : Ends isIdentPart rest := by
  intro c hc
  have hplace := h c hc
  rw [isPlaceChar, Bool.or_eq_false_iff] at hplace
  exact hplace.1

section Places

variable {p : Place} {rest : List Char} (h : ∀ name ∈ p.root :: p.fields, isIdentifier name = true)
  (hrest : Ends isPlaceChar rest)

theorem Place.text_toList (p : Place) :
    p.text.toList = ['.'].intercalate ((p.root :: p.fields).map String.toList) := by
  rw [Place.text, String.toList_intercalate]
  rfl

include h in
/-- The characters of a place are those of its names, and dots. -/
theorem isPlaceChar_of_mem {c : Char} (hc : c ∈ p.text.toList) : isPlaceChar c = true := by
  have hmem : ∀ names : List String, (∀ name ∈ names, isIdentifier name = true) →
      ∀ c ∈ ['.'].intercalate (names.map String.toList), isPlaceChar c = true := by
    intro names
    induction names with
    | nil => exact fun _ c hc => absurd hc (by simp [List.intercalate])
    | cons name others ih =>
      intro hall c hc
      have hname : c ∈ name.toList → isPlaceChar c = true := fun hc =>
        isPlaceChar_of_isIdentPart (isIdentPart_of_mem (hall name List.mem_cons_self) hc)
      cases others with
      | nil => exact hname (by simpa [List.intercalate] using hc)
      | cons name' others =>
        rw [List.map_cons, List.map_cons, List.intercalate, List.intersperse_cons_cons, List.flatten_cons,
          List.flatten_cons, List.mem_append, List.mem_append] at hc
        rcases hc with hc | hc | hc
        · exact hname hc
        · rw [List.mem_singleton.1 hc]
          decide
        · exact ih (fun n hn => hall n (List.mem_cons_of_mem _ hn)) c hc
  rw [Place.text_toList] at hc
  exact hmem _ h c hc

include hrest in
/-- A text that starts with a place starts with the name of its variable. -/
theorem exists_root_append (p : Place) :
    ∃ others, p.text.toList ++ rest = p.root.toList ++ others ∧ Ends isIdentPart others := by
  rw [Place.text_toList]
  cases p.fields with
  | nil => exact ⟨rest, by simp [List.intercalate], hrest.isIdentPart⟩
  | cons name others =>
    refine ⟨'.' :: (List.intercalate ['.'] ((name :: others).map String.toList) ++ rest), ?_,
      ends_cons (by decide)⟩
    simp [List.intercalate]

include h hrest

theorem reads_readPlace : Reads readPlace p.text.toList p rest := by
  have hne : p.text.toList ≠ [] := by
    obtain ⟨others, heq, -⟩ := exists_root_append (nofun : Ends isPlaceChar []) p
    rw [List.append_nil] at heq
    rw [heq, ne_eq, List.append_eq_nil_iff, not_and]
    exact fun hnil => absurd hnil (toList_ne_nil_of_isIdentifier (h _ List.mem_cons_self))
  have hread := reads_takeWhile hne (fun _ hc => isPlaceChar_of_mem h hc) hrest
  have hsplit : p.text.toList.splitOn '.' = p.root.toList :: p.fields.map String.toList := by
    rw [Place.text_toList]
    refine List.splitOn_intercalate _ (fun l hl => ?_) (by simp)
    obtain ⟨name, hname, rfl⟩ := List.mem_map.1 hl
    exact notMem_of_isIdentifier (h name hname) (by decide)
  rw [Reads, readPlace]
  change (takeWhile isPlaceChar (p.text.toList ++ rest)).bind _ = _
  rw [hread, Option.bind_some]
  simp only [hsplit]
  have hfields : (p.fields.map String.toList).map String.ofList = p.fields := by simp
  rw [hfields, String.ofList_toList]
  rfl

/-- A text that starts with a place does not start with another word or mark. -/
theorem reads_not_follows_place {s : String} (word : List Char) {more : List Char} {stop : Char}
    (hs : s.toList = word ++ stop :: more) (hword : ∀ c ∈ word, isIdentPart c = true)
    (hstop : isIdentPart stop = false) (hne : word ≠ p.root.toList) :
    Reads (follows s) [] false (p.text.toList ++ rest) := by
  refine reads_not_follows fun ⟨r, hr⟩ => hne ?_
  obtain ⟨others, heq, hends⟩ := exists_root_append hrest p
  rw [hs, heq, List.append_assoc, List.cons_append] at hr
  have hroot : ∀ c ∈ p.root.toList, isIdentPart c = true := fun _ hc =>
    isIdentPart_of_mem (h _ List.mem_cons_self) hc
  rw [← (takeWhile_append_of_ends hword (ends_cons hstop)).1, hr,
    (takeWhile_append_of_ends hroot hends).1]

end Places

/-! ## Terms -/

/-- Reads the type arguments of the type that a mismatch is instantiated with, and the bracket behind it. -/
def readArguments : Reader String := do
  let inner ← takeWhile (· != '\x7b')
  if inner.getLast? = some ']' then return String.ofList inner.dropLast else failure

/-- Reads a mismatch after its first mark. -/
def readMismatch : Reader Term := do
  let errors ← readName
  expect ".Mismatch["
  let union ← readName
  let args ← readArguments
  expect "\x7bValue: "
  let value ← readPlace
  expect ", Tag: string("
  let tag ← readPlace
  expect "), Want: "
  let want ← readLiteral
  expect "\x7d"
  return .mismatch errors union args value tag want

/-- Reads a place, or the word for no error. -/
def readPlain : Reader Term := do
  let p ← readPlace
  return if p = ⟨"nil", []⟩ then .nil else .place p

/-- Reads a term. -/
def readTerm : Reader Term := do
  if ← follows "&" then readMismatch
  else if ← follows "\"" then do
    let name ← readName
    expect "\""
    return .text name
  else readPlain

/-- Whether a term consists of names as code has them. -/
def Term.IsReadable : Term → Prop
  | place p => p.IsReadable
  | text s => isIdentifier s = true
  | nil => True
  | mismatch errors union args value tag want =>
    isIdentifier errors = true ∧ isIdentifier union = true ∧ Ends isIdentPart args.toList ∧
      '\x7b' ∉ args.toList ∧ value.IsReadable ∧ tag.IsReadable ∧ isIdentifier want = true

theorem reads_readArguments {args : String} {rest : List Char} (h : '\x7b' ∉ args.toList)
    (hrest : Ends (· != '\x7b') rest) : Reads readArguments (args ++ "]").toList args rest := by
  have hall : ∀ c ∈ (args ++ "]").toList, (c != '\x7b') = true := by
    intro c hc
    rw [String.toList_append, List.mem_append] at hc
    refine bne_iff_ne.2 ?_
    rintro rfl
    rcases hc with hc | hc
    · exact h hc
    · exact absurd hc (by decide)
  have hread := reads_takeWhile (by simp) hall hrest
  rw [Reads, readArguments]
  change (takeWhile _ ((args ++ "]").toList ++ rest)).bind _ = _
  have hlast : (args ++ "]").toList.getLast? = some ']' := by simp
  have hinit : String.ofList (args ++ "]").toList.dropLast = args := by simp
  rw [hread, Option.bind_some]
  simp only [hlast, hinit, if_true]
  rfl

theorem reads_readMismatch {errors union args want : String} {value tag : Place} (rest : List Char)
    (h : (Term.mismatch errors union args value tag want).IsReadable) :
    Reads readMismatch
      (errors.toList ++ (".Mismatch[".toList ++ (union.toList ++ ((args ++ "]").toList ++
        ("\x7bValue: ".toList ++ (value.text.toList ++ (", Tag: string(".toList ++
          (tag.text.toList ++ ("), Want: ".toList ++ ((quote want).toList ++ "\x7d".toList))))))))))
      (.mismatch errors union args value tag want) rest := by
  obtain ⟨herrors, hunion, hends, hargs, hvalue, htag, hwant⟩ := h
  -- The name of the type ends where its arguments start, or at the bracket.
  have hbracket : ∀ others, Ends isIdentPart (((args ++ "]").toList ++ others) ++ rest) := by
    intro others
    rw [String.toList_append]
    cases heq : args.toList with
    | nil => exact ends_cons (by decide)
    | cons c cs => exact ends_cons (hends c (by rw [heq]; rfl))
  exact (reads_readName herrors (ends_cons (by decide))).bind <| (reads_expect _ _).bind <|
    (reads_readName hunion (hbracket _)).bind <|
    (reads_readArguments hargs (ends_cons (by decide))).bind <| (reads_expect _ _).bind <|
    (reads_readPlace hvalue.names (ends_cons (by decide))).bind <| (reads_expect _ _).bind <|
    (reads_readPlace htag.names (ends_cons (by decide))).bind <| (reads_expect _ _).bind <|
    (reads_readLiteral hwant _).bind <| (reads_expect _ _).map

theorem reads_readPlain_place {p : Place} {rest : List Char} (h : p.IsReadable)
    (hrest : Ends isPlaceChar rest) : Reads readPlain p.text.toList (.place p) rest := by
  have hne : p ≠ ⟨"nil", []⟩ := by
    rintro rfl
    exact h.root (by decide)
  have hread := (reads_readPlace h.names hrest).map
    (g := fun p => if p = ⟨"nil", []⟩ then Term.nil else .place p)
  rwa [if_neg hne] at hread

theorem reads_readPlain_nil {rest : List Char} (hrest : Ends isPlaceChar rest) :
    Reads readPlain "nil".toList .nil rest := by
  have hread := (reads_readPlace (p := ⟨"nil", []⟩) (by decide) hrest).map
    (g := fun p => if p = ⟨"nil", []⟩ then Term.nil else .place p)
  rwa [if_pos rfl] at hread

theorem reads_readTerm {t : Term} {rest : List Char} (h : t.IsReadable)
    (hrest : Ends isPlaceChar rest) : Reads readTerm t.write.toList t rest := by
  have hskip : ∀ {text : List Char}, Reads (follows "&") [] false (text ++ rest) →
      Reads (follows "\"") [] false (text ++ rest) → Reads readPlain text t rest →
        Reads readTerm text t rest := fun h₁ h₂ h₃ => h₁.skip (h₂.skip h₃)
  cases t with
  | place p =>
    refine hskip ?_ ?_ (reads_readPlain_place h hrest)
    · exact reads_not_follows_place h.names hrest [] rfl nofun (by decide)
        (toList_ne_nil_of_isIdentifier (h.names _ List.mem_cons_self)).symm
    · exact reads_not_follows_place h.names hrest [] rfl nofun (by decide)
        (toList_ne_nil_of_isIdentifier (h.names _ List.mem_cons_self)).symm
  | nil =>
    refine hskip (reads_not_follows fun hp => ?_) (reads_not_follows fun hp => ?_)
      (reads_readPlain_nil hrest)
    · exact absurd (List.cons_prefix_cons.1 hp).1 (by decide)
    · exact absurd (List.cons_prefix_cons.1 hp).1 (by decide)
  | text s =>
    rw [Term.write_text, quote_of_isIdentPart fun c hc => isIdentPart_of_mem h hc, String.append_assoc,
      String.toList_append, String.toList_append]
    refine Reads.skip (a := false) (reads_not_follows fun hp => ?_) ?_
    · exact absurd (List.cons_prefix_cons.1 hp).1 (by decide)
    · exact (reads_follows _ _).bind
        ((reads_readName h (ends_cons (by decide))).bind (reads_expect "\"" rest).map)
  | mismatch errors union args value tag want =>
    have heq : (Term.mismatch errors union args value tag want).write.toList =
        "&".toList ++ (errors.toList ++ (".Mismatch[".toList ++ (union.toList ++ ((args ++ "]").toList ++
          ("\x7bValue: ".toList ++ (value.text.toList ++ (", Tag: string(".toList ++
            (tag.text.toList ++ ("), Want: ".toList ++
              ((quote want).toList ++ "\x7d".toList)))))))))) := by
      simp only [Term.write_mismatch, String.toList_append, List.append_assoc]
      rfl
    rw [heq]
    exact (reads_follows "&" _).bind (reads_readMismatch rest h)

/-! ## Statements -/

/-- Reads terms with commas between them. -/
def readTerms : Nat → Reader (List Term)
  | 0 => failure
  | n + 1 => do
    let t ← readTerm
    if ← follows ", " then return t :: (← readTerms n) else return [t]

/-- Reads a statement. -/
def readStatement : Nat → Reader Statement
  | 0 => failure
  | n + 1 => do
    if ← follows "return " then do
      let results ← readTerms n
      expect "\n"
      return .ret results
    else if ← follows "switch " then do
      let on ← readPlace
      expect " \x7b\ncase "
      let text ← readLiteral
      expect ":\n"
      let same ← readStatement n
      expect "default:\n"
      let other ← readStatement n
      expect "\x7d\n"
      return .choose on text same other
    else do
      let target ← readPlace
      expect " = "
      let value ← readTerm
      expect "\n"
      return .assign target value

/-- Reads statements up to the end of a text. -/
def readAll : Nat → List Char → Option (List Statement)
  | 0, _ => none
  | n + 1, cs =>
    if cs.isEmpty then some []
    else do
      let (statement, rest) ← readStatement n cs
      return statement :: (← readAll n rest)

/-- Reads the body of a function. -/
def readBody (body : String) : Option (List Statement) :=
  readAll (body.toList.length + 2) body.toList

/-- Whether a statement consists of names as code has them. -/
def Statement.IsReadable : Statement → Prop
  | assign target value => target.IsReadable ∧ value.IsReadable
  | ret results => results ≠ [] ∧ ∀ t ∈ results, t.IsReadable
  | choose on text same other =>
    on.IsReadable ∧ isIdentifier text = true ∧ same.IsReadable ∧ other.IsReadable

theorem reads_readTerms {ts : List Term} {n : Nat} {rest : List Char} (hne : ts ≠ [])
    (h : ∀ t ∈ ts, t.IsReadable) (hrest : Ends isPlaceChar rest) (hcomma : ¬", ".toList <+: rest)
    (hn : (", ".intercalate (ts.map Term.write)).toList.length < n) :
    Reads (readTerms n) (", ".intercalate (ts.map Term.write)).toList ts rest := by
  induction ts generalizing n with
  | nil => exact absurd rfl hne
  | cons t others ih =>
    obtain ⟨n, rfl⟩ : ∃ m, n = m + 1 := ⟨n - 1, by omega⟩
    have ht := h t List.mem_cons_self
    cases others with
    | nil =>
      -- The last term: no comma follows.
      have heq : (", ".intercalate ([t].map Term.write)).toList = t.write.toList ++ ([] ++ []) := by
        simp
      rw [heq]
      exact (reads_readTerm ht hrest).bind
        (Reads.bind (a := false) (reads_not_follows hcomma) (.pure [t] rest))
    | cons t' others =>
      have heq : (", ".intercalate ((t :: t' :: others).map Term.write)).toList =
          t.write.toList ++ (", ".toList ++
            (", ".intercalate ((t' :: others).map Term.write)).toList) := by
        simp [String.toList_intercalate, List.intercalate]
      have hlen : ", ".toList.length = 2 := rfl
      rw [heq, List.length_append, List.length_append] at hn
      have hrec := @ih n (List.cons_ne_nil _ _) (fun u hu => h u (List.mem_cons_of_mem _ hu)) (by omega)
      rw [heq]
      exact (reads_readTerm ht (ends_cons (by decide))).bind ((reads_follows ", " _).bind hrec.map)

theorem reads_readStatement {statement : Statement} {n : Nat} (h : statement.IsReadable)
    (hn : statement.write.toList.length < n) (rest : List Char) :
    Reads (readStatement n) statement.write.toList statement rest := by
  obtain ⟨n, rfl⟩ : ∃ m, n = m + 1 := ⟨n - 1, by omega⟩
  induction statement generalizing n rest with
  | assign target value =>
    obtain ⟨htarget, hvalue⟩ := h
    have hword : ∀ (word : String) {s : String} {more : List Char} {stop : Char} {others : List Char},
        s.toList = word.toList ++ stop :: more → isIdentifier word = true →
        isIdentPart stop = false → word ∈ reservedWords → Ends isPlaceChar (others ++ rest) →
        Reads (follows s) [] false ((target.text.toList ++ others) ++ rest) := by
      intro word s more stop others hs hword hstop hres hrest
      rw [List.append_assoc]
      have hall : ∀ c ∈ word.toList, isIdentPart c = true := fun _ hc => isIdentPart_of_mem hword hc
      refine reads_not_follows_place htarget.names hrest _ hs hall hstop fun heq => htarget.root ?_
      rwa [← String.toList_injective heq]
    simp only [Statement.write_assign, String.toList_append, List.append_assoc]
    refine Reads.skip (a := false) ?_ <| Reads.skip (a := false) ?_ <|
      (reads_readPlace htarget.names (ends_cons (by decide))).bind <| (reads_expect _ _).bind <|
      (reads_readTerm hvalue (ends_cons (by decide))).bind (reads_expect "\n" rest).map
    -- The name of a variable is neither of the words that other statements start with.
    · exact hword "return" rfl (by decide) (by decide) (by decide) (ends_cons (by decide))
    · exact hword "switch" rfl (by decide) (by decide) (by decide) (ends_cons (by decide))
  | ret results =>
    obtain ⟨hne, hall⟩ := h
    simp only [Statement.write_ret, String.toList_append, List.append_assoc, List.length_append] at hn ⊢
    have hlen : "return ".toList.length = 7 := rfl
    refine (reads_follows "return " _).bind
      ((reads_readTerms hne hall (ends_cons (by decide)) (fun hp => ?_) (by omega)).bind
        (reads_expect "\n" rest).map)
    exact absurd (List.cons_prefix_cons.1 hp).1 (by decide)
  | choose on text same other ihsame ihother =>
    obtain ⟨hon, htext, hsame, hother⟩ := h
    simp only [Statement.write_choose, String.toList_append, List.append_assoc, List.length_append] at hn ⊢
    have hlen : "switch ".toList.length = 7 := rfl
    obtain ⟨n, rfl⟩ : ∃ m, n = m + 1 := ⟨n - 1, by omega⟩
    refine Reads.skip (a := false) (reads_not_follows fun hp => ?_) <|
      (reads_follows "switch " _).bind <| (reads_readPlace hon.names (ends_cons (by decide))).bind <|
      (reads_expect _ _).bind <| (reads_readLiteral htext _).bind <| (reads_expect _ _).bind <|
      (ihsame hsame _ n (by omega)).bind <| (reads_expect _ _).bind <|
      (ihother hother _ n (by omega)).bind (reads_expect "\x7d\n" rest).map
    exact absurd (List.cons_prefix_cons.1 hp).1 (by decide)

/-- Every statement ends its line. -/
theorem write_ne_nil (statement : Statement) : statement.write.toList ≠ [] := by
  cases statement <;> simp [Statement.write_assign, Statement.write_ret, Statement.write_choose]

/-- A body is read as it was written. -/
theorem readBody_of_isReadable {body : List Statement} (h : ∀ st ∈ body, st.IsReadable) :
    readBody (String.join (body.map Statement.write)) = some body := by
  have hall : ∀ n, (String.join (body.map Statement.write)).toList.length + 1 < n →
      readAll n (String.join (body.map Statement.write)).toList = some body := by
    induction body with
    | nil =>
      intro n hn
      obtain ⟨n, rfl⟩ : ∃ m, n = m + 1 := ⟨n - 1, by omega⟩
      rfl
    | cons statement others ih =>
      intro n hn
      obtain ⟨n, rfl⟩ : ∃ m, n = m + 1 := ⟨n - 1, by omega⟩
      have hne := write_ne_nil statement
      have hpos := List.length_pos_iff.2 hne
      rw [List.map_cons, String.join_cons, String.toList_append] at hn ⊢
      rw [List.length_append] at hn
      have hread := reads_readStatement (h statement List.mem_cons_self) (n := n) (by omega)
        (String.join (others.map Statement.write)).toList
      have hrest := ih (fun st hst => h st (List.mem_cons_of_mem _ hst)) n (by omega)
      rw [readAll, if_neg (by simp [hne]), hread]
      simp only [Option.bind_eq_bind, Option.bind_some, hrest]
      rfl
  exact hall _ (by omega)

end TaggedUnion.Code
