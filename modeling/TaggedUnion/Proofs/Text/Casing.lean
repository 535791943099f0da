import TaggedUnion.Proofs.Text.CodePoints

/-!
# Case mappings and identifiers

What the case mappings make of the characters that identifiers consist of. A character that an identifier can start
with is still one in upper and in lower case (`isIdentStart_toUpper`, `isIdentStart_toLower`), and so is the first
character of its title case form (`exists_toTitle`), which can be put into upper case iff the character was upper case
already. But a title case form of several characters may have combining marks, which no identifier has; the letters
with such a form are listed (`markedTitles`, `all_isIdentPart_toTitle_iff`).

Characters of plain text are decided without tables. So that this makes no difference, the mappings are first written as
tables that cover plain text too.
-/

namespace TaggedUnion.Text

/-! ## Classes as sets -/

/-- The characters that an identifier starts with. -/
def startBits : Nat :=
  spansBits ((0x5f, 0x5f) :: letterSpans)

/-- The characters that an identifier goes on with. -/
def partBits : Nat :=
  spansBits ((0x5f, 0x5f) :: digitSpans ++ letterSpans)

/-- The upper case letters. -/
def upperBits : Nat :=
  runsBits upperRuns

/-- What holds of the first code points holds of the characters of plain text. -/
theorem forall_plain {p : Char → Prop} (h : ∀ n < 128, p (Char.ofNat n)) {c : Char} (hc : c.toNat < 128) : p c :=
  Char.ofNat_toNat c ▸ h c.toNat hc

section

variable {c : Char} {n : Nat}

/-- Intervals above plain text have no part in what plain text is. -/
theorem inSpans_plain {table : List (Nat × Nat)} (hn : n < 128) :
    inSpans table n = inSpans (table.filter (·.1 < 128)) n := by
  rw [Bool.eq_iff_iff, inSpans, inSpans, List.any_eq_true, List.any_eq_true]
  constructor
  · rintro ⟨s, hs, hin⟩
    have hfirst : s.1 < 128 := by simp only [Bool.and_eq_true, decide_eq_true_iff] at hin; omega
    exact ⟨s, List.mem_filter.2 ⟨hs, decide_eq_true hfirst⟩, hin⟩
  · rintro ⟨s, hs, hin⟩
    exact ⟨s, (List.mem_filter.1 hs).1, hin⟩

theorem inRuns_plain {table : List (Nat × Nat × Nat)} (hn : n < 128) :
    inRuns table n = inRuns (table.filter (·.1 < 128)) n := by
  rw [Bool.eq_iff_iff, inRuns, inRuns, List.any_eq_true, List.any_eq_true]
  constructor
  · rintro ⟨r, hr, hin⟩
    have hfirst : r.1 < 128 := by simp only [Bool.and_eq_true, decide_eq_true_iff] at hin; omega
    exact ⟨r, List.mem_filter.2 ⟨hr, decide_eq_true hfirst⟩, hin⟩
  · rintro ⟨r, hr, hin⟩
    exact ⟨r, (List.mem_filter.1 hr).1, hin⟩

theorem inSpans_cons_iff {s : Nat × Nat} {table : List (Nat × Nat)} :
    inSpans (s :: table) n = true ↔ s.1 ≤ n ∧ n ≤ s.2 ∨ inSpans table n = true := by
  rw [inSpans, List.any_cons, Bool.or_eq_true, Bool.and_eq_true, decide_eq_true_iff, decide_eq_true_iff]
  rfl

/-- What the classes have of plain text. -/
theorem plain_classes : letterSpans.filter (·.1 < 128) = [(0x41, 0x5a), (0x61, 0x7a)] ∧
    digitSpans.filter (·.1 < 128) = [(0x30, 0x39)] ∧ upperRuns.filter (·.1 < 128) = [(0x41, 0x5a, 1)] := by
  decide +kernel

theorem isLetter_eq (c : Char) : isLetter c = inSpans letterSpans c.toNat := by
  rw [isLetter]
  split
  next hc =>
    rw [inSpans_plain hc, plain_classes.1]
    exact forall_plain (p := fun c => c.isAlpha = inSpans [(0x41, 0x5a), (0x61, 0x7a)] c.toNat) (by decide) hc
  next => rfl

theorem isDigit_eq (c : Char) : isDigit c = inSpans digitSpans c.toNat := by
  rw [isDigit]
  split
  next hc =>
    rw [inSpans_plain hc, plain_classes.2.1]
    exact forall_plain (p := fun c => c.isDigit = inSpans [(0x30, 0x39)] c.toNat) (by decide) hc
  next => rfl

theorem isUpper_eq (c : Char) : isUpper c = upperBits.testBit c.toNat := by
  rw [upperBits, testBit_runsBits, isUpper]
  split
  next hc =>
    rw [inRuns_plain hc, plain_classes.2.2]
    exact forall_plain (p := fun c => c.isUpper = inRuns [(0x41, 0x5a, 1)] c.toNat) (by decide) hc
  next => rfl

theorem eq_underscore_iff : c = '_' ↔ c.toNat = 0x5f := by
  refine ⟨fun h => h ▸ rfl, fun h => ?_⟩
  rw [← Char.ofNat_toNat c, h]

theorem isIdentStart_eq (c : Char) : isIdentStart c = startBits.testBit c.toNat := by
  rw [Bool.eq_iff_iff, startBits, testBit_spansBits, inSpans_cons_iff, isIdentStart, isLetter_eq, Bool.or_eq_true,
    beq_iff_eq, eq_underscore_iff, or_comm]
  exact or_congr_left (by omega)

theorem isIdentPart_eq (c : Char) : isIdentPart c = partBits.testBit c.toNat := by
  have happend : inSpans (digitSpans ++ letterSpans) c.toNat =
      (inSpans digitSpans c.toNat || inSpans letterSpans c.toNat) :=
    List.any_append
  rw [Bool.eq_iff_iff, partBits, testBit_spansBits, List.cons_append, inSpans_cons_iff, happend, isIdentPart,
    isLetter_eq, isDigit_eq, Bool.or_eq_true, Bool.or_eq_true, Bool.or_eq_true, beq_iff_eq, eq_underscore_iff,
    or_comm (b := c.toNat = 0x5f), or_comm (b := inSpans digitSpans c.toNat = true)]
  exact or_congr_left (by omega)

theorem isIdentPart_of_isIdentStart (h : isIdentStart c = true) : isIdentPart c = true := by
  rw [isIdentStart, Bool.or_eq_true] at h
  rw [isIdentPart, Bool.or_eq_true, Bool.or_eq_true]
  exact h.imp_left .inl

/-- What identifiers consist of are characters. -/
theorem toNat_ofNat (h : partBits.testBit n = true) : (Char.ofNat n).toNat = n := by
  have hvalid : ∀ s ∈ (0x5f, 0x5f) :: digitSpans ++ letterSpans,
      s.2 < 0xd800 ∨ 0xdfff < s.1 ∧ s.2 < 0x110000 := by
    decide +kernel
  rw [partBits, testBit_spansBits, inSpans, List.any_eq_true] at h
  obtain ⟨s, hs, hin⟩ := h
  simp only [Bool.and_eq_true, decide_eq_true_iff] at hin
  have hchar : n.isValidChar := by
    have hspan := hvalid s hs
    simp only [Nat.isValidChar]
    omega
  rw [Char.ofNat, dif_pos hchar]
  rfl

end

/-! ## Mappings as tables -/

/-- What a mapping takes a code point to. -/
def mapped (table : List Shift) (n : Nat) : Nat :=
  (shifted? table n).getD n

/-- The upper case mapping, with plain text. -/
def upperTable : List Shift :=
  (0x61, 0x7a, 1, 0x41) :: (upperShifts ++ laterUpperShifts)

/-- The lower case mapping, with plain text. -/
def lowerTable : List Shift :=
  (0x41, 0x5a, 1, 0x61) :: (lowerShifts ++ laterLowerShifts)

/-- The title case mapping of what has a title case form of one character, with plain text. -/
def titleTable : List Shift :=
  (0x61, 0x7a, 1, 0x41) :: (titleShifts ++ upperShifts)

section

variable {c : Char} {n m : Nat} {table : List Shift}

/-- A table above plain text, with a run of plain text before it. -/
theorem mapped_cons_plain {r : Shift} (hr : r.2.1 < 128) (h : table.all (128 ≤ ·.1) = true) (n : Nat) :
    mapped (r :: table) n = if n < 128 then mapped [r] n else mapped table n := by
  rw [List.all_eq_true] at h
  split
  next hn =>
    have hrest : table.find? (fun r => r.1 ≤ n && n ≤ r.2.1 && (n - r.1) % r.2.2.1 == 0) = none := by
      refine List.find?_eq_none.2 fun s hs hin => ?_
      have hfirst := of_decide_eq_true (h s hs)
      simp only [Bool.and_eq_true, decide_eq_true_iff] at hin
      omega
    rw [mapped, mapped, shifted?, shifted?, List.find?_cons, List.find?_cons, hrest, List.find?_nil]
  next hn =>
    have hnot : (decide (r.1 ≤ n) && decide (n ≤ r.2.1) && (n - r.1) % r.2.2.1 == 0) = false := by
      rw [Bool.and_eq_false_iff, Bool.and_eq_false_iff, decide_eq_false_iff_not, decide_eq_false_iff_not]
      omega
    rw [mapped, shifted?, List.find?_cons_of_neg (by rw [hnot]; exact Bool.false_ne_true)]
    rfl

/-- The mappings are about what is above plain text, apart from the runs that are added to them. -/
theorem plain_mappings : (upperShifts ++ laterUpperShifts).all (128 ≤ ·.1) = true ∧
    (lowerShifts ++ laterLowerShifts).all (128 ≤ ·.1) = true ∧ (titleShifts ++ upperShifts).all (128 ≤ ·.1) = true ∧
    titleExpansions.all (128 ≤ ·.1) = true := by
  decide +kernel

theorem toUpper_eq (c : Char) : toUpper c = Char.ofNat (mapped upperTable c.toNat) := by
  rw [upperTable, mapped_cons_plain (by decide) plain_mappings.1, toUpper]
  split
  next hc =>
    exact forall_plain (p := fun c => c.toUpper = Char.ofNat (mapped [(0x61, 0x7a, 1, 0x41)] c.toNat)) (by decide) hc
  next => rfl

theorem toLower_eq (c : Char) : toLower c = Char.ofNat (mapped lowerTable c.toNat) := by
  rw [lowerTable, mapped_cons_plain (by decide) plain_mappings.2.1, toLower]
  split
  next hc =>
    exact forall_plain (p := fun c => c.toLower = Char.ofNat (mapped [(0x41, 0x5a, 1, 0x61)] c.toNat)) (by decide) hc
  next => rfl

theorem shifted?_append (table others : List Shift) (n : Nat) :
    shifted? (table ++ others) n = (shifted? table n).or (shifted? others n) := by
  rw [shifted?, List.find?_append, Option.map_or]
  rfl

theorem toTitle_eq (c : Char) : toTitle c =
    match titleExpansions.lookup c.toNat with
    | some cs => cs.map Char.ofNat
    | none => [Char.ofNat (mapped titleTable c.toNat)] := by
  rw [titleTable, mapped_cons_plain (by decide) plain_mappings.2.2.1, toTitle]
  split
  next hc =>
    have hnone : titleExpansions.lookup c.toNat = none := by
      refine List.lookup_eq_none_iff.2 fun e he => bne_iff_ne.2 fun heq => ?_
      have hkey := of_decide_eq_true (List.all_eq_true.1 plain_mappings.2.2.2 e he)
      omega
    rw [hnone]
    exact congrArg (fun u => [u]) (forall_plain
      (p := fun c => c.toUpper = Char.ofNat (mapped [(0x61, 0x7a, 1, 0x41)] c.toNat)) (by decide) hc)
  next =>
    cases titleExpansions.lookup c.toNat with
    | none => exact congrArg (fun m => [Char.ofNat (Option.getD m c.toNat)]) (shifted?_append _ _ _).symm
    | some cs => rfl

/-! ## What mappings keep -/

/-- Whether a mapping takes what is in a set to what is in the set. -/
def keeps (set : Nat) (table : List Shift) : Bool :=
  table.all fun r => Shift.sourceBits r &&& set == 0 || Shift.imageBits r &&& set == Shift.imageBits r

theorem testBit_mapped {set : Nat} (h : keeps set table = true) (hn : set.testBit n = true) :
    set.testBit (mapped table n) = true := by
  rw [mapped]
  cases hs : shifted? table n with
  | none => exact hn
  | some m =>
    obtain ⟨r, hr, hsource, himage⟩ := exists_run_of_shifted? hs
    have hrun := List.all_eq_true.1 h r hr
    rw [Bool.or_eq_true, beq_iff_eq, beq_iff_eq] at hrun
    rcases hrun with hdisjoint | hsubset
    · rw [testBit_of_disjoint hdisjoint hsource] at hn
      cases hn
    · exact testBit_of_subset hsubset himage

/-- Upper and lower case keep what identifiers start with, and title case also what they go on with. -/
theorem keeps_tables : keeps startBits upperTable = true ∧ keeps startBits lowerTable = true ∧
    keeps startBits titleTable = true ∧ keeps partBits titleTable = true := by
  decide +kernel

theorem testBit_partBits (h : startBits.testBit n = true) : partBits.testBit n = true := by
  rw [startBits, testBit_spansBits, inSpans, List.any_eq_true] at h
  rw [partBits, testBit_spansBits, inSpans, List.any_eq_true]
  obtain ⟨s, hs, hin⟩ := h
  refine ⟨s, ?_, hin⟩
  rcases List.mem_cons.1 hs with rfl | hs
  · exact List.mem_cons_self
  · exact List.mem_cons_of_mem _ (List.mem_append_right _ hs)

/-- What starts an identifier still does so after a mapping that keeps it. -/
theorem isIdentStart_ofNat_mapped (h : keeps startBits table = true) (hc : isIdentStart c = true) :
    isIdentStart (Char.ofNat (mapped table c.toNat)) = true := by
  rw [isIdentStart_eq] at hc ⊢
  have hmapped := testBit_mapped h hc
  rwa [toNat_ofNat (testBit_partBits hmapped)]

theorem isIdentStart_toUpper (h : isIdentStart c = true) : isIdentStart (toUpper c) = true :=
  toUpper_eq c ▸ isIdentStart_ofNat_mapped keeps_tables.1 h

theorem isIdentStart_toLower (h : isIdentStart c = true) : isIdentStart (toLower c) = true :=
  toLower_eq c ▸ isIdentStart_ofNat_mapped keeps_tables.2.1 h

/-! ## Upper case -/

/-- The upper case mapping is not about upper case letters, and the lower case mapping does not lead to any. -/
theorem disjoint_tables : upperTable.all (fun r => Shift.sourceBits r &&& upperBits == 0) = true ∧
    lowerTable.all (fun r => Shift.imageBits r &&& upperBits == 0) = true := by
  decide +kernel

theorem toUpper_of_isUpper (h : isUpper c = true) : toUpper c = c := by
  rw [isUpper_eq] at h
  rw [toUpper_eq, mapped]
  cases hs : shifted? upperTable c.toNat with
  | none => exact Char.ofNat_toNat c
  | some m =>
    obtain ⟨r, hr, hsource, -⟩ := exists_run_of_shifted? hs
    rw [testBit_of_disjoint (beq_iff_eq.1 (List.all_eq_true.1 disjoint_tables.1 r hr)) hsource] at h
    cases h

/-- A letter is not in upper case after it was put into lower case, unless it is an upper case letter without a lower
case form. -/
theorem isUpper_toLower (hstart : isIdentStart c = true)
    (h : isUpper c = true → (sourcesBits lowerTable).testBit c.toNat = true) : isUpper (toLower c) = false := by
  have hkept := isIdentStart_toLower hstart
  rw [toLower_eq, mapped] at hkept ⊢
  cases hs : shifted? lowerTable c.toNat with
  | none =>
    rw [testBit_sourcesBits, hs] at h
    rw [Option.getD_none, Char.ofNat_toNat]
    exact Bool.eq_false_iff.2 fun hupper => absurd (h hupper) Bool.false_ne_true
  | some m =>
    obtain ⟨r, hr, -, himage⟩ := exists_run_of_shifted? hs
    have hm : partBits.testBit m = true := by
      rw [isIdentStart_eq] at hstart
      have hmapped := testBit_mapped keeps_tables.2.1 hstart
      rw [mapped, hs] at hmapped
      exact testBit_partBits hmapped
    rw [Option.getD_some, isUpper_eq, toNat_ofNat hm]
    exact testBit_of_disjoint (beq_iff_eq.1 (List.all_eq_true.1 disjoint_tables.2 r hr)) himage

/-! ## Title case -/

/-- The first character of a title case form can stand for the character: it starts an identifier, and its upper case
form is an upper case letter if the character is one, while its lower case form is none if the character is none. -/
structure Fronts (c t : Char) : Prop where
  start : isIdentStart t = true
  upper : isUpper c = true → isUpper (toUpper t) = true
  lower : isUpper c = false → isUpper (toLower t) = false

theorem fronts_self (h : isIdentStart c = true) : Fronts c c where
  start := h
  upper hupper := by rw [toUpper_of_isUpper hupper, hupper]
  lower hnot := isUpper_toLower h fun hupper => by rw [hnot] at hupper; cases hupper

/-- All upper case letters that the title case mapping leads to have a lower case form. It is not about upper case
letters, except for single ones that are digraphs; their title case form has an upper case form. -/
theorem all_titleTable : titleTable.all (fun r =>
      (Shift.imageBits r &&& upperBits) &&& sourcesBits lowerTable == Shift.imageBits r &&& upperBits) = true ∧
    titleTable.all (fun r => Shift.sourceBits r &&& upperBits == 0 ||
      r.2.1 == r.1 && upperBits.testBit (Char.ofNat (mapped upperTable r.2.2.2)).toNat) = true := by
  decide +kernel

theorem fronts_mapped (h : isIdentStart c = true) : Fronts c (Char.ofNat (mapped titleTable c.toNat)) := by
  have hstart := isIdentStart_ofNat_mapped keeps_tables.2.2.1 h
  rw [mapped] at hstart ⊢
  cases hs : shifted? titleTable c.toNat with
  | none =>
    rw [Option.getD_none, Char.ofNat_toNat]
    exact fronts_self h
  | some m =>
    rw [hs] at hstart
    obtain ⟨r, hr, hsource, himage⟩ := exists_run_of_shifted? hs
    have hm : (Char.ofNat m).toNat = m := by
      rw [isIdentStart_eq] at h
      have hmapped := testBit_mapped keeps_tables.2.2.1 h
      rw [mapped, hs] at hmapped
      exact toNat_ofNat (testBit_partBits hmapped)
    refine ⟨hstart, fun hupper => ?_, fun _ => isUpper_toLower hstart fun hupper => ?_⟩
    · have hrun := List.all_eq_true.1 all_titleTable.2 r hr
      rw [isUpper_eq] at hupper
      rw [Bool.or_eq_true, Bool.and_eq_true, beq_iff_eq, beq_iff_eq] at hrun
      rcases hrun with hdisjoint | ⟨hsingle, hrun⟩
      · rw [testBit_of_disjoint hdisjoint hsource] at hupper
        cases hupper
      · have himage := testBit_runBits.1 himage
        have heq : m = r.2.2.2 := by omega
        rw [Option.getD_some, toUpper_eq, isUpper_eq, hm, heq]
        exact hrun
    · rw [Option.getD_some, isUpper_eq] at hupper
      rw [Option.getD_some]
      rw [hm] at hupper ⊢
      refine testBit_of_subset (beq_iff_eq.1 (List.all_eq_true.1 all_titleTable.1 r hr)) ?_
      rw [Nat.testBit_and, himage, hupper]
      rfl

/-- No upper case letter has a title case form of several characters. The first one of them starts an identifier, and
has a lower case form if it is an upper case letter. -/
theorem titleExpansions_front : titleExpansions.all (fun e => !upperBits.testBit e.1 && match e.2.map Char.ofNat with
    | [] => false
    | t :: _ => startBits.testBit t.toNat &&
      (!upperBits.testBit t.toNat || (sourcesBits lowerTable).testBit t.toNat)) = true := by
  decide +kernel

/-- The title case form of a character that starts an identifier has a first character, which can stand for it. -/
theorem exists_toTitle (h : isIdentStart c = true) : ∃ t rest, toTitle c = t :: rest ∧ Fronts c t := by
  rw [toTitle_eq]
  cases hlookup : titleExpansions.lookup c.toNat with
  | none => exact ⟨_, [], rfl, fronts_mapped h⟩
  | some cs =>
    obtain ⟨before, after, hmem, -⟩ := List.lookup_eq_some_iff.1 hlookup
    have hentry := List.all_eq_true.1 titleExpansions_front (c.toNat, cs) (by rw [hmem]; simp)
    cases hcs : cs.map Char.ofNat with
    | nil => simp [hcs] at hentry
    | cons t rest =>
      simp only [hcs, Bool.and_eq_true, Bool.not_eq_true', Bool.or_eq_true] at hentry
      obtain ⟨hnot, hstart, hlowered⟩ := hentry
      rw [← isIdentStart_eq] at hstart
      rw [← isUpper_eq] at hnot hlowered
      refine ⟨t, rest, hcs, hstart, fun hupper => ?_, fun _ => isUpper_toLower hstart fun hupper => ?_⟩
      · rw [hnot] at hupper
        cases hupper
      · exact hlowered.resolve_left (by rw [hupper]; exact Bool.noConfusion)

/-- The letters of which the title case form has combining marks. -/
def markedTitles : List Nat :=
  [0x1f0, 0x390, 0x3b0, 0x1e96, 0x1e97, 0x1e98, 0x1e99, 0x1f50, 0x1f52, 0x1f54, 0x1f56, 0x1fb2, 0x1fb4, 0x1fb6,
   0x1fb7, 0x1fc2, 0x1fc4, 0x1fc6, 0x1fc7, 0x1fd2, 0x1fd3, 0x1fd6, 0x1fd7, 0x1fe2, 0x1fe3, 0x1fe4, 0x1fe6, 0x1fe7,
   0x1ff2, 0x1ff4, 0x1ff6, 0x1ff7]

/-- A title case form of several characters consists of characters of identifiers iff it is not a marked one, and all
marked ones are such forms. -/
theorem titleExpansions_marked :
    (∀ e ∈ titleExpansions, (e.2.map Char.ofNat).all isIdentPart = !markedTitles.contains e.1) ∧
      ∀ n ∈ markedTitles, (titleExpansions.lookup n).isSome = true := by
  rw [funext isIdentPart_eq]
  decide +kernel

/-- The title case form of a character of identifiers consists of such characters, unless it has combining marks. -/
theorem all_isIdentPart_toTitle_iff (h : isIdentPart c = true) :
    (toTitle c).all isIdentPart = true ↔ c.toNat ∉ markedTitles := by
  rw [toTitle_eq]
  cases hlookup : titleExpansions.lookup c.toNat with
  | none =>
    refine iff_of_true ?_ fun hmem => ?_
    · rw [isIdentPart_eq] at h
      have hmapped := testBit_mapped keeps_tables.2.2.2 h
      rw [List.all_cons, List.all_nil, Bool.and_true, isIdentPart_eq, toNat_ofNat hmapped]
      exact hmapped
    · have hsome := titleExpansions_marked.2 _ hmem
      rw [hlookup] at hsome
      cases hsome
  | some cs =>
    obtain ⟨before, after, hmem, -⟩ := List.lookup_eq_some_iff.1 hlookup
    have hentry := titleExpansions_marked.1 (c.toNat, cs) (by rw [hmem]; simp)
    simp [hentry]

end

end TaggedUnion.Text
