import Mathlib.Data.List.TakeWhile
import Mathlib.Data.Option.Basic
import TaggedUnion.CommandLine.Colour
import TaggedUnion.Proofs.Text.Replacement

/-!
# Coloured messages

Colours are added line by line, and at most once in each line: a `file:line:column:` at its front is red, or else all of
it is dim if it is indented (`lineColoured_iff`). So it comes to the same whether lines are coloured one by one, or two
patterns are replaced in the whole message, one after the other: what the first one inserts is no match of the second
one (`replaced_twice_iff`).

Main statement: this, for all messages; and deleting the colours of a message that has no escape characters of its own
gives it back (`colourise_adds_colours`).
-/

namespace TaggedUnion.CommandLine

open Text

/-- A file name, a line and a column, with a colon after each of them. -/
def place : Language Char :=
  oneOrMore isFileNameChar * {[':']} * oneOrMore Char.isDigit * {[':']} * oneOrMore Char.isDigit * {[':']}

/-- A tab and more of its line. -/
def indented : Language Char :=
  {['\t']} * oneOrMore (· != '\n')

/-- A text between two colours. -/
def paint (colour : String) (text : List Char) : List Char :=
  colour.toList ++ text ++ reset.toList

/-- What a line comes to: the place at its front is red, or else it is dim as a whole if it is indented. -/
inductive LineColoured : List Char → List Char → Prop
  | place {front rest : List Char} : front ∈ place → LineColoured (front ++ rest) (paint red front ++ rest)
  | indented {c : Char} {rest : List Char} : LineColoured ('\t' :: c :: rest) (paint dim ('\t' :: c :: rest))
  | plain {line : List Char} : (∀ front ∈ CommandLine.place, ¬front <+: line) →
      (∀ c rest, line ≠ '\t' :: c :: rest) → LineColoured line line

/-- Deletes colours from a text. -/
def decolour : List Char → List Char
  | '\x1b' :: '[' :: '3' :: '1' :: 'm' :: rest => decolour rest
  | '\x1b' :: '[' :: '2' :: 'm' :: rest => decolour rest
  | '\x1b' :: '[' :: '0' :: 'm' :: rest => decolour rest
  | c :: rest => c :: decolour rest
  | [] => []

/-! ## Places -/

theorem mem_place_iff {text : List Char} : text ∈ place ↔
    ∃ file ∈ oneOrMore isFileNameChar, ∃ row ∈ oneOrMore Char.isDigit, ∃ column ∈ oneOrMore Char.isDigit,
      text = file ++ (':' :: row) ++ (':' :: column) ++ [':'] := by
  simp only [place, Language.mem_mul]
  constructor
  · rintro ⟨_, ⟨_, ⟨_, ⟨_, ⟨file, hfile, _, rfl, rfl⟩, row, hrow, rfl⟩, _, rfl, rfl⟩, column, hcolumn, rfl⟩,
      _, rfl, rfl⟩
    exact ⟨file, hfile, row, hrow, column, hcolumn, by simp⟩
  · rintro ⟨file, hfile, row, hrow, column, hcolumn, rfl⟩
    exact ⟨_, ⟨_, ⟨_, ⟨_, ⟨file, hfile, _, rfl, rfl⟩, row, hrow, rfl⟩, _, rfl, rfl⟩, column, hcolumn, rfl⟩, _, rfl,
      by simp⟩

section

variable {p : Char → Bool} {text rest : List Char}

theorem takeWhile_append_of_mem (htext : text ∈ oneOrMore p) (hrest : ∀ c ∈ rest.head?, p c = false) :
    (text ++ rest).takeWhile p = text := by
  rw [List.takeWhile_append_of_pos htext.2]
  cases rest with
  | nil => simp
  | cons c rest => rw [List.takeWhile_cons_of_neg (by simp [hrest c rfl]), List.append_nil]

theorem dropWhile_append_of_mem (htext : text ∈ oneOrMore p) (hrest : ∀ c ∈ rest.head?, p c = false) :
    (text ++ rest).dropWhile p = rest := by
  rw [List.dropWhile_append_of_pos htext.2]
  cases rest with
  | nil => rfl
  | cons c rest => rw [List.dropWhile_cons_of_neg (by simp [hrest c rfl])]

theorem takeWhile_mem_oneOrMore (h : text.takeWhile p ≠ []) : text.takeWhile p ∈ oneOrMore p :=
  ⟨h, fun _ => List.mem_takeWhile_imp⟩

end

theorem takeNumber?_of_mem {digits rest : List Char} (hdigits : digits ∈ oneOrMore Char.isDigit)
    (hrest : ∀ c ∈ rest.head?, c.isDigit = false) :
    takeNumber? (':' :: (digits ++ rest)) = some (':' :: digits, rest) := by
  rw [takeNumber?, takeWhile_append_of_mem hdigits hrest, dropWhile_append_of_mem hdigits hrest]
  exact if_neg (by simpa using hdigits.1)

theorem exists_of_takeNumber?_eq_some {cs number rest : List Char} (h : takeNumber? cs = some (number, rest)) :
    ∃ digits ∈ oneOrMore Char.isDigit, number = ':' :: digits ∧ cs = number ++ rest := by
  unfold takeNumber? at h
  split at h
  · dsimp only at h
    split at h
    · cases h
    · rename_i hdigits
      cases h
      exact ⟨_, takeWhile_mem_oneOrMore (by simpa using hdigits), rfl, by simp⟩
  · cases h

/-- The place at the front of a line is split off, if there is one. -/
theorem splitPlace?_eq_some_iff {line front rest : List Char} :
    splitPlace? line = some (front, rest) ↔ front ∈ place ∧ line = front ++ rest := by
  rw [mem_place_iff]
  constructor
  · intro h
    simp only [splitPlace?, Option.bind_eq_bind, Option.bind_eq_some_iff, Option.guard_eq_some'] at h
    obtain ⟨_, hfile, ⟨_, _⟩, hrow, ⟨_, afterColumn⟩, hcolumn, h⟩ := h
    obtain ⟨row, hrow', rfl, hafterFile⟩ := exists_of_takeNumber?_eq_some hrow
    obtain ⟨column, hcolumn', rfl, hafterRow⟩ := exists_of_takeNumber?_eq_some hcolumn
    cases afterColumn with
    | nil => cases h
    | cons c afterColumn =>
      split at h
      · rename_i hcolon
        cases hcolon
        cases h
        refine ⟨⟨_, takeWhile_mem_oneOrMore (by simpa using hfile), row, hrow', column, hcolumn', rfl⟩, ?_⟩
        conv_lhs => rw [← List.takeWhile_append_dropWhile (p := isFileNameChar) (l := line), hafterFile]
        simp_all
      · cases h
  · -- A colon ends the file name and both numbers: it is no character of any of them.
    rintro ⟨⟨file, hfile, row, hrow, column, hcolumn, rfl⟩, rfl⟩
    have hline : file ++ (':' :: row) ++ (':' :: column) ++ [':'] ++ rest =
        file ++ (':' :: (row ++ (':' :: (column ++ (':' :: rest))))) := by simp
    have hcolon : ∀ after : List Char, ∀ c ∈ (':' :: after).head?, isFileNameChar c = false ∧ c.isDigit = false := by
      intro after c hc
      cases hc
      exact ⟨rfl, rfl⟩
    rw [hline, splitPlace?, takeWhile_append_of_mem hfile fun c hc => (hcolon _ c hc).1,
      dropWhile_append_of_mem hfile fun c hc => (hcolon _ c hc).1,
      takeNumber?_of_mem hrow fun c hc => (hcolon _ c hc).2]
    simp [takeNumber?_of_mem hcolumn fun c hc => (hcolon _ c hc).2, hfile.1]

theorem splitPlace?_eq_none_iff {line : List Char} : splitPlace? line = none ↔ ∀ front ∈ place, ¬front <+: line := by
  rw [Option.eq_none_iff_forall_ne_some]
  constructor
  · rintro h front hfront ⟨rest, hline⟩
    exact h (front, rest) (splitPlace?_eq_some_iff.2 ⟨hfront, hline.symm⟩)
  · rintro h ⟨front, rest⟩ hsplit
    obtain ⟨hfront, hline⟩ := splitPlace?_eq_some_iff.1 hsplit
    exact h front hfront ⟨rest, hline.symm⟩

/-- A place begins with a character of a file name. -/
theorem exists_cons_of_mem_place {front : List Char} (h : front ∈ place) :
    ∃ c rest, front = c :: rest ∧ isFileNameChar c = true := by
  obtain ⟨file, ⟨hne, hfile⟩, row, -, column, -, rfl⟩ := mem_place_iff.1 h
  cases file with
  | nil => exact absurd rfl hne
  | cons c file => exact ⟨c, _, rfl, hfile c List.mem_cons_self⟩

theorem not_prefix_tab {front rest : List Char} (h : front ∈ place) : ¬front <+: '\t' :: rest := by
  obtain ⟨c, after, rfl, hc⟩ := exists_cons_of_mem_place h
  rw [List.cons_prefix_cons]
  rintro ⟨rfl, -⟩
  cases hc

/-! ## Lines -/

theorem colourLine_of_mem_place {front rest : List Char} (h : front ∈ place) :
    colourLine (front ++ rest) = paint red front ++ rest := by
  unfold colourLine
  rw [splitPlace?_eq_some_iff.2 ⟨h, rfl⟩]
  rfl

theorem colourLine_tab (c : Char) (rest : List Char) :
    colourLine ('\t' :: c :: rest) = paint dim ('\t' :: c :: rest) := by
  unfold colourLine
  rw [splitPlace?_eq_none_iff.2 fun front hfront => not_prefix_tab hfront]
  rfl

theorem colourLine_of_plain {line : List Char} (h : ∀ front ∈ place, ¬front <+: line)
    (htab : ∀ c rest, line ≠ '\t' :: c :: rest) : colourLine line = line := by
  unfold colourLine
  rw [splitPlace?_eq_none_iff.2 h]
  dsimp only
  split
  · exact absurd rfl (htab _ _)
  · rfl

/-- A line is coloured by the rules. -/
theorem lineColoured_iff {line out : List Char} : LineColoured line out ↔ out = colourLine line := by
  constructor
  · intro h
    cases h with
    | place hfront => rw [colourLine_of_mem_place hfront]
    | indented => rw [colourLine_tab]
    | plain hnone htab => rw [colourLine_of_plain hnone htab]
  · rintro rfl
    by_cases hfront : ∃ front ∈ place, front <+: line
    · obtain ⟨front, hfront, rest, rfl⟩ := hfront
      rw [colourLine_of_mem_place hfront]
      exact .place hfront
    · rw [not_exists] at hfront
      simp only [not_and] at hfront
      by_cases htab : ∃ c rest, line = '\t' :: c :: rest
      · obtain ⟨c, rest, rfl⟩ := htab
        rw [colourLine_tab]
        exact .indented
      · have hne : ∀ c rest, line ≠ '\t' :: c :: rest := fun c rest hline => htab ⟨c, rest, hline⟩
        rw [colourLine_of_plain hfront hne]
        exact .plain hfront hne

variable {line rest : List Char}

/-- What stands before the first line break is a line. -/
theorem colourLines_append (current : List Char) (h : '\n' ∉ line) :
    colourLines current (line ++ '\n' :: rest) =
      colourLine (current.reverse ++ line) ++ '\n' :: colourLines [] rest := by
  induction line generalizing current with
  | nil => simp [colourLines]
  | cons c line ih =>
    rw [List.mem_cons, not_or] at h
    rw [List.cons_append, colourLines, if_neg (by simpa using Ne.symm h.1), ih _ h.2]
    simp

theorem colourLines_of_notMem (current : List Char) (h : '\n' ∉ line) :
    colourLines current line = colourLine (current.reverse ++ line) := by
  induction line generalizing current with
  | nil => simp [colourLines]
  | cons c line ih =>
    rw [List.mem_cons, not_or] at h
    rw [colourLines, if_neg (by simpa using Ne.symm h.1), ih _ h.2]
    simp

theorem colourLines_append_cons (text rest : List Char) :
    colourLines [] (text ++ '\n' :: rest) = colourLines [] text ++ '\n' :: colourLines [] rest := by
  induction text using lineInduction with
  | last line hline => rw [colourLines_append [] hline, colourLines_of_notMem [] hline]
  | next line text hline ih =>
    rw [List.append_assoc, List.cons_append, colourLines_append [] hline, colourLines_append [] hline, ih]
    simp

/-! ## Colours taken away -/

theorem decolour_append (h : '\x1b' ∉ line) : decolour (line ++ rest) = line ++ decolour rest := by
  induction line with
  | nil => rfl
  | cons c line ih =>
    rw [List.mem_cons, not_or] at h
    rw [List.cons_append, decolour, ih h.2, List.cons_append]
    all_goals
      rintro _ rfl
      exact absurd rfl h.1

theorem toList_red : red.toList = ['\x1b', '[', '3', '1', 'm'] := rfl

theorem toList_dim : dim.toList = ['\x1b', '[', '2', 'm'] := rfl

theorem toList_reset : reset.toList = ['\x1b', '[', '0', 'm'] := rfl

theorem decolour_paint {colour : String} (hcolour : colour ∈ [red, dim]) (h : '\x1b' ∉ line) :
    decolour (paint colour line ++ rest) = line ++ decolour rest := by
  have hstart : decolour (paint colour line ++ rest) = decolour (line ++ (reset.toList ++ rest)) := by
    rw [List.mem_pair] at hcolour
    rcases hcolour with rfl | rfl
    · simp [paint, toList_red, decolour]
    · simp [paint, toList_dim, decolour]
  rw [hstart, decolour_append h, toList_reset]
  rfl

theorem decolour_colourLine (h : '\x1b' ∉ line) : decolour (colourLine line ++ rest) = line ++ decolour rest := by
  have hline := lineColoured_iff.2 (rfl : colourLine line = _)
  generalize colourLine line = out at hline
  cases hline with
  | place =>
    rw [List.mem_append, not_or] at h
    rw [List.append_assoc, decolour_paint List.mem_cons_self h.1, decolour_append h.2, List.append_assoc]
  | indented => rw [decolour_paint (List.mem_cons_of_mem _ List.mem_cons_self) h]
  | plain => rw [decolour_append h]

theorem decolour_colourLines (text : List Char) (h : '\x1b' ∉ text) : decolour (colourLines [] text) = text := by
  induction text using lineInduction with
  | last line hline =>
    rw [colourLines_of_notMem [] hline, ← List.append_nil (colourLine _)]
    exact (decolour_colourLine h).trans (List.append_nil _)
  | next line text hline ih =>
    simp only [List.mem_append, List.mem_cons, not_or] at h
    rw [colourLines_append [] hline]
    refine (decolour_colourLine h.1).trans ?_
    rw [decolour, ih h.2.2]
    all_goals nofun

/-! ## Two replacements -/

theorem withinLine_place : WithinLine place where
  ne_nil h := by
    obtain ⟨c, rest, hnil, -⟩ := exists_cons_of_mem_place h
    cases hnil
  notMem front h hmem := by
    obtain ⟨file, ⟨-, hfile⟩, row, ⟨-, hrow⟩, column, ⟨-, hcolumn⟩, rfl⟩ := mem_place_iff.1 h
    simp only [List.mem_append, List.mem_cons, List.not_mem_nil, or_false] at hmem
    rcases hmem with ((hmem | hmem | hmem) | hmem | hmem) | hmem
    · exact absurd (hfile _ hmem) (by decide)
    · exact absurd hmem (by decide)
    · exact absurd (hrow _ hmem) (by decide)
    · exact absurd hmem (by decide)
    · exact absurd (hcolumn _ hmem) (by decide)
    · exact absurd hmem (by decide)

theorem mem_indented_iff {text : List Char} :
    text ∈ indented ↔ ∃ c rest, text = '\t' :: c :: rest ∧ '\n' ∉ c :: rest := by
  simp only [indented, Language.mem_mul]
  constructor
  · rintro ⟨_, rfl, line, ⟨hne, hline⟩, rfl⟩
    cases line with
    | nil => exact absurd rfl hne
    | cons c rest => exact ⟨c, rest, rfl, fun hmem => absurd (hline _ hmem) (by decide)⟩
  · rintro ⟨c, rest, rfl, hline⟩
    exact ⟨_, rfl, c :: rest, ⟨List.cons_ne_nil _ _, fun d hd => bne_iff_ne.2 fun heq => hline (heq ▸ hd)⟩, rfl⟩

theorem withinLine_indented : WithinLine indented where
  ne_nil h := by
    obtain ⟨c, rest, hnil, -⟩ := mem_indented_iff.1 h
    cases hnil
  notMem text h hmem := by
    obtain ⟨c, rest, rfl, hline⟩ := mem_indented_iff.1 h
    exact (List.mem_cons.1 hmem).elim (by decide) hline

/-- In a line, the place is replaced first, and then the line if it is indented. -/
theorem exists_replaced_line (h : '\n' ∉ line) : ∃ once, '\n' ∉ once ∧ Replaced place (paint red) true line once ∧
    Replaced indented (paint dim) true once (colourLine line) := by
  have hline := lineColoured_iff.2 (rfl : colourLine line = _)
  generalize colourLine line = out at hline
  cases hline with
  | @place front rest hfront =>
    have honce : '\n' ∉ paint red front ++ rest := by
      simp_all [paint, toList_red, toList_reset]
    -- No other place is at the front of the line, so this one is the longest.
    refine ⟨paint red front ++ rest, honce, .of_longest h hfront fun longer hlonger hprefix => ?_,
      .of_no_match honce fun found hfound hprefix => ?_⟩
    · obtain ⟨after, hafter⟩ := hprefix
      have hsplit := (splitPlace?_eq_some_iff.2 ⟨hfront, rfl⟩).symm.trans
        (splitPlace?_eq_some_iff.2 ⟨hlonger, hafter.symm⟩)
      rw [(Prod.mk.inj (Option.some.inj hsplit)).1]
    · -- What was inserted is no tab.
      obtain ⟨c, after, rfl, -⟩ := mem_indented_iff.1 hfound
      rw [paint, toList_red, List.append_assoc, List.append_assoc, List.cons_append, List.cons_prefix_cons] at hprefix
      exact absurd hprefix.1 (by decide)
  | @indented c rest =>
    refine ⟨_, h, .of_no_match h fun found hfound => not_prefix_tab hfound, .of_mem h ?_⟩
    exact mem_indented_iff.2 ⟨c, rest, rfl, fun hmem => h (List.mem_cons_of_mem _ hmem)⟩
  | plain hnone htab =>
    refine ⟨_, h, .of_no_match h hnone, .of_no_match h fun found hfound hprefix => ?_⟩
    obtain ⟨c, more, rfl, -⟩ := mem_indented_iff.1 hfound
    obtain ⟨after, rfl⟩ := hprefix
    exact htab c (more ++ after) rfl

theorem exists_replaced (text : List Char) : ∃ once, Replaced place (paint red) true text once ∧
    Replaced indented (paint dim) true once (colourLines [] text) := by
  induction text using lineInduction with
  | last line hline =>
    obtain ⟨once, -, hred, hdim⟩ := exists_replaced_line hline
    rw [colourLines_of_notMem [] hline]
    exact ⟨once, hred, hdim⟩
  | next line text hline ih =>
    obtain ⟨once, honce, hred, hdim⟩ := exists_replaced_line hline
    obtain ⟨later, hred', hdim'⟩ := ih
    rw [colourLines_append [] hline]
    exact ⟨once ++ '\n' :: later, hred.append withinLine_place hline hred',
      hdim.append withinLine_indented honce hdim'⟩

/-- Colouring line by line comes to replacing the places in all of the message, and then the indented lines. -/
theorem replaced_twice_iff {text out : List Char} :
    (∃ once, Replaced place (paint red) true text once ∧ Replaced indented (paint dim) true once out) ↔
      out = colourLines [] text := by
  obtain ⟨once, hred, hdim⟩ := exists_replaced text
  constructor
  · rintro ⟨once', hred', hdim'⟩
    cases hred'.unique withinLine_place hred
    exact hdim'.unique withinLine_indented hdim
  · rintro rfl
    exact ⟨once, hred, hdim⟩

/-! ## Messages -/

/-- Colouring only adds colours, line by line. -/
theorem colourise_adds_colours :
    (∀ a b : String, colourise (a ++ "\n" ++ b) = colourise a ++ "\n" ++ colourise b) ∧
      (∀ line : String, '\n' ∉ line.toList → ∀ out : String,
        LineColoured line.toList out.toList ↔ out = colourise line) ∧
      (∀ message : String, '\x1b' ∉ message.toList → decolour (colourise message).toList = message.toList) ∧
      ∀ message out : String,
        (∃ once, Replaced place (paint red) true message.toList once ∧
          Replaced indented (paint dim) true once out.toList) ↔ out = colourise message := by
  have htoList : ∀ message, (colourise message).toList = colourLines [] message.toList := fun message => by
    rw [colourise, String.toList_ofList]
  refine ⟨fun a b => ?_, fun line hline out => ?_, fun message h => ?_, fun message out => ?_⟩
  · simp only [← String.toList_inj, htoList, String.toList_append]
    rw [List.append_assoc, List.append_assoc]
    exact colourLines_append_cons a.toList b.toList
  · rw [lineColoured_iff, ← String.toList_inj, htoList, colourLines_of_notMem [] hline]
    rfl
  · rw [htoList, decolour_colourLines _ h]
  · rw [replaced_twice_iff, ← String.toList_inj, htoList]

/-- A line with two places: only the one at its front is coloured, and the colours can be deleted again. -/
theorem twoPlaces_coloured :
    '\n' ∉ "a.go:9:2:7:5: B at a.go:7:2:".toList ∧ '\x1b' ∉ "a.go:9:2:7:5: B at a.go:7:2:".toList ∧
      LineColoured "a.go:9:2:7:5: B at a.go:7:2:".toList "\x1b[31ma.go:9:2:\x1b[0m7:5: B at a.go:7:2:".toList ∧
      decolour "\x1b[31ma.go:9:2:\x1b[0m7:5: B at a.go:7:2:".toList = "a.go:9:2:7:5: B at a.go:7:2:".toList := by
  have hline : '\n' ∉ "a.go:9:2:7:5: B at a.go:7:2:".toList := by decide
  have hescape : '\x1b' ∉ "a.go:9:2:7:5: B at a.go:7:2:".toList := by decide
  have hcoloured : "\x1b[31ma.go:9:2:\x1b[0m7:5: B at a.go:7:2:" = colourise "a.go:9:2:7:5: B at a.go:7:2:" := by
    decide
  obtain ⟨-, hlines, hdeleted, -⟩ := colourise_adds_colours
  exact ⟨hline, hescape, (hlines _ hline _).2 hcoloured, hcoloured ▸ hdeleted _ hescape⟩

end TaggedUnion.CommandLine
