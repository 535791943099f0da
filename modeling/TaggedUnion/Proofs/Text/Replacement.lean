import Mathlib.Computability.Language

/-!
# Replacement at the fronts of lines

A pattern is a language of texts. Replacing it in a text takes the text from its front: where a line starts and the
pattern matches, the longest match is replaced, and the text goes on behind it; every other character is kept
(`Replaced`). What comes out is determined by the text (`Replaced.unique`).

A pattern that matches no line break is replaced line by line (`Replaced.append`): in each line there is at most one
match, which is at its front.
-/

namespace TaggedUnion.Text

/-- Texts of one or more characters of a class. -/
def oneOrMore (p : Char → Bool) : Language Char :=
  {text | text ≠ [] ∧ ∀ c ∈ text, p c = true}

/-- Replacing a pattern in a text makes another text. `front` says whether the text is at the front of a line. -/
inductive Replaced (pattern : Language Char) (replace : List Char → List Char) : Bool → List Char → List Char → Prop
  | done {front : Bool} : Replaced pattern replace front [] []
  | found {text found rest out : List Char} : text = found ++ rest → found ∈ pattern →
      (∀ longer ∈ pattern, longer <+: text → longer.length ≤ found.length) →
      Replaced pattern replace (found.getLast? == some '\n') rest out →
      Replaced pattern replace true text (replace found ++ out)
  | kept {front : Bool} {c : Char} {rest out : List Char} :
      (front = true → ∀ found ∈ pattern, ¬found <+: c :: rest) → Replaced pattern replace (c == '\n') rest out →
      Replaced pattern replace front (c :: rest) (c :: out)

/-- The matches of a pattern lie in one line each, and none is empty. -/
structure WithinLine (pattern : Language Char) : Prop where
  ne_nil : [] ∉ pattern
  notMem : ∀ found ∈ pattern, '\n' ∉ found

/-- What holds of the last line of a text, and of a line with what follows it if it holds of that, holds of all
texts. -/
theorem lineInduction {motive : List Char → Prop} (last : ∀ line, '\n' ∉ line → motive line)
    (next : ∀ line rest, '\n' ∉ line → motive rest → motive (line ++ '\n' :: rest)) (text : List Char) :
    motive text := by
  -- By induction on the length of the text: what follows a line is shorter.
  induction hn : text.length using Nat.strongRecOn generalizing text with
  | ind n ih =>
    by_cases hmem : '\n' ∈ text
    · obtain ⟨line, rest, rfl, hline⟩ := List.eq_append_cons_of_mem hmem
      refine next line rest hline (ih rest.length ?_ rest rfl)
      rw [← hn, List.length_append, List.length_cons]
      omega
    · exact last text hmem

/-- A text without a character that begins another one goes no further than up to that character. -/
theorem prefix_of_prefix_append_cons {found line rest : List Char} {c : Char} (hc : c ∉ found)
    (h : found <+: line ++ c :: rest) : found <+: line := by
  rcases List.prefix_or_prefix_of_prefix h (List.prefix_append line (c :: rest)) with hfound | ⟨more, rfl⟩
  · exact hfound
  · rw [List.prefix_append_right_inj, List.prefix_cons_iff] at h
    rcases h with rfl | ⟨_, rfl, _⟩
    · rw [List.append_nil]
    · simp at hc

variable {pattern : Language Char} {replace : List Char → List Char} {front : Bool}
  {text line rest out out' : List Char}

namespace Replaced

theorem unique (hp : WithinLine pattern) (h : Replaced pattern replace front text out)
    (h' : Replaced pattern replace front text out') : out = out' := by
  induction h generalizing out' with
  | done =>
    cases h' with
    | done => rfl
    | found htext hfound =>
      rw [(List.append_eq_nil_iff.1 htext.symm).1] at hfound
      exact absurd hfound hp.ne_nil
  | @found text found rest out htext hfound hlongest _ ih =>
    cases h' with
    | done =>
      rw [(List.append_eq_nil_iff.1 htext.symm).1] at hfound
      exact absurd hfound hp.ne_nil
    | @found _ found' rest' _ htext' hfound' hlongest' hrest' =>
      -- Both matches are the longest one.
      have hle := hlongest found' hfound' ⟨_, htext'.symm⟩
      have hge := hlongest' found hfound ⟨_, htext.symm⟩
      obtain ⟨rfl, rfl⟩ := List.append_inj (htext.symm.trans htext') (Nat.le_antisymm hge hle)
      rw [ih hrest']
    | kept hnone => exact absurd ⟨_, htext.symm⟩ (hnone rfl _ hfound)
  | kept hnone _ ih =>
    cases h' with
    | found htext hfound => exact absurd ⟨_, htext.symm⟩ (hnone rfl _ hfound)
    | kept _ hrest => rw [ih hrest]

/-- A line is replaced as if nothing followed it, and what follows it as if nothing stood before. -/
theorem append (hp : WithinLine pattern) (h : Replaced pattern replace front line out) (hline : '\n' ∉ line)
    (hrest : Replaced pattern replace true rest out') :
    Replaced pattern replace front (line ++ '\n' :: rest) (out ++ '\n' :: out') := by
  have hwithin : ∀ {line : List Char}, ∀ found ∈ pattern, found <+: line ++ '\n' :: rest → found <+: line :=
    fun found hfound => prefix_of_prefix_append_cons (hp.notMem found hfound)
  induction h with
  | done =>
    refine .kept (fun _ found hfound hprefix => ?_) hrest
    rw [List.prefix_nil.1 (hwithin found hfound hprefix)] at hfound
    exact hp.ne_nil hfound
  | found htext hfound hlongest _ ih =>
    rw [htext] at hline
    rw [List.append_assoc]
    refine .found (by rw [htext, List.append_assoc]) hfound (fun longer hlonger hprefix => ?_)
      (ih fun hmem => hline (List.mem_append_right _ hmem))
    exact hlongest longer hlonger (hwithin longer hlonger hprefix)
  | kept hnone _ ih =>
    refine .kept (fun hfront found hfound hprefix => ?_) (ih fun hmem => hline (List.mem_cons_of_mem _ hmem))
    exact hnone hfront found hfound (hwithin found hfound hprefix)

/-! ## One line -/

/-- Behind the front of its last line a text is kept. -/
theorem behind (hline : '\n' ∉ line) : Replaced pattern replace false line line := by
  induction line with
  | nil => exact .done
  | cons c line ih =>
    rw [List.mem_cons, not_or] at hline
    refine .kept nofun ?_
    rw [beq_eq_false_iff_ne.2 (Ne.symm hline.1)]
    exact ih hline.2

/-- A line without a match at its front is kept. -/
theorem of_no_match (hline : '\n' ∉ line) (h : ∀ found ∈ pattern, ¬found <+: line) :
    Replaced pattern replace true line line := by
  cases line with
  | nil => exact .done
  | cons c line =>
    rw [List.mem_cons, not_or] at hline
    refine .kept (fun _ => h) ?_
    rw [beq_eq_false_iff_ne.2 (Ne.symm hline.1)]
    exact behind hline.2

/-- In a line with a match at its front, only the longest one is replaced. -/
theorem of_longest {found : List Char} (hline : '\n' ∉ found ++ rest) (hfound : found ∈ pattern)
    (h : ∀ longer ∈ pattern, longer <+: found ++ rest → longer.length ≤ found.length) :
    Replaced pattern replace true (found ++ rest) (replace found ++ rest) := by
  rw [List.mem_append, not_or] at hline
  refine .found rfl hfound h ?_
  have hlast : (found.getLast? == some '\n') = false :=
    beq_eq_false_iff_ne.2 fun hlast => hline.1 (List.mem_of_getLast? hlast)
  rw [hlast]
  exact behind hline.2

/-- A line that matches as a whole is replaced as a whole. -/
theorem of_mem (hline : '\n' ∉ line) (h : line ∈ pattern) : Replaced pattern replace true line (replace line) := by
  have hwhole : Replaced pattern replace true (line ++ []) (replace line ++ []) := by
    refine of_longest (by rwa [List.append_nil]) h fun longer _ hprefix => ?_
    rw [List.append_nil] at hprefix
    exact hprefix.length_le
  rwa [List.append_nil, List.append_nil] at hwhole

end Replaced

end TaggedUnion.Text
