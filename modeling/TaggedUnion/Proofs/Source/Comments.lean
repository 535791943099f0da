import TaggedUnion.Proofs.Source.Tokens
import TaggedUnion.Source.Comment

/-!
# Comment groups are all comments

Grouping the comments of a file neither loses nor moves any: the groups hold all comments, in the order
of the source, and a group that leads to a token is one of them (`groupComments_eq`).
-/

namespace TaggedUnion.Source

/-- The comments among tokens, in order. -/
def commentsOf (tokens : List Token) : List Comment :=
  (tokens.filter (·.kind == .comment)).map fun t => ⟨t.pos, t.text⟩

/-- The tokens that are no comments, in order. -/
def codeOf (tokens : List Token) : List Token :=
  tokens.filter (·.kind != .comment)

theorem commentsOf_cons (t : Token) (rest : List Token) : commentsOf (t :: rest) =
    if t.kind == .comment then ⟨t.pos, t.text⟩ :: commentsOf rest else commentsOf rest := by
  rw [commentsOf, List.filter_cons]
  split <;> rfl

theorem codeOf_cons (t : Token) (rest : List Token) :
    codeOf (t :: rest) = if t.kind == .comment then codeOf rest else t :: codeOf rest := by
  rw [codeOf, List.filter_cons, bne]
  cases t.kind == TokenKind.comment <;> rfl

/-! ## Groups -/

section

variable (line : Pos → Int)

theorem splitGroup_append (gap last : Int) (cs : List Comment) :
    (splitGroup line gap last cs).1 ++ (splitGroup line gap last cs).2.2 = cs := by
  induction cs generalizing last with
  | nil => rfl
  | cons c rest ih =>
    rw [splitGroup]
    split
    · exact congrArg (c :: ·) (ih _)
    · rfl

theorem splitGroups_flatten (cs : List Comment) :
    ((splitGroups line cs).map (·.1)).flatten = cs := by
  fun_induction splitGroups line cs with
  | case1 => rfl
  | case2 c rest s ih =>
    rw [List.map_cons, List.flatten_cons, ih, List.cons_append]
    exact congrArg (c :: ·) (splitGroup_append line 1 _ rest)

/-- The groups between two tokens hold all comments that stand there. -/
theorem Gap.flatten_groups (before : Pos) (comments : List Comment) :
    (Gap.of line before comments).groups.flatten = comments := by
  have hempty : ∀ g : List Comment, (if g.isEmpty then [] else [g]).flatten = g := by
    intro g
    cases g <;> simp
  cases comments with
  | nil => simp only [Gap.of, splitGroups, List.isEmpty_nil, if_true, List.map_nil, List.append_nil,
      List.flatten_nil]
  | cons c rest =>
    rw [Gap.of]
    by_cases hline : line c.pos = line before
    · simp only [if_pos hline, List.flatten_append, hempty, splitGroups_flatten]
      exact splitGroup_append line 0 _ (c :: rest)
    · simp only [if_neg hline, List.flatten_append, hempty, splitGroups_flatten, List.nil_append]

/-- The last group between two tokens is one of the groups. -/
theorem Gap.mem_groups_of_last {before : Pos} {comments : List Comment} {g : List Comment × Int}
    (h : (Gap.of line before comments).last = some g) :
    g.1 ∈ (Gap.of line before comments).groups := by
  simp only [Gap.of] at h ⊢
  exact List.mem_append_right _ (List.mem_map_of_mem (List.mem_of_getLast? h))

/-- The group that leads to a token is one of the groups before it. -/
theorem Gap.mem_groups_of_lead {before : Pos} {comments g : List Comment} {t : Token}
    (h : ((Gap.of line before comments).token line t).lead = some g) :
    g ∈ (Gap.of line before comments).groups := by
  obtain ⟨last, hlast, rfl⟩ := Option.map_eq_some_iff.1 h
  exact Gap.mem_groups_of_last line (Option.filter_eq_some_iff.1 hlast).1

/-- Separating comments from the other tokens keeps both in order, and leads are among the groups. -/
theorem leadFrom_eq (before : Pos) (gap : List Comment) (tokens : List Token) :
    let (led, groups) := leadFrom line before gap tokens
    led.map (·.token) = codeOf tokens ∧ groups.flatten = gap.reverse ++ commentsOf tokens ∧
      ∀ t ∈ led, ∀ g, t.lead = some g → g ∈ groups := by
  fun_induction leadFrom line before gap tokens with
  | case1 before gap =>
    exact ⟨rfl, by rw [Gap.flatten_groups, commentsOf]; simp, nofun⟩
  | case2 before gap t rest hcomment ih =>
    obtain ⟨hcode, hgroups, hleads⟩ := ih
    rw [codeOf_cons, commentsOf_cons, if_pos hcomment, if_pos hcomment]
    exact ⟨hcode, by rw [hgroups, List.reverse_cons, List.append_assoc, List.singleton_append], hleads⟩
  | case3 before gap t rest hcode g tokens groups hrest ih =>
    rw [hrest] at ih
    obtain ⟨htokens, hgroups, hleads⟩ := ih
    rw [codeOf_cons, commentsOf_cons, if_neg hcode, if_neg hcode]
    refine ⟨congrArg (t :: ·) htokens, ?_, ?_⟩
    · rw [List.flatten_append, Gap.flatten_groups, hgroups, List.reverse_nil, List.nil_append]
    · intro u hu lead hlead
      obtain rfl | hu := List.mem_cons.1 hu
      · exact List.mem_append_left _ (Gap.mem_groups_of_lead line hlead)
      · exact List.mem_append_right _ (hleads u hu lead hlead)

end

/-- The tokens of a file without its comments, and its comments in groups. -/
theorem groupComments_eq (info : FileInfo) (tokens : List Token) :
    let (led, groups) := groupComments info tokens
    led.map (·.token) = codeOf tokens ∧ groups.flatten = commentsOf tokens ∧
      ∀ t ∈ led, ∀ g, t.lead = some g → g ∈ groups :=
  leadFrom_eq _ 0 [] tokens

/-- The comments of a file stand one after the other. -/
theorem TokensWithin.pairwise_comments {start stop : Pos} {tokens : List Token}
    (h : TokensWithin start stop tokens) : (commentsOf tokens).Pairwise (·.pos < ·.pos) := by
  have hwritten : ∀ t : Token, (t.kind == .comment) = true → t.isWritten = true := by
    intro t ht
    rw [Token.isWritten, beq_iff_eq.1 ht]
    rfl
  rw [commentsOf, List.pairwise_map]
  exact h.ordered.sublist (List.monotone_filter_right tokens hwritten)

end TaggedUnion.Source
