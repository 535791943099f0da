import Mathlib.Data.List.TakeWhile
import Mathlib.Data.String.Basic
import TaggedUnion.Source.Token

/-!
# Where tokens are

The tokens of a file lie within it, and those that are written out stand one after the other
(`scan?_eq_some`). A place within a file that has been read has a line (`FileInfo.WellFormed.position_isValid`),
whatever the line marks of the file say.
-/

namespace TaggedUnion.Source

/-! ## Bytes -/

theorem byteSize_eq_utf8Len (cs : List Char) : byteSize cs = String.utf8Len cs := by
  have hfold : ∀ n, cs.foldl (fun n c => n + c.utf8Size) n = n + String.utf8Len cs := by
    induction cs with
    | nil => exact fun n => rfl
    | cons c rest ih => intro n; rw [List.foldl_cons, ih, String.utf8Len_cons]; omega
  rw [byteSize, hfold, Nat.zero_add]

theorem byteSize_append (as bs : List Char) : byteSize (as ++ bs) = byteSize as + byteSize bs := by
  simp only [byteSize_eq_utf8Len, String.utf8Len_append]

theorem byteSize_pos {cs : List Char} (h : cs ≠ []) : 0 < byteSize cs := by
  rwa [byteSize_eq_utf8Len, Nat.pos_iff_ne_zero, ne_eq, String.utf8Len_eq_zero]

theorem byteSize_toList (s : String) : byteSize s.toList = s.utf8ByteSize := by
  rw [byteSize_eq_utf8Len, ← String.utf8ByteSize_ofList, String.ofList_toList]

theorem byteSize_takeWhile_le (p : Char → Bool) (cs : List Char) :
    byteSize (cs.takeWhile p) ≤ byteSize cs := by
  rw [byteSize_eq_utf8Len, byteSize_eq_utf8Len]
  exact String.utf8Len_le_of_sublist (List.takeWhile_sublist p)

/-- No lexeme is empty. -/
theorem text_ne_nil_of_cut? {cs : List Char} {ls : List Lexeme} (h : cut? cs = some ls) :
    ∀ l ∈ ls, l.text ≠ [] := by
  fun_induction cut? cs generalizing ls with
  | case1 => simp_all
  | case2 => simp at h
  | case3 c rest kind n hf ih =>
    obtain ⟨ls', h', rfl⟩ := Option.map_eq_some_iff.1 h
    simp only [List.mem_cons, forall_eq_or_imp, ne_eq, reduceCtorEq, not_false_eq_true, true_and]
    exact ih h'

/-! ## Tokens -/

/-- Whether a token is written out, so that it takes up room. -/
def Token.isWritten (t : Token) : Bool :=
  t.kind != .lineEnd && t.kind != .eof

theorem Lexeme.token?_eq_some {l : Lexeme} {pos : Pos} {t : Token} (h : l.token? pos = some t) :
    t.pos = pos ∧ t.isWritten = true := by
  obtain ⟨kind, text⟩ := l
  rw [Lexeme.token?] at h
  cases kind <;> simp only [reduceCtorEq, Option.some.injEq] at h <;> subst h <;>
    simp only [Token.isWritten, true_and]
  · split <;> rfl
  all_goals rfl

/-- Tokens that start at a place or after it, up to another one, and of which those that are written out
stand one after the other. -/
structure TokensWithin (start stop : Pos) (ts : List Token) : Prop where
  within : ∀ t ∈ ts, start ≤ t.pos ∧ t.pos ≤ stop
  ordered : (ts.filter Token.isWritten).Pairwise (·.pos < ·.pos)

namespace TokensWithin

variable {start next stop : Pos} {t : Token} {ts : List Token}

/-- Tokens may start later than they must. -/
theorem of_le (h : TokensWithin next stop ts) (hle : start ≤ next) : TokensWithin start stop ts :=
  ⟨fun t ht => ⟨hle.trans (h.within t ht).1, (h.within t ht).2⟩, h.ordered⟩

/-- A token that is not written out may stand in front of any others. -/
theorem cons_unwritten (h : TokensWithin start stop ts) (ht : t.isWritten = false)
    (hpos : start ≤ t.pos ∧ t.pos ≤ stop) : TokensWithin start stop (t :: ts) where
  within u hu := by
    obtain rfl | hu := List.mem_cons.1 hu
    · exact hpos
    · exact h.within u hu
  ordered := by
    rw [List.filter_cons_of_neg (by simp [ht])]
    exact h.ordered

/-- A token may stand in front of others if those of them that are written out start after it. -/
theorem cons (h : TokensWithin t.pos stop ts) (hle : t.pos ≤ stop)
    (hafter : ∀ u ∈ ts, u.isWritten = true → t.pos < u.pos) : TokensWithin t.pos stop (t :: ts) where
  within u hu := by
    obtain rfl | hu := List.mem_cons.1 hu
    · exact ⟨Nat.le_refl _, hle⟩
    · exact h.within u hu
  ordered := by
    rw [List.filter_cons]
    split
    · refine List.pairwise_cons.2 ⟨fun u hu => ?_, h.ordered⟩
      exact hafter u (List.mem_of_mem_filter hu) (List.mem_filter.1 hu).2
    · exact h.ordered

end TokensWithin

/-- The tokens of lexemes lie where the lexemes are, up to the end of the text. -/
theorem tokensWithin_tokensFrom (pending : Bool) (pos : Pos) {ls : List Lexeme}
    (hls : ∀ l ∈ ls, l.text ≠ []) :
    TokensWithin pos (pos + byteSize (ls.flatMap (·.text))) (tokensFrom pending pos ls) := by
  induction ls generalizing pending pos with
  | nil =>
    rw [tokensFrom, List.flatMap_nil]
    have hend : TokensWithin pos pos [⟨.eof, "", pos⟩] := ⟨by simp, by simp [Token.isWritten]⟩
    split
    · exact hend.cons_unwritten rfl ⟨Nat.le_refl _, Nat.le_refl _⟩
    · exact hend
  | cons l rest ih =>
    have hlt : pos < pos + byteSize l.text :=
      Nat.lt_add_of_pos_right (byteSize_pos (hls l List.mem_cons_self))
    have ih := fun pending => ih pending (pos + byteSize l.text) fun m hm =>
      hls m (List.mem_cons_of_mem _ hm)
    rw [List.flatMap_cons, byteSize_append, ← Nat.add_assoc]
    have hle := Nat.le_add_right (pos + byteSize l.text) (byteSize (rest.flatMap (·.text)))
    rw [tokensFrom]
    cases htoken : l.token? pos with
    | none =>
      simp only
      split
      · exact ((ih false).of_le hlt.le).cons_unwritten rfl ⟨Nat.le_refl _, hlt.le.trans hle⟩
      · exact (ih pending).of_le hlt.le
    | some t =>
      obtain ⟨rfl, -⟩ := Lexeme.token?_eq_some htoken
      have hcons : ∀ pending, TokensWithin t.pos _ (t :: tokensFrom pending _ rest) := fun pending =>
        ((ih pending).of_le hlt.le).cons (hlt.le.trans hle) fun u hu _ =>
          hlt.trans_le ((ih pending).within u hu).1
      simp only
      split
      · split
        · -- The line end lies within the comment.
          have hinside := byteSize_takeWhile_le (· != '\n') l.text
          refine TokensWithin.cons (((ih false).of_le hlt.le).cons_unwritten rfl
            ⟨Nat.le_add_right _ _, ?_⟩) (hlt.le.trans hle) fun u hu hwritten => ?_
          · exact (Nat.add_le_add_left hinside _).trans hle
          · obtain rfl | hu := List.mem_cons.1 hu
            · cases hwritten
            · exact hlt.trans_le ((ih false).within u hu).1
        · exact hcons pending
      · exact hcons t.endsStatement

/-! ## Lines -/

/-- The lines of a file start with its first byte, and its line marks name lines. -/
structure FileInfo.WellFormed (f : FileInfo) : Prop where
  lines : f.lines.head? = some 0
  marks : ∀ m ∈ f.marks, 1 ≤ m.line

/-- A file with further line marks. -/
structure FileInfo.MarkedAs (f g : FileInfo) : Prop where
  name : g.name = f.name
  base : g.base = f.base
  size : g.size = f.size
  lines : g.lines = f.lines
  marks : ∀ m ∈ g.marks, m ∈ f.marks ∨ 1 ≤ m.line

namespace FileInfo

theorem lineAt_mono (f : FileInfo) {a b : Nat} (h : a ≤ b) : f.lineAt a ≤ f.lineAt b := by
  rw [lineAt, lineAt]
  induction f.lines with
  | nil => exact Nat.le_refl _
  | cons start rest ih =>
    by_cases ha : start ≤ a
    · rw [List.takeWhile_cons_of_pos (by simpa using ha),
        List.takeWhile_cons_of_pos (by simpa using ha.trans h)]
      exact Nat.succ_le_succ ih
    · rw [List.takeWhile_cons_of_neg (by simpa using ha)]
      exact Nat.zero_le _

theorem WellFormed.lineAt_pos {f : FileInfo} (h : f.WellFormed) (offset : Nat) :
    1 ≤ f.lineAt offset := by
  obtain ⟨rest, hlines⟩ := List.head?_eq_some_iff.1 h.lines
  rw [lineAt, hlines, List.takeWhile_cons_of_pos (by simp)]
  exact Nat.succ_le_succ (Nat.zero_le _)

/-- Every place of a file has a line. -/
theorem WellFormed.position_isValid {f : FileInfo} (h : f.WellFormed) (offset : Nat) :
    (f.position offset).isValid = true := by
  rw [Position.isValid, decide_eq_true_eq, position]
  have hraw : (1 : Int) ≤ (f.rawPosition offset).line := Int.ofNat_le.2 (h.lineAt_pos offset)
  cases hlast : (f.marks.takeWhile (·.offset ≤ offset)).getLast? with
  | none => exact hraw
  | some mark =>
    have hmem := List.mem_of_getLast? hlast
    have hline := h.marks mark (List.takeWhile_subset _ hmem)
    have hoffset : mark.offset ≤ offset := by simpa using List.mem_takeWhile_imp hmem
    have hmono : (f.lineAt mark.offset : Int) ≤ (f.rawPosition offset).line :=
      Int.ofNat_le.2 (f.lineAt_mono hoffset)
    simp only
    omega

theorem MarkedAs.refl (f : FileInfo) : f.MarkedAs f :=
  ⟨rfl, rfl, rfl, rfl, fun _ => .inl⟩

theorem MarkedAs.trans {f g k : FileInfo} (h : f.MarkedAs g) (h' : g.MarkedAs k) : f.MarkedAs k where
  name := h'.name.trans h.name
  base := h'.base.trans h.base
  size := h'.size.trans h.size
  lines := h'.lines.trans h.lines
  marks m hm := (h'.marks m hm).elim (h.marks m) .inr

/-- A line mark names no line before the first. -/
theorem one_le_of_readMark {cs file : List Char} {line : Nat} {column : Option Nat}
    (h : readMark cs = .mark file line column) : 1 ≤ line := by
  rw [readMark] at h
  repeat' split at h
  all_goals cases h
  all_goals simp_all [Nat.one_le_iff_ne_zero]

theorem markedAs_of_addMark? {f g : FileInfo} {l : Lexeme} {offset : Nat}
    (h : f.addMark? l offset = some g) : f.MarkedAs g := by
  rw [addMark?] at h
  split at h
  next => cases h; exact .refl _
  next => cases h
  next file line column start hreading =>
    have hline : 1 ≤ line := by
      split at hreading
      · split at hreading
        · exact one_le_of_readMark (congrArg Prod.fst hreading)
        · cases hreading
      · exact one_le_of_readMark (congrArg Prod.fst hreading)
      · cases hreading
    simp only at h
    split at h <;> cases h
    · refine ⟨rfl, rfl, rfl, rfl, fun m hm => ?_⟩
      obtain hm | hm := List.mem_append.1 hm
      · exact .inl hm
      · rw [List.mem_singleton.1 hm]
        exact .inr hline
    · exact .refl _

theorem markedAs_of_addMarks? {f g : FileInfo} {ls : List Lexeme} {offset : Nat}
    (h : f.addMarks? offset ls = some g) : f.MarkedAs g := by
  induction ls generalizing f offset with
  | nil => cases h; exact .refl g
  | cons l rest ih =>
    obtain ⟨mid, hmid, hrest⟩ := Option.bind_eq_some_iff.1 h
    exact (markedAs_of_addMark? hmid).trans (ih hrest)

end FileInfo

/-! ## Files -/

/-- A byte order mark takes up three bytes in front of the rest. -/
theorem byteSize_marker (cs : List Char) :
    let marker := if cs.head? == some (Char.ofNat 0xfeff) then 3 else 0
    marker + byteSize (if marker == 3 then cs.drop 1 else cs) = byteSize cs := by
  intro marker
  cases hhead : cs.head? == some (Char.ofNat 0xfeff) with
  | false => simp [marker, hhead]
  | true =>
    obtain ⟨rest, rfl⟩ := List.head?_eq_some_iff.1 (beq_iff_eq.1 hhead)
    have hmarker : byteSize [Char.ofNat 0xfeff] = 3 := by decide
    rw [← List.singleton_append, byteSize_append, hmarker]
    rfl

/-- A file that is read is added with its name and its size after the others, and its tokens lie in it. -/
theorem scan?_eq_some {files : FileSet} {name text : String} {info : FileInfo} {tokens : List Token}
    (h : scan? files name text = some (info, tokens)) :
    info.name = name ∧ info.base = files.nextBase ∧ info.WellFormed ∧
      TokensWithin info.base (info.base + info.size) tokens := by
  rw [scan?] at h
  obtain ⟨-, -, h⟩ := Option.bind_eq_some_iff.1 h
  obtain ⟨lexemes, hcut, h⟩ := Option.bind_eq_some_iff.1 h
  obtain ⟨marked, hmarks, h⟩ := Option.bind_eq_some_iff.1 h
  cases h
  have hmarked := FileInfo.markedAs_of_addMarks? hmarks
  refine ⟨hmarked.name, hmarked.base, ⟨by rw [hmarked.lines]; rfl, fun m hm => ?_⟩, ?_⟩
  · exact (hmarked.marks m hm).resolve_left List.not_mem_nil
  · have hwithin := tokensWithin_tokensFrom false (files.nextBase +
      if text.toList.head? == some (Char.ofNat 0xfeff) then 3 else 0) (text_ne_nil_of_cut? hcut)
    rw [cut?_text hcut, Nat.add_assoc, byteSize_marker, byteSize_toList] at hwithin
    rw [hmarked.base, hmarked.size]
    exact hwithin.of_le (Nat.le_add_right _ _)

end TaggedUnion.Source
