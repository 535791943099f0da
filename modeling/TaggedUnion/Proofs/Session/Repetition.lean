import TaggedUnion.Proofs.Code.Repeated
import TaggedUnion.Proofs.Session.Calls

/-!
# Code that is asked for repeatedly

A session that is asked for code again writes it again, and starts from what the first time left: its table of
imports, the names that it gave to packages, and the bounds in their new form. So there are two codes at most: the one
that is answered first, and the one that is answered from then on, whatever builds and counts come in between
(`codes_of_run`). Their imports are the same. Their texts are the same iff no payload type names a package that was
called by another name when the type was first written.
-/

namespace TaggedUnion

open Source TaggedUnion.Types Syntax Program

variable {s : Subject}

/-! ## Codes -/

/-- The code for unions, once it is drafted; there is none if there are no conversions. -/
def Subject.codeOf (s : Subject) (version : String) (unions : List Built) (d : Draft) : Option String :=
  if unions.all (·.conversions.isEmpty) then none else some (generatedFile version s.name d)

/-- The draft of the code when it is written once more. -/
def Subject.redraftOf (s : Subject) (names : PackageNames) (unions : List Built) : Draft :=
  unions.foldl (Session.writeUnion s) { s.draftOf names unions with text := "" }

theorem Subject.codeOf_congr {d e : Draft} (himports : e.imports = d.imports) (htext : e.text = d.text)
    (version : String) (unions : List Built) : s.codeOf version unions e = s.codeOf version unions d := by
  rw [codeOf, codeOf, generatedFile_congr himports htext]

theorem foldl_writeUnion_of_all_empty {unions : List Built} (h : unions.all (·.conversions.isEmpty) = true)
    (d : Draft) : unions.foldl (Session.writeUnion s) d = d := by
  induction unions with
  | nil => rfl
  | cons b rest ih =>
    rw [List.all_cons, Bool.and_eq_true] at h
    rw [List.foldl_cons, Session.writeUnion, if_pos h.1]
    exact ih h.2

namespace Session

/-- The code that was answered, if code was. -/
def Answer.code? : Answer → Option (Option String)
  | .code answer => some answer
  | .built _ | .refused | .count _ => none

/-- The codes among answers. -/
def codes (answers : List Answer) : List (Option String) :=
  answers.filterMap Answer.code?

/-- The text of the code is used up. -/
theorem code_eq_codeOf {σ : Session} {version : String} (htext : σ.draft.text = "") :
    let d := σ.unions.foldl (writeUnion σ.subject) σ.draft
    σ.code version = (σ.subject.codeOf version σ.unions d, { σ with draft := { d with text := "" } }) := by
  intro d
  rw [code, Subject.codeOf]
  split
  next hall =>
    -- Without conversions there is no text to use up.
    have hd : d = σ.draft := foldl_writeUnion_of_all_empty hall σ.draft
    change (none, { σ with draft := d }) = (none, { σ with draft := { d with text := "" } })
    rw [hd, ← htext]
  next => rfl

/-! ## Runs -/

/-- What calls leave behind for the next code. Before the first code nothing was written. Afterwards the draft has
what the first code left, and every code but the first is the one that is written once more. -/
structure Repeats (s : Subject) (names : PackageNames) (version : String) (answers : List Answer)
    (σ : Session) : Prop where
  unions : σ.ready = true → σ.unions = s.build.unions
  codes : codes answers = [] ∧ σ.draft = { names } ∨
    (∃ n, Session.codes answers = s.codeOf version s.build.unions (s.draftOf names s.build.unions) ::
      List.replicate n (s.codeOf version s.build.unions (s.redraftOf names s.build.unions))) ∧
    Draft.Resumed s (s.draftOf names s.build.unions) (sourceBounds s.build.unions) σ.draft ∧ σ.draft.text = ""

section

variable {names : PackageNames} {version : String} {calls : List Call} {answers : List Answer} {σ : Session}

theorem repeats_start (s : Subject) (names : PackageNames) (version : String) :
    Repeats s names version [] (start s names) :=
  ⟨nofun, .inl ⟨rfl, rfl⟩⟩

/-- What counts of a call that is not answered with code is that it leaves the draft alone. -/
theorem Repeats.of_draft_eq (h : Repeats s names version answers σ) {answer : Answer} {τ : Session}
    (hanswer : answer.code? = none) (hdraft : τ.draft = σ.draft)
    (hunions : τ.ready = true → τ.unions = s.build.unions) : Repeats s names version (answers ++ [answer]) τ := by
  have hcodes : Session.codes (answers ++ [answer]) = Session.codes answers := by
    rw [Session.codes, List.filterMap_append, List.filterMap_cons_none hanswer, List.filterMap_nil, List.append_nil]
    rfl
  exact ⟨hunions, by rw [hcodes, hdraft]; exact h.codes⟩

theorem codes_append_code (answers : List Answer) (code : Option String) :
    codes (answers ++ [.code code]) = codes answers ++ [code] := by
  rw [codes, List.filterMap_append]
  rfl

variable (hs : (s.requests.map (·.spec.name.pos)).Nodup) (hdot : ∀ path, '.' ∉ (names.current path).toList)

include hdot

/-- The first code leaves what it leaves. -/
theorem resumed_draftOf :
    Draft.Resumed s (s.draftOf names s.build.unions) (sourceBounds s.build.unions)
      { s.draftOf names s.build.unions with text := "" } := by
  have hredone := s.redone_draftOf names hdot s.build.unions
  exact ⟨⟨rfl, fun _ => rfl⟩, hredone.remembers.of_adapted_eq rfl⟩

/-- Code that is written on a draft that has what the first code left is the one that is written once more, and leaves
the same. -/
theorem resumed_writeUnions {e : Draft}
    (he : Draft.Resumed s (s.draftOf names s.build.unions) (sourceBounds s.build.unions) e) (htext : e.text = "") :
    let d := s.build.unions.foldl (writeUnion s) e
    Draft.Resumed s (s.draftOf names s.build.unions) (sourceBounds s.build.unions) d ∧
      d.imports = (s.redraftOf names s.build.unions).imports ∧
      d.text = (s.redraftOf names s.build.unions).text := by
  intro d
  have hredone := s.redone_draftOf names hdot s.build.unions
  obtain ⟨first, second, -, hagain, -⟩ := hredone.texts
  obtain ⟨-, hresumed, hdtext⟩ := hagain e he
  obtain ⟨-, hresumed', hdtext'⟩ := hagain _ (resumed_draftOf hdot)
  refine ⟨hresumed, hresumed.rests.imports.trans hresumed'.rests.imports.symm, hdtext.trans ?_⟩
  rw [htext]
  exact hdtext'.symm

include hs

/-- Each call leaves behind what is described. -/
theorem Repeats.call (hreached : Reached s names calls answers σ) (h : Repeats s names version answers σ)
    (workingDir : String) (c : Call) :
    Repeats s names version (answers ++ [(σ.call workingDir version c).1]) (σ.call workingDir version c).2 := by
  cases c with
  | build =>
    refine h.of_draft_eq rfl rfl fun _ => ?_
    have hbuilt := (hreached.call hs workingDir version .build).unions
    rwa [if_pos (List.mem_append_right _ List.mem_cons_self)] at hbuilt
  | unions => exact h.of_draft_eq rfl rfl h.unions
  | generate =>
    cases hready : σ.ready with
    | false =>
      rw [call_generate_of_not_ready hready]
      exact h.of_draft_eq rfl rfl h.unions
    | true =>
      have htext : σ.draft.text = "" := by
        rcases h.codes with ⟨-, hdraft⟩ | ⟨-, -, htext⟩
        · rw [hdraft]
        · exact htext
      rw [call_generate_of_ready hready, code_eq_codeOf htext, hreached.subject, h.unions hready]
      refine ⟨fun _ => rfl, .inr ?_⟩
      rw [codes_append_code]
      -- This is the first code, or else another one that is written on what the first one left.
      rcases h.codes with ⟨hnone, hdraft⟩ | ⟨⟨n, hcodes⟩, hresumed, -⟩
      · rw [hnone, hdraft]
        exact ⟨⟨0, rfl⟩, resumed_draftOf hdot, rfl⟩
      · obtain ⟨hrests, himports, hsame⟩ := resumed_writeUnions hdot hresumed htext
        refine ⟨⟨n + 1, ?_⟩, hrests.of_text "", rfl⟩
        rw [hcodes, Subject.codeOf_congr himports hsame, List.cons_append, List.replicate_succ']

/-- So do calls that are made one after the other. -/
theorem Repeats.run (hreached : Reached s names calls answers σ) (h : Repeats s names version answers σ)
    (workingDir : String) (more : List Call) :
    Repeats s names version (answers ++ (σ.run workingDir version more).1) (σ.run workingDir version more).2 := by
  induction more generalizing calls answers σ with
  | nil => simpa [Session.run] using h
  | cons c rest ih =>
    simpa [Session.run] using ih (hreached.call hs workingDir version c) (h.call hs hdot hreached workingDir c)

end

end Session

/-- Whatever a session is called for, there are two codes at most: the one that is answered first, and the one that is
answered from then on. Their imports are the same. Their texts are the same iff each package that a payload type
passes over was called by its last name when the type was first written; then all codes are the same. The declarations
that ask for conversions are at distinct places, as they are in a loaded package (`nodup_requests`). -/
theorem codes_of_run (hs : (s.requests.map (·.spec.name.pos)).Nodup) {names : PackageNames}
    (hdot : ∀ path, '.' ∉ (names.current path).toList) (workingDir version : String) (calls : List Session.Call) :
    let unions := s.build.unions
    let first := s.draftOf names unions
    let again := s.redraftOf names unions
    let codes := Session.codes ((Session.start s names).run workingDir version calls).1
    let settled := ∀ w ∈ writtenTypes s { names } unions, w.1.Settled s w.2 first.names
    (codes = [] ∨
        ∃ n, codes = s.codeOf version unions first :: List.replicate n (s.codeOf version unions again)) ∧
      again.imports = first.imports ∧ (again.text = first.text ↔ settled) ∧
      (settled → ∀ code ∈ codes, code = s.codeOf version unions first) := by
  intro unions first again codes settled
  have hcodes : codes = [] ∨
      ∃ n, codes = s.codeOf version unions first :: List.replicate n (s.codeOf version unions again) :=
    ((Session.repeats_start s names version).run hs hdot (Session.reached_start s names) workingDir
      calls).codes.imp And.left And.left
  have hredone := s.redone_draftOf names hdot unions
  obtain ⟨text, text', hfirst, hagain, hor⟩ := hredone.texts
  obtain ⟨-, hresumed, hagain⟩ := hagain { first with text := "" } (Session.resumed_draftOf hdot)
  have himports : again.imports = first.imports := hresumed.rests.imports
  have htext : again.text = first.text ↔ settled := by
    have hfirst : first.text = text := hfirst.trans (String.empty_append ..)
    have hagain : again.text = text' := hagain.trans (String.empty_append ..)
    rw [hfirst, hagain]
    rcases hor with ⟨hsettled, heq⟩ | ⟨hnot, hdiverge⟩
    · exact iff_of_true heq hsettled
    · exact iff_of_false hdiverge.ne.symm hnot
  refine ⟨hcodes, himports, htext, fun hsettled code hcode => ?_⟩
  have hsame := s.codeOf_congr himports (htext.2 hsettled) version unions
  rcases hcodes with hnil | ⟨n, hcons⟩
  · rw [hnil] at hcode
    cases hcode
  · rw [hcons, hsame, ← List.replicate_succ] at hcode
    exact List.eq_of_mem_replicate hcode

/-! ## A name that is given late -/

/-- The type that the other package declares. -/
def geoPoint : Ty := .named ⟨"x/geo", "Point", 19⟩ [] []

/-- A file that declares a union of which the first variant passes over a package, and the second one imports it:

    package p; import g "x/geo"

    var geo int

    //enumorph:derive
    type Shape struct {
    	Kind string `enumorph:"tag"`
    	A    interface{ M(g.Point) }
    	B    g.Point
    }
-/
def lateFile : File :=
  let point (pos : Pos) : Expr :=
    .selector (.ident { pos, name := "g", meaning := some (.package "x/geo") })
      { pos := pos + 2, name := "Point", meaning := some (.topLevel "x/geo" geoPoint) }
  { name := "shape.go"
    clause := 45
    package := "p"
    imports := [{ pos := 63, name := some { pos := 63, name := "g" }, literal := "\"x/geo\"", path := "x/geo" }]
    decls := [
      .vars [{ names := [{ pos := 78, name := "geo" }], type := some (.ident { pos := 82, name := "int" }), values := [] }],
      .types (some [⟨87, directiveText⟩])
        [{ name := { pos := 110, name := "Shape" }
           type := .struct 116 123
            [({ names := [{ pos := 126, name := "Kind" }] }, .ident { pos := 131, name := "string" }),
             ({ names := [{ pos := 156, name := "A" }] },
              .interface 161 170 [({ names := [{ pos := 172, name := "M" }] },
                .func 0 [({ names := [] }, point 174)] 173 181 [] 0 0)] 183),
             ({ names := [{ pos := 186, name := "B" }] }, point 191)] 199 }]]
    comments := [[⟨87, directiveText⟩]] }

/-- What it declares. -/
def lateObjects : List Program.Object :=
  [{ name := "Shape", home := "p", pos := 110, kind := .type, type := .named ⟨"p", "Shape", 110⟩ [] [] },
   { name := "geo", home := "p", pos := 78, kind := .var, type := .basic "int" }]

/-- The package of the file, after the other package. -/
def lateSubject : Subject where
  name := "p"
  path := "p"
  objects := lateObjects
  imports := ["x/geo"]
  files := ⟨[{ name := "g.go", base := 1, size := 43, lines := [0, 12, 13] },
    { name := "shape.go", base := 45, size := 156, lines := [0, 10, 11, 28, 29, 41, 42, 60, 80, 110, 140, 154] }]⟩
  sources := [lateFile]
  info := ⟨[
    { name := ⟨"x/geo", "Point", 19⟩, rhs := .struct
        [(⟨"X", "x/geo", false, [], 33⟩, .basic "int"), (⟨"Y", "x/geo", false, [], 36⟩, .basic "int")] },
    { name := ⟨"p", "Shape", 110⟩
      rhs := .struct
        [(⟨"Kind", "p", false, Text.Bytes.ofText "enumorph:\"tag\"", 126⟩, .basic "string"),
         (⟨"A", "p", false, [], 156⟩, .interface [(⟨"M", "p"⟩, .func [] [("", geoPoint)] [] false)] [] false),
         (⟨"B", "p", false, [], 186⟩, geoPoint)] }], lateObjects⟩

/-- The names of the packages. -/
def lateNames : PackageNames := ⟨[("x/geo", "geo"), (errorsPath, errorsName)]⟩

/-- The package that the second variant imports is called by another name from then on. The first code shows the old
name in the first variant, all further codes the new one. -/
theorem lateName_codes :
    let unions := lateSubject.build.unions
    let first := lateSubject.draftOf lateNames unions
    let again := lateSubject.redraftOf lateNames unions
    let answers := ((Session.start lateSubject lateNames).run "" "" [.build, .generate, .unions, .generate]).1
    Session.codes answers = [some (generatedFile "" "p" first), some (generatedFile "" "p" again)] ∧
      again.imports = first.imports ∧ again.text ≠ first.text := by
  intro unions first again answers
  have hdot : ∀ path, '.' ∉ (lateNames.current path).toList := by
    intro path
    rw [PackageNames.current, lateNames, List.lookup_cons, List.lookup_cons, List.lookup_nil]
    cases path == "x/geo" <;> cases path == errorsPath <;> decide
  obtain ⟨hcodes, himports, htext, -⟩ := codes_of_run (s := lateSubject)
    (by decide +kernel) hdot "" "" [.build, .generate, .unions, .generate]
  refine ⟨?_, himports, fun hsame => absurd (htext.1 hsame) (by decide +kernel)⟩
  have hlength : (Session.codes answers).length = 2 := by decide +kernel
  have hcode : ∀ d, lateSubject.codeOf "" unions d = some (generatedFile "" "p" d) :=
    fun d => if_neg (by decide +kernel)
  rw [hcode, hcode] at hcodes
  rcases hcodes with hnil | ⟨n, hcons⟩
  · exact absurd (hnil ▸ hlength) (by decide)
  · have hn : n = 1 := by
      rw [hcons, List.length_cons, List.length_replicate] at hlength
      omega
    rw [hn] at hcons
    exact hcons

end TaggedUnion
