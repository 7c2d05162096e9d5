import Mathlib.Data.List.Chain
import WireScribe.Proofs.CodeText
import WireScribe.Proofs.ReservedNames

/-!
# WireScribe.Proofs.PathText — names and paths are read back from code

A text that is read as a name or a path may hold blanks, comments and a byte order mark.
Code holds the name or the path with one blank between its tokens and nothing else. This
text is read as the same tokens again. Paths are without generic arguments here.

1. **Joined colons**: the second colon of `::` is not joined to a name behind it, however
   the two are spaced, so spacing leaves no trace in the tokens of a path.
2. **Tokens of a path**: a path is read from the tokens that it is made of, and from no
   others.
3. **Text of a path**: the text in code has these tokens.
4. **Reading back**: names and paths, one after the other.
-/

namespace WireScribe

open Text

/-! ## Joined colons -/

/-- A colon that is joined to what follows. -/
def joinedColon : Token := .punct ':' true

/-- The first token is not a joined colon in front of an identifier. -/
def Token.Unjoined (t u : Token) : Prop := t = joinedColon → ∀ i, u ≠ .ident i

theorem mem_marks_of_startsPunct {c : Char} {cs : List Char} (h : startsPunct (c :: cs) = true) :
    c ∈ marks := by
  generalize htext : c :: cs = text at h
  fun_cases startsPunct text with
  | case1 | case2 => cases h
  | case3 d rest =>
    obtain ⟨rfl, -⟩ := List.cons.inj htext
    apply List.mem_append_left
    simpa [startsPunct] using h
  | case4 => cases h

/-- Nothing is skipped in front of punctuation. -/
theorem Skips.eq_of_startsPunct {cs rest : List Char} (hstart : startsPunct cs = true)
    (h : Skips cs rest) : rest = cs := by
  cases h with
  | refl => rfl
  | blank hblank _ =>
    have hall : marks.all (fun c => !isBlank c) = true := by decide +kernel
    have hmark := List.all_eq_true.mp hall _ (mem_marks_of_startsPunct hstart)
    rw [hblank] at hmark
    cases hmark
  | line _ _ | block _ _ _ => cases hstart

/-- Where punctuation starts, something is read, and no identifier. -/
theorem startsPunct_lexeme? {cs rest : List Char} {found : List Token}
    (hstart : startsPunct cs = true) (h : lexeme? cs = some (found, rest))
    (hlt : rest.length < cs.length) : ∃ t more, found = t :: more ∧ ∀ i, t ≠ .ident i := by
  rcases lexeme?_cases h with ⟨-, hskip⟩ | hattr | ⟨t, hbracket, rfl⟩ | ⟨t, htoken, rfl⟩
  · have hsame := (hskip rest (.refl rest)).eq_of_startsPunct hstart
    rw [hsame] at hlt
    exact absurd hlt (Nat.lt_irrefl _)
  · rcases hattr.head with ⟨more, rfl⟩
    exact ⟨_, more, rfl, fun i hi => nomatch hi⟩
  · exact ⟨t, [], rfl, (bracket?_token hbracket).1⟩
  · refine ⟨t, [], rfl, ?_⟩
    rintro i rfl
    -- an identifier starts like a word, and no mark does
    obtain ⟨rfl, hspell, -⟩ := spelled_of_ident? (ident?_of_token? htoken)
    obtain ⟨c, w, htext, hc⟩ := hspell.text_head
    rw [htext] at hstart
    exact not_mem_marks (isIdentContinue_of_isIdentStart hc) (mem_marks_of_startsPunct hstart)

theorem startsPunct_lexemes? {cs : List Char} {ts : List Token} (hstart : startsPunct cs = true)
    (h : lexemes? cs = some ts) : ∀ t ∈ ts.head?, ∀ i, t ≠ .ident i := by
  revert h
  fun_cases lexemes? cs with
  | case1 hempty =>
    rw [List.isEmpty_iff.mp hempty] at hstart
    cases hstart
  | case2 _ found rest hstep hlt more hmore =>
    intro h
    obtain ⟨t, more', rfl, ht⟩ := startsPunct_lexeme? hstart hstep hlt
    cases h
    intro t' ht'
    cases ht'
    exact ht
  | case3 | case4 | case5 =>
    intro h
    cases h

theorem punct?_joined {cs rest : List Char} (h : punct? cs = some (joinedColon, rest)) :
    startsPunct rest = true := by
  cases cs with
  | nil => cases h
  | cons c cs =>
    simp only [punct?] at h
    split at h
    · cases h
    · split at h
      · split at h
        · rename_i hquote _
          rw [hquote] at h
          cases h
        · cases h
      · simp only [Option.some.injEq, Prod.mk.injEq, joinedColon, Token.punct.injEq] at h
        rw [← h.2]
        exact h.1.2

theorem token?_joined {cs rest : List Char} (h : token? cs = some (joinedColon, rest)) :
    startsPunct rest = true := by
  revert h
  fun_cases token? cs with
  | case1 =>
    intro h
    cases h
  | case2 _ found hpunct =>
    intro h
    rw [Option.some.inj h] at hpunct
    exact punct?_joined hpunct
  | case3 | case4 | case5 =>
    intro h
    cases h

/-- A step that reads a joined colon reads nothing else, and punctuation follows. -/
theorem lexeme?_joined {cs rest : List Char} {found : List Token}
    (h : lexeme? cs = some (found, rest)) (hcolon : joinedColon ∈ found) :
    found = [joinedColon] ∧ startsPunct rest = true := by
  rcases lexeme?_cases h with ⟨rfl, -⟩ | ⟨doc, text, rfl⟩ | ⟨t, hbracket, rfl⟩ | ⟨t, htoken, rfl⟩
  · cases hcolon
  · cases doc <;> simp [DocTarget.attribute, DocTarget.signs, joinedColon] at hcolon
  · exact absurd (List.mem_singleton.mp hcolon).symm ((bracket?_token hbracket).2 ':' true)
  · rw [← List.mem_singleton.mp hcolon] at htoken ⊢
    exact ⟨rfl, token?_joined htoken⟩

/-- Tokens without joined colons may stand in front of anything. -/
theorem isChain_append_of_not_mem {found more : List Token} (h : joinedColon ∉ found)
    (hmore : more.IsChain Token.Unjoined) : (found ++ more).IsChain Token.Unjoined := by
  induction found with
  | nil => exact hmore
  | cons t found ih =>
    rw [List.mem_cons, not_or] at h
    rw [List.cons_append, List.isChain_cons]
    refine ⟨?_, ih h.2⟩
    intro u _ ht
    exact absurd ht.symm h.1

/-- No text has a joined colon in front of an identifier. -/
theorem lexemes?_isChain {cs : List Char} {ts : List Token} (h : lexemes? cs = some ts) :
    ts.IsChain Token.Unjoined := by
  fun_induction lexemes? cs generalizing ts with
  | case1 =>
    cases h
    exact .nil
  | case2 cs _ found rest hstep _ more hmore ih =>
    cases h
    by_cases hcolon : joinedColon ∈ found
    · obtain ⟨rfl, hstart⟩ := lexeme?_joined hstep hcolon
      rw [List.singleton_append, List.isChain_cons]
      refine ⟨?_, ih hmore⟩
      intro u hu _
      exact startsPunct_lexemes? hstart hmore u hu
    · exact isChain_append_of_not_mem hcolon (ih hmore)
  | case3 | case4 | case5 => cases h

/-! ## Tokens of a path -/

/-- The tokens of segments with `::` between them. -/
def segmentTokens : List Segment → List Token
  | [] => []
  | s :: rest => s.tokens ++ ledTokens rest

/-- Whatever stands between the colons and a name, the second colon is not joined. -/
theorem unjoined_of_isChain {joint : Bool} {segments : List Segment} (hne : segments ≠ [])
    (h : (.punct ':' joint :: segmentTokens segments).IsChain Token.Unjoined) :
    joint = false := by
  cases segments with
  | nil => exact absurd rfl hne
  | cons s rest =>
    cases joint with
    | false => rfl
    | true => exact absurd rfl ((List.isChain_cons.mp h).1 (.ident s.ident) rfl rfl s.ident)

/-- Where no arguments are read, nothing is. -/
theorem eq_of_argumentsOf_none {reader : ArgumentReader} {i : Ident} {ts rest : List Token}
    (h : argumentsOf reader i ts = .ok (none, rest)) : rest = ts := by
  revert h
  fun_cases argumentsOf reader i ts with
  | case1 | case2 =>
    intro h
    cases h
  | case3 | case4 =>
    intro h
    cases h
    rfl

/-- No arguments open where segments follow. -/
theorem argumentsOf_ledTokens (reader : ArgumentReader) (i : Ident) (segments : List Segment) :
    argumentsOf reader i (ledTokens segments) = .ok (none, ledTokens segments) := by
  have hopen : argumentsOpen? (ledTokens segments) = none := by
    cases segments <;> rfl
  unfold argumentsOf
  rw [hopen]
  split <;> rfl

namespace Path

/-- The tokens of a path. -/
def tokens (p : Path) : List Token :=
  if p.rooted then colons ++ segmentTokens p.segments else segmentTokens p.segments

/-- Segments without generic arguments, and no keyword among them but those of paths. -/
structure Plain (segments : List Segment) : Prop where
  nonempty : segments ≠ []
  bare : ∀ s ∈ segments, s.arguments = none
  names : ∀ s ∈ segments, s.ident.isSegment = true

theorem tokens_of_segmentsOf {reader : ArgumentReader} {ts : List Token}
    {segments : List Segment} (hts : ts.IsChain Token.Unjoined)
    (h : segmentsOf reader ts = .ok segments) (hbare : ∀ s ∈ segments, s.arguments = none) :
    ts = segmentTokens segments ∧ Plain segments := by
  fun_induction segmentsOf reader ts generalizing segments with
  | case4 i behind hi arguments hargs =>
    cases h
    rcases hbare _ List.mem_cons_self with rfl
    obtain rfl := eq_of_argumentsOf_none hargs
    refine ⟨rfl, List.cons_ne_nil _ _, hbare, ?_⟩
    simpa using hi
  | case6 i behind hi arguments joint more _ hargs ih =>
    obtain ⟨segments', hmore, rfl⟩ := except_map_eq_ok_iff.mp h
    rw [List.forall_mem_cons] at hbare
    rcases hbare.1 with rfl
    obtain rfl := eq_of_argumentsOf_none hargs
    have hcolon := hts.tail.tail
    obtain ⟨rfl, hplain⟩ := ih hcolon.tail hmore hbare.2
    rw [unjoined_of_isChain hplain.nonempty hcolon]
    refine ⟨?_, List.cons_ne_nil _ _, List.forall_mem_cons.mpr hbare, ?_⟩
    · cases segments' with
      | nil => exact absurd rfl hplain.nonempty
      | cons s rest => rfl
    · exact List.forall_mem_cons.mpr ⟨by simpa using hi, hplain.names⟩
  | _ => cases h

theorem segmentsOf_segmentTokens {reader : ArgumentReader} {segments : List Segment}
    (h : Plain segments) : segmentsOf reader (segmentTokens segments) = .ok segments := by
  rcases h with ⟨hne, hbare, hnames⟩
  induction segments with
  | nil => exact absurd rfl hne
  | cons s rest ih =>
    rw [List.forall_mem_cons] at hbare hnames
    rcases s with ⟨i, arguments⟩
    rcases hbare.1 with rfl
    have hargs := argumentsOf_ledTokens reader i rest
    cases rest with
    | nil => exact segmentsOf_last hnames.1 hargs
    | cons s' rest =>
      have hread : segmentsOf reader (segmentTokens (⟨i, none⟩ :: s' :: rest)) =
          (segmentsOf reader (segmentTokens (s' :: rest))).map (⟨i, none⟩ :: ·) :=
        segmentsOf_more hnames.1 hargs (by simp [segmentTokens, Segment.tokens])
      rw [hread, ih (List.cons_ne_nil _ _) hbare.2 hnames.2]
      rfl

/-- A path is read from its own tokens only. -/
theorem tokens_of_ofTokens {reader : ArgumentReader} {ts : List Token} {p : Path}
    (hts : ts.IsChain Token.Unjoined) (h : ofTokens reader ts = .ok p)
    (hbare : ∀ s ∈ p.segments, s.arguments = none) : ts = p.tokens ∧ Plain p.segments := by
  revert h
  fun_cases ofTokens reader ts with
  | case1 joint rest =>
    intro h
    obtain ⟨segments, hsegments, rfl⟩ := except_map_eq_ok_iff.mp h
    obtain ⟨rfl, hplain⟩ := tokens_of_segmentsOf hts.tail.tail hsegments hbare
    rw [unjoined_of_isChain hplain.nonempty hts.tail]
    exact ⟨rfl, hplain⟩
  | case2 =>
    intro h
    obtain ⟨segments, hsegments, rfl⟩ := except_map_eq_ok_iff.mp h
    exact tokens_of_segmentsOf hts hsegments hbare

theorem ofTokens_tokens {reader : ArgumentReader} {p : Path} (h : Plain p.segments) :
    ofTokens reader p.tokens = .ok p := by
  obtain ⟨rooted, segments⟩ := p
  have hread : segmentsOf reader (segmentTokens segments) = .ok segments :=
    segmentsOf_segmentTokens h
  cases rooted with
  | true =>
    show (segmentsOf reader (segmentTokens segments)).map (Path.mk true) = _
    rw [hread]
    rfl
  | false =>
    cases segments with
    | nil => exact absurd rfl h.nonempty
    | cons s rest =>
      show (segmentsOf reader (segmentTokens (s :: rest))).map (Path.mk false) = _
      rw [hread]
      rfl

/-- The texts that are read as a path without generic arguments are those with its
tokens. -/
theorem ofText_eq_ok_iff_tokens {reader : ArgumentReader} {text : String} {p : Path}
    (hbare : ∀ s ∈ p.segments, s.arguments = none) :
    ofText reader text = .ok p ↔ tokens? text = some p.tokens ∧ Plain p.segments := by
  rw [ofText_eq_ok_iff]
  constructor
  · rintro ⟨ts, hts, hread⟩
    have hchain := lexemes?_isChain (tokens?_eq_some_iff.mp hts).1
    obtain ⟨rfl, hplain⟩ := tokens_of_ofTokens hchain hread hbare
    exact ⟨hts, hplain⟩
  · rintro ⟨hts, hplain⟩
    exact ⟨_, hts, ofTokens_tokens hplain⟩

end Path

/-! ## Text of a path -/

theorem lexeme?_colon (cs : List Char) :
    lexeme? (':' :: cs) = some ([.punct ':' (startsPunct cs)], cs) := by
  have hbracket : bracket? (':' :: cs) = none := rfl
  have hliteral : Literal.literal? (':' :: cs) = none := rfl
  have hpunct : punct? (':' :: cs) = some (.punct ':' (startsPunct cs), cs) := rfl
  rw [lexeme?_of_ne_slash (by decide), if_neg (by decide), hbracket, token?, hliteral, hpunct]
  rfl

theorem lexemes?_colon (cs : List Char) :
    lexemes? (':' :: cs) = (lexemes? cs).map (.punct ':' (startsPunct cs) :: ·) := by
  rw [lexemes?_of_lexeme? (lexeme?_colon cs) (by simp)]
  rfl

theorem lexemes?_blank (cs : List Char) : lexemes? (' ' :: cs) = lexemes? cs := by
  have hskip : Skips (' ' :: cs) cs := .blank (by decide) (.refl cs)
  exact hskip.lexemes?_eq

/-- Between blanks two colons are read as `::`. -/
theorem lexemes?_colons (cs : List Char) :
    lexemes? (':' :: ':' :: ' ' :: cs) = (lexemes? cs).map (colons ++ ·) := by
  rw [lexemes?_colon, lexemes?_colon, lexemes?_blank, Option.map_map]
  rfl

theorem parted_spacedText (cs : List Code) : Parted (spacedText cs) := by
  cases cs with
  | nil => exact fun c hc => nomatch hc
  | cons d cs =>
    intro c hc
    cases hc
    exact .inl (by decide)

/-- Segments without arguments as code, each behind a `::`. -/
def ledCode (segments : List Segment) : List Code :=
  segments.flatMap fun s => [.word "::", s.ident.code]

theorem segmentsCode_cons {i : Ident} {rest : List Segment}
    (hbare : ∀ s ∈ rest, s.arguments = none) :
    segmentsCode (⟨i, none⟩ :: rest) = i.code :: ledCode rest := by
  induction rest generalizing i with
  | nil => rfl
  | cons s rest ih =>
    rw [List.forall_mem_cons] at hbare
    rcases s with ⟨j, arguments⟩
    rcases hbare.1 with rfl
    rw [segmentsCode, ih hbare.2]
    rfl

theorem ledTokens_cons {s : Segment} {rest : List Segment} (h : s.arguments = none) :
    ledTokens (s :: rest) = colons ++ .ident s.ident :: ledTokens rest := by
  simp [ledTokens, Segment.tokens, h]

theorem lexemes?_ledCode {segments : List Segment} (hbare : ∀ s ∈ segments, s.arguments = none)
    (h : ∀ s ∈ segments, s.ident.Spellable) :
    lexemes? (spacedText (ledCode segments)) = some (ledTokens segments) := by
  induction segments with
  | nil => exact lexemes?_nil
  | cons s rest ih =>
    rw [List.forall_mem_cons] at h hbare
    have htext : spacedText (ledCode (s :: rest)) =
        ' ' :: ':' :: ':' :: ' ' :: (s.ident.text.toList ++ spacedText (ledCode rest)) := by
      simp [ledCode, spacedText, Ident.code, Code.text]
    rw [htext, ledTokens_cons hbare.1, lexemes?_blank, lexemes?_colons,
      lexemes?_of_spellable h.1 (parted_spacedText _), ih hbare.2 h.2]
    rfl

/-- There are no brackets in segments without arguments. -/
theorem balanced_ledTokens {segments : List Segment} (hbare : ∀ s ∈ segments, s.arguments = none) :
    balanced [] (ledTokens segments) = true := by
  induction segments with
  | nil => rfl
  | cons s rest ih =>
    rw [List.forall_mem_cons] at hbare
    rw [ledTokens_cons hbare.1]
    exact ih hbare.2

theorem tokens?_of_lexemes? {text : String} {c : Char} {cs : List Char} {ts : List Token}
    (htext : text.toList = c :: cs) (hc : c ≠ '\ufeff') (h : lexemes? (c :: cs) = some ts)
    (hbalanced : balanced [] ts = true) : tokens? text = some ts := by
  have hunmarked : unmarked (c :: cs) = c :: cs := by
    unfold unmarked
    split
    · rename_i heq
      exact absurd (List.cons.inj heq).1 hc
    · rfl
  apply tokens?_eq_some_iff.mpr
  rw [htext, hunmarked]
  exact ⟨h, hbalanced⟩

theorem Path.tokens?_code {p : Path} (hne : p.segments ≠ [])
    (hbare : ∀ s ∈ p.segments, s.arguments = none)
    (hspell : ∀ s ∈ p.segments, s.ident.Spellable) : tokens? (codeText p.code) = some p.tokens := by
  obtain ⟨rooted, segments⟩ := p
  cases segments with
  | nil => exact absurd rfl hne
  | cons s rest =>
    rw [List.forall_mem_cons] at hspell hbare
    rcases s with ⟨i, arguments⟩
    rcases hbare.1 with rfl
    have hcode := segmentsCode_cons (i := i) hbare.2
    have hbalanced : balanced [] (segmentTokens (⟨i, none⟩ :: rest)) = true :=
      balanced_ledTokens hbare.2
    have hsegments : lexemes? (i.text.toList ++ spacedText (ledCode rest)) =
        some (segmentTokens (⟨i, none⟩ :: rest)) := by
      rw [lexemes?_of_spellable hspell.1 (parted_spacedText _), lexemes?_ledCode hbare.2 hspell.2]
      rfl
    cases rooted with
    | true =>
      have htext : (codeText (Path.code ⟨true, ⟨i, none⟩ :: rest⟩)).toList =
          ':' :: ':' :: ' ' :: (i.text.toList ++ spacedText (ledCode rest)) := by
        simp [Path.code, hcode, codeText_cons, spacedText, Ident.code, Code.text]
      refine tokens?_of_lexemes? htext (by decide) ?_ hbalanced
      rw [lexemes?_colons, hsegments]
      rfl
    | false =>
      have htext : (codeText (Path.code ⟨false, ⟨i, none⟩ :: rest⟩)).toList =
          i.text.toList ++ spacedText (ledCode rest) := by
        simp [Path.code, hcode, codeText_cons, Ident.code, Code.text]
      obtain ⟨c, w, hword, hc⟩ := hspell.1.text_head
      have hmark : c ≠ '\ufeff' := by
        rintro rfl
        exact absurd hc (by decide +kernel)
      rw [hword, List.cons_append] at htext hsegments
      exact tokens?_of_lexemes? htext hmark hsegments hbalanced

/-! ## Reading back -/

/-- A name is a path of one segment. -/
theorem Ident.tokens?_code {i : Ident} (h : i.Spellable) :
    tokens? (codeText [i.code]) = some [.ident i] := by
  have hbare : ∀ s ∈ [Segment.mk i none], s.arguments = none := by simp
  have hspell : ∀ s ∈ [Segment.mk i none], s.ident.Spellable := by simpa using h
  exact Path.tokens?_code (p := ⟨false, [⟨i, none⟩]⟩) (List.cons_ne_nil _ _) hbare hspell

theorem plainIdent_of_tokens? {text : String} {i : Ident} (h : tokens? text = some [.ident i])
    (hkeyword : i.isKeyword = false) : plainIdent text = .ok i := by
  apply plainIdent_eq_ok_iff.mpr
  exact Ident.ofText_eq_ok_iff.mpr ⟨tokens?_eq_ident_iff_spells.mp h, hkeyword⟩

/-- What a text stands for in code is read as the same name, or the same path, from the
same tokens: reading a text, writing it as code and reading that again changes nothing.
The path has no generic arguments, whatever reader there is for them. -/
theorem code_text_reads_back :
    (∀ (text : String) (i : Ident), plainIdent text = .ok i →
      plainIdent (codeText [i.code]) = .ok i ∧ tokens? (codeText [i.code]) = tokens? text) ∧
    ∀ (reader : ArgumentReader) (text : String) (p : Path), Path.ofText reader text = .ok p →
      (∀ s ∈ p.segments, s.arguments = none) →
      Path.ofText reader (codeText p.code) = .ok p ∧
        tokens? (codeText p.code) = tokens? text := by
  constructor
  · intro text i h
    obtain ⟨⟨lead, trail, hspells⟩, hkeyword⟩ :=
      Ident.ofText_eq_ok_iff.mp (plainIdent_eq_ok_iff.mp h)
    have htokens := Ident.tokens?_code hspells.ident
    refine ⟨plainIdent_of_tokens? htokens hkeyword, ?_⟩
    rw [htokens, tokens?_eq_ident_iff_spells.mpr ⟨lead, trail, hspells⟩]
  · intro reader text p h hbare
    obtain ⟨htext, hplain⟩ := (Path.ofText_eq_ok_iff_tokens hbare).mp h
    have htokens := Path.tokens?_code hplain.nonempty hbare (Path.spellable_of_ofText h)
    refine ⟨(Path.ofText_eq_ok_iff_tokens hbare).mpr ⟨htokens, hplain⟩, ?_⟩
    rw [htokens, htext]

/-- A raw name behind a byte order mark and between comments, and a path with keywords and
with blanks and comments around its colons. -/
theorem padded_texts_read_back :
    let name := "\ufeff /* a // b */ r#type // c"
    let path := " ::self/* a */ ::\n/**/r#try::Self "
    (∃ i, plainIdent name = .ok i ∧ codeText [i.code] = "r#type" ∧ plainIdent "r#type" = .ok i) ∧
    ∃ p, Path.ofText .plain path = .ok p ∧ codeText p.code = ":: self :: r#try :: Self" ∧
      Path.ofText .plain ":: self :: r#try :: Self" = .ok p := by
  intro name path
  have hname : plainIdent name = .ok ⟨true, "type"⟩ :=
    plainIdent_of_tokens? (by decide +kernel) (by decide)
  let p : Path := ⟨true, [⟨⟨false, "self"⟩, none⟩, ⟨⟨true, "try"⟩, none⟩, ⟨⟨false, "Self"⟩, none⟩]⟩
  have hbare : ∀ s ∈ p.segments, s.arguments = none := by decide
  have hpath : Path.ofText .plain path = .ok p := by
    have htokens : tokens? path = some p.tokens := by decide +kernel
    exact (Path.ofText_eq_ok_iff_tokens hbare).mpr ⟨htokens, by decide, hbare, by decide⟩
  have hnameAgain := (code_text_reads_back.1 name _ hname).1
  have hpathAgain := (code_text_reads_back.2 .plain path p hpath hbare).1
  have hnameCode : codeText [Ident.code ⟨true, "type"⟩] = "r#type" := by decide
  have hpathCode : codeText p.code = ":: self :: r#try :: Self" := by decide
  rw [hnameCode] at hnameAgain
  rw [hpathCode] at hpathAgain
  exact ⟨⟨_, hname, hnameCode, hnameAgain⟩, p, hpath, hpathCode, hpathAgain⟩

end WireScribe
