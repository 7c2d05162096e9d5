import WireScribe.Path

/-!
# WireScribe.Proofs.Spelling — the texts that name an identifier

A text names an identifier if its only token is one. Blanks, comments and a byte
order mark around the token leave no trace in it.

1. **Characters**: what starts or continues a word is neither a blank nor a mark.
2. **Words**: a word ends where the next character does not go on with it, and an
   identifier is a word or a raw word.
3. **Tokens**: a word with a blank or a comment behind it is read as an identifier,
   and as nothing else.
4. **Skipped text**: `Skips` relates a text to what is left of it behind blanks and
   comments.
5. **Spelling**: `Spells` says how a text names an identifier, and
   `Ident.ofText_eq_ok_iff` that the reader accepts such texts and no others.
6. **Paths**: every segment of a path that is read from a text can be spelled.
-/

namespace WireScribe

open Text Literal

/-! ## Characters -/

theorem isIdentContinue_of_isIdentStart {c : Char} (h : isIdentStart c = true) :
    isIdentContinue c = true := by
  rw [isIdentContinue, h, Bool.true_or]

/-- A class that leaves out all small code points leaves out their characters. -/
theorem eq_false_of_toNat_lt {class? : Char → Bool} {bound : Nat}
    (h : ∀ n < bound, class? (Char.ofNat n) = false) {c : Char} (hc : c.toNat < bound) :
    class? c = false := by
  have hn := h c.toNat hc
  rwa [Char.ofNat_toNat] at hn

theorem isIdentContinue_of_lt {c : Char} (h : c.toNat < 0x30) : isIdentContinue c = false := by
  have hall : ∀ n < 0x30, isIdentContinue (Char.ofNat n) = false := by decide +kernel
  exact eq_false_of_toNat_lt hall h

theorem toNat_lt_of_isDigit {c : Char} (h : c.isDigit = true) : c.toNat < 0x3a := by
  simp only [Char.isDigit, ge_iff_le, Bool.and_eq_true, decide_eq_true_eq] at h
  exact Nat.lt_succ_of_le (UInt32.le_iff_toNat_le.mp h.2)

theorem isIdentContinue_of_isDigit {c : Char} (h : c.isDigit = true) :
    isIdentContinue c = true := by
  have hlt : c.toNat < 0x80 := Nat.lt_trans (toNat_lt_of_isDigit h) (by decide)
  rw [isIdentContinue, if_pos hlt, h, Bool.or_true]

theorem isDigit_of_isIdentStart {c : Char} (h : isIdentStart c = true) : c.isDigit = false := by
  cases hdigit : c.isDigit with
  | false => rfl
  | true =>
    have hall : ∀ n < 0x3a, isIdentStart (Char.ofNat n) = false := by decide +kernel
    have hnot : isIdentStart c = false := eq_false_of_toNat_lt hall (toNat_lt_of_isDigit hdigit)
    rw [h] at hnot
    cases hnot

/-- Beyond ASCII the ranges of both classes lie between the blanks. -/
theorem ranges_between_blanks : ∀ r ∈ startRanges ++ continueOnlyRanges,
    0x3000 < r.1 ∨ (0xa0 < r.1 ∧ r.2 < 0x1680) ∨ (0x1680 < r.1 ∧ r.2 < 0x2000) ∨
      (0x200a < r.1 ∧ r.2 < 0x200e) ∨ (0x202f < r.1 ∧ r.2 < 0x205f) ∨
      (0x205f < r.1 ∧ r.2 < 0x3000) := by
  decide +kernel

theorem inRanges_of_isBlank {ranges : List (Nat × Nat)}
    (hsub : ranges ⊆ startRanges ++ continueOnlyRanges) {c : Char} (hc : isBlank c = true)
    (hascii : ¬ c.toNat < 0x80) : inRanges ranges c.toNat = false := by
  simp only [inRanges, List.any_eq_false, Bool.and_eq_true, decide_eq_true_eq, not_and]
  rintro ⟨low, high⟩ hr hlow hhigh
  have hbetween := ranges_between_blanks _ (hsub hr)
  simp only [isBlank, Bool.or_eq_true, Bool.and_eq_true, decide_eq_true_eq, beq_iff_eq] at hc
  simp only at hbetween hlow hhigh
  omega

theorem isIdentContinue_of_isBlank {c : Char} (hc : isBlank c = true) :
    isIdentContinue c = false := by
  by_cases hascii : c.toNat < 0x80
  · apply isIdentContinue_of_lt
    simp only [isBlank, Bool.or_eq_true, Bool.and_eq_true, decide_eq_true_eq, beq_iff_eq] at hc
    omega
  · have hstart := inRanges_of_isBlank (List.subset_append_left _ _) hc hascii
    have hcontinue := inRanges_of_isBlank (List.subset_append_right _ _) hc hascii
    simp [isIdentContinue, isIdentStart, hascii, hstart, hcontinue]

theorem isBlank_of_isIdentStart {c : Char} (h : isIdentStart c = true) : isBlank c = false := by
  cases hblank : isBlank c with
  | false => rfl
  | true =>
    have hcont := isIdentContinue_of_isIdentStart h
    rw [isIdentContinue_of_isBlank hblank] at hcont
    cases hcont

/-- The characters that have a meaning of their own between words. -/
def marks : List Char := punctuation ++ "\"()[]\x7b\x7d".toList

theorem isIdentContinue_of_mem_marks {c : Char} (h : c ∈ marks) : isIdentContinue c = false := by
  have hall : marks.all (fun c => !isIdentContinue c) = true := by decide +kernel
  simpa using List.all_eq_true.mp hall c h

theorem not_mem_marks {c : Char} (h : isIdentContinue c = true) : c ∉ marks := by
  intro hmem
  rw [isIdentContinue_of_mem_marks hmem] at h
  cases h

/-! ## Words -/

/-- One character that starts an identifier, and then those that go on with it. -/
def IsWord (w : List Char) : Prop :=
  ∃ c rest, w = c :: rest ∧ isIdentStart c = true ∧ ∀ d ∈ rest, isIdentContinue d = true

/-- A text that does not go on with a word in front of it. -/
def EndsWord (cs : List Char) : Prop := ∀ c ∈ cs.head?, isIdentContinue c = false

theorem endsWord_dropWhile (cs : List Char) : EndsWord (cs.dropWhile isIdentContinue) := by
  intro c hc
  have hhead := List.head?_dropWhile_not isIdentContinue cs
  rw [Option.mem_def] at hc
  rwa [hc] at hhead

theorem EndsWord.takeWhile_append {w rest : List Char} (hrest : EndsWord rest)
    (hw : ∀ d ∈ w, isIdentContinue d = true) : (w ++ rest).takeWhile isIdentContinue = w := by
  rw [List.takeWhile_append_of_pos hw]
  cases rest with
  | nil => simp
  | cons c rest => simp [hrest c rfl]

theorem EndsWord.dropWhile_append {w rest : List Char} (hrest : EndsWord rest)
    (hw : ∀ d ∈ w, isIdentContinue d = true) :
    (w ++ rest).dropWhile isIdentContinue = rest := by
  rw [List.dropWhile_append_of_pos hw]
  cases rest with
  | nil => simp
  | cons c rest => simp [hrest c rfl]

/-- The word at the front is as long as can be. -/
theorem word?_eq_some_iff {cs w rest : List Char} :
    word? cs = some (w, rest) ↔ cs = w ++ rest ∧ IsWord w ∧ EndsWord rest := by
  constructor
  · intro h
    cases cs with
    | nil => cases h
    | cons c cs =>
      rw [word?] at h
      split at h
      · rename_i hc
        cases h
        refine ⟨?_, ⟨c, _, rfl, hc, ?_⟩, endsWord_dropWhile cs⟩
        · rw [List.cons_append, List.takeWhile_append_dropWhile]
        · exact List.all_eq_true.mp List.all_takeWhile
      · cases h
  · rintro ⟨rfl, ⟨c, w, rfl, hc, hw⟩, hrest⟩
    rw [List.cons_append, word?, if_pos hc, hrest.takeWhile_append hw,
      hrest.dropWhile_append hw]

/-- An identifier that can stand in a text: its name is a word, and a word that stays
special is not marked as raw. -/
def Ident.Spellable (i : Ident) : Prop :=
  IsWord i.name.toList ∧ (i.raw = true → i.name ∉ neverRaw)

theorem Ident.text_toList (i : Ident) :
    i.text.toList = (if i.raw then ['r', '#'] else []) ++ i.name.toList := by
  rw [text]
  split <;> simp

/-- A spelled identifier starts like a word, also if it is raw. -/
theorem Ident.Spellable.text_head {i : Ident} (h : i.Spellable) :
    ∃ c rest, i.text.toList = c :: rest ∧ isIdentStart c = true := by
  obtain ⟨⟨c, w, hname, hc, -⟩, -⟩ := h
  rw [Ident.text_toList, hname]
  split
  · exact ⟨'r', _, rfl, by decide⟩
  · exact ⟨c, w, rfl, hc⟩

/-- What is read as an identifier is its spelling. -/
theorem spelled_of_ident? {cs rest : List Char} {i : Ident} (h : ident? cs = some (i, rest)) :
    cs = i.text.toList ++ rest ∧ i.Spellable ∧ EndsWord rest := by
  revert h
  fun_cases ident? cs with
  | case1 => exact fun h => nomatch h
  | case2 cs w rest' hword name hname =>
    intro h
    cases h
    obtain ⟨rfl, hw, hrest⟩ := word?_eq_some_iff.mp hword
    have hspell : IsWord name.toList := by simpa [name] using hw
    refine ⟨?_, ⟨hspell, fun _ => ?_⟩, hrest⟩
    · simp [Ident.text_toList, name]
    · simpa using hname
  | case3 => exact fun h => nomatch h
  | case4 _ _ w rest' hword =>
    intro h
    cases h
    obtain ⟨rfl, hw, hrest⟩ := word?_eq_some_iff.mp hword
    refine ⟨?_, ⟨?_, fun hraw => nomatch hraw⟩, hrest⟩
    · simp [Ident.text_toList]
    · simpa using hw
  | case5 => exact fun h => nomatch h

/-- A spelled identifier is read up to where it ends. A number sign right behind the
word `r` would start a raw word. -/
theorem ident?_of_spellable {i : Ident} {rest : List Char} (hi : i.Spellable)
    (hrest : EndsWord rest) (hsign : ∀ more, rest ≠ '#' :: more) :
    ident? (i.text.toList ++ rest) = some (i, rest) := by
  obtain ⟨raw, name⟩ := i
  obtain ⟨hw, hraw⟩ := hi
  have hword : word? (name.toList ++ rest) = some (name.toList, rest) :=
    word?_eq_some_iff.mpr ⟨rfl, hw, hrest⟩
  cases raw with
  | true =>
    have hname : name ∉ Ident.neverRaw := hraw rfl
    simp [Ident.text_toList, ident?, hword, hname]
  | false =>
    have hcs : ∀ more, name.toList ++ rest ≠ 'r' :: '#' :: more := by
      intro more heq
      obtain ⟨c, w, hname, -, hcont⟩ := hw
      rw [hname] at heq
      cases w with
      | nil => exact hsign more (List.cons.inj heq).2
      | cons d w =>
        have hd : d = '#' := (List.cons.inj (List.cons.inj heq).2).1
        have hmark : isIdentContinue '#' = false := isIdentContinue_of_mem_marks (by decide)
        rw [← hd, hcont d List.mem_cons_self] at hmark
        cases hmark
    simp [Ident.text_toList, ident?, hword]

/-! ## Tokens -/

/-- A text that starts with no quote and no number sign. -/
def Unquoted (cs : List Char) : Prop := ∀ c ∈ cs.head?, c ∉ ['"', '\x27', '#']

theorem after?_of_unquoted {q : Char} (hq : q ∈ ['"', '\x27', '#']) (qs : List Char)
    {cs : List Char} (h : Unquoted cs) : after? (q :: qs) cs = none := by
  cases cs with
  | nil => rfl
  | cons c cs =>
    have hne : q ≠ c := by
      rintro rfl
      exact h q rfl hq
    rw [after?, if_neg hne]

theorem raw?_of_unquoted (q : Quoting) {cs : List Char} (h : Unquoted cs) : raw? q cs = none := by
  cases cs with
  | nil => rfl
  | cons c cs =>
    have hc := h c rfl
    simp only [List.mem_cons, List.not_mem_nil, or_false, not_or] at hc
    simp [raw?, hc]

/-- A text that starts with a word opens no quoted literal, unless a quote or a number
sign cuts the word off. -/
theorem quoted?_of_word {c : Char} {cs : List Char} (hc : isIdentStart c = true)
    (hcs : Unquoted cs) (hmore : ∀ more, cs = 'r' :: more → Unquoted more) :
    quoted? (c :: cs) = none := by
  have hmark := not_mem_marks (isIdentContinue_of_isIdentStart hc)
  generalize htext : c :: cs = text
  fun_cases quoted? text with
  | case1 rest | case8 rest =>
    obtain ⟨rfl, -⟩ := List.cons.inj htext
    exact absurd (by decide) hmark
  | case2 rest =>
    obtain ⟨-, rfl⟩ := List.cons.inj htext
    exact raw?_of_unquoted _ hcs
  | case3 rest | case5 rest | case7 rest =>
    obtain ⟨-, rfl⟩ := List.cons.inj htext
    exact absurd (by decide) (hcs _ rfl)
  | case4 rest | case6 rest =>
    obtain ⟨-, rfl⟩ := List.cons.inj htext
    exact raw?_of_unquoted _ (hmore rest rfl)
  | case9 => rfl

theorem hexDigit?_of_not_isDigit {c : Char} (hc : c.isDigit = false) {d : Nat}
    (h : hexDigit? c = some d) : 10 ≤ d := by
  simp only [hexDigit?, hc, Bool.false_eq_true, ↓reduceIte] at h
  split at h
  · cases h
    omega
  · split at h
    · cases h
      omega
    · cases h

theorem number?_of_word {c : Char} (hc : isIdentStart c = true) (cs : List Char) :
    number? (c :: cs) = none := by
  have hdigit := isDigit_of_isIdentStart hc
  have hzero : c ≠ '0' := by
    rintro rfl
    exact absurd hdigit (by decide)
  have hfloat : float? (c :: cs) = none := by simp [float?, hdigit]
  have hint : integer? 10 true (c :: cs) = none := by
    rw [integer?]
    split
    · rfl
    · split
      · rename_i d hd
        have hge := hexDigit?_of_not_isDigit hdigit hd
        rw [if_neg (Nat.not_lt.mpr hge)]
        simp
      · rfl
  have hint' : int? (c :: cs) = none := by
    rw [int?]
    · exact hint
    all_goals exact fun rest h => hzero (List.cons.inj h).1
  simp [number?, hfloat, hint']

theorem punct?_of_word {c : Char} (hc : isIdentStart c = true) (cs : List Char) :
    punct? (c :: cs) = none := by
  have hmark := not_mem_marks (isIdentContinue_of_isIdentStart hc)
  have hstarts : startsPunct (c :: cs) = false := by
    generalize htext : c :: cs = text
    fun_cases startsPunct text with
    | case1 rest | case2 rest => rfl
    | case3 d rest =>
      obtain ⟨rfl, -⟩ := List.cons.inj htext
      have hpunct : c ∉ punctuation := fun h => hmark (List.mem_append_left _ h)
      simpa using hpunct
    | case4 => rfl
  simp [punct?, hstarts]

theorem bracket?_of_word {c : Char} (hc : isIdentStart c = true) (cs : List Char) :
    bracket? (c :: cs) = none := by
  have hmark := not_mem_marks (isIdentContinue_of_isIdentStart hc)
  have hopen : Delimiter.ofOpen? c = none := by
    fun_cases Delimiter.ofOpen? c with
    | case4 => rfl
    | _ => exact absurd (by decide) hmark
  have hclose : Delimiter.ofClose? c = none := by
    fun_cases Delimiter.ofClose? c with
    | case4 => rfl
    | _ => exact absurd (by decide) hmark
  have hlost : after? lostLiteral.toList (c :: cs) = none := by
    have hne : '(' ≠ c := by
      rintro rfl
      exact absurd (by decide) hmark
    rw [show lostLiteral.toList = '(' :: "/*ERROR*/)".toList from rfl, after?, if_neg hne]
  simp [bracket?, hopen, hclose, hlost]

theorem literalMarks_eq : literalMarks = [['r', '"'], ['r', '#', '"'], ['r', '#', '#'], ['b', '"'],
    ['b', '\x27'], ['b', 'r', '"'], ['b', 'r', '#'], ['c', '"'], ['c', 'r', '"'],
    ['c', 'r', '#']] := by
  decide

/-- No literal is promised by a text that starts with a word, unless a quote or a
number sign cuts the word off. -/
theorem literalMarks_of_word {c : Char} {cs : List Char} (hcs : Unquoted cs)
    (hmore : ∀ more, cs = 'r' :: more → Unquoted more) :
    (literalMarks.any fun mark => (after? mark (c :: cs)).isSome) = false := by
  have htwo : ∀ m q qs, q ∈ ['"', '\x27', '#'] → after? (m :: q :: qs) (c :: cs) = none := by
    intro m q qs hq
    rw [after?, after?_of_unquoted hq qs hcs]
    split <;> rfl
  have hthree : ∀ m q qs, q ∈ ['"', '\x27', '#'] →
      after? (m :: 'r' :: q :: qs) (c :: cs) = none := by
    intro m q qs hq
    rw [after?]
    split
    · cases cs with
      | nil => rfl
      | cons d cs =>
        rw [after?]
        split
        · rename_i hd
          exact after?_of_unquoted hq qs (hmore cs (by rw [hd]))
        · rfl
    · rfl
  simp [literalMarks_eq, htwo, hthree]

theorem token?_of_ident {c : Char} {cs rest : List Char} {i : Ident} (hc : isIdentStart c = true)
    (hquoted : quoted? (c :: cs) = none)
    (hmarks : (literalMarks.any fun mark => (after? mark (c :: cs)).isSome) = false)
    (hident : ident? (c :: cs) = some (i, rest)) :
    token? (c :: cs) = some (.ident i, rest) := by
  have hlit : literal? (c :: cs) = none := by rw [literal?, hquoted, number?_of_word hc]
  simp [token?, hlit, punct?_of_word hc, hmarks, hident]

/-- A text that starts, if at all, with a blank or a slash. -/
def Parted (cs : List Char) : Prop := ∀ c ∈ cs.head?, isBlank c = true ∨ c = '/'

namespace Parted

variable {rest : List Char} (h : Parted rest)

include h

theorem endsWord : EndsWord rest := by
  intro c hc
  rcases h c hc with hblank | rfl
  · exact isIdentContinue_of_isBlank hblank
  · exact isIdentContinue_of_mem_marks (by decide)

theorem ne_cons {c : Char} (hblank : isBlank c = false) (hslash : c ≠ '/') (more : List Char) :
    rest ≠ c :: more := by
  rintro rfl
  rcases h c rfl with hc | hc
  · rw [hblank] at hc
    cases hc
  · exact hslash hc

theorem unquoted : Unquoted rest := by
  intro c hc hquote
  obtain ⟨hblank, hslash⟩ : isBlank c = false ∧ c ≠ '/' := by
    simp only [List.mem_cons, List.not_mem_nil, or_false] at hquote
    rcases hquote with rfl | rfl | rfl <;> decide
  cases rest with
  | nil => cases hc
  | cons d rest =>
    cases hc
    exact h.ne_cons hblank hslash rest rfl

/-- Neither does a word in front of it start with a quote or a number sign. -/
theorem unquoted_append {w : List Char} (hw : ∀ d ∈ w, isIdentContinue d = true) :
    Unquoted (w ++ rest) := by
  cases w with
  | nil => exact h.unquoted
  | cons d w =>
    intro c hc hquote
    cases hc
    have hmark : d ∈ marks := by
      simp only [List.mem_cons, List.not_mem_nil, or_false] at hquote
      rcases hquote with rfl | rfl | rfl <;> decide
    exact not_mem_marks (hw d List.mem_cons_self) hmark

end Parted

/-- A spelled identifier is the next token, if a blank or a comment parts it from what
follows. -/
theorem token?_of_spellable {i : Ident} {rest : List Char} (hi : i.Spellable)
    (hrest : Parted rest) : token? (i.text.toList ++ rest) = some (.ident i, rest) := by
  have hident := ident?_of_spellable hi hrest.endsWord (hrest.ne_cons (by decide) (by decide))
  obtain ⟨raw, name⟩ := i
  obtain ⟨⟨c, w, hname, hc, hw⟩, hraw⟩ := hi
  have hunquoted := hrest.unquoted_append hw
  cases raw with
  | false =>
    have htext : (⟨false, name⟩ : Ident).text.toList ++ rest = c :: (w ++ rest) := by
      rw [Ident.text_toList, hname]
      rfl
    have hmore : ∀ more, w ++ rest = 'r' :: more → Unquoted more := by
      intro more heq
      cases w with
      | nil => exact absurd heq (hrest.ne_cons (by decide) (by decide) more)
      | cons d w =>
        obtain ⟨-, rfl⟩ := List.cons.inj heq
        exact hrest.unquoted_append fun e he => hw e (List.mem_cons_of_mem d he)
    rw [htext] at hident ⊢
    exact token?_of_ident hc (quoted?_of_word hc hunquoted hmore)
      (literalMarks_of_word hunquoted hmore) hident
  | true =>
    have htext : (⟨true, name⟩ : Ident).text.toList ++ rest =
        'r' :: '#' :: c :: (w ++ rest) := by
      rw [Ident.text_toList, hname]
      rfl
    -- behind the mark stands neither a quote nor another number sign
    have hmark := not_mem_marks (isIdentContinue_of_isIdentStart hc)
    have hquote : c ≠ '"' := by
      rintro rfl
      exact absurd (by decide) hmark
    have hsign : c ≠ '#' := by
      rintro rfl
      exact absurd (by decide) hmark
    have hquoted : quoted? ('r' :: '#' :: c :: (w ++ rest)) = none := by
      simp [quoted?, raw?, hquote, hsign]
    have hmarks : (literalMarks.any fun mark =>
        (after? mark ('r' :: '#' :: c :: (w ++ rest))).isSome) = false := by
      simp [literalMarks_eq, after?, hquote.symm, hsign.symm]
    rw [htext] at hident ⊢
    exact token?_of_ident (by decide) hquoted hmarks hident

/-! ## Skipped text -/

/-- Blanks and comments lead from a text to what is left of it. Documentation comments
do not count, because they stand for tokens. -/
inductive Skips : List Char → List Char → Prop where
  | refl (cs : List Char) : Skips cs cs
  | blank {c : Char} {cs rest : List Char} (hc : isBlank c = true) (h : Skips cs rest) :
    Skips (c :: cs) rest
  | line {cs rest : List Char} (hdoc : docLine? cs = none) (h : Skips (dropLine cs) rest) :
    Skips ('/' :: '/' :: cs) rest
  | block {cs more rest : List Char} (hend : dropBlock? 0 cs = some more)
      (hdoc : docBlock? cs = none) (h : Skips more rest) : Skips ('/' :: '*' :: cs) rest

/-- Text that is skipped to its end starts with a blank or a comment. -/
theorem Skips.parted {cs : List Char} (h : Skips cs []) : Parted cs := by
  cases h with
  | refl => exact fun c hc => nomatch hc
  | blank hblank _ =>
    intro c hc
    cases hc
    exact .inl hblank
  | line _ _ | block _ _ _ =>
    intro c hc
    cases hc
    exact .inr rfl

/-- Nothing is skipped where a word starts. -/
theorem Skips.eq_of_isIdentStart {c : Char} {cs rest : List Char} (hc : isIdentStart c = true)
    (h : Skips (c :: cs) rest) : rest = c :: cs := by
  cases h with
  | refl => rfl
  | blank hblank _ =>
    rw [isBlank_of_isIdentStart hc] at hblank
    cases hblank
  | line _ _ | block _ _ _ => exact absurd hc (by decide)

theorem dropLine_suffix (cs : List Char) : dropLine cs <:+ cs := by
  fun_induction dropLine cs with
  | case1 => exact List.suffix_rfl
  | case2 rest => exact List.suffix_rfl
  | case3 c rest _ ih => exact ih.trans (List.suffix_cons c rest)

theorem dropBlock?_suffix {depth : Nat} {cs rest : List Char}
    (h : dropBlock? depth cs = some rest) : rest <:+ cs := by
  fun_induction dropBlock? depth cs with
  | case1 => cases h
  | case2 depth cs ih | case4 depth cs ih =>
    exact (ih h).trans ((List.suffix_cons _ cs).trans (List.suffix_cons _ _))
  | case3 cs =>
    cases h
    exact (List.suffix_cons _ _).trans (List.suffix_cons _ _)
  | case5 depth c cs _ _ _ ih => exact (ih h).trans (List.suffix_cons c cs)

theorem Skips.suffix {cs rest : List Char} (h : Skips cs rest) : rest <:+ cs := by
  induction h with
  | refl cs => exact List.suffix_rfl
  | blank _ _ ih => exact ih.trans (List.suffix_cons _ _)
  | line _ _ ih =>
    exact (ih.trans (dropLine_suffix _)).trans ((List.suffix_cons _ _).trans (List.suffix_cons _ _))
  | block hend _ _ ih =>
    exact (ih.trans (dropBlock?_suffix hend)).trans
      ((List.suffix_cons _ _).trans (List.suffix_cons _ _))

/-- The tokens are those of some documentation. -/
def IsAttribute (found : List Token) : Prop :=
  ∃ (doc : DocTarget) (text : List Char), found = doc.attribute text

/-- An attribute starts with a number sign. -/
theorem IsAttribute.head {found : List Token} (h : IsAttribute found) :
    ∃ more, found = .punct '#' false :: more := by
  rcases h with ⟨doc, text, rfl⟩
  cases doc <;> exact ⟨_, rfl⟩

/-- A comment stands for nothing, or for an attribute. -/
theorem comment?_cases {target : Option DocTarget} {text : List Char} {found : List Token}
    (h : comment? target text = some found) :
    (target = none ∧ found = []) ∨ IsAttribute found := by
  cases target with
  | none =>
    cases h
    exact .inl ⟨rfl, rfl⟩
  | some target =>
    rw [comment?] at h
    split at h
    · cases h
    · cases h
      exact .inr ⟨target, text, rfl⟩

theorem lineComment?_cases {cs rest : List Char} {found : List Token}
    (h : lineComment? cs = some (found, rest)) :
    (docLine? cs = none ∧ rest = dropLine cs ∧ found = []) ∨ IsAttribute found := by
  obtain ⟨found', hcomment, heq⟩ := Option.map_eq_some_iff.mp h
  cases heq
  rcases comment?_cases hcomment with ⟨hdoc, rfl⟩ | hattr
  · exact .inl ⟨hdoc, rfl, rfl⟩
  · exact .inr hattr

theorem blockComment?_cases {cs rest : List Char} {found : List Token}
    (h : blockComment? cs = some (found, rest)) :
    (dropBlock? 0 cs = some rest ∧ docBlock? cs = none ∧ found = []) ∨ IsAttribute found := by
  rw [blockComment?] at h
  split at h
  · rename_i rest' hend
    obtain ⟨found', hcomment, heq⟩ := Option.map_eq_some_iff.mp h
    cases heq
    rcases comment?_cases hcomment with ⟨hdoc, rfl⟩ | hattr
    · exact .inl ⟨hend, hdoc, rfl⟩
    · exact .inr hattr
  · cases h

theorem lexeme?_line (cs : List Char) : lexeme? ('/' :: '/' :: cs) = lineComment? cs := rfl

theorem lexeme?_block (cs : List Char) : lexeme? ('/' :: '*' :: cs) = blockComment? cs := rfl

/-- What one step of the scanner can do: skip a blank or a comment, read an attribute,
or read a bracket or a token. -/
theorem lexeme?_cases {cs rest : List Char} {found : List Token}
    (h : lexeme? cs = some (found, rest)) :
    (found = [] ∧ ∀ last, Skips rest last → Skips cs last) ∨ IsAttribute found ∨
    (∃ t, bracket? cs = some (t, rest) ∧ found = [t]) ∨
    ∃ t, token? cs = some (t, rest) ∧ found = [t] := by
  revert h
  fun_cases lexeme? cs with
  | case1 => exact fun h => nomatch h
  | case2 cs =>
    intro h
    rcases lineComment?_cases h with ⟨hdoc, rfl, rfl⟩ | hattr
    · exact .inl ⟨rfl, fun _ => .line hdoc⟩
    · exact .inr (.inl hattr)
  | case3 cs =>
    intro h
    rcases blockComment?_cases h with ⟨hend, hdoc, rfl⟩ | hattr
    · exact .inl ⟨rfl, fun _ => .block hend hdoc⟩
    · exact .inr (.inl hattr)
  | case4 c cs _ _ hblank =>
    intro h
    cases h
    exact .inl ⟨rfl, fun _ => .blank hblank⟩
  | case5 c cs _ _ _ t rest' hbracket =>
    intro h
    rw [hbracket] at h
    cases h
    exact .inr (.inr (.inl ⟨t, hbracket, rfl⟩))
  | case6 c cs _ _ _ t rest' hbracket htoken =>
    intro h
    rw [hbracket, htoken] at h
    cases h
    exact .inr (.inr (.inr ⟨t, htoken, rfl⟩))
  | case7 c cs _ _ _ hbracket htoken =>
    intro h
    rw [hbracket, htoken] at h
    cases h

/-- A step at the front of anything but a comment. -/
theorem lexeme?_of_ne_slash {c : Char} (hslash : c ≠ '/') (cs : List Char) :
    lexeme? (c :: cs) =
      if isBlank c then some ([], cs)
      else
        match bracket? (c :: cs) with
        | some (t, rest) => some ([t], rest)
        | none => (token? (c :: cs)).map fun (t, rest) => ([t], rest) := by
  unfold lexeme?
  split
  · rename_i heq
    cases heq
  · rename_i heq
    exact absurd (List.cons.inj heq).1 hslash
  · rename_i heq
    exact absurd (List.cons.inj heq).1 hslash
  · rename_i heq
    obtain ⟨rfl, rfl⟩ := List.cons.inj heq
    cases token? (_ :: _) <;> rfl

theorem lexeme?_blank {c : Char} (hc : isBlank c = true) (cs : List Char) :
    lexeme? (c :: cs) = some ([], cs) := by
  have hslash : c ≠ '/' := by
    rintro rfl
    exact absurd hc (by decide)
  rw [lexeme?_of_ne_slash hslash, if_pos hc]

theorem lexeme?_token {c : Char} {cs rest : List Char} {t : Token} (hc : isIdentStart c = true)
    (htoken : token? (c :: cs) = some (t, rest)) :
    lexeme? (c :: cs) = some ([t], rest) := by
  have hslash : c ≠ '/' := by
    rintro rfl
    exact absurd hc (by decide)
  have hblank := isBlank_of_isIdentStart hc
  rw [lexeme?_of_ne_slash hslash, hblank, bracket?_of_word hc, htoken]
  rfl

/-! ## Spelling -/

theorem lexemes?_of_lexeme? {cs rest : List Char} {found : List Token}
    (h : lexeme? cs = some (found, rest)) (hlt : rest.length < cs.length) :
    lexemes? cs = (lexemes? rest).map (found ++ ·) := by
  have hne : cs.isEmpty = false := by
    cases cs with
    | nil => simp at hlt
    | cons c cs => rfl
  rw [lexemes?, hne, h]
  simp only [hlt, Bool.false_eq_true, ↓reduceIte]
  cases lexemes? rest <;> rfl

/-- Skipped text leaves no tokens behind. -/
theorem Skips.lexemes?_eq {cs rest : List Char} (h : Skips cs rest) :
    lexemes? cs = lexemes? rest := by
  have hskip : ∀ {cs rest : List Char}, lexeme? cs = some ([], rest) → rest.length < cs.length →
      lexemes? cs = lexemes? rest := by
    intro cs rest h hlt
    rw [lexemes?_of_lexeme? h hlt]
    simp
  induction h with
  | refl cs => rfl
  | blank hc _ ih => rw [hskip (lexeme?_blank hc _) (by simp), ih]
  | @line cs rest hdoc _ ih =>
    have hstep : lexeme? ('/' :: '/' :: cs) = some ([], dropLine cs) := by
      simp [lexeme?_line, lineComment?, comment?, hdoc]
    have hlen := (dropLine_suffix cs).length_le
    rw [hskip hstep (by simp only [List.length_cons]; omega), ih]
  | @block cs more rest hend hdoc _ ih =>
    have hstep : lexeme? ('/' :: '*' :: cs) = some ([], more) := by
      simp [lexeme?_block, blockComment?, comment?, hend, hdoc]
    have hlen := (dropBlock?_suffix hend).length_le
    rw [hskip hstep (by simp only [List.length_cons]; omega), ih]

theorem lexemes?_nil : lexemes? [] = some [] := by
  rw [lexemes?]
  rfl

theorem punct?_token {cs rest : List Char} {t : Token} (h : punct? cs = some (t, rest)) :
    ∃ c joint, t = .punct c joint := by
  cases cs with
  | nil => cases h
  | cons c cs =>
    simp only [punct?] at h
    split at h
    · cases h
    · split at h
      · split at h
        · cases h
          exact ⟨_, _, rfl⟩
        · cases h
      · cases h
        exact ⟨_, _, rfl⟩

theorem ident?_of_token? {cs rest : List Char} {i : Ident}
    (h : token? cs = some (.ident i, rest)) : ident? cs = some (i, rest) := by
  revert h
  fun_cases token? cs with
  | case1 => exact fun h => nomatch h
  | case2 _ found hpunct =>
    intro h
    cases h
    obtain ⟨c, joint, hc⟩ := punct?_token hpunct
    cases hc
  | case3 => exact fun h => nomatch h
  | case4 _ _ _ j rest' hident =>
    intro h
    cases h
    exact hident
  | case5 => exact fun h => nomatch h

/-- No bracket is an identifier or punctuation. -/
theorem bracket?_token {cs rest : List Char} {t : Token} (h : bracket? cs = some (t, rest)) :
    (∀ i, t ≠ .ident i) ∧ ∀ c joint, t ≠ .punct c joint := by
  cases cs with
  | nil => cases h
  | cons c cs =>
    simp only [bracket?] at h
    split at h <;> cases h <;> simp

/-- A text without tokens is skipped to its end. -/
theorem skips_of_lexemes? {cs : List Char} (h : lexemes? cs = some []) : Skips cs [] := by
  fun_induction lexemes? cs with
  | case1 cs hempty =>
    rw [List.isEmpty_iff.mp hempty]
    exact .refl []
  | case2 cs _ found rest hstep _ more hmore ih =>
    obtain ⟨rfl, rfl⟩ := List.append_eq_nil_iff.mp (Option.some.inj h)
    rcases lexeme?_cases hstep with ⟨-, hskip⟩ | hattr | ⟨t, -, ht⟩ | ⟨t, -, ht⟩
    · exact hskip [] (ih hmore)
    · rcases hattr.head with ⟨more, hmore⟩
      cases hmore
    · cases ht
    · cases ht
  | case3 => cases h
  | case4 => cases h
  | case5 => cases h

/-- A text whose one token is an identifier spells it, with skipped text on either
side. -/
theorem spelled_of_lexemes? {cs : List Char} {i : Ident}
    (h : lexemes? cs = some [.ident i]) :
    i.Spellable ∧ ∃ trail, Skips cs (i.text.toList ++ trail) ∧ Skips trail [] := by
  fun_induction lexemes? cs with
  | case1 => cases h
  | case2 cs _ found rest hstep _ more hmore ih =>
    rcases List.append_eq_singleton_iff.mp (Option.some.inj h) with ⟨rfl, rfl⟩ | ⟨rfl, rfl⟩
    · -- a step that reads nothing skips text in front of the identifier
      obtain ⟨hi, trail, hfront, hback⟩ := ih hmore
      rcases lexeme?_cases hstep with ⟨-, hskip⟩ | hattr | ⟨t, -, ht⟩ | ⟨t, -, ht⟩
      · exact ⟨hi, trail, hskip _ hfront, hback⟩
      · rcases hattr.head with ⟨more, hmore⟩
        cases hmore
      · cases ht
      · cases ht
    · -- the step that reads the identifier is the last one to read anything
      rcases lexeme?_cases hstep with ⟨hnil, -⟩ | hattr | ⟨t, hbracket, ht⟩ | ⟨t, htoken, ht⟩
      · cases hnil
      · rcases hattr.head with ⟨more, hmore⟩
        cases hmore
      · cases ht
        exact absurd rfl ((bracket?_token hbracket).1 i)
      · cases ht
        obtain ⟨rfl, hi, -⟩ := spelled_of_ident? (ident?_of_token? htoken)
        exact ⟨hi, rest, .refl _, skips_of_lexemes? hmore⟩
  | case3 => cases h
  | case4 => cases h
  | case5 => cases h

/-- A spelled identifier is the first token, if a blank or a comment parts it from what
follows. -/
theorem lexemes?_of_spellable {i : Ident} {rest : List Char} (hi : i.Spellable)
    (hrest : Parted rest) :
    lexemes? (i.text.toList ++ rest) = (lexemes? rest).map (.ident i :: ·) := by
  have htoken := token?_of_spellable hi hrest
  obtain ⟨c, w, hspell, hc⟩ := hi.text_head
  rw [hspell, List.cons_append] at htoken ⊢
  have hlt : rest.length < (c :: (w ++ rest)).length := by
    simp only [List.length_append, List.length_cons]
    omega
  rw [lexemes?_of_lexeme? (lexeme?_token hc htoken) hlt]
  rfl

/-- A spelled identifier between skipped texts is the only token. -/
theorem lexemes?_of_spelled {cs trail : List Char} {i : Ident} (hi : i.Spellable)
    (hfront : Skips cs (i.text.toList ++ trail)) (hback : Skips trail []) :
    lexemes? cs = some [.ident i] := by
  rw [hfront.lexemes?_eq, lexemes?_of_spellable hi hback.parted, hback.lexemes?_eq, lexemes?_nil]
  rfl

/-- A text without the byte order mark in front of it. -/
def unmarked : List Char → List Char
  | '\ufeff' :: rest => rest
  | cs => cs

theorem unmarked_suffix (cs : List Char) : unmarked cs <:+ cs := by
  fun_cases unmarked cs with
  | case1 rest => exact List.suffix_cons _ rest
  | case2 => exact List.suffix_rfl

theorem tokens?_eq (text : String) :
    tokens? text = (lexemes? (unmarked text.toList)).filter (balanced []) := by
  fun_cases tokens? text with
  | case1 cs ts hts hbalanced =>
    have hunmarked : lexemes? (unmarked text.toList) = some ts := hts
    rw [hunmarked, Option.filter_some, if_pos hbalanced]
  | case2 cs ts hts hbalanced =>
    have hunmarked : lexemes? (unmarked text.toList) = some ts := hts
    rw [hunmarked, Option.filter_some, if_neg hbalanced]
  | case3 cs hts =>
    have hunmarked : lexemes? (unmarked text.toList) = none := hts
    rw [hunmarked]
    rfl

theorem tokens?_eq_some_iff {text : String} {ts : List Token} :
    tokens? text = some ts ↔
      lexemes? (unmarked text.toList) = some ts ∧ balanced [] ts = true := by
  rw [tokens?_eq, Option.filter_eq_some_iff]

theorem tokens?_eq_ident_iff {text : String} {i : Ident} :
    tokens? text = some [.ident i] ↔ lexemes? (unmarked text.toList) = some [.ident i] := by
  rw [tokens?_eq_some_iff]
  exact and_iff_left rfl

/-- How a text names an identifier: the name stands in it as a word behind a lead and
before a trail. The trail is skipped text, and so is the lead, up to a byte order mark
in front of it and the mark of a raw word at its end. -/
structure Spells (text : String) (lead : List Char) (i : Ident) (trail : List Char) : Prop where
  whole : text.toList = lead ++ (i.name.toList ++ trail)
  ident : i.Spellable
  front : Skips (unmarked text.toList) (i.text.toList ++ trail)
  back : Skips trail []

theorem tokens?_eq_ident_iff_spells {text : String} {i : Ident} :
    tokens? text = some [.ident i] ↔ ∃ lead trail, Spells text lead i trail := by
  rw [tokens?_eq_ident_iff]
  constructor
  · intro h
    obtain ⟨hi, trail, hfront, hback⟩ := spelled_of_lexemes? h
    -- the name is the last part of what the lead leads to
    have hsuffix : i.name.toList ++ trail <:+ text.toList := by
      refine List.IsSuffix.trans ?_ (hfront.suffix.trans (unmarked_suffix _))
      rw [Ident.text_toList, List.append_assoc]
      exact List.suffix_append _ _
    obtain ⟨lead, hlead⟩ := hsuffix
    exact ⟨lead, trail, hlead.symm, hi, hfront, hback⟩
  · rintro ⟨lead, trail, h⟩
    exact lexemes?_of_spelled h.ident h.front h.back

theorem headIdent_eq_ok_iff {ts rest : List Token} {i : Ident} :
    headIdent ts = .ok (i, rest) ↔ ts = .ident i :: rest ∧ i.isKeyword = false := by
  fun_cases headIdent ts <;> grind

theorem Ident.ofTokens_eq_ok_iff {ts : List Token} {i : Ident} :
    Ident.ofTokens ts = .ok i ↔ ts = [.ident i] ∧ i.isKeyword = false := by
  rw [← headIdent_eq_ok_iff]
  fun_cases Ident.ofTokens ts <;> simp_all

/-- The texts that are read as an identifier are those that spell it, unless it is a
keyword. -/
theorem Ident.ofText_eq_ok_iff {text : String} {i : Ident} :
    Ident.ofText text = .ok i ↔ (∃ lead trail, Spells text lead i trail) ∧ i.isKeyword = false := by
  rw [← tokens?_eq_ident_iff_spells]
  fun_cases Ident.ofText text with
  | case1 ts hts => rw [Ident.ofTokens_eq_ok_iff, hts, Option.some.injEq]
  | case2 hnone =>
    rw [hnone]
    constructor
    · exact fun h => nomatch h
    · exact fun h => nomatch h.1

/-! ## Paths -/

theorem spellable_doc : Ident.Spellable ⟨false, "doc"⟩ :=
  ⟨⟨'d', ['o', 'c'], rfl, by decide, List.all_eq_true.mp (by decide)⟩, fun hraw => nomatch hraw⟩

theorem spellable_of_mem_lexeme? {cs rest : List Char} {found : List Token} {i : Ident}
    (h : lexeme? cs = some (found, rest)) (hi : Token.ident i ∈ found) : i.Spellable := by
  rcases lexeme?_cases h with ⟨rfl, -⟩ | ⟨doc, text, rfl⟩ | ⟨t, hbracket, rfl⟩ | ⟨t, htoken, rfl⟩
  · cases hi
  · -- the one identifier of an attribute is its name
    have hdoc : i = ⟨false, "doc"⟩ := by
      cases doc <;> simpa [DocTarget.attribute, DocTarget.signs] using hi
    rw [hdoc]
    exact spellable_doc
  · exact absurd (List.mem_singleton.mp hi).symm ((bracket?_token hbracket).1 i)
  · rw [← List.mem_singleton.mp hi] at htoken
    exact (spelled_of_ident? (ident?_of_token? htoken)).2.1

theorem spellable_of_mem_lexemes? {cs : List Char} {ts : List Token} {i : Ident}
    (h : lexemes? cs = some ts) (hi : Token.ident i ∈ ts) : i.Spellable := by
  fun_induction lexemes? cs generalizing ts with
  | case1 =>
    cases h
    cases hi
  | case2 cs _ found rest hstep _ more hmore ih =>
    cases h
    rcases List.mem_append.mp hi with hfound | hrest
    · exact spellable_of_mem_lexeme? hstep hfound
    · exact ih hmore hrest
  | case3 => cases h
  | case4 => cases h
  | case5 => cases h

theorem except_map_eq_ok_iff {ε α β : Type} {f : α → β} {x : Except ε α} {b : β} :
    x.map f = .ok b ↔ ∃ a, x = .ok a ∧ f a = b := by
  cases x <;> simp [Except.map]

namespace Path

/-- Reading goes forward, so what is read as a segment stands among the tokens. -/
theorem mem_tokens_of_segmentsOf {reader : ArgumentReader} {ts : List Token}
    {segments : List Segment} {s : Segment} (h : segmentsOf reader ts = .ok segments)
    (hs : s ∈ segments) : Token.ident s.ident ∈ ts := by
  fun_induction segmentsOf reader ts generalizing segments with
  | case4 i behind _ arguments hargs =>
    cases h
    rw [List.mem_singleton.mp hs]
    exact List.mem_cons_self
  | case6 i behind _ arguments joint more _ hargs ih =>
    obtain ⟨segments', hmore, rfl⟩ := except_map_eq_ok_iff.mp h
    rcases List.mem_cons.mp hs with rfl | hs
    · exact List.mem_cons_self
    · have hmem := List.mem_cons_of_mem (.punct ':' true)
        (List.mem_cons_of_mem (.punct ':' joint) (ih hmore hs))
      exact List.mem_cons_of_mem _ ((argumentsOf_suffix hargs).subset hmem)
  | _ => cases h

theorem mem_tokens_of_ofTokens {reader : ArgumentReader} {ts : List Token} {p : Path}
    {s : Segment} (h : ofTokens reader ts = .ok p) (hs : s ∈ p.segments) :
    Token.ident s.ident ∈ ts := by
  revert h
  fun_cases ofTokens reader ts with
  | case1 joint rest =>
    intro h
    obtain ⟨segments, hsegments, rfl⟩ := except_map_eq_ok_iff.mp h
    simp [mem_tokens_of_segmentsOf hsegments hs]
  | case2 =>
    intro h
    obtain ⟨segments, hsegments, rfl⟩ := except_map_eq_ok_iff.mp h
    exact mem_tokens_of_segmentsOf hsegments hs

/-- The texts that are read as a path are those whose tokens are. -/
theorem ofText_eq_ok_iff {reader : ArgumentReader} {text : String} {p : Path} :
    ofText reader text = .ok p ↔ ∃ ts, tokens? text = some ts ∧ ofTokens reader ts = .ok p := by
  unfold ofText
  cases hts : tokens? text with
  | none => simp [inText]
  | some ts => cases hread : ofTokens reader ts <;> simp [inText, hread]

/-- The segments of a path that is read from a text can be spelled. -/
theorem spellable_of_ofText {reader : ArgumentReader} {text : String} {p : Path}
    (h : ofText reader text = .ok p) : ∀ s ∈ p.segments, s.ident.Spellable := by
  intro s hs
  rcases ofText_eq_ok_iff.mp h with ⟨ts, hts, hpath⟩
  exact spellable_of_mem_lexemes? (tokens?_eq_some_iff.mp hts).1
    (mem_tokens_of_ofTokens hpath hs)

end Path

end WireScribe
