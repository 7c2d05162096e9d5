import WireScribe.Proofs.CodeText
import WireScribe.Proofs.ReservedNames

/-!
# WireScribe.Proofs.ArgumentCode — what the code of an argument tells

A path, a borrowed or copied value, a tag and a size are all rows of words in code. If
the names in an argument stand in its code as they are, then the code tells the
argument. Only the member that counts a container is lost, because lists and sets are
counted in the same way.

1. **Names in code**: a name is none of the marks that code puts between names.
2. **Paths to values**: exact names, and paths with a mark that borrows or copies.
3. **Items**: what stands below a configured path, whose generic arguments are one run.
4. **Arguments**: what kind of argument some code stands for, and which.
-/

namespace WireScribe

open Text Literal

variable {inner outer : Option (List Token)}

/-! ## Names in code -/

/-- The token is a name. -/
def Code.IsName (c : Code) : Prop := ∃ i : Ident, i.Spellable ∧ c = i.code

theorem Ident.Spellable.text_chars {i : Ident} (h : i.Spellable) :
    ∀ c ∈ i.text.toList, isIdentContinue c = true ∨ c = '#' := by
  intro c hc
  rcases h with ⟨⟨d, w, hname, hd, hw⟩, -⟩
  rw [Ident.text_toList, hname] at hc
  rcases List.mem_append.mp hc with hmark | hname
  · split at hmark
    · simp only [List.mem_cons, List.not_mem_nil, or_false] at hmark
      rcases hmark with rfl | rfl <;> decide
    · cases hmark
  · left
    rcases List.mem_cons.mp hname with rfl | hmem
    · exact isIdentContinue_of_isIdentStart hd
    · exact hw c hmem

theorem Code.IsName.clean {c : Code} (h : c.IsName) : c.Clean inner outer := by
  rcases h with ⟨i, hi, rfl⟩
  constructor
  · rcases hi.text_head with ⟨first, rest, htext, -⟩
    rw [htext]
    exact List.cons_ne_nil _ _
  · intro c hc hbound
    have hall : bounds.all (fun c => !isIdentContinue c && c != '#') = true := by decide
    have hbounds := List.all_eq_true.mp hall c hbound
    rcases hi.text_chars c hc with hcont | rfl
    · simp [hcont] at hbounds
    · simp at hbounds

/-- The marks that code puts around names. -/
def codeMarks : List String := [".", "::", ",", "&", "*", "?", ";"]

theorem Code.IsName.ne_mark {c : Code} (h : c.IsName) {mark : String} (hmark : mark ∈ codeMarks) :
    c ≠ .word mark := by
  rintro rfl
  rcases h with ⟨i, hi, hword⟩
  rcases hi.text_head with ⟨first, rest, htext, hfirst⟩
  have hall : codeMarks.all (fun mark => mark.toList.head?.all fun c => !isIdentStart c) = true := by
    decide
  have hstart := List.all_eq_true.mp hall mark hmark
  rw [Code.word.inj hword, htext] at hstart
  simp [hfirst] at hstart

theorem Binding.isName (b : Binding) : (Code.word b.ident).IsName := ⟨b.word, b.word_spellable, rfl⟩

/-- A text that is one word is a name. -/
theorem isName_of_word? {w : String} (h : word? w.toList = some (w.toList, [])) :
    (Code.word w).IsName :=
  ⟨⟨false, w⟩, ⟨(word?_eq_some_iff.mp h).2.1, fun hraw => nomatch hraw⟩, rfl⟩

theorem codeMark_clean {mark : String} (h : mark ∈ codeMarks) :
    (Code.word mark).Clean inner outer := by
  have hall : codeMarks.all (fun mark => !mark.toList.isEmpty &&
      mark.toList.all fun c => !bounds.contains c) = true := by
    decide
  have hmark := List.all_eq_true.mp hall mark h
  simp only [Bool.and_eq_true, Bool.not_eq_true', List.isEmpty_eq_false_iff, List.all_eq_true,
    List.contains_eq_mem, decide_eq_false_iff_not] at hmark
  exact .word hmark.1 hmark.2

/-! ## Paths to values -/

/-- The text is the one identifier that it is read as, with nothing around it. -/
def IsExact (name : String) : Prop := ∃ i : Ident, tokens? name = some [.ident i] ∧ i.text = name

theorem IsExact.text_eq {name : String} {i : Ident} (h : IsExact name)
    (hi : Ident.ofText name = .ok i) : i.text = name := by
  rcases h with ⟨j, hj, htext⟩
  have htokens := tokens?_eq_ident_iff_spells.mpr (Ident.ofText_eq_ok_iff.mp hi).1
  rw [hj] at htokens
  cases htokens
  exact htext

namespace Access

/-- The names in the path are exact. -/
def Exact : Access → Prop
  | var name => IsExact name
  | field base name => base.Exact ∧ IsExact name
  | bound _ => True

/-- The code of a path is made of names and dots. -/
theorem code_tokens {a : Access} {c : List Code} (h : a.code = .ok c) :
    ∀ t ∈ c, t.IsName ∨ t = .word "." := by
  induction a generalizing c with
  | var name =>
    rcases except_bind_eq_ok_iff.mp h with ⟨i, hi, hc⟩
    cases hc
    intro t ht
    exact .inl ⟨i, spellable_of_variableIdent hi, List.mem_singleton.mp ht⟩
  | field base name ih =>
    rcases except_bind_eq_ok_iff.mp h with ⟨d, hd, hrest⟩
    rcases except_bind_eq_ok_iff.mp hrest with ⟨i, hi, hc⟩
    cases hc
    rcases Ident.ofText_eq_ok_iff.mp (plainIdent_eq_ok_iff.mp hi) with ⟨⟨_, _, hspells⟩, -⟩
    intro t ht
    rcases List.mem_append.mp ht with hbase | hfield
    · exact ih hd t hbase
    · simp only [List.mem_cons, List.not_mem_nil, or_false] at hfield
      rcases hfield with rfl | rfl
      · exact .inr rfl
      · exact .inl ⟨i, hspells.ident, rfl⟩
  | bound b =>
    cases h
    intro t ht
    rw [List.mem_singleton.mp ht]
    exact .inl b.isName

theorem code_ne_nil {a : Access} {c : List Code} (h : a.code = .ok c) : c ≠ [] := by
  cases a with
  | var name =>
    rcases except_bind_eq_ok_iff.mp h with ⟨i, -, hc⟩
    cases hc
    exact List.cons_ne_nil _ _
  | field base name =>
    rcases except_bind_eq_ok_iff.mp h with ⟨d, -, hrest⟩
    rcases except_bind_eq_ok_iff.mp hrest with ⟨i, -, hc⟩
    cases hc
    simp
  | bound b =>
    cases h
    exact List.cons_ne_nil _ _

section

variable {a : Access} {c : List Code} (h : a.code = .ok c)

include h

theorem code_clean : ∀ t ∈ c, t.Clean inner outer := by
  intro t ht
  rcases code_tokens h t ht with hname | rfl
  · exact hname.clean
  · exact codeMark_clean (by decide)

theorem code_words : ∀ t ∈ c, ∃ w, t = .word w := by
  intro t ht
  rcases code_tokens h t ht with ⟨i, -, rfl⟩ | rfl
  · exact ⟨i.text, rfl⟩
  · exact ⟨".", rfl⟩

/-- A path holds no other mark than dots. -/
theorem mark_not_mem_code {mark : String} (hmark : mark ∈ codeMarks) (hdot : mark ≠ ".") :
    .word mark ∉ c := by
  intro hmem
  rcases code_tokens h _ hmem with hname | hword
  · exact hname.ne_mark hmark rfl
  · exact hdot (Code.word.inj hword)

end

/-- An exact variable is its own code, and does not start like the names of loops. -/
theorem code_var {name : String} {c : List Code} (hexact : IsExact name)
    (h : (var name).code = .ok c) :
    c = [.word name] ∧ ¬ reservedStart.toList <+: name.toList := by
  rcases except_bind_eq_ok_iff.mp h with ⟨i, hi, hc⟩
  cases hc
  unfold variableIdent at hi
  split at hi
  · rename_i hself
    cases hi
    rw [hself]
    exact ⟨rfl, by decide⟩
  · rcases unreservedIdent_eq_ok_iff.mp hi with ⟨hname, hfree⟩
    refine ⟨?_, hfree⟩
    rw [Ident.code, hexact.text_eq hname]

theorem code_field {base : Access} {name : String} {c : List Code} (hexact : IsExact name)
    (h : (field base name).code = .ok c) :
    ∃ d, base.code = .ok d ∧ c = d ++ [.word ".", .word name] := by
  rcases except_bind_eq_ok_iff.mp h with ⟨d, hd, hrest⟩
  rcases except_bind_eq_ok_iff.mp hrest with ⟨i, hi, hc⟩
  cases hc
  refine ⟨d, hd, ?_⟩
  rw [Ident.code, hexact.text_eq (plainIdent_eq_ok_iff.mp hi)]

theorem length_ne_one_of_field {base : Access} {name : String} {c : List Code}
    (h : (field base name).code = .ok c) : c.length ≠ 1 := by
  rcases except_bind_eq_ok_iff.mp h with ⟨d, -, hrest⟩
  rcases except_bind_eq_ok_iff.mp hrest with ⟨i, -, hc⟩
  cases hc
  simp

theorem var_ne_bound {name : String} {b : Binding}
    (hfree : ¬ reservedStart.toList <+: name.toList) : [Code.word name] ≠ [.word b.ident] := by
  intro heq
  cases heq
  exact hfree b.word_reserved

/-- A path with exact names can be read back from its code. -/
theorem code_inj {a a' : Access} {c : List Code} (hexact : a.Exact) (hexact' : a'.Exact)
    (h : a.code = .ok c) (h' : a'.code = .ok c) : a = a' := by
  -- a field takes two tokens more than its base, a variable and a loop name take one
  induction a generalizing a' c with
  | var name =>
    rcases code_var hexact h with ⟨rfl, hfree⟩
    cases a' with
    | var name' =>
      cases (code_var hexact' h').1
      rfl
    | field base' name' => exact absurd rfl (length_ne_one_of_field h')
    | bound b' => exact absurd (Except.ok.inj h').symm (var_ne_bound hfree)
  | field base name ih =>
    cases a' with
    | var name' =>
      cases (code_var hexact' h').1
      exact absurd rfl (length_ne_one_of_field h)
    | field base' name' =>
      rcases code_field hexact.2 h with ⟨d, hd, rfl⟩
      rcases code_field hexact'.2 h' with ⟨d', hd', heq⟩
      rcases List.append_inj' heq rfl with ⟨rfl, hname⟩
      cases hname
      rw [ih hexact.1 hexact'.1 hd hd']
    | bound b' =>
      cases h'
      exact absurd rfl (length_ne_one_of_field h)
  | bound b =>
    cases h
    cases a' with
    | var name' =>
      rcases code_var hexact' h' with ⟨heq, hfree⟩
      exact absurd heq.symm (var_ne_bound hfree)
    | field base' name' => exact absurd rfl (length_ne_one_of_field h')
    | bound b' =>
      have hword := (List.cons.inj (Except.ok.inj h')).1
      rw [Binding.ident_inj (Code.word.inj hword)]

end Access

/-- What is left of a value without the mark that borrows or copies it. -/
def dropMark : List Code → List Code
  | .word w :: rest => if w = "&" ∨ w = "*" then rest else .word w :: rest
  | c => c

theorem mem_dropMark {c : List Code} {t : Code} (h : t ∈ c) :
    t ∈ dropMark c ∨ t = .word "&" ∨ t = .word "*" := by
  fun_cases dropMark c with
  | case1 w rest hmark =>
    rcases List.mem_cons.mp h with rfl | hrest
    · right
      rcases hmark with rfl | rfl
      · exact .inl rfl
      · exact .inr rfl
    · exact .inl hrest
  | case2 | case3 => exact .inl h

namespace Access

theorem dropMark_of_code {a : Access} {c : List Code} (h : a.code = .ok c) : dropMark c = c := by
  fun_cases dropMark c with
  | case1 w rest hmark =>
    have hfree : ∀ mark ∈ ["&", "*"], Code.word mark ∉ Code.word w :: rest := by
      intro mark hmem
      apply mark_not_mem_code h <;> revert mark <;> decide
    rcases hmark with rfl | rfl
    · exact absurd List.mem_cons_self (hfree "&" (by decide))
    · exact absurd List.mem_cons_self (hfree "*" (by decide))
  | case2 | case3 => rfl

theorem code_of_borrowed {a : Access} {c : List Code} (h : a.borrowed = .ok c) :
    a.code = .ok (dropMark c) := by
  rcases except_bind_eq_ok_iff.mp h with ⟨d, hd, hc⟩
  split at hc
  · cases hc
    rw [dropMark_of_code hd, hd]
  · cases hc
    exact hd

theorem code_of_copied {a : Access} {c : List Code} (h : a.copied = .ok c) :
    a.code = .ok (dropMark c) := by
  rcases except_bind_eq_ok_iff.mp h with ⟨d, hd, hc⟩
  split at hc
  · cases hc
    exact hd
  · cases hc
    rw [dropMark_of_code hd, hd]

/-- A path is clean, with or without a mark. -/
theorem clean_of_dropMark {a : Access} {c : List Code} (h : a.code = .ok (dropMark c)) :
    ∀ t ∈ c, t.Clean inner outer := by
  intro t ht
  rcases mem_dropMark ht with hcode | rfl | rfl
  · exact code_clean h t hcode
  · exact codeMark_clean (by decide)
  · exact codeMark_clean (by decide)

/-- No comma stands in a path, with or without a mark. -/
theorem ne_comma_of_dropMark {a : Access} {c : List Code} (h : a.code = .ok (dropMark c)) :
    ∀ t ∈ c, t ≠ .word "," := by
  intro t ht
  rcases mem_dropMark ht with hcode | rfl | rfl
  · rintro rfl
    exact mark_not_mem_code h (by decide) (by decide) hcode
  · simp
  · simp

end Access

/-! ## Items -/

/-- The configured names can be spelled. -/
structure Config.Spellable (cfg : Config) : Prop where
  writer : cfg.writer.Spellable
  wireTypePath : ∀ s ∈ cfg.wireTypePath.segments, s.ident.Spellable
  runtimePath : ∀ s ∈ cfg.runtimePath.segments, s.ident.Spellable

theorem Config.Spellable.writer_isName {cfg : Config} (h : cfg.Spellable) :
    cfg.writer.code.IsName :=
  ⟨cfg.writer, h.writer, rfl⟩

theorem Settings.spellable_of_buildWith {reader : ArgumentReader} {s : Settings} {cfg : Config}
    (h : s.buildWith reader = .ok cfg) : cfg.Spellable := by
  rcases Settings.buildWith_eq_ok_iff.mp h with ⟨hwriter, hwire, hruntime, -⟩
  rcases Ident.ofText_eq_ok_iff.mp (unreservedIdent_eq_ok_iff.mp hwriter).1
    with ⟨⟨_, _, hspells⟩, -⟩
  exact ⟨hspells.ident, Path.spellable_of_ofText hwire, Path.spellable_of_ofText hruntime⟩

/-- The run in the code of segments, from the first angle bracket on. -/
def segmentsRun? : List Segment → Option (List Token)
  | [] => none
  | ⟨_, none⟩ :: rest => segmentsRun? rest
  | ⟨_, some a⟩ :: rest => some (a.enclosed ++ ledTokens rest)

/-- The run in the code of a path. -/
def Path.run? (p : Path) : Option (List Token) := segmentsRun? p.segments

theorem segmentsCode_tokens {segments : List Segment} (h : ∀ s ∈ segments, s.ident.Spellable) :
    ∀ t ∈ segmentsCode segments, t.IsName ∨ t = .word "::" ∨
      ∃ ts, t = .run ts ∧ IsRun ts ∧ segmentsRun? segments = some ts := by
  intro t ht
  fun_induction segmentsCode segments with
  | case1 => cases ht
  | case2 i => exact .inl ⟨i, h _ List.mem_cons_self, List.mem_singleton.mp ht⟩
  | case3 i s rest ih =>
    rcases List.mem_cons.mp ht with rfl | ht
    · exact .inl ⟨i, h _ List.mem_cons_self, rfl⟩
    rcases List.mem_cons.mp ht with rfl | ht
    · exact .inr (.inl rfl)
    · exact ih (fun s' hs' => h s' (List.mem_cons_of_mem _ hs')) ht
  | case4 i a rest run hled =>
    simp only [List.mem_cons, List.not_mem_nil, or_false] at ht
    rcases ht with rfl | rfl | rfl
    · exact .inl ⟨i, h _ List.mem_cons_self, rfl⟩
    · exact .inr (.inl rfl)
    · exact .inr (.inr ⟨_, rfl, ⟨_, rfl⟩, rfl⟩)
  | case5 i a rest run hled =>
    simp only [List.mem_cons, List.not_mem_nil, or_false] at ht
    rcases ht with rfl | rfl
    · exact .inl ⟨i, h _ List.mem_cons_self, rfl⟩
    · exact .inr (.inr ⟨_, rfl, ⟨_, rfl⟩, rfl⟩)

theorem Path.item_tokens {p : Path} (h : ∀ s ∈ p.segments, s.ident.Spellable) {name : String}
    (hname : (Code.word name).IsName) :
    ∀ t ∈ p.item name, t.IsName ∨ t = .word "::" ∨
      ∃ ts, t = .run ts ∧ IsRun ts ∧ p.run? = some ts := by
  have hsegments := segmentsCode_tokens h
  intro t ht
  simp only [Path.item, Path.code, List.mem_append, List.mem_cons, List.not_mem_nil,
    or_false] at ht
  rcases ht with hcode | rfl | rfl
  · split at hcode
    · rcases List.mem_cons.mp hcode with rfl | hmem
      · exact .inr (.inl rfl)
      · exact hsegments t hmem
    · exact hsegments t hcode
  · exact .inr (.inl rfl)
  · exact .inl hname

/-- The item below a path is clean where the run of the path is known. -/
theorem Path.item_clean {p : Path} (h : ∀ s ∈ p.segments, s.ident.Spellable) {name : String}
    (hname : (Code.word name).IsName) : ∀ t ∈ p.item name, t.Clean inner p.run? := by
  intro t ht
  rcases Path.item_tokens h hname t ht with htoken | rfl | ⟨ts, rfl, hrun, hknown⟩
  · exact htoken.clean
  · exact codeMark_clean (by decide)
  · rw [hknown]
    exact .run hrun

/-- Names by which the members of a list are found tell them apart. -/
theorem inj_of_find? {α : Type} {all : List α} {name : α → String}
    (h : ∀ x, all.find? (name · == name x) = some x) {x y : α} (heq : name x = name y) :
    x = y := by
  have hfind := h x
  rw [heq, h y] at hfind
  exact (Option.some.inj hfind).symm

theorem WireType.find?_variantName (w : WireType) :
    all.find? (·.variantName == w.variantName) = some w := by
  cases w <;> decide

theorem WireType.variantName_isName (w : WireType) : (Code.word w.variantName).IsName :=
  isName_of_word? (by cases w <;> decide)

/-! ## Arguments -/

namespace Argument

/-- The names in the argument are exact. -/
def Exact : Argument → Prop
  | value a => a.Exact
  | wire _ => True
  | size target _ => target.Exact

/-- The argument, up to the member that counts a container. -/
def forgetSize : Argument → Argument
  | value a => value a
  | wire w => wire w
  | size target _ => size target .size

section

variable {cfg : Config} {m : Method} {c : List Code}

theorem code_of_value {a : Access} (h : (value a).code cfg m = .ok c) :
    a.code = .ok (dropMark c) := by
  rw [Argument.code] at h
  split at h
  · exact Access.code_of_borrowed h
  · exact Access.code_of_copied h

theorem code_of_size {target : Access} {kind : SizeKind}
    (h : (size target kind).code cfg m = .ok c) :
    ∃ d, target.code = .ok d ∧ c = d ++ [.word ".", .word "len", .parens []] := by
  rcases except_bind_eq_ok_iff.mp h with ⟨d, hd, hc⟩
  cases hc
  exact ⟨d, hd, rfl⟩

/-- The mark of a path stands in tags and nowhere else. -/
theorem colons_mem_code_iff {arg : Argument} (h : arg.code cfg m = .ok c) :
    .word "::" ∈ c ↔ ∃ w, arg = wire w := by
  cases arg with
  | value a =>
    have hfree : Code.word "::" ∉ dropMark c :=
      Access.mark_not_mem_code (code_of_value h) (by decide) (by decide)
    refine iff_of_false (fun hmem => ?_) (by simp)
    rcases mem_dropMark hmem with hcode | hword | hword
    · exact hfree hcode
    · simp at hword
    · simp at hword
  | wire w =>
    cases h
    exact iff_of_true (by simp [Path.item]) ⟨w, rfl⟩
  | size target kind =>
    rcases code_of_size h with ⟨d, hd, rfl⟩
    have hfree : Code.word "::" ∉ d := Access.mark_not_mem_code hd (by decide) (by decide)
    exact iff_of_false (by simp [hfree]) (by simp)

/-- The parentheses of a call stand in sizes and nowhere else. -/
theorem parens_mem_code_iff {arg : Argument} (hcfg : cfg.Spellable) (h : arg.code cfg m = .ok c) :
    .parens [] ∈ c ↔ ∃ target kind, arg = size target kind := by
  cases arg with
  | value a =>
    refine iff_of_false (fun hmem => ?_) (by simp)
    rcases mem_dropMark hmem with hcode | hword | hword
    · rcases Access.code_words (code_of_value h) _ hcode with ⟨w, hw⟩
      cases hw
    · cases hword
    · cases hword
  | wire w =>
    cases h
    refine iff_of_false (fun hmem => ?_) (by simp)
    rcases Path.item_tokens hcfg.wireTypePath w.variantName_isName _ hmem with
      ⟨i, -, hi⟩ | hword | ⟨ts, hrun, -⟩
    · cases hi
    · cases hword
    · cases hrun
  | size target kind =>
    rcases code_of_size h with ⟨d, hd, rfl⟩
    exact iff_of_true (by simp) ⟨target, kind, rfl⟩

/-- An argument with exact names can be read back from its code, up to the member that
counts a container. -/
theorem code_inj {arg arg' : Argument} (hcfg : cfg.Spellable) (hexact : arg.Exact)
    (hexact' : arg'.Exact) (h : arg.code cfg m = .ok c) (h' : arg'.code cfg m = .ok c) :
    arg.forgetSize = arg'.forgetSize := by
  cases arg with
  | value a =>
    cases arg' with
    | value a' => rw [Access.code_inj hexact hexact' (code_of_value h) (code_of_value h')]
    | wire w =>
      rcases (colons_mem_code_iff h).mp ((colons_mem_code_iff h').mpr ⟨w, rfl⟩) with ⟨w, hw⟩
      cases hw
    | size target kind =>
      rcases (parens_mem_code_iff hcfg h).mp
        ((parens_mem_code_iff hcfg h').mpr ⟨target, kind, rfl⟩) with ⟨_, _, heq⟩
      cases heq
  | wire w =>
    rcases (colons_mem_code_iff h').mp ((colons_mem_code_iff h).mpr ⟨w, rfl⟩) with ⟨w', rfl⟩
    have hitem := (Except.ok.inj h).trans (Except.ok.inj h').symm
    simp only [Path.item, List.append_cancel_left_eq, List.cons.injEq, Code.word.injEq,
      true_and, and_true] at hitem
    rw [inj_of_find? WireType.find?_variantName hitem]
  | size target kind =>
    rcases (parens_mem_code_iff hcfg h').mp
      ((parens_mem_code_iff hcfg h).mpr ⟨target, kind, rfl⟩) with ⟨target', kind', rfl⟩
    rcases code_of_size h with ⟨d, hd, rfl⟩
    rcases code_of_size h' with ⟨d', hd', heq⟩
    rw [List.append_cancel_right heq] at hd
    rw [forgetSize, forgetSize, Access.code_inj hexact hexact' hd hd']

theorem code_ne_nil {arg : Argument} (h : arg.code cfg m = .ok c) : c ≠ [] := by
  rintro rfl
  cases arg with
  | value a => exact Access.code_ne_nil (code_of_value h) rfl
  | wire w => simp [Argument.code, Path.item] at h
  | size target kind =>
    rcases code_of_size h with ⟨d, -, heq⟩
    simp at heq

/-- No comma stands in an argument, unless in the run of a path. -/
theorem code_ne_comma {arg : Argument} (hcfg : cfg.Spellable) (h : arg.code cfg m = .ok c) :
    ∀ t ∈ c, t ≠ .word "," := by
  cases arg with
  | value a => exact Access.ne_comma_of_dropMark (code_of_value h)
  | wire w =>
    cases h
    intro t ht
    rcases Path.item_tokens hcfg.wireTypePath w.variantName_isName t ht with
      hname | rfl | ⟨ts, rfl, -⟩
    · exact hname.ne_mark (by decide)
    · simp
    · simp
  | size target kind =>
    rcases code_of_size h with ⟨d, hd, rfl⟩
    rw [← Access.dropMark_of_code hd] at hd
    simp only [List.forall_mem_append, List.forall_mem_cons]
    exact ⟨Access.ne_comma_of_dropMark hd, by simp⟩

/-- An argument is clean where the run of the tags is known. -/
theorem code_clean {arg : Argument} (hcfg : cfg.Spellable) (h : arg.code cfg m = .ok c) :
    ∀ t ∈ c, t.Clean inner cfg.wireTypePath.run? := by
  cases arg with
  | value a => exact Access.clean_of_dropMark (code_of_value h)
  | wire w =>
    cases h
    exact Path.item_clean hcfg.wireTypePath w.variantName_isName
  | size target kind =>
    rcases code_of_size h with ⟨d, hd, rfl⟩
    have hlen : (Code.word "len").IsName := isName_of_word? (by decide)
    simp only [List.forall_mem_append, List.forall_mem_cons]
    exact ⟨Access.code_clean hd, codeMark_clean (by decide), hlen.clean,
      .parens (List.forall_mem_nil _), List.forall_mem_nil _⟩

end

end Argument

/-- The code behind the first of some arguments: nothing, or a comma and the others. -/
inductive MoreArguments (cfg : Config) (m : Method) : List Argument → List Code → Prop where
  | done : MoreArguments cfg m [] []
  | comma {args : List Argument} {c : List Code} (h : argumentsCode cfg m args = .ok c) :
    MoreArguments cfg m args (.word "," :: c)

theorem argumentsCode_cons {cfg : Config} {m : Method} {arg : Argument} {args : List Argument}
    {c : List Code} (h : argumentsCode cfg m (arg :: args) = .ok c) :
    ∃ d e, arg.code cfg m = .ok d ∧ MoreArguments cfg m args e ∧ c = d ++ e := by
  cases args with
  | nil => exact ⟨c, [], h, .done, (List.append_nil c).symm⟩
  | cons arg' args =>
    rcases except_bind_eq_ok_iff.mp h with ⟨d, hd, hrest⟩
    rcases except_bind_eq_ok_iff.mp hrest with ⟨e, he, hc⟩
    cases hc
    exact ⟨d, _, hd, .comma he, rfl⟩

theorem MoreArguments.head {cfg : Config} {m : Method} {args : List Argument} {c : List Code}
    (h : MoreArguments cfg m args c) : ∀ t ∈ c.head?, ¬ t ≠ .word "," := by
  intro t ht
  cases h with
  | done => cases ht
  | comma _ =>
    cases ht
    exact not_not_intro rfl

theorem argumentsCode_cons_ne_nil {cfg : Config} {m : Method} {arg : Argument}
    {args : List Argument} : argumentsCode cfg m (arg :: args) ≠ .ok [] := by
  intro h
  rcases argumentsCode_cons h with ⟨d, e, hd, -, heq⟩
  exact Argument.code_ne_nil hd (List.append_eq_nil_iff.mp heq.symm).1

theorem argumentsCode_inj {cfg : Config} {m : Method} {args args' : List Argument}
    {c : List Code} (hcfg : cfg.Spellable) (hexact : ∀ arg ∈ args, arg.Exact)
    (hexact' : ∀ arg ∈ args', arg.Exact) (h : argumentsCode cfg m args = .ok c)
    (h' : argumentsCode cfg m args' = .ok c) :
    args.map Argument.forgetSize = args'.map Argument.forgetSize := by
  induction args generalizing args' c with
  | nil =>
    cases h
    cases args' with
    | nil => rfl
    | cons arg' args' => exact absurd h' argumentsCode_cons_ne_nil
  | cons arg args ih =>
    cases args' with
    | nil =>
      cases h'
      exact absurd h argumentsCode_cons_ne_nil
    | cons arg' args' =>
      rcases argumentsCode_cons h with ⟨d, e, hd, hmore, rfl⟩
      rcases argumentsCode_cons h' with ⟨d', e', hd', hmore', heq⟩
      -- both first arguments end at the first comma
      rcases append_inj_of_first (Argument.code_ne_comma hcfg hd)
        (Argument.code_ne_comma hcfg hd') hmore.head hmore'.head heq with ⟨rfl, rfl⟩
      have hfirst := Argument.code_inj hcfg (hexact arg List.mem_cons_self)
        (hexact' arg' List.mem_cons_self) hd hd'
      have hothers : args.map Argument.forgetSize = args'.map Argument.forgetSize := by
        cases hmore with
        | done =>
          cases hmore'
          rfl
        | comma hargs =>
          cases hmore' with
          | comma hargs' =>
            exact ih (fun a ha => hexact a (List.mem_cons_of_mem _ ha))
              (fun a ha => hexact' a (List.mem_cons_of_mem _ ha)) hargs hargs'
      rw [List.map_cons, List.map_cons, hfirst, hothers]

theorem argumentsCode_clean {cfg : Config} {m : Method} {args : List Argument} {c : List Code}
    (hcfg : cfg.Spellable) (h : argumentsCode cfg m args = .ok c) :
    ∀ t ∈ c, t.Clean inner cfg.wireTypePath.run? := by
  induction args generalizing c with
  | nil =>
    cases h
    exact List.forall_mem_nil _
  | cons arg args ih =>
    rcases argumentsCode_cons h with ⟨d, e, hd, hmore, rfl⟩
    intro t ht
    rcases List.mem_append.mp ht with hfirst | hothers
    · exact Argument.code_clean hcfg hd t hfirst
    · cases hmore with
      | done => cases hothers
      | comma hargs =>
        rcases List.mem_cons.mp hothers with rfl | hmem
        · exact codeMark_clean (by decide)
        · exact ih hargs t hmem

end WireScribe
