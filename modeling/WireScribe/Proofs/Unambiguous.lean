import WireScribe.Proofs.ArgumentCode

/-!
# WireScribe.Proofs.Unambiguous — rendered text determines the program

A program is rendered as one line of text. Two programs whose names stand in it as they
are have the same text exactly if they are equal up to the members that count
containers. The generic arguments of the configured paths can be anything: the text of
each path is the same wherever it stands.

1. **Statements**: the parts of a statement, and the two tokens that tell its kind.
2. **Clean programs**: the tokens of a program can be read back from its text.
3. **Programs**: a statement tells its instruction and shows where it ends, so the
   tokens tell the program.
-/

namespace WireScribe

open Text Literal

/-! ## Statements -/

theorem Method.find?_codeName (m : Method) : all.find? (·.codeName == m.codeName) = some m := by
  cases m with
  | datum kind => cases kind <;> decide
  | seqBegin kind => cases kind <;> decide
  | seqEnd kind => cases kind <;> decide
  | mapBegin => decide
  | mapEnd => decide

theorem Method.codeName_isName (m : Method) : (Code.word m.codeName).IsName := by
  have hall : ∀ m ∈ all, word? m.codeName.toList = some (m.codeName.toList, []) := by decide
  exact isName_of_word? (hall m (List.mem_of_find?_eq_some m.find?_codeName))

theorem Binder.code_inj {binder binder' : Binder} (h : binder.code = binder'.code) :
    binder = binder' := by
  cases binder with
  | elements b =>
    cases binder' with
    | elements b' => rw [Binding.ident_inj (Code.word.inj h)]
    | entries key' value' => cases h
  | entries key value =>
    cases binder' with
    | elements b' => cases h
    | entries key' value' =>
      simp only [Binder.code, Code.parens.injEq, List.cons.injEq, Code.word.injEq, true_and,
        and_true] at h
      rw [Binding.ident_inj h.1, Binding.ident_inj h.2]

theorem Binder.code_clean {inner outer : Option (List Token)} (binder : Binder) :
    binder.code.Clean inner outer := by
  cases binder with
  | elements b => exact b.isName.clean
  | entries key value =>
    refine .parens ?_
    simp only [List.forall_mem_cons]
    exact ⟨key.isName.clean, codeMark_clean (by decide), value.isName.clean, List.forall_mem_nil _⟩

mutual

/-- The names in the instruction are exact. -/
def Instr.Exact : Instr → Prop
  | .invoke _ args => ∀ arg ∈ args, arg.Exact
  | .loop target _ body => target.Exact ∧ ExactAll body
  | .delegate target => target.Exact

/-- The names in a program are exact. -/
def ExactAll : List Instr → Prop
  | [] => True
  | i :: rest => i.Exact ∧ ExactAll rest

end

mutual

/-- The instruction, up to the members that count containers. -/
def Instr.forgetSizes : Instr → Instr
  | .invoke m args => .invoke m (args.map Argument.forgetSize)
  | .loop target binder body => .loop target binder (forgetSizes body)
  | .delegate target => .delegate target

/-- A program, up to the members that count containers. -/
def forgetSizes : List Instr → List Instr
  | [] => []
  | i :: rest => i.forgetSizes :: forgetSizes rest

end

/-- The kinds of statements. -/
inductive Statement where
  | invoke
  | loop
  | delegate

/-- The kind of statement that an instruction becomes. -/
def Instr.statement : Instr → Statement
  | .invoke _ _ => .invoke
  | .loop _ _ _ => .loop
  | .delegate _ => .delegate

/-- The kind of the statement at the front of code, by its first two tokens. -/
def firstStatement : List Code → Statement
  | .word v :: .word w :: _ =>
    if v = "::" ∨ w = "::" then .delegate else if w = "." then .invoke else .loop
  | .word _ :: .run _ :: _ => .delegate
  | _ => .loop

/-- An item below a path shows the mark or the run of the path among its first two
tokens. -/
theorem Path.firstStatement_item (p : Path) (name : String) (r : List Code) :
    firstStatement (p.item name ++ r) = .delegate := by
  obtain ⟨rooted, segments⟩ := p
  rcases segments with _ | ⟨⟨i, arguments⟩, rest⟩
  · cases rooted <;> rfl
  · cases arguments with
    | none => cases rooted <;> cases rest <;>
        simp [firstStatement, Path.item, Path.code, segmentsCode, Ident.code]
    | some a =>
      by_cases hled : a.led = true <;> cases rooted <;>
        simp [firstStatement, Path.item, Path.code, segmentsCode, Ident.code, hled]

section

variable {cfg : Config} {c : List Code}

theorem Instr.code_invoke {m : Method} {args : List Argument}
    (h : (Instr.invoke m args).code cfg = .ok c) :
    ∃ d, argumentsCode cfg m args = .ok d ∧
      c = [cfg.writer.code, .word ".", .word m.codeName, .parens d] ++ orFail := by
  rw [Instr.code] at h
  rcases except_bind_eq_ok_iff.mp h with ⟨d, hd, hc⟩
  cases hc
  exact ⟨d, hd, rfl⟩

/-- A loop as code, from the code of its target and of its body. -/
def loopCode (binder : Binder) (target body : List Code) : List Code :=
  .word "for" :: binder.code :: .word "in" ::
    ((target ++ [.word ".", .word "iter"]) ++ [.parens [], .braces body])

theorem Instr.code_loop {target : Access} {binder : Binder} {body : List Instr}
    (h : (Instr.loop target binder body).code cfg = .ok c) :
    ∃ d e, target.code = .ok d ∧ programCode cfg body = .ok e ∧ c = loopCode binder d e := by
  rw [Instr.code] at h
  rcases except_bind_eq_ok_iff.mp h with ⟨d, hd, hrest⟩
  rcases except_bind_eq_ok_iff.mp hrest with ⟨e, he, hc⟩
  cases hc
  exact ⟨d, e, hd, he, by simp [loopCode]⟩

theorem Instr.code_delegate {target : Access} (h : (Instr.delegate target).code cfg = .ok c) :
    ∃ d, target.borrowed = .ok d ∧
      c = cfg.runtimePath.item "Writable" ++
        [.word "::", .word "write", .parens (d ++ [.word ",", cfg.writer.code])] ++ orFail := by
  rw [Instr.code] at h
  rcases except_bind_eq_ok_iff.mp h with ⟨d, hd, hc⟩
  cases hc
  exact ⟨d, hd, rfl⟩

theorem Instr.firstStatement_code {i : Instr} (hcfg : cfg.Spellable) (h : i.code cfg = .ok c)
    (r : List Code) : firstStatement (c ++ r) = i.statement := by
  cases i with
  | invoke m args =>
    rcases Instr.code_invoke h with ⟨d, -, rfl⟩
    have hwriter : cfg.writer.text ≠ "::" := fun heq =>
      hcfg.writer_isName.ne_mark (by decide) (congrArg Code.word heq)
    simp [firstStatement, Ident.code, hwriter, Instr.statement]
  | loop target binder body =>
    rcases Instr.code_loop h with ⟨d, e, -, -, rfl⟩
    cases binder with
    | elements b =>
      have hname : ∀ mark ∈ codeMarks, b.ident ≠ mark := fun mark hmark heq =>
        b.isName.ne_mark hmark (congrArg Code.word heq)
      simp [loopCode, firstStatement, Binder.code, Instr.statement, hname "::" (by decide),
        hname "." (by decide)]
    | entries key value => rfl
  | delegate target =>
    rcases Instr.code_delegate h with ⟨d, -, rfl⟩
    rw [List.append_assoc, List.append_assoc]
    exact Path.firstStatement_item _ _ _

theorem Instr.code_ne_nil {i : Instr} (h : i.code cfg = .ok c) : c ≠ [] := by
  cases i with
  | invoke m args =>
    rcases Instr.code_invoke h with ⟨d, -, rfl⟩
    exact List.cons_ne_nil _ _
  | loop target binder body =>
    rcases Instr.code_loop h with ⟨d, e, -, -, rfl⟩
    exact List.cons_ne_nil _ _
  | delegate target =>
    rcases Instr.code_delegate h with ⟨d, -, rfl⟩
    simp

theorem programCode_cons {i : Instr} {rest : List Instr}
    (h : programCode cfg (i :: rest) = .ok c) :
    ∃ d e, i.code cfg = .ok d ∧ programCode cfg rest = .ok e ∧ c = d ++ e := by
  rw [programCode] at h
  rcases except_bind_eq_ok_iff.mp h with ⟨d, hd, hrest⟩
  rcases except_bind_eq_ok_iff.mp hrest with ⟨e, he, hc⟩
  cases hc
  exact ⟨d, e, hd, he, rfl⟩

theorem programCode_cons_ne_nil {i : Instr} {rest : List Instr} :
    programCode cfg (i :: rest) ≠ .ok [] := by
  intro h
  rcases programCode_cons h with ⟨d, e, hd, -, heq⟩
  exact Instr.code_ne_nil hd (List.append_eq_nil_iff.mp heq.symm).1

end

/-! ## Clean programs -/

theorem orFail_clean {inner outer : Option (List Token)} :
    ∀ t ∈ orFail, t.Clean inner outer := by
  simp only [orFail, List.forall_mem_cons]
  exact ⟨codeMark_clean (by decide), codeMark_clean (by decide), List.forall_mem_nil _⟩

mutual

theorem Instr.code_clean {cfg : Config} (hcfg : cfg.Spellable) : (i : Instr) → {c : List Code} →
    i.code cfg = .ok c → ∀ t ∈ c, t.Clean cfg.wireTypePath.run? cfg.runtimePath.run?
  | .invoke m args, c, h => by
    rcases Instr.code_invoke h with ⟨d, hd, rfl⟩
    simp only [List.forall_mem_cons, List.forall_mem_append]
    exact ⟨⟨hcfg.writer_isName.clean, codeMark_clean (by decide), m.codeName_isName.clean,
      .parens (argumentsCode_clean hcfg hd), List.forall_mem_nil _⟩, orFail_clean⟩
  | .loop target binder body, c, h => by
    rcases Instr.code_loop h with ⟨d, e, hd, he, rfl⟩
    have hfor : (Code.word "for").IsName := isName_of_word? (by decide)
    have hin : (Code.word "in").IsName := isName_of_word? (by decide)
    have hiter : (Code.word "iter").IsName := isName_of_word? (by decide)
    simp only [loopCode, List.forall_mem_cons, List.forall_mem_append]
    exact ⟨hfor.clean, binder.code_clean, hin.clean,
      ⟨Access.code_clean hd, codeMark_clean (by decide), hiter.clean, List.forall_mem_nil _⟩,
      .parens (List.forall_mem_nil _), .braces (programCode_clean hcfg body he),
      List.forall_mem_nil _⟩
  | .delegate target, c, h => by
    rcases Instr.code_delegate h with ⟨d, hd, rfl⟩
    have hwritable : (Code.word "Writable").IsName := isName_of_word? (by decide)
    have hwrite : (Code.word "write").IsName := isName_of_word? (by decide)
    have hargs : ∀ t ∈ d ++ [.word ",", cfg.writer.code],
        t.Clean cfg.wireTypePath.run? cfg.wireTypePath.run? := by
      simp only [List.forall_mem_append, List.forall_mem_cons]
      exact ⟨Access.clean_of_dropMark (Access.code_of_borrowed hd), codeMark_clean (by decide),
        hcfg.writer_isName.clean, List.forall_mem_nil _⟩
    rw [List.forall_mem_append, List.forall_mem_append]
    simp only [List.forall_mem_cons]
    exact ⟨⟨Path.item_clean hcfg.runtimePath hwritable, codeMark_clean (by decide),
      hwrite.clean, .parens hargs, List.forall_mem_nil _⟩, orFail_clean⟩

/-- The tokens of a program can be read back from their text: tags stand between
parentheses only, and delegations outside of them only. -/
theorem programCode_clean {cfg : Config} (hcfg : cfg.Spellable) : (p : List Instr) →
    {c : List Code} → programCode cfg p = .ok c →
    ∀ t ∈ c, t.Clean cfg.wireTypePath.run? cfg.runtimePath.run?
  | [], c, h => by
    cases h
    exact List.forall_mem_nil _
  | i :: rest, c, h => by
    rcases programCode_cons h with ⟨d, e, hd, he, rfl⟩
    rw [List.forall_mem_append]
    exact ⟨Instr.code_clean hcfg i hd, programCode_clean hcfg rest he⟩

end

/-! ## Programs -/

/-- A loop shows its binder, its target and its body, and where it ends. -/
theorem loopCode_append_inj {a a' : Access} {binder binder' : Binder}
    {d d' e e' r s : List Code} (hd : a.code = .ok d) (hd' : a'.code = .ok d')
    (h : loopCode binder d e ++ r = loopCode binder' d' e' ++ s) :
    binder = binder' ∧ d = d' ∧ e = e' ∧ r = s := by
  have hwords : ∀ {a : Access} {d : List Code}, a.code = .ok d →
      ∀ t ∈ d ++ [.word ".", .word "iter"], ∃ w, t = .word w := by
    intro a d hd
    simp only [List.forall_mem_append, List.forall_mem_cons]
    exact ⟨Access.code_words hd, ⟨_, rfl⟩, ⟨_, rfl⟩, List.forall_mem_nil _⟩
  simp only [loopCode, List.cons_append, List.append_assoc (_ ++ _), List.nil_append,
    List.cons.injEq, true_and] at h
  rcases h with ⟨hbinder, h⟩
  -- the words of the target end at the first parentheses
  rcases append_inj_of_first (hwords hd) (hwords hd') (by simp) (by simp) h
    with ⟨htarget, hrest⟩
  simp only [List.cons.injEq, Code.braces.injEq, true_and] at hrest
  exact ⟨Binder.code_inj hbinder, List.append_cancel_right htarget, hrest.1, hrest.2⟩

mutual

/-- An instruction with exact names can be read back from code that starts with it, up to
the members that count containers. -/
theorem Instr.code_append_inj {cfg : Config} (hcfg : cfg.Spellable) : (i : Instr) →
    {j : Instr} → {c d r s : List Code} → i.Exact → j.Exact → i.code cfg = .ok c →
    j.code cfg = .ok d → c ++ r = d ++ s → i.forgetSizes = j.forgetSizes ∧ r = s
  | i, j, c, d, r, s, hexact, hexact', h, h', heq => by
    -- statements of different kinds start in different ways
    have hkind : i.statement = j.statement := by
      rw [← Instr.firstStatement_code hcfg h r, heq, Instr.firstStatement_code hcfg h' s]
    match i, j with
    | .invoke m args, .invoke m' args' =>
      rcases Instr.code_invoke h with ⟨e, he, rfl⟩
      rcases Instr.code_invoke h' with ⟨e', he', rfl⟩
      simp only [List.cons_append, List.nil_append, List.cons.injEq, Code.word.injEq,
        Code.parens.injEq, List.append_cancel_left_eq, true_and] at heq
      rcases heq with ⟨hname, rfl, rfl⟩
      cases inj_of_find? Method.find?_codeName hname
      rw [Instr.forgetSizes, Instr.forgetSizes, argumentsCode_inj hcfg hexact hexact' he he']
      exact ⟨rfl, rfl⟩
    | .loop target binder body, .loop target' binder' body' =>
      rcases Instr.code_loop h with ⟨e, f, he, hf, rfl⟩
      rcases Instr.code_loop h' with ⟨e', f', he', hf', rfl⟩
      rcases loopCode_append_inj he he' heq with ⟨rfl, rfl, rfl, rfl⟩
      rw [Instr.forgetSizes, Instr.forgetSizes, Access.code_inj hexact.1 hexact'.1 he he',
        programCode_inj hcfg body hexact.2 hexact'.2 hf hf']
      exact ⟨rfl, rfl⟩
    | .delegate target, .delegate target' =>
      rcases Instr.code_delegate h with ⟨e, he, rfl⟩
      rcases Instr.code_delegate h' with ⟨e', he', rfl⟩
      simp only [List.append_assoc (Path.item _ _), List.append_cancel_left_eq,
        List.cons_append, List.nil_append, List.cons.injEq, Code.parens.injEq, true_and] at heq
      rcases heq with ⟨htarget, rfl⟩
      rw [List.append_cancel_right htarget] at he
      rw [Access.code_inj hexact hexact' (Access.code_of_borrowed he)
        (Access.code_of_borrowed he')]
      exact ⟨rfl, rfl⟩

/-- A program with exact names can be read back from its code, up to the members that
count containers. -/
theorem programCode_inj {cfg : Config} (hcfg : cfg.Spellable) : (p : List Instr) →
    {q : List Instr} → {c : List Code} → ExactAll p → ExactAll q →
    programCode cfg p = .ok c → programCode cfg q = .ok c → forgetSizes p = forgetSizes q
  | [], [], _, _, _, _, _ => rfl
  | [], j :: q, c, _, _, h, h' => by
    cases h
    exact absurd h' programCode_cons_ne_nil
  | i :: p, [], c, _, _, h, h' => by
    cases h'
    exact absurd h programCode_cons_ne_nil
  | i :: p, j :: q, c, hexact, hexact', h, h' => by
    rcases programCode_cons h with ⟨d, e, hd, he, rfl⟩
    rcases programCode_cons h' with ⟨d', e', hd', he', heq⟩
    rcases Instr.code_append_inj hcfg i hexact.1 hexact'.1 hd hd' heq with ⟨hfirst, rfl⟩
    rw [forgetSizes, forgetSizes, hfirst, programCode_inj hcfg p hexact.2 hexact'.2 he he']

end

theorem argumentsCode_forgetSize (cfg : Config) (m : Method) (args : List Argument) :
    argumentsCode cfg m (args.map Argument.forgetSize) = argumentsCode cfg m args := by
  have harg : ∀ arg : Argument, arg.forgetSize.code cfg m = arg.code cfg m := by
    intro arg
    cases arg <;> rfl
  fun_induction argumentsCode cfg m args with
  | case1 => rfl
  | case2 arg => exact harg arg
  | case3 arg arg' rest ih =>
    simp only [List.map_cons] at ih ⊢
    rw [argumentsCode, harg, ih]

mutual

theorem Instr.code_forgetSizes (cfg : Config) : (i : Instr) →
    i.forgetSizes.code cfg = i.code cfg
  | .invoke m args => by
    rw [Instr.forgetSizes, Instr.code, Instr.code, argumentsCode_forgetSize]
  | .loop target binder body => by
    rw [Instr.forgetSizes, Instr.code, Instr.code, programCode_forgetSizes cfg body]
  | .delegate target => by rw [Instr.forgetSizes]

/-- Code does not show which member counts a container. -/
theorem programCode_forgetSizes (cfg : Config) : (p : List Instr) →
    programCode cfg (forgetSizes p) = programCode cfg p
  | [] => rfl
  | i :: rest => by
    rw [forgetSizes, programCode, programCode, Instr.code_forgetSizes cfg i,
      programCode_forgetSizes cfg rest]

end

theorem renderProgram_eq_ok_iff {cfg : Config} {p : Program} {text : String} :
    renderProgram cfg p = .ok text ↔ ∃ c, programCode cfg p = .ok c ∧ codeText c = text := by
  unfold renderProgram
  rw [except_bind_eq_ok_iff]
  refine exists_congr fun c => and_congr_right fun _ => ?_
  exact ⟨Except.ok.inj, congrArg _⟩

/-- Under every configuration that can be built, with any generic arguments in its paths,
and for programs of any shape whose names are exact, the text of a program is the text
of those programs that are equal to it up to the members that count containers, and of
no others. -/
theorem rendered_text_determines_program (reader : ArgumentReader) (s : Settings) (cfg : Config)
    (p q : Program) (text : String) (hbuild : s.buildWith reader = .ok cfg) (hp : ExactAll p)
    (hq : ExactAll q) (htext : renderProgram cfg p = .ok text) :
    renderProgram cfg q = .ok text ↔ forgetSizes p = forgetSizes q := by
  have hcfg := Settings.spellable_of_buildWith hbuild
  rcases renderProgram_eq_ok_iff.mp htext with ⟨c, hc, rfl⟩
  constructor
  · intro hsame
    rcases renderProgram_eq_ok_iff.mp hsame with ⟨d, hd, hcodes⟩
    have hcd : d = c :=
      codeText_inj (programCode_clean hcfg q hd) (programCode_clean hcfg p hc) hcodes
    rw [hcd] at hd
    exact programCode_inj hcfg p hp hq hc hd
  · intro hforget
    refine renderProgram_eq_ok_iff.mpr ⟨c, ?_, rfl⟩
    rw [← programCode_forgetSizes, ← hforget, programCode_forgetSizes, hc]

/-- Under paths with generic arguments a set of structs that is counted by its length is
rendered as if it were counted by its size. Without the opening marker the program has
another text. -/
theorem size_member_leaves_no_trace :
    let settings : Settings := { wireTypePath := "Codec<Bin>::Tag", runtimePath := "rt::<()>" }
    let body : Program := [.loop (.var "xs") (.elements ⟨.element, 0⟩)
      [.delegate (.bound ⟨.element, 0⟩)], .invoke (.seqEnd .set) []]
    let counted (kind : SizeKind) : Program :=
      .invoke (.seqBegin .set) [.wire .struct, .size (.var "xs") kind] :: body
    let text := "output . write_set_begin (Codec < Bin > :: Tag :: Struct , xs . len ()) ? ; " ++
      "for __elem_0 in xs . iter () " ++
      "\x7b rt :: < () > :: Writable :: write (__elem_0 , output) ? ; \x7d " ++
      "output . write_set_end () ? ;"
    ∃ cfg, settings.build = .ok cfg ∧ renderProgram cfg (counted .length) = .ok text ∧
      renderProgram cfg (counted .size) = .ok text ∧ renderProgram cfg body ≠ .ok text := by
  intro settings body counted text
  let cfg : Config :=
    { wireTypePath := { segments :=
        [⟨⟨false, "Codec"⟩, some { content := [.ident ⟨false, "Bin"⟩] }⟩,
          { ident := ⟨false, "Tag"⟩ }] }
      runtimePath := { segments :=
        [⟨⟨false, "rt"⟩, some { led := true, content := [.opening .paren, .closing .paren] }⟩] } }
  have hbuild : settings.buildWith .plain = .ok cfg := by
    have hwriter := (Settings.buildWith_eq_ok_iff.mp (Settings.buildWith_default .plain)).1
    have hwire : tokens? "Codec<Bin>::Tag" =
        some [.ident ⟨false, "Codec"⟩, .punct '<' false, .ident ⟨false, "Bin"⟩, .punct '>' true,
          .punct ':' true, .punct ':' false, .ident ⟨false, "Tag"⟩] := by decide +kernel
    have hruntime : tokens? "rt::<()>" =
        some [.ident ⟨false, "rt"⟩, .punct ':' true, .punct ':' true, .punct '<' false,
          .opening .paren, .closing .paren, .punct '>' false] := by decide +kernel
    refine Settings.buildWith_eq_ok_iff.mpr ⟨hwriter, ?_, ?_, rfl⟩
    · refine Path.ofText_eq_ok_iff.mpr ⟨_, hwire, ?_⟩
      rw [Path.ofTokens, Path.segmentsOf_more (by decide) rfl (by simp),
        Path.segmentsOf_last (by decide) rfl]
      · rfl
      · simp
    · refine Path.ofText_eq_ok_iff.mpr ⟨_, hruntime, ?_⟩
      rw [Path.ofTokens, Path.segmentsOf_last (by decide) rfl]
      · rfl
      · simp
  have htokens : tokens? "xs" = some [.ident ⟨false, "xs"⟩] := by decide +kernel
  have hexact : IsExact "xs" := ⟨_, htokens, rfl⟩
  have hbody : ExactAll body := by simp [body, ExactAll, Instr.Exact, Access.Exact, hexact]
  have hcounted : ∀ kind, ExactAll (counted kind) := by
    intro kind
    simp [counted, ExactAll, Instr.Exact, Argument.Exact, Access.Exact, hexact, hbody]
  have htext : renderProgram cfg (counted .length) = .ok text := by
    have hxs : (Access.var "xs").code = .ok [.word "xs"] := by
      rw [Access.code, variableIdent, if_neg (by decide),
        unreservedIdent_of_tokens? htokens (by decide) (by decide)]
      rfl
    simp only [counted, body, renderProgram, programCode, Instr.code, argumentsCode,
      Argument.code, hxs]
    exact congrArg Except.ok (by decide +kernel)
  have hiff := fun q hq => rendered_text_determines_program .plain settings cfg
    (counted .length) q text hbuild (hcounted .length) hq htext
  refine ⟨cfg, hbuild, htext, (hiff (counted .size) (hcounted .size)).mpr rfl, fun hsame => ?_⟩
  have hforget := (hiff body hbody).mp hsame
  cases hforget

end WireScribe
