import Mathlib.Data.List.Forall2
import WireScribe.Proofs.Renderable
import WireScribe.Proofs.Unambiguous

/-!
# WireScribe.Proofs.StructCode — the code that makes a struct writable

The fields of a struct are turned into programs and rendered one after the other. What
comes out is one rendering of all their programs in a row, inside a fixed frame, and it
comes out whole or not at all.

1. **Programs in a row**: their code is the code of the parts in a row.
2. **Fields**: the code of all fields, and the first field that fails.
3. **Texts**: the text of tokens in a row, and of a group.
4. **The frame**: the text of an implementation, around the text of its statements.
5. **Structs**: when a struct has code, and which code or error that is.
-/

namespace WireScribe

/-! ## Programs in a row -/

theorem programCode_append_eq_ok_iff {cfg : Config} {p q : List Instr} {c : List Code} :
    programCode cfg (p ++ q) = .ok c ↔
      ∃ d e, programCode cfg p = .ok d ∧ programCode cfg q = .ok e ∧ c = d ++ e := by
  induction p generalizing c with
  | nil => simp [programCode]
  | cons i rest ih =>
    constructor
    · intro h
      obtain ⟨b, bs, hb, hbs, rfl⟩ := programCode_cons h
      obtain ⟨d, e, hd, he, rfl⟩ := ih.mp hbs
      refine ⟨b ++ d, e, ?_, he, (List.append_assoc _ _ _).symm⟩
      rw [programCode, hb, hd]
      rfl
    · rintro ⟨d, e, hd, he, rfl⟩
      obtain ⟨b, bs, hb, hbs, rfl⟩ := programCode_cons hd
      have hrest := ih.mpr ⟨bs, e, hbs, he, rfl⟩
      rw [List.cons_append, programCode, hb, hrest, List.append_assoc]
      rfl

/-! ## Fields -/

namespace Field

/-- The program that writes a field of the struct at hand. -/
def program (cfg : Config) (f : Field) : Except GenError Program :=
  f.ty.program cfg.maxDepth (.selfField f.name)

/-- The code of a field by itself. -/
def code (cfg : Config) (f : Field) : Except GenError (List Code) := do
  let p ← f.program cfg
  programCode cfg p

/-- The field has a program, and the program can be rendered. -/
def Renders (cfg : Config) (f : Field) : Prop :=
  ∃ p text, f.program cfg = .ok p ∧ renderProgram cfg p = .ok text

theorem renders_iff {cfg : Config} {f : Field} : f.Renders cfg ↔ ∃ c, f.code cfg = .ok c := by
  constructor
  · rintro ⟨p, text, hp, htext⟩
    obtain ⟨c, hc, -⟩ := renderProgram_eq_ok_iff.mp htext
    exact ⟨c, except_bind_eq_ok_iff.mpr ⟨p, hp, hc⟩⟩
  · rintro ⟨c, hcode⟩
    obtain ⟨p, hp, hc⟩ := except_bind_eq_ok_iff.mp hcode
    exact ⟨p, codeText c, hp, renderProgram_eq_ok_iff.mpr ⟨c, hc, rfl⟩⟩

/-- A field fails for its type, or else for its name. -/
theorem code_eq_error_iff {cfg : Config} {f : Field} {e : GenError} :
    f.code cfg = .error e ↔
      f.program cfg = .error e ∨ ∃ p, f.program cfg = .ok p ∧ renderProgram cfg p = .error e := by
  rw [code, except_bind_eq_error_iff]
  simp only [renderProgram_failsLike cfg _ e]

end Field

theorem fieldsCode_cons (cfg : Config) (f : Field) (rest : List Field) :
    fieldsCode cfg (f :: rest) = do
      let c ← f.code cfg
      let cs ← fieldsCode cfg rest
      return c ++ cs := by
  rw [fieldsCode, Field.code, bind_assoc]
  rfl

theorem fieldsCode_failsLike (cfg : Config) (fields : List Field) :
    FailsLike (fieldsCode cfg fields) (fields.mapM (Field.code cfg)) := by
  induction fields with
  | nil => exact .ok _ _
  | cons f rest ih =>
    rw [fieldsCode_cons]
    exact (failsLike_mapM_singleton (Field.code cfg) f).append ih _

theorem exists_fieldsCode_iff {cfg : Config} {fields : List Field} :
    (∃ c, fieldsCode cfg fields = .ok c) ↔ ∀ f ∈ fields, f.Renders cfg := by
  rw [(fieldsCode_failsLike cfg fields).exists_ok_iff, exists_mapM_eq_ok_iff]
  simp only [Field.renders_iff]

/-- The first field that fails decides the error. -/
theorem fieldsCode_eq_error_iff {cfg : Config} {fields : List Field} {e : GenError} :
    fieldsCode cfg fields = .error e ↔
      ∃ before f after, fields = before ++ f :: after ∧ (∀ g ∈ before, g.Renders cfg) ∧
        (f.program cfg = .error e ∨
          ∃ p, f.program cfg = .ok p ∧ renderProgram cfg p = .error e) := by
  rw [fieldsCode_failsLike cfg fields e, mapM_eq_error_iff]
  simp only [FirstFailure, ← Field.renders_iff, Field.code_eq_error_iff]
  constructor
  · rintro ⟨f, before, after, hfailure⟩
    exact ⟨before, f, after, hfailure⟩
  · rintro ⟨before, f, after, hfailure⟩
    exact ⟨f, before, after, hfailure⟩

/-- The code of the fields is that of their programs in a row. -/
theorem fieldsCode_eq_ok_iff {cfg : Config} {fields : List Field} {c : List Code} :
    fieldsCode cfg fields = .ok c ↔
      ∃ ps, List.Forall₂ (fun f p => f.program cfg = .ok p) fields ps ∧
        programCode cfg ps.flatten = .ok c := by
  induction fields generalizing c with
  | nil =>
    constructor
    · intro h
      exact ⟨[], .nil, h⟩
    · rintro ⟨ps, hps, hc⟩
      cases hps
      exact hc
  | cons f rest ih =>
    constructor
    · intro h
      obtain ⟨p, hp, h⟩ := except_bind_eq_ok_iff.mp h
      obtain ⟨d, hd, h⟩ := except_bind_eq_ok_iff.mp h
      obtain ⟨e, he, hc⟩ := except_bind_eq_ok_iff.mp h
      cases hc
      obtain ⟨ps, hps, hrest⟩ := ih.mp he
      exact ⟨p :: ps, .cons hp hps, programCode_append_eq_ok_iff.mpr ⟨d, e, hd, hrest, rfl⟩⟩
    · rintro ⟨ps, hps, hc⟩
      cases hps with
      | @cons _ p _ ps hp hps =>
        obtain ⟨d, e, hd, hrest, rfl⟩ := programCode_append_eq_ok_iff.mp hc
        have he := ih.mpr ⟨ps, hps, hrest⟩
        have hf : f.code cfg = .ok d := except_bind_eq_ok_iff.mpr ⟨p, hp, hd⟩
        rw [fieldsCode_cons, hf, he]
        rfl

/-- The code of a field is not empty. -/
theorem fieldsCode_ne_nil {cfg : Config} {fields : List Field} {c : List Code}
    (h : fieldsCode cfg fields = .ok c) (hfields : fields ≠ []) : c ≠ [] := by
  rintro rfl
  obtain ⟨ps, hps, hc⟩ := fieldsCode_eq_ok_iff.mp h
  cases hps with
  | nil => exact hfields rfl
  | @cons f p rest ps hp _ =>
    -- the program comes to the path of the field, so it has an instruction
    obtain ⟨paths, hpaths⟩ := Ty.pathsOf_programAt hp
    cases p with
    | nil => cases hpaths
    | cons i p => exact programCode_cons_ne_nil hc

/-! ## Texts -/

theorem codeText_append {xs ys : List Code} (hx : xs ≠ []) (hy : ys ≠ []) :
    codeText (xs ++ ys) = codeText xs ++ " " ++ codeText ys := by
  induction xs with
  | nil => exact absurd rfl hx
  | cons c xs ih =>
    cases xs with
    | nil =>
      cases ys with
      | nil => exact absurd rfl hy
      | cons d ys => rfl
    | cons d xs =>
      have htail := ih (List.cons_ne_nil d xs)
      rw [List.cons_append, List.cons_append, codeText, ← List.cons_append, htail, codeText]
      simp only [String.append_assoc]

theorem codeText_cons_of_ne_nil (c : Code) {cs : List Code} (h : cs ≠ []) :
    codeText (c :: cs) = c.text ++ " " ++ codeText cs :=
  codeText_append (List.cons_ne_nil c []) h

theorem codeText_singleton (c : Code) : codeText [c] = c.text := by rw [codeText]

theorem codeText_nil : codeText [] = "" := by rw [codeText]

theorem Code.text_word (w : String) : (Code.word w).text = w := by rw [Code.text]

theorem Code.text_inParens (cs : List Code) :
    (Code.parens cs).text = "(" ++ codeText cs ++ ")" := by
  rw [Code.text]

theorem Code.text_inBraces {cs : List Code} (h : cs ≠ []) :
    (Code.braces cs).text = "\x7b " ++ codeText cs ++ " \x7d" := by
  cases cs with
  | nil => exact absurd rfl h
  | cons c rest => rw [Code.text]

/-! ## The frame -/

/-- The text of an implementation for a struct: the header with the name of the struct, the
signature with the name of the writer, the statements, and success at the end. -/
def structText (cfg : Config) (name writer statements : String) : String :=
  "impl " ++ codeText (cfg.runtimePath.item "Writable") ++ " for " ++ name ++
    " \x7b fn write (& self , " ++ writer ++ " : & mut dyn " ++
    codeText (cfg.runtimePath.item "ProtocolWriter") ++ ") -> " ++
    codeText (cfg.runtimePath.item "Result") ++ " < () > \x7b " ++ statements ++
    "Ok (()) \x7d \x7d"

theorem codeText_implementation (cfg : Config) (i : Ident) (parameter : Code)
    {body : List Code} {statements : String}
    (hbody : codeText (body ++ [.word "Ok", .parens [.parens []]]) = statements ++ "Ok (())") :
    codeText (implementation cfg i parameter body) =
      structText cfg i.text parameter.text statements := by
  have hitem : ∀ name, cfg.runtimePath.item name ≠ [] := by simp [Path.item]
  simp (disch := simp [hitem]) only [implementation, codeText_append, codeText_cons_of_ne_nil,
    codeText_singleton, codeText_nil, Code.text_inBraces, Ident.code, Code.text_word,
    Code.text_inParens, hbody]
  -- what is left is to split the fixed parts of the frame into words and blanks
  have himpl : "impl " = "impl" ++ " " := by decide
  have hfor : " for " = " " ++ "for" ++ " " := by decide
  have hself : " \x7b fn write (& self , " =
      " " ++ "\x7b " ++ "fn" ++ " " ++ "write" ++ " " ++ "(" ++ "&" ++ " " ++ "self" ++ " " ++
        "," ++ " " := by decide
  have hdyn : " : & mut dyn " =
      " " ++ ":" ++ " " ++ "&" ++ " " ++ "mut" ++ " " ++ "dyn" ++ " " := by decide
  have harrow : ") -> " = ")" ++ " " ++ "->" ++ " " := by decide
  have hunit : " < () > \x7b " =
      " " ++ "<" ++ " " ++ "(" ++ "" ++ ")" ++ " " ++ ">" ++ " " ++ "\x7b " := by decide
  have hend : "Ok (()) \x7d \x7d" = "Ok (())" ++ " \x7d" ++ " \x7d" := by decide
  unfold structText
  rewrite [himpl, hfor, hself, hdyn, harrow, hunit, hend]
  simp only [String.append_assoc, -String.reduceAppend]

/-- The text of a struct whose fields have the code `c`. -/
theorem codeText_struct {cfg : Config} {fields : List Field} {c : List Code} (i : Ident)
    (hc : fieldsCode cfg fields = .ok c) :
    codeText (implementation cfg i (writerParameter cfg fields) c) =
      if fields = [] then structText cfg i.text ("_" ++ cfg.writer.name) ""
      else structText cfg i.text cfg.writer.text (codeText c ++ " ") := by
  have hok : codeText [.word "Ok", .parens [.parens []]] = "Ok (())" := by decide +kernel
  by_cases hfields : fields = []
  · subst hfields
    cases hc
    rw [if_pos rfl]
    exact codeText_implementation cfg i (writerParameter cfg []) hok
  · rw [if_neg hfields]
    have hwriter : writerParameter cfg fields = cfg.writer.code := by
      rw [writerParameter, if_neg]
      simpa using hfields
    rw [hwriter]
    apply codeText_implementation
    -- there are statements, so a blank stands between them and the end
    rw [codeText_append (fieldsCode_ne_nil hc hfields) (List.cons_ne_nil _ _), hok]

/-! ## Structs -/

theorem renderStruct_eq_ok_iff {cfg : Config} {name text : String} {fields : List Field} :
    renderStruct cfg name fields = .ok text ↔
      ∃ i c, plainIdent name = .ok i ∧ fieldsCode cfg fields = .ok c ∧
        text = codeText (implementation cfg i (writerParameter cfg fields) c) := by
  unfold renderStruct
  simp only [except_bind_eq_ok_iff]
  constructor
  · rintro ⟨i, hi, c, hc, htext⟩
    exact ⟨i, c, hi, hc, (Except.ok.inj htext).symm⟩
  · rintro ⟨i, c, hi, hc, rfl⟩
    exact ⟨i, hi, c, hc, rfl⟩

theorem renderStruct_eq_error_iff {cfg : Config} {name : String} {fields : List Field}
    {e : GenError} :
    renderStruct cfg name fields = .error e ↔
      plainIdent name = .error e ∨
        (∃ i, plainIdent name = .ok i) ∧ fieldsCode cfg fields = .error e := by
  unfold renderStruct
  simp only [except_bind_eq_error_iff]
  constructor
  · rintro (hname | ⟨i, hi, hfields | ⟨c, -, hdone⟩⟩)
    · exact .inl hname
    · exact .inr ⟨⟨i, hi⟩, hfields⟩
    · cases hdone
  · rintro (hname | ⟨⟨i, hi⟩, hfields⟩)
    · exact .inl hname
    · exact .inr ⟨i, hi, .inl hfields⟩

/-- The code of a struct comes out exactly if its name is a plain identifier and every field
has a program that renders. It is then the frame around the text of all these programs in a
row, with the writer for its parameter, or with the writer behind an underscore if there are
no fields. Otherwise the error is that of the name, or else that of the first field that
fails, for its type before its name. -/
theorem struct_code_all_or_nothing (cfg : Config) (name : String) (fields : List Field) :
    ((∃ text, renderStruct cfg name fields = .ok text) ↔
      (∃ i, plainIdent name = .ok i) ∧ ∀ f ∈ fields, f.Renders cfg) ∧
    (∀ text, renderStruct cfg name fields = .ok text ↔
      ∃ i ps body, plainIdent name = .ok i ∧
        List.Forall₂ (fun f p => f.program cfg = .ok p) fields ps ∧
        renderProgram cfg ps.flatten = .ok body ∧
        text = if fields = [] then structText cfg i.text ("_" ++ cfg.writer.name) ""
          else structText cfg i.text cfg.writer.text (body ++ " ")) ∧
    (∀ e, renderStruct cfg name fields = .error e ↔
      plainIdent name = .error e ∨ (∃ i, plainIdent name = .ok i) ∧
        ∃ before f after, fields = before ++ f :: after ∧ (∀ g ∈ before, g.Renders cfg) ∧
          (f.program cfg = .error e ∨
            ∃ p, f.program cfg = .ok p ∧ renderProgram cfg p = .error e)) := by
  refine ⟨?_, ?_, ?_⟩
  · rw [← exists_fieldsCode_iff]
    constructor
    · rintro ⟨text, htext⟩
      obtain ⟨i, c, hi, hc, -⟩ := renderStruct_eq_ok_iff.mp htext
      exact ⟨⟨i, hi⟩, c, hc⟩
    · rintro ⟨⟨i, hi⟩, c, hc⟩
      exact ⟨_, renderStruct_eq_ok_iff.mpr ⟨i, c, hi, hc, rfl⟩⟩
  · intro text
    rw [renderStruct_eq_ok_iff]
    constructor
    · rintro ⟨i, c, hi, hc, rfl⟩
      obtain ⟨ps, hps, hcode⟩ := fieldsCode_eq_ok_iff.mp hc
      exact ⟨i, ps, codeText c, hi, hps, renderProgram_eq_ok_iff.mpr ⟨c, hcode, rfl⟩,
        codeText_struct i hc⟩
    · rintro ⟨i, ps, body, hi, hps, hbody, rfl⟩
      obtain ⟨c, hcode, rfl⟩ := renderProgram_eq_ok_iff.mp hbody
      have hc := fieldsCode_eq_ok_iff.mpr ⟨ps, hps, hcode⟩
      exact ⟨i, c, hi, hc, (codeText_struct i hc).symm⟩
  · intro e
    rw [renderStruct_eq_error_iff, fieldsCode_eq_error_iff]

/-- A struct without fields, a field whose type is reported before its name, and a field whose
name is reported before the type of the next. -/
theorem pair_code_and_faults :
    renderStruct {} "Pair" [] = .ok ("impl ironthrift :: Writable for Pair \x7b fn write " ++
      "(& self , _output : & mut dyn ironthrift :: ProtocolWriter) -> " ++
      "ironthrift :: Result < () > \x7b Ok (()) \x7d \x7d") ∧
    renderStruct {} "Pair" [⟨"type", .named "Alias"⟩] = .error (.unsupportedType "Alias") ∧
    renderStruct {} "Pair" [⟨"type", .scalar .i32⟩, ⟨"next", .named "Alias"⟩] =
      .error (.invalidIdentifier "type" (.keyword "type")) := by
  have hname : plainIdent "Pair" = .ok ⟨false, "Pair"⟩ := by
    have htokens : tokens? "Pair" = some [.ident ⟨false, "Pair"⟩] := by decide +kernel
    rw [plainIdent, Ident.ofText, htokens]
    rfl
  refine ⟨?_, ?_, ?_⟩
  · refine ((struct_code_all_or_nothing {} "Pair" []).2.1 _).mpr
      ⟨_, [], "", hname, .nil, rfl, ?_⟩
    decide +kernel
  · exact ((struct_code_all_or_nothing {} "Pair" _).2.2 _).mpr
      (.inr ⟨⟨_, hname⟩, [], _, [], rfl, List.forall_mem_nil _, .inl rfl⟩)
  · have hself : variableIdent "self" = .ok ⟨false, "self"⟩ := if_pos rfl
    have hrender : renderProgram {} [.invoke (.datum .i32) [.value (.selfField "type")]] =
        .error (.invalidIdentifier "type" (.keyword "type")) := by
      simp only [renderProgram, programCode, Instr.code, argumentsCode, Argument.code,
        Access.copied, Access.selfField, Access.code, hself, plainIdent_type]
      rfl
    exact ((struct_code_all_or_nothing {} "Pair" _).2.2 _).mpr
      (.inr ⟨⟨_, hname⟩, [], _, [⟨"next", .named "Alias"⟩], rfl, List.forall_mem_nil _,
        .inr ⟨_, rfl, hrender⟩⟩)

end WireScribe
