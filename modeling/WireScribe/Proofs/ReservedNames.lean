import WireScribe.Rendering
import WireScribe.Proofs.Spelling
import WireScribe.Proofs.Synthesis

/-!
# WireScribe.Proofs.ReservedNames — which reserved names generated code can hold

Loops bind names that start with two underscores, and a text that starts so is refused
as the name of the writer or of a variable. The refusal looks at the text, and what
generated code holds is the identifier that the text spells. The two agree unless
something stands in front of the name.

1. **The refusal**: a spelling is refused exactly if its name is reserved and nothing
   leads to it (`Spells.reservedStart_iff`).
2. **Loop names**: they are reserved, and a blank in front makes each one acceptable.
3. **Accepted names**: what becomes of the writer and of the variable of a path.
-/

namespace WireScribe

open Text

/-! ## The refusal -/

/-- The names that are kept for loops. The mark of a raw word is not part of a name. -/
def Ident.Reserved (i : Ident) : Prop := reservedStart.toList <+: i.name.toList

instance (i : Ident) : Decidable i.Reserved :=
  inferInstanceAs (Decidable (reservedStart.toList <+: i.name.toList))

theorem Ident.Reserved.isKeyword {i : Ident} (h : i.Reserved) : i.isKeyword = false := by
  have hkeywords : ∀ w ∈ keywords, ¬ reservedStart.toList <+: w.toList := by decide +kernel
  rw [Ident.isKeyword, Bool.and_eq_false_iff]
  right
  rw [List.contains_eq_mem, decide_eq_false_iff_not]
  exact fun hmem => hkeywords i.name hmem h

namespace Spells

variable {text : String} {lead trail : List Char} {i : Ident} (h : Spells text lead i trail)

include h

/-- A text spells one identifier. -/
theorem ident_unique {lead' trail' : List Char} {j : Ident} (h' : Spells text lead' j trail') :
    i = j := by
  have hi := tokens?_eq_ident_iff_spells.mpr ⟨lead, trail, h⟩
  rw [tokens?_eq_ident_iff_spells.mpr ⟨lead', trail', h'⟩] at hi
  cases hi
  rfl

/-- A text that starts with an underscore starts with the name. -/
theorem unled_of_underscore {rest : List Char} (htext : text.toList = '_' :: rest) :
    lead = [] ∧ text.toList = i.name.toList ++ trail := by
  have hfront := h.front
  rw [htext] at hfront
  have hspelled : i.text.toList ++ trail = '_' :: rest := hfront.eq_of_isIdentStart (by decide)
  rw [Ident.text_toList] at hspelled
  split at hspelled
  · -- a raw word starts with a letter
    cases hspelled
  · have hname : text.toList = i.name.toList ++ trail := by
      rw [htext, ← hspelled, List.nil_append]
    refine ⟨?_, hname⟩
    have hwhole := h.whole
    rw [hname] at hwhole
    exact List.self_eq_append_left.mp hwhole

/-- The start of a text shows a reserved name exactly if nothing leads to it. -/
theorem reservedStart_iff :
    reservedStart.toList <+: text.toList ↔ i.Reserved ∧ lead = [] := by
  constructor
  · rintro ⟨rest, hrest⟩
    have htext : text.toList = '_' :: '_' :: rest := hrest.symm
    obtain ⟨hlead, hname⟩ := h.unled_of_underscore htext
    refine ⟨?_, hlead⟩
    obtain ⟨⟨c, w, hword, -, -⟩, -⟩ := h.ident
    rw [htext, hword] at hname
    cases w with
    | nil =>
      -- the second underscore would go on with the name
      cases hname
      have hend := h.back.parted.endsWord '_' rfl
      exact absurd hend (by decide)
    | cons d w =>
      cases hname
      rw [Ident.Reserved, hword]
      exact ⟨w, rfl⟩
  · rintro ⟨hreserved, rfl⟩
    rw [h.whole, List.nil_append]
    exact hreserved.trans (List.prefix_append _ _)

end Spells

theorem plainIdent_eq_ok_iff {text : String} {i : Ident} :
    plainIdent text = .ok i ↔ Ident.ofText text = .ok i := by
  rw [plainIdent]
  cases Ident.ofText text <;> simp [inText]

theorem unreservedIdent_eq_ok_iff {text : String} {i : Ident} :
    unreservedIdent text = .ok i ↔
      Ident.ofText text = .ok i ∧ ¬ reservedStart.toList <+: text.toList := by
  have hstart : reservedStart.isPrefixOf text = true ↔ reservedStart.toList <+: text.toList :=
    String.startsWith_string_iff
  rw [unreservedIdent, ← hstart, ← plainIdent_eq_ok_iff]
  split
  · rename_i hreserved
    constructor
    · exact fun h => nomatch h
    · exact fun h => absurd hreserved h.2
  · rename_i hreserved
    exact ⟨fun h => ⟨h, hreserved⟩, fun h => h.1⟩

/-- The text spells the identifier, with something in front of the name. -/
def Led (text : String) (i : Ident) : Prop := ∃ lead trail, Spells text lead i trail ∧ lead ≠ []

/-- A reserved name gets past the refusal exactly if something leads to it. -/
theorem unreservedIdent_eq_ok_iff_led {text : String} {i : Ident} (hreserved : i.Reserved) :
    unreservedIdent text = .ok i ↔ Led text i := by
  rw [unreservedIdent_eq_ok_iff, Ident.ofText_eq_ok_iff]
  constructor
  · rintro ⟨⟨⟨lead, trail, h⟩, -⟩, hstart⟩
    refine ⟨lead, trail, h, fun hlead => ?_⟩
    exact hstart (h.reservedStart_iff.mpr ⟨hreserved, hlead⟩)
  · rintro ⟨lead, trail, h, hlead⟩
    refine ⟨⟨⟨lead, trail, h⟩, hreserved.isKeyword⟩, fun hstart => ?_⟩
    exact hlead (h.reservedStart_iff.mp hstart).2

theorem unreservedIdent_of_tokens? {text : String} {i : Ident} (h : tokens? text = some [.ident i])
    (hkeyword : i.isKeyword = false) (hreserved : ¬ i.Reserved) : unreservedIdent text = .ok i := by
  obtain ⟨lead, trail, hspells⟩ := tokens?_eq_ident_iff_spells.mp h
  refine unreservedIdent_eq_ok_iff.mpr ⟨?_, fun hstart => ?_⟩
  · exact Ident.ofText_eq_ok_iff.mpr ⟨⟨lead, trail, hspells⟩, hkeyword⟩
  · exact hreserved (hspells.reservedStart_iff.mp hstart).1

/-! ## Loop names -/

/-- What tells the names of the roles apart. -/
def Role.stem : Role → String
  | .element => "elem_"
  | .key => "key_"
  | .value => "value_"

theorem Binding.ident_toList (b : Binding) :
    b.ident.toList = '_' :: '_' :: (b.role.stem.toList ++ Nat.toDigits 10 b.depth) := by
  obtain ⟨role, depth⟩ := b
  have hdigits : (toString depth).toList = Nat.toDigits 10 depth := Nat.toList_repr
  cases role <;> simp only [Binding.ident, Role.stem, String.toList_append, hdigits] <;> rfl

theorem Role.stem_inj {role role' : Role} {ds ds' : List Char}
    (h : role.stem.toList ++ ds = role'.stem.toList ++ ds') : role = role' := by
  cases role <;> cases role' <;> first | rfl | cases h

/-- A loop name tells its role and its depth. -/
theorem Binding.ident_inj {b c : Binding} (h : b.ident = c.ident) : b = c := by
  obtain ⟨role, depth⟩ := b
  obtain ⟨role', depth'⟩ := c
  have hchars := congrArg String.toList h
  simp only [Binding.ident_toList, List.cons.injEq, true_and] at hchars
  obtain rfl := Role.stem_inj hchars
  have hdigits := congrArg (fun ds => Nat.ofDigitChars 10 ds 0) (List.append_cancel_left hchars)
  simp only [Nat.ofDigitChars_ten_toDigits] at hdigits
  rw [hdigits]

/-- The identifier that a loop binds. -/
def Binding.word (b : Binding) : Ident := ⟨false, b.ident⟩

theorem Binding.word_reserved (b : Binding) : b.word.Reserved := by
  rw [Ident.Reserved, Binding.word, b.ident_toList]
  exact ⟨_, rfl⟩

theorem Binding.word_spellable (b : Binding) : b.word.Spellable := by
  refine ⟨⟨'_', '_' :: (b.role.stem.toList ++ Nat.toDigits 10 b.depth), b.ident_toList,
    by decide, ?_⟩, fun hraw => nomatch hraw⟩
  intro d hd
  rcases List.mem_cons.mp hd with rfl | hd
  · decide
  rcases List.mem_append.mp hd with hstem | hdigit
  · have hstems : b.role.stem.toList.all isIdentContinue = true := by cases b.role <;> decide
    exact List.all_eq_true.mp hstems d hstem
  · exact isIdentContinue_of_isDigit (Nat.isDigit_of_mem_toDigits (by decide) (by decide) hdigit)

/-- A blank leads to every loop name. -/
theorem Binding.spells_padded (b : Binding) : Spells (" " ++ b.ident) [' '] b.word [] where
  whole := by simp [Binding.word]
  ident := b.word_spellable
  front := by
    have hpadded : (" " ++ b.ident).toList = ' ' :: b.ident.toList := by simp
    rw [hpadded, List.append_nil]
    exact .blank (by decide) (.refl _)
  back := .refl []

/-! ## Accepted names -/

theorem Settings.buildWith_eq_ok_iff {reader : ArgumentReader} {s : Settings} {cfg : Config} :
    s.buildWith reader = .ok cfg ↔
      unreservedIdent s.writer = .ok cfg.writer ∧
      Path.ofText reader s.wireTypePath = .ok cfg.wireTypePath ∧
      Path.ofText reader s.runtimePath = .ok cfg.runtimePath ∧ s.maxDepth = cfg.maxDepth := by
  rw [Settings.buildWith]
  simp only [except_bind_eq_ok_iff]
  constructor
  · rintro ⟨writer, hwriter, wireTypePath, hwire, runtimePath, hruntime, hcfg⟩
    cases hcfg
    exact ⟨hwriter, hwire, hruntime, rfl⟩
  · rintro ⟨hwriter, hwire, hruntime, hdepth⟩
    refine ⟨_, hwriter, _, hwire, _, hruntime, ?_⟩
    rw [hdepth]
    rfl

/-- The settings have a configuration by default. -/
theorem Settings.buildWith_default (reader : ArgumentReader) :
    ({} : Settings).buildWith reader = .ok {} := by
  have hwriter : tokens? "output" = some [.ident ⟨false, "output"⟩] := by decide +kernel
  have hwire : tokens? "ironthrift::WireType" =
      some [.ident ⟨false, "ironthrift"⟩, .punct ':' true, .punct ':' false,
        .ident ⟨false, "WireType"⟩] := by decide +kernel
  have hruntime : tokens? "ironthrift" = some [.ident ⟨false, "ironthrift"⟩] := by decide +kernel
  refine Settings.buildWith_eq_ok_iff.mpr ⟨?_, ?_, ?_, rfl⟩
  · exact unreservedIdent_of_tokens? hwriter (by decide) (by decide)
  · refine Path.ofText_eq_ok_iff.mpr ⟨_, hwire, ?_⟩
    rw [Path.ofTokens, Path.segmentsOf_more (by decide) rfl (by simp),
      Path.segmentsOf_last (by decide) rfl]
    · rfl
    · simp
  · refine Path.ofText_eq_ok_iff.mpr ⟨_, hruntime, ?_⟩
    rw [Path.ofTokens, Path.segmentsOf_last (by decide) rfl]
    · rfl
    · simp

theorem spells_self : Spells "self" [] ⟨false, "self"⟩ [] where
  whole := rfl
  ident := ⟨⟨'s', ['e', 'l', 'f'], rfl, by decide, List.all_eq_true.mp (by decide)⟩,
    fun hraw => nomatch hraw⟩
  front := .refl _
  back := .refl []

theorem variableIdent_eq_ok_iff_led {text : String} {i : Ident} (hreserved : i.Reserved) :
    variableIdent text = .ok i ↔ Led text i := by
  rw [variableIdent]
  split
  · rename_i hself
    constructor
    · intro h
      cases h
      exact absurd hreserved (by decide)
    · rintro ⟨lead, trail, hspells, -⟩
      rw [hself] at hspells
      rw [hspells.ident_unique spells_self] at hreserved
      exact absurd hreserved (by decide)
  · exact unreservedIdent_eq_ok_iff_led hreserved

theorem spellable_of_variableIdent {text : String} {i : Ident} (h : variableIdent text = .ok i) :
    i.Spellable := by
  rw [variableIdent] at h
  split at h
  · cases h
    exact spells_self.ident
  · obtain ⟨⟨lead, trail, hspells⟩, -⟩ :=
      Ident.ofText_eq_ok_iff.mp (unreservedIdent_eq_ok_iff.mp h).1
    exact hspells.ident

/-- Code tells a reserved name from every identifier that can be spelled. -/
theorem Ident.eq_of_code_eq {i j : Ident} (hj : j.Spellable) (hi : i.Reserved)
    (h : j.code = i.code) : j = i := by
  have htext : j.text.toList = i.text.toList := congrArg String.toList (Code.word.inj h)
  obtain ⟨iraw, iname⟩ := i
  obtain ⟨jraw, jname⟩ := j
  obtain ⟨⟨c, w, hname, -, hw⟩, -⟩ := hj
  obtain ⟨rest, hrest⟩ := hi
  rw [Ident.text_toList, Ident.text_toList] at htext
  simp only at htext hname hrest
  cases jraw with
  | false =>
    cases iraw with
    | false => rw [String.toList_inj.mp htext]
    | true =>
      -- the number sign would be part of a word
      rw [hname] at htext
      cases htext
      exact absurd (hw '#' List.mem_cons_self) (by decide)
  | true =>
    cases iraw with
    | false =>
      -- a reserved name does not start with a letter
      rw [← hrest] at htext
      cases htext
    | true =>
      have hnames : jname.toList = iname.toList := List.append_cancel_left htext
      rw [String.toList_inj.mp hnames]

/-- A struct with no fields names its writer with one more underscore in front, which
makes a reserved name of every name that starts with one. -/
theorem writerParameter_nil_reserved_iff {cfg : Config} :
    (∃ j : Ident, j.Reserved ∧ writerParameter cfg [] = j.code) ↔
      ['_'] <+: cfg.writer.name.toList := by
  constructor
  · rintro ⟨⟨raw, name⟩, ⟨rest, hrest⟩, hcode⟩
    have hword : "_" ++ cfg.writer.name = Ident.text ⟨raw, name⟩ := Code.word.inj hcode
    have htext := congrArg String.toList hword
    rw [String.toList_append, Ident.text_toList, ← hrest] at htext
    cases raw with
    | false => exact ⟨rest, (List.cons.inj htext).2.symm⟩
    | true => cases htext
  · rintro ⟨rest, hrest⟩
    refine ⟨⟨false, "_" ++ cfg.writer.name⟩, ⟨rest, ?_⟩, rfl⟩
    rw [String.toList_append, ← hrest]
    rfl

/-- The variable at which a path starts, unless that is a loop name. -/
def Access.variable? : Access → Option String
  | .var name => some name
  | .field base _ => base.variable?
  | .bound _ => none

/-- The code of a path starts with its variable. -/
theorem Access.variableIdent_of_code {a : Access} {c : List Code} {name : String}
    (hcode : a.code = .ok c) (hname : a.variable? = some name) :
    ∃ i more, c = i.code :: more ∧ variableIdent name = .ok i := by
  induction a generalizing c with
  | var text =>
    cases hname
    obtain ⟨i, hi, hc⟩ := except_bind_eq_ok_iff.mp hcode
    cases hc
    exact ⟨i, [], rfl, hi⟩
  | field base field ih =>
    obtain ⟨cbase, hbase, hrest⟩ := except_bind_eq_ok_iff.mp hcode
    obtain ⟨j, -, hc⟩ := except_bind_eq_ok_iff.mp hrest
    cases hc
    obtain ⟨i, more, rfl, hi⟩ := ih hbase hname
    exact ⟨i, _, rfl, hi⟩
  | bound b => cases hname

/-- Which reserved names generated code can hold. The writer of any settings gets a
reserved name exactly if something in its text leads to the name, and so does the
variable of any path. A struct with no fields makes one of a writer's name that starts
with an underscore. The names that loops bind are reserved, and a blank leads to each
of them. -/
theorem reserved_name_emitted_iff_led (reader : ArgumentReader) (text : String) (i : Ident)
    (s : Settings) (cfg : Config) (hreserved : i.Reserved)
    (hbuild : s.buildWith reader = .ok cfg) :
    (({ s with writer := text } : Settings).buildWith reader = .ok { cfg with writer := i } ↔
      Led text i) ∧
    ((∃ j : Ident, j.Reserved ∧ writerParameter cfg [] = j.code) ↔
      ['_'] <+: cfg.writer.name.toList) ∧
    ((∃ (a : Access) (more : List Code), a.variable? = some text ∧
      a.code = .ok (i.code :: more)) ↔ Led text i) ∧
    (∀ b : Binding, (Access.bound b).code = .ok [b.word.code] ∧ b.word.Reserved ∧
      Led (" " ++ b.ident) b.word) := by
  refine ⟨?_, writerParameter_nil_reserved_iff, ?_, ?_⟩
  · rw [Settings.buildWith_eq_ok_iff, ← unreservedIdent_eq_ok_iff_led hreserved]
    have hpaths := (Settings.buildWith_eq_ok_iff.mp hbuild).2
    exact ⟨fun h => h.1, fun h => ⟨h, hpaths⟩⟩
  · rw [← variableIdent_eq_ok_iff_led hreserved]
    constructor
    · rintro ⟨a, more, hname, hcode⟩
      obtain ⟨j, more', hc, hj⟩ := Access.variableIdent_of_code hcode hname
      have hji : j = i :=
        Ident.eq_of_code_eq (spellable_of_variableIdent hj) hreserved (List.cons.inj hc).1.symm
      rw [hj, hji]
    · intro h
      refine ⟨.var text, [], rfl, ?_⟩
      rw [Access.code, h]
      rfl
  · intro b
    exact ⟨rfl, b.word_reserved, [' '], [], b.spells_padded, List.cons_ne_nil _ _⟩

/-- A blank in front of the name that the outermost loop over elements binds makes it
the writer, and the loop then hides the writer from its own body. A variable can take
the name in the same way. -/
theorem padded_writer_is_captured :
    ∃ cfg p, ({ writer := " __elem_0" } : Settings).build = .ok cfg ∧
      (∃ (a : Access) (more : List Code), a.variable? = some " __elem_0" ∧
        a.code = .ok (cfg.writer.code :: more)) ∧
      (Ty.seq .list (.scalar .i32)).program none (.var "xs") = .ok p ∧
      renderProgram cfg p = .ok
        ("__elem_0 . write_list_begin (ironthrift :: WireType :: I32 , xs . len ()) ? ; " ++
          "for __elem_0 in xs . iter () \x7b __elem_0 . write_i32 (* __elem_0) ? ; \x7d " ++
          "__elem_0 . write_list_end () ? ;") := by
  obtain ⟨hwriter, -, hvariable, hloops⟩ := reserved_name_emitted_iff_led .plain " __elem_0"
    (Binding.word ⟨.element, 0⟩) {} {} (Binding.word_reserved _) (Settings.buildWith_default _)
  have hname : " " ++ Binding.ident ⟨.element, 0⟩ = " __elem_0" := by decide +kernel
  obtain ⟨-, -, hled⟩ := hloops ⟨.element, 0⟩
  rw [hname] at hled
  have hxs : (Access.var "xs").code = .ok [.word "xs"] := by
    have htokens : tokens? "xs" = some [.ident ⟨false, "xs"⟩] := by decide +kernel
    rw [Access.code, variableIdent, if_neg (by decide),
      unreservedIdent_of_tokens? htokens (by decide) (by decide)]
    rfl
  refine ⟨_, _, hwriter.mpr hled, hvariable.mpr hled, rfl, ?_⟩
  simp only [renderProgram, programCode, Instr.code, argumentsCode, Argument.code, hxs]
  exact congrArg Except.ok (by decide +kernel)

end WireScribe
