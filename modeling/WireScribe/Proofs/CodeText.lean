import WireScribe.Code

/-!
# WireScribe.Proofs.CodeText — the text of code tells its tokens

The text of code is one row of characters. It can be split into the tokens again,
because a word holds no blank and no bracket, and because the blank in front of a
closing brace is not the blank in front of a token. Nothing is known of the tokens in a
run, so the text does not show where a run ends unless it is known which run it is.

1. **Splitting**: a list is split in one way at the first element that breaks a rule.
2. **Clean code**: words that hold neither blanks nor brackets, and known runs.
3. **Readable tokens**: a token whose text is that of no other token, whatever
   follows, and lists of such tokens.
-/

namespace WireScribe

/-! ## Splitting -/

/-- Two splits of a list agree if both are at the first element that breaks a rule. -/
theorem append_inj_of_first {α : Type} {rule : α → Prop} {xs ys r s : List α}
    (hxs : ∀ x ∈ xs, rule x) (hys : ∀ y ∈ ys, rule y) (hr : ∀ x ∈ r.head?, ¬ rule x)
    (hs : ∀ y ∈ s.head?, ¬ rule y) (h : xs ++ r = ys ++ s) : xs = ys ∧ r = s := by
  induction xs generalizing ys with
  | nil =>
    cases ys with
    | nil => exact ⟨rfl, h⟩
    | cons y ys =>
      have hhead : r.head? = some y := by rw [← List.nil_append r, h]; rfl
      exact absurd (hys y List.mem_cons_self) (hr y hhead)
  | cons x xs ih =>
    cases ys with
    | nil =>
      have hhead : s.head? = some x := by rw [← List.nil_append s, ← h]; rfl
      exact absurd (hxs x List.mem_cons_self) (hs x hhead)
    | cons y ys =>
      obtain ⟨rfl, htail⟩ := List.cons.inj h
      obtain ⟨rfl, hrest⟩ := ih (fun z hz => hxs z (List.mem_cons_of_mem _ hz))
        (fun z hz => hys z (List.mem_cons_of_mem _ hz)) htail
      exact ⟨rfl, hrest⟩

/-! ## Clean code -/

/-- The characters that stand around words. -/
def bounds : List Char := [' ', '(', ')', '\x7b', '\x7d', '<']

/-- A run starts with an angle bracket. -/
def IsRun (ts : List Token) : Prop := ∃ more, ts = .punct '<' false :: more

/-- Code whose words are not empty and hold no bounds, and whose runs are known: there is
at most one run that may stand between parentheses, `inner`, and one that may stand
outside of them. -/
inductive Code.Clean (inner : Option (List Token)) : Option (List Token) → Code → Prop where
  | word {outer : Option (List Token)} {text : String} (hne : text.toList ≠ [])
      (h : ∀ c ∈ text.toList, c ∉ bounds) : Clean inner outer (.word text)
  | parens {outer : Option (List Token)} {body : List Code}
      (h : ∀ c ∈ body, Clean inner inner c) : Clean inner outer (.parens body)
  | braces {outer : Option (List Token)} {body : List Code}
      (h : ∀ c ∈ body, Clean inner outer c) : Clean inner outer (.braces body)
  | run {ts : List Token} (h : IsRun ts) : Clean inner (some ts) (.run ts)

section

variable {inner outer : Option (List Token)}

/-- The text of tokens with a blank in front of each. -/
def spacedText : List Code → List Char
  | [] => []
  | c :: rest => ' ' :: (c.text.toList ++ spacedText rest)

theorem codeText_cons (c : Code) (rest : List Code) :
    (codeText (c :: rest)).toList = c.text.toList ++ spacedText rest := by
  induction rest generalizing c with
  | nil => simp [codeText, spacedText]
  | cons d rest ih => simp [codeText, spacedText, ih]

theorem spacedText_cons (c : Code) (rest : List Code) :
    spacedText (c :: rest) = ' ' :: (codeText (c :: rest)).toList := by
  rw [spacedText, codeText_cons]

theorem Code.text_parens (body : List Code) :
    (Code.parens body).text.toList = '(' :: ((codeText body).toList ++ [')']) := by
  simp [Code.text]

/-- Braces put a blank in front of each token and one more in front of their end. -/
theorem Code.text_braces (body : List Code) :
    (Code.braces body).text.toList = '\x7b' :: (spacedText body ++ [' ', '\x7d']) := by
  cases body with
  | nil => rfl
  | cons c rest => simp [Code.text, spacedText_cons]

theorem IsRun.text_head {ts : List Token} (h : IsRun ts) :
    ∃ rest, (Code.run ts).text.toList = '<' :: rest := by
  rcases h with ⟨more, rfl⟩
  have hbracket : (Token.punct '<' false).text.toList = ['<'] := rfl
  unfold Code.text
  cases more with
  | nil => exact ⟨[], hbracket⟩
  | cons t more =>
    rw [tokensText, String.append_assoc, String.toList_append, hbracket]
    exact ⟨_, rfl⟩

/-- The kinds of tokens. -/
inductive Code.Kind where
  | word
  | parens
  | braces
  | run

/-- The kind of a token. -/
def Code.kind : Code → Kind
  | .word _ => .word
  | .parens _ => .parens
  | .braces _ => .braces
  | .run _ => .run

/-- The kind of a token, by the first character of its text. -/
def kindOf (first : Char) : Code.Kind :=
  if first = '(' then .parens
  else if first = '\x7b' then .braces
  else if first = '<' then .run
  else .word

/-- A token shows its kind at its start, and starts neither with a blank nor with the end
of a group. -/
theorem Code.Clean.text_head {c : Code} (h : c.Clean inner outer) :
    ∃ first rest, c.text.toList = first :: rest ∧ kindOf first = c.kind ∧
      first ∉ [' ', ')', '\x7d'] := by
  cases h with
  | @word _ text hne hclean =>
    cases htext : text.toList with
    | nil => exact absurd htext hne
    | cons first rest =>
      have hfirst : first ∉ bounds := hclean first (by simp [htext])
      simp only [bounds, List.mem_cons, List.not_mem_nil, or_false, not_or] at hfirst
      refine ⟨first, rest, by rw [Code.text, htext], ?_, ?_⟩
      · simp [kindOf, Code.kind, hfirst]
      · simp [hfirst]
  | parens _ => exact ⟨'(', _, Code.text_parens _, rfl, by decide⟩
  | braces _ => exact ⟨'\x7b', _, Code.text_braces _, rfl, by decide⟩
  | run hrun =>
    rcases hrun.text_head with ⟨rest, htext⟩
    exact ⟨'<', rest, htext, rfl, by decide⟩

/-- Where texts agree, tokens of one kind stand. -/
theorem kind_eq_of_text {c d : Code} {r s : List Char} (hc : c.Clean inner outer)
    (hd : d.Clean inner outer) (h : c.text.toList ++ r = d.text.toList ++ s) :
    c.kind = d.kind := by
  rcases hc.text_head with ⟨first, rest, htext, hkind, -⟩
  rcases hd.text_head with ⟨first', rest', htext', hkind', -⟩
  rw [htext, htext'] at h
  rw [← hkind, ← hkind', (List.cons.inj h).1]

/-! ## Readable tokens -/

/-- What may follow a token: a blank, the end of a group, or nothing. -/
def EndsToken (r : List Char) : Prop := ∀ c ∈ r.head?, c = ' ' ∨ c = ')'

/-- What may follow a list of tokens: the end of the group around it, or nothing. -/
inductive EndsGroup : List Char → Prop where
  | done : EndsGroup []
  | parens (more : List Char) : EndsGroup (')' :: more)
  | braces (more : List Char) : EndsGroup (' ' :: '\x7d' :: more)

theorem EndsGroup.endsToken {r : List Char} (h : EndsGroup r) : EndsToken r := by
  intro c hc
  cases h with
  | done => cases hc
  | parens more =>
    cases hc
    exact .inr rfl
  | braces more =>
    cases hc
    exact .inl rfl

/-- No token stands where a group ends, with or without a blank. -/
theorem EndsGroup.ne_token {r : List Char} (h : EndsGroup r) {c : Code}
    (hc : c.Clean inner outer) (more : List Char) :
    r ≠ c.text.toList ++ more ∧ r ≠ ' ' :: (c.text.toList ++ more) := by
  obtain ⟨first, rest, htext, -, hfirst⟩ := hc.text_head
  rw [htext]
  cases h with
  | done => simp
  | parens rest' =>
    refine ⟨fun heq => hfirst ?_, by simp⟩
    rw [← (List.cons.inj heq).1]
    decide
  | braces rest' =>
    refine ⟨fun heq => hfirst ?_, fun heq => hfirst ?_⟩
    · rw [← (List.cons.inj heq).1]
      decide
    · rw [← (List.cons.inj (List.cons.inj heq).2).1]
      decide

/-- The text of the token is not that of another token, and shows where it ends. -/
def Code.Readable (inner outer : Option (List Token)) (c : Code) : Prop :=
  ∀ {d : Code} {r s : List Char}, d.Clean inner outer → EndsToken r → EndsToken s →
    c.text.toList ++ r = d.text.toList ++ s → c = d ∧ r = s

theorem endsToken_spacedText {cs : List Code} {r : List Char} (hr : EndsGroup r) :
    EndsToken (spacedText cs ++ r) := by
  cases cs with
  | nil => exact hr.endsToken
  | cons c rest =>
    intro x hx
    cases hx
    exact .inl rfl

theorem spacedText_append_inj {cs ds : List Code} {r s : List Char}
    (hcs : ∀ c ∈ cs, c.Clean inner outer ∧ c.Readable inner outer)
    (hds : ∀ d ∈ ds, d.Clean inner outer) (hr : EndsGroup r) (hs : EndsGroup s)
    (h : spacedText cs ++ r = spacedText ds ++ s) : cs = ds ∧ r = s := by
  induction cs generalizing ds with
  | nil =>
    cases ds with
    | nil => exact ⟨rfl, h⟩
    | cons d ds =>
      rw [spacedText, spacedText, List.cons_append, List.append_assoc] at h
      exact absurd h (hr.ne_token (hds d List.mem_cons_self) _).2
  | cons c cs ih =>
    obtain ⟨hclean, hread⟩ := hcs c List.mem_cons_self
    cases ds with
    | nil =>
      rw [spacedText, spacedText, List.cons_append, List.append_assoc] at h
      exact absurd h.symm (hs.ne_token hclean _).2
    | cons d ds =>
      simp only [spacedText, List.cons_append, List.append_assoc, List.cons.injEq,
        true_and] at h
      obtain ⟨rfl, hrest⟩ := hread (hds d List.mem_cons_self) (endsToken_spacedText hr)
        (endsToken_spacedText hs) h
      obtain ⟨rfl, hend⟩ := ih (fun e he => hcs e (List.mem_cons_of_mem _ he))
        (fun e he => hds e (List.mem_cons_of_mem _ he)) hrest
      exact ⟨rfl, hend⟩

theorem codeText_append_inj {cs ds : List Code} {r s : List Char}
    (hcs : ∀ c ∈ cs, c.Clean inner outer ∧ c.Readable inner outer)
    (hds : ∀ d ∈ ds, d.Clean inner outer) (hr : EndsGroup r) (hs : EndsGroup s)
    (h : (codeText cs).toList ++ r = (codeText ds).toList ++ s) : cs = ds ∧ r = s := by
  cases cs with
  | nil =>
    cases ds with
    | nil => exact ⟨rfl, h⟩
    | cons d ds =>
      rw [codeText_cons, List.append_assoc] at h
      exact absurd h (hr.ne_token (hds d List.mem_cons_self) _).1
  | cons c cs =>
    cases ds with
    | nil =>
      rw [codeText_cons, List.append_assoc] at h
      exact absurd h.symm (hs.ne_token (hcs c List.mem_cons_self).1 _).1
    | cons d ds =>
      -- with a blank in front of both texts every token has one
      apply spacedText_append_inj hcs hds hr hs
      rw [spacedText_cons, spacedText_cons, List.cons_append, List.cons_append, h]

theorem Code.Clean.readable {c : Code} (h : c.Clean inner outer) : c.Readable inner outer := by
  induction h with
  | @word outer text hne hclean =>
    intro d r s hd hr hs heq
    have hkind := kind_eq_of_text (.word hne hclean) hd heq
    cases hd with
    | word _ hclean' =>
      -- both words end at the first of the bounds
      have hbound : ∀ {r : List Char}, EndsToken r → ∀ c ∈ r.head?, ¬ c ∉ bounds := by
        intro r hr c hc
        rcases hr c hc with rfl | rfl <;> decide
      obtain ⟨hchars, hrest⟩ := append_inj_of_first hclean hclean' (hbound hr) (hbound hs) heq
      exact ⟨congrArg Code.word (String.toList_inj.mp hchars), hrest⟩
    | parens _ | braces _ | run _ => cases hkind
  | @parens outer body hbody ih =>
    intro d r s hd hr hs heq
    have hkind := kind_eq_of_text (.parens hbody) hd heq
    cases hd with
    | parens hbody' =>
      rw [Code.text_parens, Code.text_parens] at heq
      simp only [List.cons_append, List.append_assoc, List.cons.injEq, true_and] at heq
      obtain ⟨rfl, hend⟩ := codeText_append_inj (fun c hc => ⟨hbody c hc, ih c hc⟩) hbody'
        (.parens r) (.parens s) heq
      exact ⟨rfl, (List.cons.inj hend).2⟩
    | word _ _ | braces _ | run _ => cases hkind
  | @braces outer body hbody ih =>
    intro d r s hd hr hs heq
    have hkind := kind_eq_of_text (.braces hbody) hd heq
    cases hd with
    | braces hbody' =>
      rw [Code.text_braces, Code.text_braces] at heq
      simp only [List.cons_append, List.append_assoc, List.cons.injEq, true_and] at heq
      obtain ⟨rfl, hend⟩ := spacedText_append_inj (fun c hc => ⟨hbody c hc, ih c hc⟩) hbody'
        (.braces r) (.braces s) heq
      exact ⟨rfl, (List.cons.inj (List.cons.inj hend).2).2⟩
    | word _ _ | parens _ | run _ => cases hkind
  | @run ts hrun =>
    intro d r s hd hr hs heq
    have hkind := kind_eq_of_text (.run hrun) hd heq
    cases hd with
    | run _ =>
      -- the two runs are the one that is known, and what follows them is left
      exact ⟨rfl, List.append_cancel_left heq⟩
    | word _ _ | parens _ | braces _ => cases hkind

/-- Clean code can be read back from its text. -/
theorem codeText_inj {cs ds : List Code} (hcs : ∀ c ∈ cs, c.Clean inner outer)
    (hds : ∀ d ∈ ds, d.Clean inner outer) (h : codeText cs = codeText ds) : cs = ds := by
  have hchars : (codeText cs).toList ++ [] = (codeText ds).toList ++ [] := by rw [h]
  exact (codeText_append_inj (fun c hc => ⟨hcs c hc, (hcs c hc).readable⟩) hds .done .done
    hchars).1

end

end WireScribe
