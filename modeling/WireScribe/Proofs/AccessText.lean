import WireScribe.Proofs.CodeText
import WireScribe.Proofs.ReservedNames
import WireScribe.Proofs.Serialization

/-!
# WireScribe.Proofs.AccessText — the text of a path tells the path

An environment knows a value by the text of its path and by nothing else. Two paths with
one text would share a value, and binding one would overwrite the other.

1. **Plain paths**: `Access.Plain` rules out the names that could be taken for more than
   one name, or for a loop name.
2. **The last dot**: it parts the last field from the path in front of it.
3. **Reading a path back**: plain paths with one text are equal.
4. **Binding**: a binding is seen at its own path, by the environment and by a run, and at
   no other.
-/

namespace WireScribe

/-! ## Plain paths -/

namespace Access

/-- No name holds a dot, and a variable does not start like the names of loops. -/
def Plain : Access → Prop
  | var name => '.' ∉ name.toList ∧ ¬ reservedStart.toList <+: name.toList
  | field base name => base.Plain ∧ '.' ∉ name.toList
  | bound _ => True

instance decidablePlain : (a : Access) → Decidable a.Plain
  | var _ => inferInstanceAs (Decidable (_ ∧ _))
  | field base _ =>
    have := decidablePlain base
    inferInstanceAs (Decidable (_ ∧ _))
  | bound _ => inferInstanceAs (Decidable True)

end Access

/-! ## The last dot -/

/-- Two splits of a list at the last occurrence of an element agree. -/
theorem append_cons_inj_of_last {α : Type} {x : α} {xs xs' ys ys' : List α} (hys : x ∉ ys)
    (hys' : x ∉ ys') (h : xs ++ x :: ys = xs' ++ x :: ys') : xs = xs' ∧ ys = ys' := by
  -- from behind it is the first element that is `x`
  have hrev : ys.reverse ++ x :: xs.reverse = ys'.reverse ++ x :: xs'.reverse := by
    simpa using congrArg List.reverse h
  have hother : ∀ {zs : List α}, x ∉ zs → ∀ z ∈ zs.reverse, z ≠ x := by
    intro zs hzs z hz heq
    rw [List.mem_reverse, heq] at hz
    exact hzs hz
  have hhead : ∀ (zs : List α), ∀ z ∈ (x :: zs).head?, ¬ z ≠ x := by
    intro zs z hz hne
    cases hz
    exact hne rfl
  obtain ⟨hback, hfront⟩ :=
    append_inj_of_first (hother hys) (hother hys') (hhead _) (hhead _) hrev
  constructor
  · exact List.reverse_inj.mp (List.cons.inj hfront).2
  · exact List.reverse_inj.mp hback

theorem Binding.dot_not_mem_ident (b : Binding) : '.' ∉ b.ident.toList := by
  intro hdot
  obtain ⟨⟨c, rest, hname, hc, hrest⟩, -⟩ := b.word_spellable
  have hcont : Text.isIdentContinue '.' = true := by
    have hmem : '.' ∈ c :: rest := by rwa [← hname]
    rcases List.mem_cons.mp hmem with rfl | hmem
    · exact isIdentContinue_of_isIdentStart hc
    · exact hrest '.' hmem
  exact not_mem_marks hcont (by decide)

namespace Access

theorem text_field (base : Access) (name : String) :
    (field base name).text.toList = base.text.toList ++ '.' :: name.toList := by
  simp [text]

/-! ## Reading a path back -/

/-- A text without dots is not that of a field. -/
theorem text_field_ne_of_not_mem {base : Access} {name text : String} (h : '.' ∉ text.toList) :
    (field base name).text ≠ text := by
  intro heq
  apply h
  rw [← heq, text_field]
  exact List.mem_append_right _ List.mem_cons_self

theorem var_text_ne_ident {name : String} (hfree : ¬ reservedStart.toList <+: name.toList)
    (b : Binding) : name ≠ b.ident := by
  rintro rfl
  exact hfree b.word_reserved

/-- A plain path can be read back from its text. -/
theorem text_inj {a b : Access} (ha : a.Plain) (hb : b.Plain) (h : a.text = b.text) : a = b := by
  induction a generalizing b with
  | var name =>
    cases b with
    | var name' => exact congrArg var h
    | field base' name' => exact absurd h.symm (text_field_ne_of_not_mem ha.1)
    | bound c => exact absurd h (var_text_ne_ident ha.2 c)
  | field base name ih =>
    cases b with
    | var name' => exact absurd h (text_field_ne_of_not_mem hb.1)
    | field base' name' =>
      have hchars := congrArg String.toList h
      rw [text_field, text_field] at hchars
      -- dots may stand in both bases, but not behind the last one
      obtain ⟨hbase, hname⟩ := append_cons_inj_of_last ha.2 hb.2 hchars
      rw [ih ha.1 hb.1 (String.toList_inj.mp hbase), String.toList_inj.mp hname]
    | bound c => exact absurd h (text_field_ne_of_not_mem c.dot_not_mem_ident)
  | bound c =>
    cases b with
    | var name' => exact absurd h.symm (var_text_ne_ident hb.2 c)
    | field base' name' => exact absurd h.symm (text_field_ne_of_not_mem c.dot_not_mem_ident)
    | bound c' => exact congrArg bound (Binding.ident_inj h)

-- a name with a dot could be two names
example : (var "a.b").text = (field (var "a") "b").text := by decide

theorem text_eq_iff {a b : Access} (ha : a.Plain) (hb : b.Plain) : a.text = b.text ↔ a = b :=
  ⟨text_inj ha hb, congrArg text⟩

end Access

/-! ## Binding -/

theorem Environment.get?_bindAccess {a b : Access} (ha : a.Plain) (hb : b.Plain)
    (env : Environment) (v : Value) :
    (env.bindAccess a v).get? b.text = if b = a then some v else env.get? b.text := by
  unfold bindAccess
  rw [get?_bind]
  simp only [Access.text_eq_iff hb ha]

/-- What a run finds depends on the environment at the path only. -/
theorem resolve_congr {env env' : Environment} {a : Access}
    (h : env.get? a.text = env'.get? a.text) (scope : Scope) :
    resolve env scope a = resolve env' scope a := by
  cases a with
  | var name => simp only [resolve, h]
  | field base name => simp only [resolve, h]
  | bound b => rfl

/-- A run finds what is bound to a path there, unless the path is a loop name, which is
looked up among the items of the loops. -/
theorem resolve_bindAccess {a b : Access} (ha : a.Plain) (hb : b.Plain) (env : Environment)
    (v : Value) (scope : Scope) :
    resolve (env.bindAccess a v) scope b =
      if b = a ∧ b.binding? = none then .ok v else resolve env scope b := by
  have hget := Environment.get?_bindAccess ha hb env v
  by_cases hab : b = a
  · rw [if_pos hab] at hget
    by_cases hloop : b.binding? = none
    · rw [if_pos ⟨hab, hloop⟩]
      exact resolve_of_get? hloop hget
    · rw [if_neg fun h => hloop h.2]
      cases b with
      | bound c => rfl
      | var name => exact absurd rfl hloop
      | field base name => exact absurd rfl hloop
  · rw [if_neg hab] at hget
    rw [if_neg fun h => hab h.1]
    exact resolve_congr hget scope

/-- Two paths whose names hold no dots, and whose variables do not start like loop names,
have the same text only if they are equal. So binding one of them is seen at the other
only if they are equal, when the environment is asked and when a run looks for a value. -/
theorem paths_do_not_collide (a b : Access) (ha : a.Plain) (hb : b.Plain) :
    (a.text = b.text → a = b) ∧
    ∀ (env : Environment) (v : Value),
      (env.bindAccess a v).get? b.text = (if b = a then some v else env.get? b.text) ∧
      ∀ scope : Scope, resolve (env.bindAccess a v) scope b =
        if b = a ∧ b.binding? = none then .ok v else resolve env scope b := by
  refine ⟨Access.text_inj ha hb, ?_⟩
  intro env v
  constructor
  · exact Environment.get?_bindAccess ha hb env v
  · intro scope
    exact resolve_bindAccess ha hb env v scope

/-- The field `0` of a loop name is one path, and the field `0` of a field with an empty
name is another: a value bound to the first is found there, and not at the second. -/
theorem close_paths_kept_apart :
    let item : Access := .field (.bound ⟨.element, 1⟩) "0"
    let other : Access := .field (.field (.bound ⟨.element, 1⟩) "") "0"
    item.Plain ∧ other.Plain ∧ item.text = "__elem_1.0" ∧ other.text = "__elem_1..0" ∧
      ∀ (env : Environment) (v : Value) (scope : Scope),
        resolve (env.bindAccess item v) scope item = .ok v ∧
        resolve (env.bindAccess item v) scope other = resolve env scope other := by
  intro item other
  have hitem : item.Plain := by decide
  have hother : other.Plain := by decide
  refine ⟨hitem, hother, by decide, by decide, ?_⟩
  intro env v scope
  constructor
  · exact ((paths_do_not_collide item item hitem hitem).2 env v).2 scope
  · exact ((paths_do_not_collide item other hitem hother).2 env v).2 scope

end WireScribe
