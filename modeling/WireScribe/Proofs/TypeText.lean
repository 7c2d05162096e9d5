import WireScribe.Proofs.CodeText
import WireScribe.Ty

/-!
# WireScribe.Proofs.TypeText — the notation of a type tells the type

Messages know a type by its text alone. A text starts with a word, and what stands behind
the word tells a container from a name, so that even a struct called `list` is not taken
for a list. The comma of a map is the one behind the text of the key, and not the first.

1. **Plain types**: `Ty.Plain` rules out the names that could be taken for a scalar, or for
   more than a name.
2. **Bare types**: `Ty.bare` forgets whether a name is resolved, which no text shows.
3. **Words**: a text is split in one way into its word and the arguments behind it.
4. **Reading a type back**: a text in front of a mark that ends it is that of one bare type
   only.
-/

namespace WireScribe

/-! ## Plain types -/

/-- The characters that stand around the words of a type. -/
def typeMarks : List Char := ['<', '>', ',']

/-- No character of the word is a mark. -/
def Unmarked (word : String) : Prop := ∀ c ∈ word.toList, c ∉ typeMarks

-- by the characters of the word, and not by all characters that there are
instance decidableUnmarked (word : String) : Decidable (Unmarked word) :=
  List.decidableBAll (· ∉ typeMarks) word.toList

/-- A name that holds no marks and is not that of a scalar. -/
def PlainName (name : String) : Prop := Unmarked name ∧ name ∉ Scalar.all.map Scalar.name

instance decidablePlainName (name : String) : Decidable (PlainName name) :=
  inferInstanceAs (Decidable (_ ∧ _))

namespace Ty

/-- The names of structs and the bare names are plain. -/
def Plain : Ty → Prop
  | scalar _ => True
  | seq _ elem => elem.Plain
  | map key value => key.Plain ∧ value.Plain
  | struct name => PlainName name
  | named name => PlainName name

instance decidablePlain : (ty : Ty) → Decidable ty.Plain
  | scalar _ => inferInstanceAs (Decidable True)
  | seq _ elem => decidablePlain elem
  | map key value =>
    have := decidablePlain key
    have := decidablePlain value
    inferInstanceAs (Decidable (_ ∧ _))
  | struct name => decidablePlainName name
  | named name => decidablePlainName name

/-! ## Bare types -/

/-- The type with a bare name in the place of every struct. -/
def bare : Ty → Ty
  | scalar s => scalar s
  | seq kind elem => seq kind elem.bare
  | map key value => map key.bare value.bare
  | struct name => named name
  | named name => named name

theorem text_bare (ty : Ty) : ty.bare.text = ty.text := by
  induction ty with
  | scalar s => rfl
  | seq kind elem ih => rw [bare, text, text, ih]
  | map key value ihk ihv => rw [bare, text, text, ihk, ihv]
  | struct name => rfl
  | named name => rfl

/-! ## Words -/

/-- The word that the text of a type starts with. -/
def word : Ty → String
  | scalar s => s.name
  | seq kind _ => kind.name
  | map _ _ => "map"
  | struct name => name
  | named name => name

/-- What stands behind the word: the parts of a container between angle brackets. -/
def arguments : Ty → List Char
  | seq _ elem => '<' :: (elem.text.toList ++ ['>'])
  | map key value => '<' :: (key.text.toList ++ ',' :: (value.text.toList ++ ['>']))
  | _ => []

theorem text_eq_word_arguments (ty : Ty) :
    ty.text.toList = ty.word.toList ++ ty.arguments := by
  cases ty <;> simp [text, word, arguments]

theorem word_unmarked {ty : Ty} (h : ty.Plain) : Unmarked ty.word := by
  cases ty with
  | scalar s => cases s <;> decide
  | seq kind elem =>
    have hkind : Unmarked kind.name := by cases kind <;> decide
    exact hkind
  | map key value =>
    have hmap : Unmarked "map" := by decide
    exact hmap
  | struct name => exact h.1
  | named name => exact h.1

theorem arguments_of_isContainer {ty : Ty} (h : ty.tag.isContainer = true) :
    ∃ rest, ty.arguments = '<' :: rest := by
  cases ty with
  | seq kind elem => exact ⟨_, rfl⟩
  | map key value => exact ⟨_, rfl⟩
  | _ => cases h

theorem arguments_of_not_isContainer {ty : Ty} (h : ty.tag.isContainer = false) :
    ty.arguments = [] := by
  cases ty with
  | seq kind elem => cases h
  | map key value => cases h
  | _ => rfl

/-- A container is known by its word. -/
theorem word_of_isContainer {ty : Ty} (h : ty.tag.isContainer = true) :
    ty.word = ty.tag.name := by
  cases ty with
  | seq kind elem => rfl
  | map key value => rfl
  | _ => cases h

/-- A type that is no container is its word, which a scalar shares with no plain name. -/
theorem bare_of_not_isContainer {ty : Ty} (hplain : ty.Plain)
    (h : ty.tag.isContainer = false) :
    ty.bare = ((Scalar.ofName? ty.word).map scalar).getD (named ty.word) := by
  have hname : ∀ {name : String}, PlainName name → Scalar.ofName? name = none := by
    intro name hn
    refine List.find?_eq_none.mpr fun s hs heq => ?_
    exact hn.2 (List.mem_map.mpr ⟨s, hs, by simpa using heq⟩)
  cases ty with
  | scalar s =>
    rw [word, Scalar.ofName?_name]
    rfl
  | seq kind elem => cases h
  | map key value => cases h
  | struct name =>
    rw [word, hname hplain]
    rfl
  | named name =>
    rw [word, hname hplain]
    rfl

/-! ## Reading a type back -/

/-- Where the text of a type has ended, there is nothing more, or a mark that does not open
arguments. -/
def Ended (r : List Char) : Prop := ∀ c ∈ r.head?, c = '>' ∨ c = ','

theorem ended_nil : Ended [] := fun _ hc => nomatch hc

theorem ended_cons {c : Char} (hc : c = '>' ∨ c = ',') (r : List Char) : Ended (c :: r) := by
  intro d hd
  cases hd
  exact hc

theorem head?_arguments_mem {ty : Ty} {r : List Char} (hr : Ended r) :
    ∀ c ∈ (ty.arguments ++ r).head?, ¬ c ∉ typeMarks := by
  intro c hc
  cases hcontainer : ty.tag.isContainer with
  | true =>
    obtain ⟨rest, hargs⟩ := arguments_of_isContainer hcontainer
    rw [hargs] at hc
    cases hc
    decide
  | false =>
    rw [arguments_of_not_isContainer hcontainer] at hc
    rcases hr c hc with rfl | rfl <;> decide

/-- Only a container has an opening bracket behind its word. -/
theorem head?_arguments_iff {ty : Ty} {r : List Char} (hr : Ended r) :
    (ty.arguments ++ r).head? = some '<' ↔ ty.tag.isContainer = true := by
  constructor
  · intro hopen
    cases hcontainer : ty.tag.isContainer with
    | true => rfl
    | false =>
      rw [arguments_of_not_isContainer hcontainer] at hopen
      rcases hr '<' hopen with h | h <;> exact absurd h (by decide)
  · intro hcontainer
    obtain ⟨rest, hargs⟩ := arguments_of_isContainer hcontainer
    rw [hargs]
    rfl

section SameText

-- two plain types whose texts agree up to where they end
variable {s t : Ty} {r r' : List Char} (hs : s.Plain) (ht : t.Plain) (hr : Ended r)
  (hr' : Ended r') (h : s.text.toList ++ r = t.text.toList ++ r')

include hs ht hr hr' h

/-- The word is the same, and so is what stands behind it. -/
theorem word_arguments_inj : s.word = t.word ∧ s.arguments ++ r = t.arguments ++ r' := by
  rw [text_eq_word_arguments, text_eq_word_arguments, List.append_assoc, List.append_assoc] at h
  obtain ⟨hword, hrest⟩ := append_inj_of_first (word_unmarked hs) (word_unmarked ht)
    (head?_arguments_mem hr) (head?_arguments_mem hr') h
  exact ⟨String.toList_inj.mp hword, hrest⟩

/-- Both types are containers, or neither is. -/
theorem isContainer_eq : s.tag.isContainer = t.tag.isContainer := by
  obtain ⟨-, hrest⟩ := word_arguments_inj hs ht hr hr' h
  rw [Bool.eq_iff_iff, ← head?_arguments_iff hr, ← head?_arguments_iff hr', hrest]

/-- Two containers are of one form. -/
theorem tag_eq_of_isContainer (hsome : s.tag.isContainer = true) : s.tag = t.tag := by
  have htsome : t.tag.isContainer = true := by rw [← isContainer_eq hs ht hr hr' h, hsome]
  have hname : s.tag.name = t.tag.name := by
    rw [← word_of_isContainer hsome, ← word_of_isContainer htsome]
    exact (word_arguments_inj hs ht hr hr' h).1
  apply Option.some.inj
  rw [← Tag.ofName?_name s.tag, hname, Tag.ofName?_name]

/-- Two types that are no containers agree in all but being resolved, and end together. -/
theorem bare_eq_of_not_isContainer (hnone : s.tag.isContainer = false) :
    s.bare = t.bare ∧ r = r' := by
  have htnone : t.tag.isContainer = false := by rw [← isContainer_eq hs ht hr hr' h, hnone]
  obtain ⟨hword, hrest⟩ := word_arguments_inj hs ht hr hr' h
  constructor
  · rw [bare_of_not_isContainer hs hnone, bare_of_not_isContainer ht htnone, hword]
  · rwa [arguments_of_not_isContainer hnone, arguments_of_not_isContainer htnone] at hrest

end SameText

/-- A text shows the bare type, and where it ends. -/
theorem text_append_inj {s t : Ty} (hs : s.Plain) (ht : t.Plain) {r r' : List Char}
    (hr : Ended r) (hr' : Ended r') (h : s.text.toList ++ r = t.text.toList ++ r') :
    s.bare = t.bare ∧ r = r' := by
  have hclose : ∀ r, Ended ('>' :: r) := ended_cons (.inl rfl)
  have hcomma : ∀ r, Ended (',' :: r) := ended_cons (.inr rfl)
  induction s generalizing t r r' with
  | seq kind elem ih =>
    have htag := tag_eq_of_isContainer hs ht hr hr' h rfl
    cases t with
    | seq kind' elem' =>
      cases htag
      obtain ⟨-, hrest⟩ := word_arguments_inj hs ht hr hr' h
      simp only [arguments, List.cons_append, List.append_assoc, List.nil_append, List.cons.injEq,
        true_and] at hrest
      have hplain : elem'.Plain := ht
      obtain ⟨helem, hend⟩ := ih hs hplain (hclose r) (hclose r') hrest
      refine ⟨?_, (List.cons.inj hend).2⟩
      rw [bare, bare, helem]
    | _ => cases htag
  | map key value ihk ihv =>
    have htag := tag_eq_of_isContainer hs ht hr hr' h rfl
    cases t with
    | map key' value' =>
      obtain ⟨-, hrest⟩ := word_arguments_inj hs ht hr hr' h
      simp only [arguments, List.cons_append, List.append_assoc, List.nil_append, List.cons.injEq,
        true_and] at hrest
      -- commas may stand inside both keys, and the next one is where the keys have ended
      obtain ⟨hkey, hvalues⟩ := ihk hs.1 ht.1 (hcomma _) (hcomma _) hrest
      obtain ⟨hvalue, hend⟩ :=
        ihv hs.2 ht.2 (hclose r) (hclose r') (List.cons.inj hvalues).2
      refine ⟨?_, (List.cons.inj hend).2⟩
      rw [bare, bare, hkey, hvalue]
    | _ => cases htag
  | _ => exact bare_eq_of_not_isContainer hs ht hr hr' h rfl

-- a name with a comma could be two names
example : (map (struct "a,b") (struct "c")).text = (map (struct "a") (struct "b,c")).text := by
  decide

end Ty

/-- Two types whose names hold no marks, and are not those of scalars, have the same text
exactly if they differ in nothing but structs for bare names of the same name. -/
theorem type_text_unambiguous (s t : Ty) (hs : s.Plain) (ht : t.Plain) :
    s.text = t.text ↔ s.bare = t.bare := by
  constructor
  · intro h
    have happend : s.text.toList ++ [] = t.text.toList ++ [] := by rw [h]
    exact (Ty.text_append_inj hs ht Ty.ended_nil Ty.ended_nil happend).1
  · intro h
    rw [← Ty.text_bare s, ← Ty.text_bare t, h]

/-- Names may be empty or those of containers. A map whose key is a map has the same text
once its structs are bare names, and another text once the inner map is its value. -/
theorem empty_names_told_apart :
    let byKey : Ty := .map (.map (.struct "") (.struct "map")) (.seq .list (.named ""))
    let exchanged : Ty := .map (.map (.named "") (.named "map")) (.seq .list (.struct ""))
    let byValue : Ty := .map (.struct "") (.map (.struct "map") (.seq .list (.named "")))
    byKey.Plain ∧ exchanged.Plain ∧ byValue.Plain ∧ byKey.text = "map<map<,map>,list<>>" ∧
      byKey.text = exchanged.text ∧ byKey.text ≠ byValue.text := by
  intro byKey exchanged byValue
  have hkey : byKey.Plain := by decide
  have hexchanged : exchanged.Plain := by decide
  have hvalue : byValue.Plain := by decide
  refine ⟨hkey, hexchanged, hvalue, by decide, ?_, ?_⟩
  · exact (type_text_unambiguous byKey exchanged hkey hexchanged).mpr (by decide)
  · intro h
    exact absurd ((type_text_unambiguous byKey byValue hkey hvalue).mp h) (by decide)

end WireScribe
