import WireScribe.Name

/-!
# WireScribe.Path — paths of generated code

A path is a row of segments joined by `::`, with an optional `::` in front. A segment is
an identifier, and it may have generic arguments between angle brackets, as in
`Codec<Bin>::Tag` or, behind a `::` of their own, in `rt::<()>`.

1. **Paths**: segments, and the tokens with which a path is written.
2. **Generic arguments**: types, lifetimes, constants and constraints are a language of
   their own, and a path depends on it only through where its arguments end and how they
   are written. An `ArgumentReader` tells both, and paths are read with any such reader.
3. **Reading a path**: segment after segment, each with its arguments.
4. **Paths and tuples as arguments**: `ArgumentReader.plain` reads the types that are
   built of these two.
-/

namespace WireScribe

/-! ## Paths -/

/-- The generic arguments of a segment. -/
structure GenericArguments where
  /-- Whether a `::` stands in front of the angle brackets. -/
  led : Bool := false
  /-- What stands between the angle brackets. -/
  content : List Token
deriving Repr, DecidableEq

/-- A segment of a path. -/
structure Segment where
  ident : Ident
  arguments : Option GenericArguments := none
deriving Repr, DecidableEq

/-- A path. -/
structure Path where
  /-- Whether the path starts with `::`. -/
  rooted : Bool := false
  segments : List Segment
deriving Repr, DecidableEq

/-- The tokens of `::`. -/
def colons : List Token := [.punct ':' true, .punct ':' false]

/-- The arguments with the angle brackets around them. -/
def GenericArguments.enclosed (a : GenericArguments) : List Token :=
  .punct '<' false :: (a.content ++ [.punct '>' false])

/-- The tokens of a segment. -/
def Segment.tokens (s : Segment) : List Token :=
  .ident s.ident ::
    match s.arguments with
    | some a => if a.led then colons ++ a.enclosed else a.enclosed
    | none => []

/-- The tokens of segments, each behind a `::`. -/
def ledTokens (segments : List Segment) : List Token :=
  segments.flatMap fun s => colons ++ s.tokens

/-! ## Generic arguments -/

/-- A reader of generic arguments. -/
structure ArgumentReader where
  /-- Reads from behind the `<` that opens the arguments, and gives the tokens with which
  they are written, without the angle brackets, and what follows the `>` that closes them.
  A failure comes with the reason in words. -/
  read : List Token → Except String (List Token × List Token)
  /-- Reading goes forward. -/
  suffix : ∀ {ts content rest : List Token}, read ts = .ok (content, rest) → rest <:+ ts

/-- Where generic arguments open: whether a `::` leads them, and what follows their `<`.
The signs `<=` and `<<=` open none. -/
def argumentsOpen? : List Token → Option (Bool × List Token)
  | .punct ':' true :: .punct ':' _ :: .punct '<' _ :: rest => some (true, rest)
  | .punct '<' true :: .punct '=' _ :: _ => none
  | .punct '<' true :: .punct '<' true :: .punct '=' _ :: _ => none
  | .punct '<' _ :: rest => some (false, rest)
  | _ => none

/-- Reads the generic arguments that follow an identifier, if there are any. -/
def argumentsOf (reader : ArgumentReader) (i : Ident) (ts : List Token) :
    Except NameFault (Option GenericArguments × List Token) :=
  if i.takesArguments then
    match argumentsOpen? ts with
    | some (led, inner) =>
      match reader.read inner with
      | .ok (content, rest) => .ok (some ⟨led, content⟩, rest)
      | .error reason => .error (.arguments reason)
    | none => .ok (none, ts)
  else .ok (none, ts)

theorem argumentsOpen?_suffix {ts rest : List Token} {led : Bool}
    (h : argumentsOpen? ts = some (led, rest)) : rest <:+ ts := by
  revert h
  fun_cases argumentsOpen? ts with
  | case1 joint joint' inner =>
    intro h
    cases h
    exact ⟨[.punct ':' true, .punct ':' joint, .punct '<' joint'], rfl⟩
  | case4 joint inner =>
    intro h
    cases h
    exact List.suffix_cons _ _
  | _ =>
    intro h
    cases h

/-- What follows the arguments stands at the end of what follows the identifier. -/
theorem argumentsOf_suffix {reader : ArgumentReader} {i : Ident} {ts rest : List Token}
    {arguments : Option GenericArguments}
    (h : argumentsOf reader i ts = .ok (arguments, rest)) : rest <:+ ts := by
  revert h
  fun_cases argumentsOf reader i ts with
  | case1 _ led inner hopen content rest' hread =>
    intro h
    cases h
    exact (reader.suffix hread).trans (argumentsOpen?_suffix hopen)
  | case2 =>
    intro h
    cases h
  | case3 | case4 =>
    intro h
    cases h
    exact List.suffix_rfl

/-! ## Reading a path -/

namespace Path

/-- Reads the segments of a path. A `::` in front of a parenthesis does not belong to
the path. -/
def segmentsOf (reader : ArgumentReader) (ts : List Token) : Except NameFault (List Segment) :=
  match ts with
  | [] => .error .missing
  | .ident i :: behind =>
    if !i.isSegment then .error (.keyword i.name)
    else
      match _ : argumentsOf reader i behind with
      | .error fault => .error fault
      | .ok (arguments, []) => .ok [⟨i, arguments⟩]
      | .ok (_, .punct ':' true :: .punct ':' _ :: .opening .paren :: _) => .error .trailing
      | .ok (arguments, .punct ':' true :: .punct ':' _ :: more) =>
        (segmentsOf reader more).map (⟨i, arguments⟩ :: ·)
      | .ok _ => .error .trailing
  | _ :: _ => .error .notIdentifier
termination_by ts.length
decreasing_by
  have hlen := (argumentsOf_suffix (by assumption)).length_le
  simp only [List.length_cons] at hlen ⊢
  omega

theorem segmentsOf_last {reader : ArgumentReader} {i : Ident} {behind : List Token}
    {arguments : Option GenericArguments} (hi : i.isSegment = true)
    (h : argumentsOf reader i behind = .ok (arguments, [])) :
    segmentsOf reader (.ident i :: behind) = .ok [⟨i, arguments⟩] := by
  rw [segmentsOf, if_neg (by simp [hi])]
  split <;> simp_all

theorem segmentsOf_more {reader : ArgumentReader} {i : Ident} {behind more : List Token}
    {arguments : Option GenericArguments} {joint : Bool} (hi : i.isSegment = true)
    (h : argumentsOf reader i behind =
      .ok (arguments, .punct ':' true :: .punct ':' joint :: more))
    (hparen : ∀ tail, more ≠ .opening .paren :: tail) :
    segmentsOf reader (.ident i :: behind) =
      (segmentsOf reader more).map (⟨i, arguments⟩ :: ·) := by
  rw [segmentsOf, if_neg (by simp [hi])]
  split <;> rename_i heq <;> rw [h] at heq <;> cases heq
  · exact absurd rfl (hparen _)
  · rfl
  · rename_i hnot
    exact absurd rfl (hnot _ _ _)

/-- Reads tokens as a path. -/
def ofTokens (reader : ArgumentReader) : List Token → Except NameFault Path
  | .punct ':' true :: .punct ':' _ :: rest => (segmentsOf reader rest).map (⟨true, ·⟩)
  | ts => (segmentsOf reader ts).map (⟨false, ·⟩)

/-- Reads a text as a path. -/
def ofText (reader : ArgumentReader) (text : String) : Except GenError Path :=
  inText text <|
    match tokens? text with
    | some ts => ofTokens reader ts
    | none => .error .lexical

end Path

/-! ## Paths and tuples as arguments -/

namespace ArgumentReader

/-- What is open around a type. -/
inductive Enclosure where
  | angles
  | parens
deriving Repr, DecidableEq

/-- Where in a type the reader is. -/
inductive Place where
  /-- A type may start, or what is open around it may close. -/
  | fresh
  /-- Behind an identifier, which may have arguments or not. -/
  | named (arguable : Bool)
  /-- Behind the first colon of a `::`. -/
  | halfJoined (arguable : Bool)
  /-- Behind a `::`. -/
  | joined (arguable : Bool)
  /-- Behind the arguments of a segment. -/
  | argued
  /-- Behind a tuple. -/
  | complete
deriving Repr, DecidableEq

namespace Place

/-- Whether an identifier may stand here. A type does not start with `try`. -/
def admits (i : Ident) : Place → Bool
  | fresh => i.isSegment && (i.raw || i.name != "try")
  | joined _ => i.isSegment
  | _ => false

/-- Whether angle brackets may open here. -/
def isArguable : Place → Bool
  | named arguable | joined arguable => arguable
  | _ => false

/-- Whether a `::` may stand here. -/
def joins : Place → Bool
  | fresh | named _ | argued => true
  | _ => false

/-- Whether a type may end here. -/
def isEnd : Place → Bool
  | named _ | argued | complete => true
  | _ => false

/-- Whether what is open may close here. There may be no type in it, and a comma may
follow the last one. -/
def closes (p : Place) : Bool := p = fresh || p.isEnd

/-- A token as it is written in front of a place: only the first colon of a `::` is
joined to what follows. -/
def written (p : Place) : Token → Token
  | .punct c _ => .punct c (p matches halfJoined _)
  | t => t

end Place

/-- What one token does. -/
def step : Place → List Enclosure → Token → Option (Place × List Enclosure)
  | p, opened, .ident i => if p.admits i then some (.named i.takesArguments, opened) else none
  | .halfJoined arguable, opened, .punct ':' _ => some (.joined arguable, opened)
  | p, opened, .punct ':' true =>
    if p.joins then some (.halfJoined p.isArguable, opened) else none
  | p, opened, .punct '<' _ => if p.isArguable then some (.fresh, .angles :: opened) else none
  | .fresh, opened, .opening .paren => some (.fresh, .parens :: opened)
  | p, opened, .punct ',' _ => if p.isEnd then some (.fresh, opened) else none
  | p, .angles :: opened, .punct '>' _ => if p.closes then some (.argued, opened) else none
  | p, .parens :: opened, .closing .paren => if p.closes then some (.complete, opened) else none
  | _, _, _ => none

/-- Reads types with commas between them, up to where everything that is open is
closed. -/
def types : Place → List Enclosure → List Token → Except String (List Token × List Token)
  | _, _, [] => .error "expected a path or a tuple"
  | p, opened, t :: rest =>
    match step p opened t with
    | none => .error "expected a path or a tuple"
    | some (_, []) => .ok ([], rest)
    | some (p, opened) =>
      (types p opened rest).map fun (content, rest) => (p.written t :: content, rest)

theorem types_suffix {p : Place} {opened : List Enclosure} {ts content rest : List Token}
    (h : types p opened ts = .ok (content, rest)) : rest <:+ ts := by
  fun_induction types p opened ts generalizing content with
  | case1 | case2 => cases h
  | case3 p opened t ts =>
    cases h
    exact List.suffix_cons t rest
  | case4 p opened t ts p' opened' _ _ ih =>
    cases hmore : types p' opened' ts with
    | error reason =>
      rw [hmore] at h
      cases h
    | ok found =>
      rcases found with ⟨content', rest'⟩
      rw [hmore] at h
      cases h
      exact (ih hmore).trans (List.suffix_cons t ts)

/-- The reader of paths and tuples. -/
def plain : ArgumentReader where
  read := types .fresh [.angles]
  suffix := types_suffix

end ArgumentReader

end WireScribe
