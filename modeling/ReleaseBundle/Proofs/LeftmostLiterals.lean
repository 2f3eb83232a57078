import ReleaseBundle.Placeholder

/-!
# Which literals are replaced

Stamping reads a text from left to right.  What it does can be said without reading:
a text is divided, in exactly one way, by literals with the shape of a placeholder such
that none starts before the literal that is taken, counted from where the one before it
ended, and none is left behind the last (`Division.Leftmost.unique`, `leftmost_divide`).
Stamping keeps what stands between these literals and their quotes, and writes the
version's values in place of the names that it knows (`substitute_rewrites_leftmost`).

A literal ends with its quote also where its name is not known, so its last quote opens no
other literal; and where no literal starts, reading goes on at the next character.
-/

namespace ReleaseBundle.Placeholder

/-! ## The shape of a placeholder -/

/-- A literal whose name is the start that all placeholders have, and capitals. -/
def Literal.IsPlaceholder (l : Literal) : Prop :=
  ∃ capitals, capitals ≠ [] ∧ (∀ c ∈ capitals, 'A' ≤ c ∧ c ≤ 'Z') ∧
    l.name = nameStart ++ capitals

theorem isCapital_iff {c : Char} : isCapital c = true ↔ 'A' ≤ c ∧ c ≤ 'Z' := by
  simp [isCapital]

theorem Quote.ofChar?_char (q : Quote) : Quote.ofChar? q.char = some q := by
  cases q <;> rfl

theorem Quote.not_isCapital_char (q : Quote) : isCapital q.char = false := by
  cases q <;> decide

variable {l : Literal} {text rest : List Char}

theorem isPlaceholder_of_closed? {quote : Quote} {capitals : List Char}
    (all : ∀ c ∈ capitals, isCapital c = true)
    (h : closed? quote capitals text = some (l, rest)) : l.IsPlaceholder := by
  cases text with
  | nil => cases h
  | cons c tail =>
    rw [closed?] at h
    split at h
    · rename_i ends
      cases h
      exact ⟨capitals, ends.1, fun c mem => isCapital_iff.mp (all c mem), rfl⟩
    · cases h

/-- What is found has the shape. -/
theorem isPlaceholder_of_literalAt? (h : literalAt? text = some (l, rest)) : l.IsPlaceholder := by
  cases text with
  | nil => cases h
  | cons c tail =>
    rw [literalAt?] at h
    split at h
    · cases h
    · split at h
      · exact isPlaceholder_of_closed? (List.all_eq_true.mp List.all_takeWhile) h
      · cases h

/-- What has the shape is found. -/
theorem literalAt?_spelled (shape : l.IsPlaceholder) (rest : List Char) :
    literalAt? (l.spelled ++ rest) = some (l, rest) := by
  obtain ⟨quote, name⟩ := l
  obtain ⟨capitals, some_capital, all, rfl⟩ := shape
  have all' : ∀ c ∈ capitals, isCapital c = true := fun c mem => isCapital_iff.mpr (all c mem)
  have stop := quote.not_isCapital_char
  have taken : (capitals ++ quote.char :: rest).takeWhile isCapital = capitals := by
    rw [List.takeWhile_append_of_pos all', List.takeWhile_cons_of_neg (by simp [stop]),
      List.append_nil]
  have dropped : (capitals ++ quote.char :: rest).dropWhile isCapital = quote.char :: rest := by
    rw [List.dropWhile_append_of_pos all', List.dropWhile_cons_of_neg (by simp [stop])]
  have split : Literal.spelled ⟨quote, nameStart ++ capitals⟩ ++ rest =
      quote.char :: (nameStart ++ (capitals ++ quote.char :: rest)) := by
    simp [Literal.spelled]
  have starts : nameStart.isPrefixOf (nameStart ++ (capitals ++ quote.char :: rest)) = true :=
    List.isPrefixOf_iff_prefix.mpr (List.prefix_append _ _)
  rw [split]
  simp only [literalAt?, quote.ofChar?_char, starts, if_true, List.drop_left, taken, dropped,
    closed?, ne_eq, some_capital, not_false_eq_true, and_self]

/-- **A literal is found exactly where one with the shape stands.** -/
theorem literalAt?_eq_some_iff :
    literalAt? text = some (l, rest) ↔ l.IsPlaceholder ∧ text = l.spelled ++ rest := by
  constructor
  · intro h
    exact ⟨isPlaceholder_of_literalAt? h, eq_of_literalAt? h⟩
  · rintro ⟨shape, rfl⟩
    exact literalAt?_spelled shape rest

/-- One literal at most starts at a place. -/
theorem Literal.eq_of_spelled_append {l' : Literal} {rest' : List Char} (shape : l.IsPlaceholder)
    (shape' : l'.IsPlaceholder) (same : l.spelled ++ rest = l'.spelled ++ rest') :
    l = l' ∧ rest = rest' := by
  have found := literalAt?_spelled shape rest
  rw [same, literalAt?_spelled shape' rest'] at found
  obtain ⟨rfl, rfl⟩ := Prod.mk.inj (Option.some.inj found)
  exact ⟨rfl, rfl⟩

/-! ## Divisions -/

/-- A text divided by literals: what stands before each of them, counted from the one
before it, and what stands behind the last. -/
structure Division where
  parts : List (List Char × Literal)
  last : List Char

namespace Division

/-- The text of a division, with a text in place of each literal. -/
def write (r : Literal → List Char) (d : Division) : List Char :=
  d.parts.flatMap (fun (before, l) => before ++ r l) ++ d.last

/-- The text that is divided. -/
def spelled (d : Division) : List Char := d.write Literal.spelled

/-- The literals have the shape of a placeholder, and from where one ends nothing of
that shape starts before the next one; behind the last nothing has that shape. -/
inductive Leftmost : Division → Prop where
  | last {last : List Char}
      (none : ∀ (before : List Char) (l : Literal) (after : List Char), l.IsPlaceholder →
        last ≠ before ++ (l.spelled ++ after)) :
      Leftmost ⟨[], last⟩
  | literal {before : List Char} {l : Literal} {d : Division} (shape : l.IsPlaceholder)
      (first : ∀ (before' : List Char) (l' : Literal) (after' : List Char), l'.IsPlaceholder →
        before ++ (l.spelled ++ d.spelled) = before' ++ (l'.spelled ++ after') →
          before.length ≤ before'.length)
      (rest : Leftmost d) : Leftmost ⟨(before, l) :: d.parts, d.last⟩

variable {d d' : Division}

theorem write_last (r : Literal → List Char) (last : List Char) : write r ⟨[], last⟩ = last := rfl

theorem write_literal (r : Literal → List Char) (before : List Char) (l : Literal) (d : Division) :
    write r ⟨(before, l) :: d.parts, d.last⟩ = before ++ (r l ++ d.write r) := by
  simp [write]

/-- **A text is divided in one way.** -/
theorem Leftmost.unique (h : d.Leftmost) (h' : d'.Leftmost) (same : d.spelled = d'.spelled) :
    d = d' := by
  induction h generalizing d' with
  | @last last none =>
    cases h' with
    | @last last' none' =>
      rw [spelled, spelled, write_last, write_last] at same
      rw [same]
    | @literal before' l' e' shape' first' rest' =>
      rw [spelled, spelled, write_last, write_literal] at same
      exact absurd same (none before' l' _ shape')
  | @literal before l e shape first rest ih =>
    cases h' with
    | @last last' none' =>
      rw [spelled, spelled, write_last, write_literal] at same
      exact absurd same.symm (none' before l _ shape)
    | @literal before' l' e' shape' first' rest' =>
      rw [spelled, spelled, write_literal, write_literal] at same
      -- Neither first literal starts before the other, so they start at one place.
      have there : before.length ≤ before'.length := first before' l' _ shape' same
      have there' : before'.length ≤ before.length := first' before l _ shape same.symm
      obtain ⟨rfl, behind⟩ := List.append_inj same (by omega)
      obtain ⟨rfl, after⟩ := Literal.eq_of_spelled_append shape shape' behind
      obtain rfl : e = e' := ih rest' after
      rfl

/-- The division with one character more before everything. -/
def prepend (c : Char) (d : Division) : Division :=
  match d.parts with
  | [] => ⟨[], c :: d.last⟩
  | (before, l) :: parts => ⟨(c :: before, l) :: parts, d.last⟩

theorem write_prepend (r : Literal → List Char) (c : Char) (d : Division) :
    (d.prepend c).write r = c :: d.write r := by
  obtain ⟨_ | ⟨⟨before, l⟩, parts⟩, last⟩ := d <;> rfl

/-- A character where no literal starts may stand before a division. -/
theorem Leftmost.prepend {c : Char} (h : d.Leftmost) (plain : literalAt? (c :: d.spelled) = none) :
    (d.prepend c).Leftmost := by
  have not_here : ∀ (l : Literal) (after : List Char), l.IsPlaceholder →
      c :: d.spelled ≠ l.spelled ++ after := by
    intro l after shape same
    rw [same, literalAt?_spelled shape after] at plain
    cases plain
  cases h with
  | @last last none =>
    refine .last fun before l after shape same => ?_
    cases before with
    | nil => exact not_here l after shape same
    | cons b before => exact none before l after shape (List.cons.inj same).2
  | @literal before l e shape first rest =>
    have first' : ∀ (before' : List Char) (l' : Literal) (after' : List Char), l'.IsPlaceholder →
        c :: before ++ (l.spelled ++ e.spelled) = before' ++ (l'.spelled ++ after') →
          (c :: before).length ≤ before'.length := by
      intro before' l' after' shape' same
      cases before' with
      | nil =>
        refine absurd ?_ (not_here l' after' shape')
        rw [spelled, write_literal]
        exact same
      | cons b before' =>
        have inside := first before' l' after' shape' (List.cons.inj same).2
        simpa using inside
    exact .literal shape first' rest

end Division

/-! ## Reading divides a text -/

/-- **Induction along the reading of a text**: it is empty, or it starts with a literal, or
with a character where no literal starts. -/
theorem pieces_induction {motive : List Char → Prop} (nil : motive [])
    (literal : ∀ (l : Literal) (rest : List Char), l.IsPlaceholder → motive rest →
      motive (l.spelled ++ rest))
    (plain : ∀ c rest, literalAt? (c :: rest) = none → motive rest → motive (c :: rest))
    (text : List Char) : motive text := by
  induction size : text.length using Nat.strongRecOn generalizing text with
  | ind n ih =>
    subst size
    cases text with
    | nil => exact nil
    | cons c rest =>
      cases found : literalAt? (c :: rest) with
      | none => exact plain c rest found (ih _ (by simp) rest rfl)
      | some pair =>
        obtain ⟨l, after⟩ := pair
        have shorter := length_lt_of_literalAt? found
        obtain ⟨shape, split⟩ := literalAt?_eq_some_iff.mp found
        rw [split]
        exact literal l after shape (ih _ shorter after rfl)

/-- The division that the pieces of a text are. -/
def divide : List Piece → Division
  | [] => ⟨[], []⟩
  | .plain c :: pieces => (divide pieces).prepend c
  | .literal l :: pieces => ⟨([], l) :: (divide pieces).parts, (divide pieces).last⟩

/-- A piece with a text in place of a literal. -/
def Piece.write (r : Literal → List Char) : Piece → List Char
  | plain c => [c]
  | literal l => r l

theorem write_divide (r : Literal → List Char) (pieces : List Piece) :
    (divide pieces).write r = pieces.flatMap (Piece.write r) := by
  induction pieces with
  | nil => rfl
  | cons piece pieces ih =>
    cases piece with
    | plain c =>
      rw [divide, Division.write_prepend, ih]
      rfl
    | literal l =>
      rw [divide, Division.write_literal, ih]
      rfl

theorem spelled_divide (text : List Char) : (divide (pieces text)).spelled = text := by
  have same : Piece.write Literal.spelled = Piece.spelled := by
    funext piece
    cases piece <;> rfl
  rw [Division.spelled, write_divide, same, spelled_pieces]

/-- **Reading finds the leftmost literals.** -/
theorem leftmost_divide (text : List Char) : (divide (pieces text)).Leftmost := by
  induction text using pieces_induction with
  | nil =>
    rw [pieces_nil]
    refine .last fun before l after _ same => ?_
    simp [Literal.spelled] at same
  | literal l rest shape ih =>
    rw [pieces_of_literal (literalAt?_spelled shape rest)]
    exact .literal shape (fun _ _ _ _ _ => Nat.zero_le _) ih
  | plain c rest plain ih =>
    rw [pieces_of_plain plain]
    refine ih.prepend ?_
    rw [spelled_divide]
    exact plain

/-! ## Stamping rewrites the division -/

/-- The names that a version knows, with what it writes for them. -/
def valuesByName (v : Version) : List (String × String) :=
  [("NG_VERSION_FULL", v.full), ("NG_VERSION_MAJOR", toString v.major.toNat),
    ("NG_VERSION_MINOR", toString v.minor.toNat), ("NG_VERSION_DOT", toString v.patch.toNat),
    ("NG_VERSION_CDN", v.cdn), ("NG_VERSION_CODENAME", v.codeName)]

/-- A literal with a version's value in place of its name, if the version knows the name. -/
def Literal.rewritten (v : Version) (l : Literal) : List Char :=
  match (valuesByName v).lookup (String.ofList l.name) with
  | some value => l.quote.char :: value.toList ++ [l.quote.char]
  | none => l.spelled

theorem valuesByName_eq_map (v : Version) :
    valuesByName v = Token.all.map fun token => (token.name, token.value v) := rfl

/-- The names that a version knows are those of the tokens. -/
theorem lookup_valuesByName (v : Version) (name : List Char) :
    (valuesByName v).lookup (String.ofList name) = (Token.ofName? name).map (Token.value v) := by
  rw [valuesByName_eq_map, Token.ofName?]
  induction Token.all with
  | nil => rfl
  | cons token tokens ih =>
    rw [List.map_cons, List.lookup_cons, List.find?_cons]
    by_cases same : token.name.toList = name
    · have found : (String.ofList name == token.name) = true := by simp [← same]
      rw [found, decide_eq_true same]
      rfl
    · have other : (String.ofList name == token.name) = false := by
        refine beq_eq_false_iff_ne.mpr fun equal => same ?_
        rw [← equal, String.toList_ofList]
      rw [other, decide_eq_false same]
      exact ih

theorem stamped_eq_write (v : Version) : Piece.stamped v = Piece.write (Literal.rewritten v) := by
  funext piece
  cases piece with
  | plain c => rfl
  | literal l =>
    simp only [Piece.stamped, Piece.write, Literal.rewritten, lookup_valuesByName]
    cases Token.ofName? l.name <;> rfl

/-- **Stamping rewrites the leftmost literals**, and nothing else.  Every text has exactly
one division in which the literals have the shape of a placeholder, each is the first one
that starts where the literal before it has ended, and none is left behind the last.
Stamping keeps all that stands between the literals; of the literals themselves it
replaces the names that the version knows by its values, as they are, and keeps the quotes,
and a literal with another name stays as it is. -/
theorem substitute_rewrites_leftmost (v : Version) (text : String) :
    ∃ d : Division, (d.spelled = text.toList ∧ d.Leftmost) ∧
      (∀ d' : Division, d'.spelled = text.toList ∧ d'.Leftmost → d' = d) ∧
      substitute v text = String.ofList (d.write (Literal.rewritten v)) := by
  have spells := spelled_divide text.toList
  have leftmost := leftmost_divide text.toList
  refine ⟨divide (pieces text.toList), ⟨spells, leftmost⟩, ?_, ?_⟩
  · rintro d' ⟨spells', leftmost'⟩
    exact leftmost'.unique leftmost (spells'.trans spells.symm)
  · rw [write_divide, substitute, stamped_eq_write]

end ReleaseBundle.Placeholder
