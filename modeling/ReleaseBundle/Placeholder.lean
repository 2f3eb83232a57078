import ReleaseBundle.Version

/-!
# Placeholders

A script says where its version belongs by a **placeholder**: a string literal
whose whole content is the name of a token, as in "NG_VERSION_FULL" with either
kind of quotes.  A text is read from left to right into **pieces**: a literal
that has the shape of a placeholder, or else a single character (`pieces`).
Stamping replaces the literals whose name is a token and keeps everything else,
the quotes included.

Main statements: the pieces of a text spell it (`spelled_pieces`), so a literal
is either replaced as a whole or kept as it is.
-/

namespace ReleaseBundle.Placeholder

/-- The names a version can be asked for by. -/
inductive Token where
  | full
  | major
  | minor
  | dot
  | cdn
  | codeName
deriving DecidableEq, Repr

namespace Token

/-- The tokens, in the order in which they are documented. -/
def all : List Token := [full, major, minor, dot, cdn, codeName]

/-- The token's name in a script. -/
def name : Token → String
  | full => "NG_VERSION_FULL"
  | major => "NG_VERSION_MAJOR"
  | minor => "NG_VERSION_MINOR"
  | dot => "NG_VERSION_DOT"
  | cdn => "NG_VERSION_CDN"
  | codeName => "NG_VERSION_CODENAME"

/-- The token of a name. -/
def ofName? (name : List Char) : Option Token := all.find? fun token => token.name.toList = name

/-- What a version answers to a token. -/
def value (v : Version) : Token → String
  | full => v.full
  | major => Version.decimal v.major
  | minor => Version.decimal v.minor
  | dot => Version.decimal v.patch
  | cdn => v.cdn
  | codeName => v.codeName

end Token

/-- A kind of quotes. -/
inductive Quote where
  | double
  | single
deriving DecidableEq, Repr

/-- The quote's character. -/
def Quote.char : Quote → Char
  | double => '"'
  | single => '\''

/-- The quote that a character is. -/
def Quote.ofChar? : Char → Option Quote
  | '"' => some double
  | '\'' => some single
  | _ => none

/-- A string literal with the shape of a placeholder: a name between two quotes
of one kind. -/
structure Literal where
  quote : Quote
  name : List Char
deriving DecidableEq, Repr

/-- The literal as it is written. -/
def Literal.spelled (l : Literal) : List Char := l.quote.char :: l.name ++ [l.quote.char]

/-- What the name of every placeholder starts with. -/
def nameStart : List Char := "NG_VERSION_".toList

/-- Whether a character may stand in the rest of the name. -/
def isCapital (c : Char) : Bool := 'A' ≤ c && c ≤ 'Z'

/-- The literal with a quote and the capitals of its name, if the text goes on
with the same quote, and the text after it. -/
def closed? (quote : Quote) (capitals : List Char) : List Char → Option (Literal × List Char)
  | [] => none
  | c :: rest =>
    if capitals ≠ [] ∧ c = quote.char then some (⟨quote, nameStart ++ capitals⟩, rest) else none

/-- The literal that a text starts with, and the text after it. -/
def literalAt? : List Char → Option (Literal × List Char)
  | [] => none
  | c :: rest =>
    match Quote.ofChar? c with
    | none => none
    | some quote =>
      if nameStart.isPrefixOf rest then
        let tail := rest.drop nameStart.length
        closed? quote (tail.takeWhile isCapital) (tail.dropWhile isCapital)
      else none

theorem Quote.char_of_ofChar? {c : Char} {q : Quote} (h : Quote.ofChar? c = some q) :
    q.char = c := by
  simp only [Quote.ofChar?] at h
  split at h <;> cases h <;> rfl

theorem eq_of_closed? {quote : Quote} {capitals text rest : List Char} {l : Literal}
    (h : closed? quote capitals text = some (l, rest)) :
    quote.char :: nameStart ++ capitals ++ text = l.spelled ++ rest := by
  cases text with
  | nil => simp [closed?] at h
  | cons c tail =>
    simp only [closed?] at h
    split at h
    · rename_i hc
      cases h
      simp [Literal.spelled, hc.2]
    · cases h

/-- A literal that is found is what the text starts with. -/
theorem eq_of_literalAt? {text rest : List Char} {l : Literal}
    (h : literalAt? text = some (l, rest)) : text = l.spelled ++ rest := by
  cases text with
  | nil => simp [literalAt?] at h
  | cons c tail =>
    simp only [literalAt?] at h
    split at h
    · cases h
    · rename_i quote hq
      split at h
      · rename_i hp
        have := eq_of_closed? h
        obtain ⟨after, rfl⟩ := List.isPrefixOf_iff_prefix.mp hp
        rw [← this, ← Quote.char_of_ofChar? hq]
        simp
      · cases h

/-- What follows a literal is shorter than the text. -/
theorem length_lt_of_literalAt? {text rest : List Char} {l : Literal}
    (h : literalAt? text = some (l, rest)) : rest.length < text.length := by
  rw [eq_of_literalAt? h]
  simp [Literal.spelled]
  omega

/-! ## Pieces -/

/-- A piece of a text. -/
inductive Piece where
  | plain (c : Char)
  | literal (l : Literal)
deriving DecidableEq, Repr

/-- The piece as it is written. -/
def Piece.spelled : Piece → List Char
  | plain c => [c]
  | literal l => l.spelled

/-- The pieces of a text, after pieces that were read before it, last one first. -/
def piecesAfter (before : List Piece) (text : List Char) : List Piece :=
  match text with
  | [] => before.reverse
  | c :: rest =>
    match _ : literalAt? (c :: rest) with
    | some (l, after) => piecesAfter (.literal l :: before) after
    | none => piecesAfter (.plain c :: before) rest
termination_by text.length
decreasing_by
  · exact length_lt_of_literalAt? ‹_›
  · simp

/-- The pieces of a text.  Wherever a literal starts it is taken, and reading goes
on behind its last quote. -/
def pieces (text : List Char) : List Piece := piecesAfter [] text

theorem piecesAfter_eq (before : List Piece) (text : List Char) :
    piecesAfter before text = before.reverse ++ pieces text := by
  suffices h : ∀ n (before : List Piece) (text : List Char), text.length = n →
      piecesAfter before text = before.reverse ++ piecesAfter [] text from h _ _ _ rfl
  intro n
  induction n using Nat.strongRecOn with
  | ind n ih =>
    intro before text hn
    subst hn
    cases text with
    | nil => simp [piecesAfter]
    | cons c rest =>
      rw [piecesAfter, piecesAfter]
      split
      · rename_i l after h
        have shorter := length_lt_of_literalAt? h
        rw [ih _ shorter _ _ rfl, ih _ shorter [_] _ rfl]
        simp
      · rw [ih _ (by simp) _ _ rfl, ih _ (by simp) [_] _ rfl]
        simp

@[simp] theorem pieces_nil : pieces [] = [] := by simp [pieces, piecesAfter]

theorem pieces_of_literal {text after : List Char} {l : Literal}
    (h : literalAt? text = some (l, after)) : pieces text = .literal l :: pieces after := by
  cases text with
  | nil => simp [literalAt?] at h
  | cons c rest =>
    rw [pieces, piecesAfter]
    split
    · rename_i l' after' h'
      rw [h] at h'
      cases h'
      rw [piecesAfter_eq]
      rfl
    · simp_all

theorem pieces_of_plain {c : Char} {rest : List Char} (h : literalAt? (c :: rest) = none) :
    pieces (c :: rest) = .plain c :: pieces rest := by
  rw [pieces, piecesAfter]
  split
  · simp_all
  · rw [piecesAfter_eq]
    rfl

/-- **The pieces of a text spell it.** -/
theorem spelled_pieces (text : List Char) : (pieces text).flatMap Piece.spelled = text := by
  induction h : text.length using Nat.strongRecOn generalizing text with
  | ind n ih =>
    subst h
    cases text with
    | nil => simp
    | cons c rest =>
      cases h : literalAt? (c :: rest) with
      | none => rw [pieces_of_plain h, List.flatMap_cons, ih _ (by simp) _ rfl]; rfl
      | some found =>
        rw [pieces_of_literal h, List.flatMap_cons,
          ih _ (length_lt_of_literalAt? h) _ rfl, eq_of_literalAt? h]
        rfl

/-! ## Stamping -/

/-- The token that a piece asks for. -/
def Piece.token? : Piece → Option Token
  | plain _ => none
  | literal l => Token.ofName? l.name

/-- The piece with the version's value between its quotes, if it asks for one. -/
def Piece.stamped (v : Version) : Piece → List Char
  | plain c => [c]
  | literal l =>
    match Token.ofName? l.name with
    | some token => l.quote.char :: (token.value v).toList ++ [l.quote.char]
    | none => l.spelled

/-- A text with the version's values in place of its placeholders. -/
def substitute (v : Version) (text : String) : String :=
  String.ofList ((pieces text.toList).flatMap (Piece.stamped v))

/-- The number of placeholders in a text. -/
def count (text : String) : Nat :=
  (pieces text.toList).countP fun piece => piece.token?.isSome

/-- What is said while a text is stamped. -/
def substituteRecords (text : String) : List Record :=
  [⟨.trace, .placeholder, s!"Substituted {count text} version placeholders"⟩]

end ReleaseBundle.Placeholder
