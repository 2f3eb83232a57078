import ReleaseBundle.Proofs.Restamping

/-!
# When stamping twice is stamping once

A text that has been stamped is stamped again with the same version.  If the code name, in the
quotes it was asked for in, is left alone by stamping, and no literal that was replaced shares
its last quote with another one, nothing changes: the other values are digits and full stops.

For a code name without quotes that is no placeholder's name it can be said exactly which texts
change.  A quote that closes one literal is not read again as the first of another; but once
the name between a literal's quotes is gone, its last quote closes nothing and is free to open
what stands behind it.  If a known name follows, the second stamping replaces it.  If the name
is not known, the quote behind it opened a literal in the first reading and closes one now, and
that literal's last quote is free in turn (`Completes`).
-/

namespace ReleaseBundle.Placeholder

variable {v : Version} {l : Literal} {q : Quote} {c : Char}
  {text rest name w : List Char}

/-- A text is empty, or a literal is read first, or a character. -/
theorem reading_cases (text : List Char) : text = [] ∨
    (∃ (l : Literal) (rest : List Char), l.IsPlaceholder ∧ text = l.spelled ++ rest) ∨
    ∃ c rest, literalAt? (c :: rest) = none ∧ text = c :: rest := by
  induction text using pieces_induction with
  | nil => exact .inl rfl
  | literal l rest shape => exact .inr (.inl ⟨l, rest, shape, rfl⟩)
  | plain c rest plain => exact .inr (.inr ⟨c, rest, plain, rfl⟩)

/-! ## Free quotes -/

/-- A free quote before the text completes a literal with a known name: right there, or behind
a literal with a name that is not known, which leaves the one after it without its first quote
and so the quote behind that one free. -/
inductive Completes (q : Quote) : List Char → Prop where
  | here {text name after : List Char} (known : (Token.ofName? name).isSome)
      (split : text = name ++ q.char :: after) : Completes q text
  | behind {text passed taken after : List Char} (isPassed : (Literal.mk q passed).IsPlaceholder)
      (isTaken : (Literal.mk q taken).IsPlaceholder)
      (split : text = passed ++ q.char :: (taken ++ q.char :: after))
      (rest : Completes q after) : Completes q text

theorem isPlaceholder_of_known (known : (Token.ofName? name).isSome) (q : Quote) :
    (Literal.mk q name).IsPlaceholder := by
  obtain ⟨token, isToken⟩ := Option.isSome_iff_exists.mp known
  obtain rfl := Token.name_of_ofName? isToken
  exact token.isPlaceholder_name q

theorem Shut.not_completes (shut : Shut q text) : ¬ Completes q text := by
  rintro (⟨known, split⟩ | ⟨isPassed, -, split, -⟩)
  · exact shut _ _ (isPlaceholder_of_known known q) split
  · exact shut _ _ isPassed split

/-- Behind a name that is not known nothing is completed if no literal starts there. -/
theorem not_completes_of_unknown (shape : (Literal.mk q name).IsPlaceholder)
    (unknown : Token.ofName? name = none) (shut : Shut q rest) :
    ¬ Completes q (name ++ q.char :: rest) := by
  rintro (⟨known, split⟩ | ⟨isPassed, isTaken, split, -⟩)
  · obtain ⟨rfl, -, -⟩ :=
      shape.quoteless.eq_of_append (isPlaceholder_of_known known q).quoteless split
    simp [unknown] at known
  · obtain ⟨-, -, same⟩ := shape.quoteless.eq_of_append isPassed.quoteless split
    exact shut _ _ isTaken same

/-- Behind a name that is not known and a literal all depends on that literal's last quote. -/
theorem completes_behind_iff {taken : List Char} (shape : (Literal.mk q name).IsPlaceholder)
    (unknown : Token.ofName? name = none) (isTaken : (Literal.mk q taken).IsPlaceholder) :
    Completes q (name ++ q.char :: (taken ++ q.char :: rest)) ↔ Completes q rest := by
  constructor
  · rintro (⟨known, split⟩ | ⟨isPassed, isTaken', split, completes⟩)
    · obtain ⟨rfl, -, -⟩ :=
        shape.quoteless.eq_of_append (isPlaceholder_of_known known q).quoteless split
      simp [unknown] at known
    · obtain ⟨-, -, same⟩ := shape.quoteless.eq_of_append isPassed.quoteless split
      obtain ⟨-, -, rfl⟩ := isTaken.quoteless.eq_of_append isTaken'.quoteless same
      exact completes
  · exact .behind shape isTaken rfl

/-- No quote that stamping frees completes a literal with a known name. -/
def Calm (text : List Char) : Prop := ∀ l rest, Asks text l rest → ¬ Completes l.quote rest

theorem calm_plain (plain : literalAt? (c :: text) = none) : Calm (c :: text) ↔ Calm text := by
  simp only [Calm, asks_plain plain]

theorem calm_literal (shape : l.IsPlaceholder) :
    Calm (l.spelled ++ text) ↔
      ((Token.ofName? l.name).isSome → ¬ Completes l.quote text) ∧ Calm text := by
  simp only [Calm, asks_literal shape]
  constructor
  · intro calm
    exact ⟨fun known => calm l text (.inl ⟨rfl, known, rfl⟩),
      fun l' rest asks => calm l' rest (.inr asks)⟩
  · rintro ⟨here, behind⟩ l' rest (⟨rfl, known, rfl⟩ | asks)
    · exact here known
    · exact behind l' rest asks

theorem calm_name (shape : (Literal.mk q name).IsPlaceholder) :
    Calm (q.char :: (name ++ q.char :: text)) ↔
      ((Token.ofName? name).isSome → ¬ Completes q text) ∧ Calm text := by
  rw [← calm_literal shape, Literal.spelled_append]

theorem calm_quoteless (free : Quoteless w) : Calm (w ++ text) ↔ Calm text := by
  simp only [Calm, asks_quoteless free]

/-! ## Texts that stamping leaves alone -/

/-- Stamping leaves the text alone. -/
def Stable (v : Version) (text : List Char) : Prop := stamp v text = text

theorem stable_plain (plain : literalAt? (c :: text) = none) :
    Stable v (c :: text) ↔ Stable v text := by
  rw [Stable, stamp_plain plain, List.cons_inj_right, Stable]

theorem stable_quoteless (free : Quoteless w) : Stable v (w ++ text) ↔ Stable v text := by
  rw [Stable, stamp_quoteless free, List.append_cancel_left_eq, Stable]

theorem stable_unknown (shape : l.IsPlaceholder) (unknown : Token.ofName? l.name = none) :
    Stable v (l.spelled ++ text) ↔ Stable v text := by
  rw [Stable, stamp_literal shape, Literal.answered_of_unknown unknown,
    List.append_cancel_left_eq, Stable]

theorem stable_name (shape : (Literal.mk q name).IsPlaceholder)
    (unknown : Token.ofName? name = none) :
    Stable v (q.char :: (name ++ q.char :: text)) ↔ Stable v text := by
  have read : Stable v ((Literal.mk q name).spelled ++ text) ↔ Stable v text :=
    stable_unknown shape unknown
  rwa [Literal.spelled_append] at read

/-- A quote in front stays in front. -/
theorem exists_stamp_quote (v : Version) (q : Quote) (text : List Char) :
    ∃ after, stamp v (q.char :: text) = q.char :: after := by
  by_cases shut : Shut q text
  · exact ⟨_, stamp_plain (literalAt?_quote_eq_none_iff.mpr shut)⟩
  · obtain ⟨name, after, shape, rfl⟩ := exists_of_not_shut shut
    exact ⟨_, stamp_quote_name shape after⟩

variable (plainValues : ∀ token : Token, Plain (token.value v).toList)
include plainValues

theorem answered_quoteless (shape : l.IsPlaceholder) : Quoteless (l.answered v).name := by
  cases known : Token.ofName? l.name with
  | none =>
    rw [Literal.answered_of_unknown known]
    exact shape.quoteless
  | some token => exact Literal.answered_of_known (v := v) known ▸ (plainValues token).1

theorem plain_answered {token : Token} (known : Token.ofName? l.name = some token) :
    Plain (l.answered v).name :=
  Literal.answered_of_known (v := v) known ▸ plainValues token

/-- A literal with a known name does not stay. -/
theorem not_stable_known (known : (Token.ofName? l.name).isSome) :
    ¬ Stable v (l.spelled ++ text) := by
  intro stable
  have shape : l.IsPlaceholder := isPlaceholder_of_known known l.quote
  obtain ⟨token, isToken⟩ := Option.isSome_iff_exists.mp known
  obtain ⟨free, notName⟩ := plain_answered plainValues isToken
  rw [Stable, stamp_literal shape, Literal.spelled_append, Literal.spelled_append] at stable
  obtain ⟨same, -, -⟩ := free.eq_of_append shape.quoteless (List.cons.inj stable).2
  exact notName l.quote (same ▸ shape)

/-- Behind a value only its last quote is left to read. -/
theorem stable_answered_known {token : Token} (known : Token.ofName? l.name = some token) :
    Stable v ((l.answered v).spelled ++ text) ↔ Stable v (l.quote.char :: text) := by
  obtain ⟨free, notName⟩ := plain_answered plainValues known
  have shut : Shut l.quote ((l.answered v).name ++ l.quote.char :: text) :=
    free.shut (notName l.quote) text
  rw [Literal.spelled_append]
  exact (stable_plain (literalAt?_quote_eq_none_iff.mpr shut)).trans (stable_quoteless free)

/-- A literal with a name that is not known takes away the first quote of the one behind it. -/
theorem stable_name_answered {taken : List Char} (shape : (Literal.mk q name).IsPlaceholder)
    (unknown : Token.ofName? name = none) (isTaken : (Literal.mk q taken).IsPlaceholder) :
    Stable v (q.char :: (name ++ q.char ::
        (((Literal.mk q taken).answered v).name ++ q.char :: text))) ↔
      Stable v (q.char :: text) :=
  (stable_name shape unknown).trans (stable_quoteless (answered_quoteless plainValues isTaken))

omit plainValues

/-- What the second stamping of a text comes to, read from its start and read from behind a
quote that is free. -/
structure Rereads (v : Version) (text : List Char) : Prop where
  stamped : Stable v (stamp v text) ↔ Calm text
  behindQuote (q : Quote) : Stable v (q.char :: stamp v text) ↔ ¬ Completes q text ∧ Calm text

include plainValues

theorem stamped_of_shorter (shorter : ∀ rest, rest.length < text.length → Rereads v rest) :
    Stable v (stamp v text) ↔ Calm text := by
  rcases reading_cases text with rfl | ⟨l, rest, shape, rfl⟩ | ⟨c, rest, plain, rfl⟩
  · simp [Stable, Calm, not_asks_nil]
  · have behind := shorter rest (by simp [Literal.spelled]; omega)
    rw [stamp_literal shape, calm_literal shape]
    cases known : Token.ofName? l.name with
    | none =>
      rw [Literal.answered_of_unknown known, stable_unknown shape known, behind.stamped]
      simp
    | some token =>
      rw [stable_answered_known plainValues known, behind.behindQuote]
      simp
  · rw [stamp_plain plain, stable_plain (literalAt?_stamp plain), calm_plain plain]
    exact (shorter rest (by simp)).stamped

/-- A free quote before a placeholder's name and the same quote. -/
theorem behindQuote_of_name (shape : (Literal.mk q name).IsPlaceholder)
    (shorter : ∀ rest', rest'.length < (name ++ q.char :: rest).length → Rereads v rest') :
    Stable v (q.char :: stamp v (name ++ q.char :: rest)) ↔
      ¬ Completes q (name ++ q.char :: rest) ∧ Calm (name ++ q.char :: rest) := by
  rw [stamp_quoteless shape.quoteless, calm_quoteless shape.quoteless]
  cases known : Token.ofName? name with
  | some token =>
    -- The second stamping replaces the literal that is completed.
    have isKnown : (Token.ofName? name).isSome := by simp [known]
    obtain ⟨after, starts⟩ := exists_stamp_quote v q rest
    have moved : ¬ Stable v ((Literal.mk q name).spelled ++ after) :=
      not_stable_known plainValues isKnown
    rw [Literal.spelled_append] at moved
    rw [starts]
    exact iff_of_false moved fun calm => calm.1 (.here isKnown rfl)
  | none =>
    by_cases shut : Shut q rest
    · have plain := literalAt?_quote_eq_none_iff.mpr shut
      have behind := (shorter rest (by simp; omega)).stamped
      rw [stamp_plain plain, calm_plain plain, stable_name shape known, behind]
      simp [not_completes_of_unknown shape known shut]
    · -- The first reading took a literal there, whose last quote is now free.
      obtain ⟨taken, after, isTaken, rfl⟩ := exists_of_not_shut shut
      have behind := (shorter after (by simp; omega)).behindQuote q
      rw [stamp_quote_name isTaken, stable_name_answered plainValues shape known isTaken, behind,
        completes_behind_iff shape known isTaken, calm_name isTaken]
      constructor
      · rintro ⟨incomplete, calm⟩
        exact ⟨incomplete, fun _ => incomplete, calm⟩
      · rintro ⟨incomplete, -, calm⟩
        exact ⟨incomplete, calm⟩

/-- **What the second stamping comes to.** -/
theorem rereads (text : List Char) : Rereads v text := by
  induction size : text.length using Nat.strongRecOn generalizing text with
  | ind n ih =>
    subst size
    have shorter : ∀ rest, rest.length < text.length → Rereads v rest :=
      fun rest less => ih rest.length less rest rfl
    have stamped := stamped_of_shorter plainValues shorter
    refine ⟨stamped, fun q => ?_⟩
    by_cases shut : Shut q text
    · rw [stable_plain (literalAt?_quote_eq_none_iff.mpr shut.stamp), stamped]
      simp [shut.not_completes]
    · obtain ⟨name, after, shape, rfl⟩ := exists_of_not_shut shut
      exact behindQuote_of_name plainValues shape shorter

omit plainValues

/-! ## The values of a version that was read -/

/-- The code name apart, what a version that was read says is digits and full stops. -/
theorem plain_value (input codeName : String) {token : Token} (other : token ≠ .codeName) :
    Plain (token.value (Version.parse input codeName)).toList := by
  obtain ⟨major, minor, patch, name, isRead⟩ := Version.exists_parse_eq_ofNumbers input codeName
  rw [isRead]
  cases token with
  | full => exact plain_dotted major minor patch
  | major => exact plain_decimal major
  | minor => exact plain_decimal minor
  | dot => exact plain_decimal patch
  | cdn => exact plain_dotted major minor patch
  | codeName => exact absurd rfl other

/-- **When stamping twice is stamping once.**  It is if each literal that is replaced does not
share its last quote with another one, and stamping leaves alone the code name, wherever it
is asked for, in its quotes.  If the code name has no quotes and is not a placeholder's name,
it is so exactly if no quote that stamping frees completes a literal with a known name. -/
theorem stamping_twice (input codeName text : String) :
    let v := Version.parse input codeName
    ((∀ l rest, Asks text.toList l rest → Shut l.quote rest ∧
        (l.name = Token.codeName.name.toList →
          Stable v (Literal.mk l.quote v.codeName.toList).spelled)) →
      substitute v (substitute v text) = substitute v text) ∧
    (Plain v.codeName.toList →
      (substitute v (substitute v text) = substitute v text ↔
        ∀ l rest, Asks text.toList l rest → ¬ Completes l.quote rest)) := by
  intro v
  rw [← String.toList_inj, toList_substitute, toList_substitute]
  constructor
  · intro settled
    refine stamp_stamp_of_settled fun l rest asks => ?_
    obtain ⟨shut, steady⟩ := settled l rest asks
    obtain ⟨token, known⟩ := asks.known
    refine ⟨shut, ?_⟩
    have answer := Literal.answered_of_known (v := v) known
    by_cases same : token = .codeName
    · subst same
      have stable := steady (Token.name_of_ofName? known).symm
      rw [show v.codeName.toList = (l.answered v).name from answer.symm] at stable
      exact stable
    · have plain := plain_value input codeName same
      exact stamp_spelled (answer ▸ plain.1) (answer ▸ plain.unknown)
  · intro plainName
    have plainValues : ∀ token : Token, Plain (token.value v).toList := by
      intro token
      by_cases same : token = .codeName
      · rw [same]
        exact plainName
      · exact plain_value input codeName same
    exact (rereads plainValues text.toList).stamped

/-! ## Two texts, and two inputs where the stampings differ -/

namespace Sample

/-- A script that asks for the code name and for the version. -/
def asking : String := "name = 'NG_VERSION_CODENAME', full = \"NG_VERSION_FULL\";"

theorem asks_asking (h : Asks asking.toList l rest) :
    (l = ⟨.single, Token.codeName.name.toList⟩ ∧
      rest = ", full = \"NG_VERSION_FULL\";".toList) ∨
    (l = ⟨.double, Token.full.name.toList⟩ ∧ rest = ";".toList) := by
  have split : asking.toList = "name = ".toList ++
      ((Literal.mk .single Token.codeName.name.toList).spelled ++ (", full = ".toList ++
        ((Literal.mk .double Token.full.name.toList).spelled ++ (";".toList ++ [])))) := by decide
  rw [split, asks_quoteless (by rintro ⟨⟩ <;> decide),
    asks_literal (Token.isPlaceholder_name _ _), asks_quoteless (by rintro ⟨⟩ <;> decide),
    asks_literal (Token.isPlaceholder_name _ _), asks_quoteless (by rintro ⟨⟩ <;> decide)] at h
  rcases h with ⟨rfl, -, rfl⟩ | ⟨rfl, -, rfl⟩ | h
  · exact .inl ⟨rfl, by decide⟩
  · exact .inr ⟨rfl, by decide⟩
  · exact absurd h not_asks_nil

/-- A version whose code name has a quote. -/
def lair : Version := Version.parse "v1.2.3" "dragon's lair"

/-- In its single quotes the code name stays, though a quote stands in it. -/
theorem settled_asking (asks : Asks asking.toList l rest) :
    Shut l.quote rest ∧ (l.name = Token.codeName.name.toList →
      Stable lair (Literal.mk l.quote lair.codeName.toList).spelled) := by
  rcases asks_asking asks with ⟨rfl, rfl⟩ | ⟨rfl, rfl⟩
  · refine ⟨literalAt?_quote_eq_none_iff.mp (by decide), fun _ => ?_⟩
    rw [Stable]
    decide +kernel
  · exact ⟨literalAt?_quote_eq_none_iff.mp (by decide), fun same => absurd same (by decide)⟩

/-- Literals that share their quotes: the first reading takes the first and the third. -/
def chained : String := "'NG_VERSION_FULL'NG_VERSION_NEXT'NG_VERSION_DOT'NG_VERSION_MINOR'"

theorem asks_chained :
    Asks chained.toList ⟨.single, Token.full.name.toList⟩
      "NG_VERSION_NEXT'NG_VERSION_DOT'NG_VERSION_MINOR'".toList := by
  have split : chained.toList = (Literal.mk .single Token.full.name.toList).spelled ++
      "NG_VERSION_NEXT'NG_VERSION_DOT'NG_VERSION_MINOR'".toList := by decide
  rw [split]
  exact (asks_literal (Token.isPlaceholder_name _ _)).mpr (.inl ⟨rfl, by decide, rfl⟩)

/-- Behind the freed quote stand a name that is not known, a literal that was taken, and then
one that is known. -/
theorem completes_chained :
    Completes .single "NG_VERSION_NEXT'NG_VERSION_DOT'NG_VERSION_MINOR'".toList := by
  have next : (Literal.mk .single "NG_VERSION_NEXT".toList).IsPlaceholder :=
    @isPlaceholder_of_capitals "NEXT".toList (by decide) (by decide) .single
  have last : "NG_VERSION_MINOR'".toList =
      "NG_VERSION_MINOR".toList ++ Quote.single.char :: [] := by decide
  have split : "NG_VERSION_NEXT'NG_VERSION_DOT'NG_VERSION_MINOR'".toList =
      "NG_VERSION_NEXT".toList ++ Quote.single.char ::
        ("NG_VERSION_DOT".toList ++ Quote.single.char :: "NG_VERSION_MINOR'".toList) := by decide
  exact .behind next (Token.isPlaceholder_name .dot .single) split (.here (by decide) last)

theorem plain_snapshot : Plain (Version.parse "1.2.3" "snapshot").codeName.toList := by
  have name : (Version.parse "1.2.3" "snapshot").codeName = "snapshot" := by decide +kernel
  rw [name]
  refine ⟨by rintro ⟨⟩ <;> decide, ?_⟩
  rintro q ⟨capitals, -, -, same⟩
  exact absurd (List.cons.inj same).1 (by decide)

/-- A code name with a quote is left alone where nothing shares a quote, and where literals
share theirs an ordinary code name does not help. -/
theorem stamping_twice_asking_chained :
    ((∀ l rest, Asks asking.toList l rest → Shut l.quote rest ∧
        (l.name = Token.codeName.name.toList →
          Stable lair (Literal.mk l.quote lair.codeName.toList).spelled)) ∧
      substitute lair (substitute lair asking) = substitute lair asking) ∧
    Plain (Version.parse "1.2.3" "snapshot").codeName.toList ∧
    substitute (Version.parse "1.2.3" "snapshot")
        (substitute (Version.parse "1.2.3" "snapshot") chained) ≠
      substitute (Version.parse "1.2.3" "snapshot") chained := by
  refine ⟨⟨fun _ _ => settled_asking, ?_⟩, plain_snapshot, fun same => ?_⟩
  · exact (stamping_twice "v1.2.3" "dragon's lair" asking).1 fun _ _ => settled_asking
  · have calm := ((stamping_twice "1.2.3" "snapshot" chained).2 plain_snapshot).mp same
    exact calm _ _ asks_chained completes_chained

/-- **Stamping twice can differ from stamping once**: where the code name is itself a name that
the version knows, and where a literal shares its quote with the one before it. -/
theorem stamping_twice_can_differ :
    substitute (Version.parse "1.2.3" "NG_VERSION_FULL")
        (substitute (Version.parse "1.2.3" "NG_VERSION_FULL") "'NG_VERSION_CODENAME'") ≠
      substitute (Version.parse "1.2.3" "NG_VERSION_FULL") "'NG_VERSION_CODENAME'" ∧
    substitute (Version.parse "1.2.3" "snapshot")
        (substitute (Version.parse "1.2.3" "snapshot") "'NG_VERSION_FULL'NG_VERSION_MAJOR'") ≠
      substitute (Version.parse "1.2.3" "snapshot") "'NG_VERSION_FULL'NG_VERSION_MAJOR'" := by
  decide +kernel

end Sample

end ReleaseBundle.Placeholder
