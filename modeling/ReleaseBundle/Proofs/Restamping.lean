import ReleaseBundle.Proofs.LeftmostLiterals
import ReleaseBundle.Proofs.VersionRoundTrip

/-!
# Stamping what has been stamped

A stamped text keeps the quotes of its literals, and what stands between two quotes is either
as it was or a value of the version (`Literal.answered`).  So a text that is stamped again
reads as before, up to two things.  A value may itself be read; and where a name is gone, the
last quote of its literal no longer closes a placeholder and is free to open one with what
stands behind it.

If neither happens the second stamping finds nothing to replace, whatever the version it is
made with (`stamp_stamp_of_settled`).  So the first stamp stands, if the values are no tokens'
names and literals share no quotes (`first_stamp_stands`).
-/

namespace ReleaseBundle.Placeholder

variable {v v' : Version} {l l' : Literal} {q : Quote} {c : Char}
  {text rest after name w : List Char}

/-! ## Texts without quotes -/

/-- No quote of either kind stands in the text. -/
def Quoteless (text : List Char) : Prop := ∀ q : Quote, q.char ∉ text

theorem Quoteless.tail (free : Quoteless (c :: text)) : Quoteless text :=
  fun q mem => free q (List.mem_cons_of_mem c mem)

theorem Quote.char_injective : Function.Injective Quote.char := by
  intro q q' same
  have := q.ofChar?_char
  rw [same, q'.ofChar?_char] at this
  exact (Option.some.inj this).symm

/-- The name of a placeholder has no quote. -/
theorem Literal.IsPlaceholder.quoteless (shape : l.IsPlaceholder) : Quoteless l.name := by
  intro q mem
  obtain ⟨capitals, -, all, same⟩ := shape
  rw [same] at mem
  rcases List.mem_append.mp mem with mem | mem
  · cases q <;> revert mem <;> decide
  · have capital := isCapital_iff.mpr (all _ mem)
    rw [q.not_isCapital_char] at capital
    cases capital

/-- What stands before a quote and has none is determined by what is started. -/
theorem Quoteless.eq_of_append {w' : List Char} {q' : Quote} (free : Quoteless w)
    (free' : Quoteless w') (same : w ++ q.char :: rest = w' ++ q'.char :: after) :
    w = w' ∧ q = q' ∧ rest = after := by
  induction w generalizing w' with
  | nil =>
    cases w' with
    | nil =>
      obtain ⟨sameChar, rfl⟩ := List.cons.inj same
      exact ⟨rfl, Quote.char_injective sameChar, rfl⟩
    | cons d w' => exact absurd ((List.cons.inj same).1 ▸ List.mem_cons_self) (free' q)
  | cons c w ih =>
    cases w' with
    | nil => exact absurd ((List.cons.inj same).1.symm ▸ List.mem_cons_self) (free q')
    | cons d w' =>
      obtain ⟨rfl, sameRest⟩ := List.cons.inj same
      obtain ⟨rfl, sameQuote, rfl⟩ := ih free.tail free'.tail sameRest
      exact ⟨rfl, sameQuote, rfl⟩

theorem Literal.spelled_append (l : Literal) (rest : List Char) :
    l.spelled ++ rest = l.quote.char :: (l.name ++ l.quote.char :: rest) := by
  simp [spelled]

/-- A character that is no quote starts no literal. -/
theorem literalAt?_of_not_quote (plain : ∀ q : Quote, q.char ≠ c) :
    literalAt? (c :: rest) = none := by
  refine Option.eq_none_iff_forall_ne_some.mpr ?_
  rintro ⟨l, after⟩ found
  obtain ⟨-, split⟩ := literalAt?_eq_some_iff.mp found
  rw [l.spelled_append] at split
  exact plain l.quote (List.cons.inj split).1.symm

theorem Quoteless.literalAt?_eq_none (free : Quoteless (c :: w)) :
    literalAt? (c :: rest) = none :=
  literalAt?_of_not_quote fun q same => free q (same ▸ List.mem_cons_self)

/-- **A quote opens a literal** if a placeholder's name and the same quote follow. -/
theorem literalAt?_quote_eq_some_iff :
    literalAt? (q.char :: text) = some (l, after) ↔
      l.quote = q ∧ l.IsPlaceholder ∧ text = l.name ++ q.char :: after := by
  rw [literalAt?_eq_some_iff, l.spelled_append]
  constructor
  · rintro ⟨shape, split⟩
    obtain ⟨sameChar, sameRest⟩ := List.cons.inj split
    obtain rfl := Quote.char_injective sameChar
    exact ⟨rfl, shape, sameRest⟩
  · rintro ⟨rfl, shape, rfl⟩
    exact ⟨shape, rfl⟩

/-- A quote before the text opens no literal. -/
def Shut (q : Quote) (text : List Char) : Prop :=
  ∀ name after, (Literal.mk q name).IsPlaceholder → text ≠ name ++ q.char :: after

theorem exists_of_not_shut (opens : ¬ Shut q text) :
    ∃ name after, (Literal.mk q name).IsPlaceholder ∧ text = name ++ q.char :: after := by
  simpa [Shut] using opens

theorem literalAt?_quote_eq_none_iff : literalAt? (q.char :: text) = none ↔ Shut q text := by
  constructor
  · intro none name after shape split
    rw [literalAt?_quote_eq_some_iff.mpr ⟨rfl, shape, split⟩] at none
    cases none
  · intro shut
    refine Option.eq_none_iff_forall_ne_some.mpr ?_
    rintro ⟨l, after⟩ found
    obtain ⟨rfl, shape, split⟩ := literalAt?_quote_eq_some_iff.mp found
    exact shut l.name after shape split

/-- A quote before a text without quotes opens a literal only if that text is its name. -/
theorem Quoteless.shut (free : Quoteless w) (other : ¬ (Literal.mk q w).IsPlaceholder)
    (rest : List Char) : Shut q (w ++ q.char :: rest) := by
  intro name after shape same
  obtain ⟨rfl, -, -⟩ := free.eq_of_append shape.quoteless same
  exact other shape

/-! ## The stamped text -/

/-- A text with the version's values in it. -/
def stamp (v : Version) (text : List Char) : List Char := (pieces text).flatMap (Piece.stamped v)

theorem toList_substitute (v : Version) (text : String) :
    (substitute v text).toList = stamp v text.toList := String.toList_ofList

/-- A literal with what the version says for its name, if it knows the name. -/
def Literal.answered (v : Version) (l : Literal) : Literal where
  quote := l.quote
  name :=
    match Token.ofName? l.name with
    | some token => (token.value v).toList
    | none => l.name

theorem Literal.answered_of_unknown (unknown : Token.ofName? l.name = none) :
    l.answered v = l := by
  simp [answered, unknown]

theorem Literal.answered_of_known {token : Token} (known : Token.ofName? l.name = some token) :
    (l.answered v).name = (token.value v).toList := by
  simp [answered, known]

theorem stamped_literal (v : Version) (l : Literal) :
    Piece.stamped v (.literal l) = (l.answered v).spelled := by
  simp only [Piece.stamped, Literal.answered, Literal.spelled]
  cases Token.ofName? l.name <;> rfl

@[simp] theorem stamp_nil : stamp v [] = [] := by simp [stamp]

theorem stamp_literal (shape : l.IsPlaceholder) (rest : List Char) :
    stamp v (l.spelled ++ rest) = (l.answered v).spelled ++ stamp v rest := by
  rw [stamp, pieces_of_literal (literalAt?_spelled shape rest), List.flatMap_cons,
    stamped_literal, stamp]

theorem stamp_quote_name (shape : (Literal.mk q name).IsPlaceholder) (rest : List Char) :
    stamp v (q.char :: (name ++ q.char :: rest)) =
      q.char :: (((Literal.mk q name).answered v).name ++ q.char :: stamp v rest) := by
  have := stamp_literal (v := v) shape rest
  rw [Literal.spelled_append, Literal.spelled_append] at this
  exact this

theorem stamp_plain (plain : literalAt? (c :: rest) = none) :
    stamp v (c :: rest) = c :: stamp v rest := by
  rw [stamp, pieces_of_plain plain, List.flatMap_cons]
  rfl

/-- What has no quotes stays. -/
theorem stamp_quoteless (free : Quoteless w) (rest : List Char) :
    stamp v (w ++ rest) = w ++ stamp v rest := by
  induction w with
  | nil => rfl
  | cons c w ih =>
    rw [List.cons_append, stamp_plain free.literalAt?_eq_none, ih free.tail, List.cons_append]

/-- **Up to its first quote a text stays**, and with it the quote. -/
theorem exists_of_stamp_eq (free : Quoteless w) (same : stamp v text = w ++ q.char :: after) :
    ∃ after', text = w ++ q.char :: after' := by
  induction text using pieces_induction generalizing w with
  | nil => simp at same
  | literal l rest shape =>
    rw [stamp_literal shape, Literal.spelled_append] at same
    cases w with
    | nil =>
      obtain rfl := Quote.char_injective (List.cons.inj same).1
      exact ⟨_, l.spelled_append rest⟩
    | cons d w => exact absurd ((List.cons.inj same).1 ▸ List.mem_cons_self) (free l.quote)
  | plain c rest plain ih =>
    rw [stamp_plain plain] at same
    cases w with
    | nil => exact ⟨rest, congrArg (· :: rest) (List.cons.inj same).1⟩
    | cons d w =>
      obtain ⟨rfl, sameRest⟩ := List.cons.inj same
      obtain ⟨after', rfl⟩ := ih free.tail sameRest
      exact ⟨after', rfl⟩

theorem Shut.stamp (shut : Shut q text) : Shut q (stamp v text) := by
  intro name after shape same
  obtain ⟨after', split⟩ := exists_of_stamp_eq shape.quoteless same
  exact shut name after' shape split

/-- **Where no literal started, none starts in the stamped text.** -/
theorem literalAt?_stamp (plain : literalAt? (c :: rest) = none) :
    literalAt? (c :: Placeholder.stamp v rest) = none := by
  by_cases quote : ∃ q : Quote, q.char = c
  · obtain ⟨q, rfl⟩ := quote
    exact literalAt?_quote_eq_none_iff.mpr (literalAt?_quote_eq_none_iff.mp plain).stamp
  · exact literalAt?_of_not_quote fun q same => quote ⟨q, same⟩

/-- A quote that opens nothing up to another quote opens nothing beyond it. -/
theorem Shut.append {q' : Quote} (shut : Shut q' (w ++ [q.char])) (rest : List Char) :
    Shut q' (w ++ q.char :: rest) := by
  intro name after shape same
  rcases List.append_eq_append_iff.mp same with ⟨more, rfl, same'⟩ | ⟨more, rfl, same'⟩
  · cases more with
    | nil => exact shut _ [] shape (by simp [(List.cons.inj same').1])
    | cons d more =>
      -- The name would have the other quote in it.
      refine absurd ?_ (shape.quoteless q)
      simp [(List.cons.inj same').1]
  · cases more with
    | nil => exact shut _ [] shape (by simp [(List.cons.inj same').1])
    | cons d more => exact shut name (more ++ [q.char]) shape (by simp [(List.cons.inj same').1])

theorem literalAt?_append (plain : literalAt? (c :: (w ++ [q.char])) = none) (rest : List Char) :
    literalAt? (c :: (w ++ q.char :: rest)) = none := by
  by_cases quote : ∃ q : Quote, q.char = c
  · obtain ⟨q, rfl⟩ := quote
    exact literalAt?_quote_eq_none_iff.mpr
      ((literalAt?_quote_eq_none_iff.mp plain).append rest)
  · exact literalAt?_of_not_quote fun q same => quote ⟨q, same⟩

/-- **Behind a quote a text is stamped apart**, if the quote opens nothing with what follows. -/
theorem stamp_append_of_shut (shut : Shut q rest) (ends : ∀ c ∈ text.getLast?, c = q.char) :
    Placeholder.stamp v (text ++ rest) = Placeholder.stamp v text ++ Placeholder.stamp v rest := by
  induction text using pieces_induction with
  | nil => simp
  | literal l text shape ih =>
    have ends' : ∀ c ∈ text.getLast?, c = q.char := by
      intro c mem
      obtain ⟨front, rfl⟩ := List.getLast?_eq_some_iff.mp (Option.mem_def.mp mem)
      exact ends c (by simp)
    rw [List.append_assoc, stamp_literal shape, stamp_literal shape, ih ends', List.append_assoc]
  | plain c text plain ih =>
    rcases List.eq_nil_or_concat text with rfl | ⟨front, d, rfl⟩
    · obtain rfl := ends c rfl
      have here := literalAt?_quote_eq_none_iff.mpr shut
      rw [stamp_plain plain, List.singleton_append, stamp_plain here, stamp_nil,
        List.singleton_append]
    · rw [List.concat_eq_append] at plain ih ends ⊢
      obtain rfl : d = q.char := ends d (by rw [← List.cons_append, List.getLast?_concat]; rfl)
      have here := literalAt?_append plain rest
      have apart := ih (by simp)
      rw [List.append_assoc, List.singleton_append] at apart
      rw [List.cons_append, List.append_assoc, List.singleton_append, stamp_plain here,
        stamp_plain plain, apart, List.cons_append]

/-! ## What a text asks -/

/-- A text asks by a literal: reading it takes the literal, whose name is known, and goes on
with the rest. -/
def Asks (text : List Char) (l : Literal) (rest : List Char) : Prop :=
  ∃ behind, .literal l :: behind <:+ pieces text ∧ (Token.ofName? l.name).isSome ∧
    rest = behind.flatMap Piece.spelled

theorem not_asks_nil : ¬ Asks [] l rest := by
  rintro ⟨behind, suffix, -⟩
  simp at suffix

theorem asks_plain (plain : literalAt? (c :: text) = none) :
    Asks (c :: text) l rest ↔ Asks text l rest := by
  rw [Asks, pieces_of_plain plain, Asks]
  simp [List.suffix_cons_iff]

theorem asks_quoteless (free : Quoteless w) : Asks (w ++ text) l rest ↔ Asks text l rest := by
  induction w with
  | nil => rfl
  | cons c w ih => rw [List.cons_append, asks_plain free.literalAt?_eq_none, ih free.tail]

theorem asks_literal (shape : l'.IsPlaceholder) :
    Asks (l'.spelled ++ text) l rest ↔
      (l = l' ∧ (Token.ofName? l'.name).isSome ∧ rest = text) ∨ Asks text l rest := by
  rw [Asks, pieces_of_literal (literalAt?_spelled shape text), Asks]
  constructor
  · rintro ⟨behind, suffix, known, rfl⟩
    rcases List.suffix_cons_iff.mp suffix with same | suffix
    · obtain ⟨samePiece, rfl⟩ := List.cons.inj same
      obtain rfl := Piece.literal.inj samePiece
      exact .inl ⟨rfl, known, spelled_pieces text⟩
    · exact .inr ⟨behind, suffix, known, rfl⟩
  · rintro (⟨rfl, known, rfl⟩ | ⟨behind, suffix, known, rfl⟩)
    · exact ⟨pieces rest, List.suffix_rfl, known, (spelled_pieces rest).symm⟩
    · exact ⟨behind, List.suffix_cons_iff.mpr (.inr suffix), known, rfl⟩

theorem Asks.known (asks : Asks text l rest) : ∃ token, Token.ofName? l.name = some token := by
  obtain ⟨-, -, known, -⟩ := asks
  exact Option.isSome_iff_exists.mp known

/-- What a text asks by stands in it. -/
theorem Asks.stands (h : Asks text l rest) :
    l.IsPlaceholder ∧ ∃ before, text = before ++ (l.spelled ++ rest) := by
  induction text using pieces_induction with
  | nil => exact absurd h not_asks_nil
  | literal l' text shape ih =>
    rcases (asks_literal shape).mp h with ⟨rfl, -, rfl⟩ | h
    · exact ⟨shape, [], rfl⟩
    · obtain ⟨shape', before, rfl⟩ := ih h
      exact ⟨shape', l'.spelled ++ before, by rw [List.append_assoc]⟩
  | plain c text plain ih =>
    obtain ⟨shape, before, rfl⟩ := ih ((asks_plain plain).mp h)
    exact ⟨shape, c :: before, rfl⟩

/-- **A stamped text stands** if stamping leaves alone what it holds for each literal that it
asked by, and none of these shared its last quote. -/
theorem stamp_stamp_of_settled
    (settled : ∀ l rest, Asks text l rest →
      Shut l.quote rest ∧ stamp v' (l.answered v).spelled = (l.answered v).spelled) :
    stamp v' (stamp v text) = stamp v text := by
  induction text using pieces_induction with
  | nil => simp
  | literal l text shape ih =>
    have settled' := ih fun l rest asks => settled l rest ((asks_literal shape).mpr (.inr asks))
    cases known : Token.ofName? l.name with
    | none =>
      rw [stamp_literal shape, Literal.answered_of_unknown known, stamp_literal shape,
        Literal.answered_of_unknown known, settled']
    | some token =>
      obtain ⟨shut, stands⟩ :=
        settled l text ((asks_literal shape).mpr (.inl ⟨rfl, by simp [known], rfl⟩))
      have ends : ∀ c ∈ (l.answered v).spelled.getLast?, c = l.quote.char := by
        intro c mem
        rw [Literal.spelled, List.getLast?_concat] at mem
        exact (Option.some.inj mem).symm
      rw [stamp_literal shape, stamp_append_of_shut shut.stamp ends, stands, settled']
  | plain c text plain ih =>
    have settled' := ih fun l rest asks => settled l rest ((asks_plain plain).mpr asks)
    rw [stamp_plain plain, stamp_plain (literalAt?_stamp plain), settled']

/-! ## The first stamp stands -/

theorem isPlaceholder_of_capitals {capitals : List Char} (nonempty : capitals ≠ [])
    (all : capitals.all isCapital = true) (q : Quote) :
    (Literal.mk q (nameStart ++ capitals)).IsPlaceholder :=
  ⟨capitals, nonempty, fun c mem => isCapital_iff.mp (List.all_eq_true.mp all c mem), rfl⟩

/-- The names of the tokens are those of placeholders. -/
theorem Token.isPlaceholder_name (token : Token) (q : Quote) :
    (Literal.mk q token.name.toList).IsPlaceholder := by
  have split : token.name.toList = nameStart ++ token.name.toList.drop nameStart.length := by
    cases token <;> rfl
  rw [split]
  exact isPlaceholder_of_capitals (by cases token <;> decide) (by cases token <;> decide) q

theorem Token.ofName?_eq_none_iff :
    Token.ofName? name = none ↔ ∀ token : Token, token.name.toList ≠ name := by
  rw [Token.ofName?, List.find?_eq_none]
  constructor
  · intro unknown token
    have := unknown token (by cases token <;> decide)
    simpa using this
  · intro unknown token _
    simpa using unknown token

theorem Token.name_of_ofName? {token : Token} (known : Token.ofName? name = some token) :
    token.name.toList = name := by
  simpa using List.find?_some known

/-- Between quotes a text without quotes stays, unless it is a known name. -/
theorem stamp_spelled (free : Quoteless l.name) (unknown : Token.ofName? l.name = none) :
    stamp v l.spelled = l.spelled := by
  by_cases shape : l.IsPlaceholder
  · have := stamp_literal (v := v) shape []
    rwa [List.append_nil, stamp_nil, List.append_nil, Literal.answered_of_unknown unknown] at this
  · have shut : Shut l.quote (l.name ++ [l.quote.char]) := free.shut shape []
    have alone : Shut l.quote [] := fun name after _ same => by simp at same
    rw [← List.append_nil l.spelled, l.spelled_append,
      stamp_plain (literalAt?_quote_eq_none_iff.mpr shut), stamp_quoteless free,
      stamp_plain (literalAt?_quote_eq_none_iff.mpr alone), stamp_nil]

/-- A text that between quotes stays what it is: it has no quotes, and is no placeholder's name. -/
def Plain (text : List Char) : Prop :=
  Quoteless text ∧ ∀ q, ¬ (Literal.mk q text).IsPlaceholder

theorem Plain.unknown (plain : Plain text) : Token.ofName? text = none := by
  refine Token.ofName?_eq_none_iff.mpr fun token same => plain.2 .single ?_
  rw [← same]
  exact token.isPlaceholder_name .single

/-- Digits and full stops are plain. -/
theorem plain_of_numeral (all : ∀ c ∈ text, ('0' ≤ c ∧ c ≤ '9') ∨ c = '.') : Plain text := by
  have other : ∀ c, ¬ (('0' ≤ c ∧ c ≤ '9') ∨ c = '.') → c ∉ text := fun c not mem => not (all c mem)
  refine ⟨fun q => other q.char (by cases q <;> decide), ?_⟩
  rintro q ⟨capitals, -, -, same⟩
  refine other 'N' (by decide) ?_
  rw [show text = nameStart ++ capitals from same]
  exact List.mem_append_left capitals (by decide)

theorem plain_decimal (n : UInt64) : Plain (Version.decimal n).toList :=
  plain_of_numeral fun _ mem =>
    .inl (Version.ascii_of_mem_toDigits (by rwa [Version.decimal, String.toList_ofList] at mem))

theorem plain_dotted (major minor patch : UInt64) :
    Plain (Version.dotted major minor patch).toList := by
  refine plain_of_numeral fun c mem => ?_
  simp only [Version.toList_dotted, Version.Triple.spelled, Version.Triple.ofNumbers,
    List.mem_append, List.mem_cons] at mem
  rcases mem with mem | rfl | mem | rfl | mem
  · exact .inl (Version.ascii_of_mem_toDigits mem)
  · exact .inr rfl
  · exact .inl (Version.ascii_of_mem_toDigits mem)
  · exact .inr rfl
  · exact .inl (Version.ascii_of_mem_toDigits mem)

/-- Two literals with the shape of placeholders share a quote: the last one of the first is the
first one of the second. -/
def SharesQuote (text : List Char) : Prop :=
  ∃ before q first second after, (Literal.mk q first).IsPlaceholder ∧
    (Literal.mk q second).IsPlaceholder ∧
    text = before ++ q.char :: (first ++ q.char :: (second ++ q.char :: after))

theorem Asks.shut (asks : Asks text l rest) (apart : ¬ SharesQuote text) : Shut l.quote rest := by
  intro name after shape same
  obtain ⟨shape', before, rfl⟩ := asks.stands
  refine apart ⟨before, l.quote, l.name, name, after, shape', shape, ?_⟩
  rw [l.spelled_append, same]

/-- **The first stamp stands.**  If no two literals of a text share a quote, and the version's
values have no quotes and are not names of tokens themselves, then in the stamped text nothing
is left to replace, for whatever version it is stamped again. -/
theorem first_stamp_stands (text : String) (v v' : Version) (apart : ¬ SharesQuote text.toList)
    (ordinary : ∀ value ∈ [v.full, v.cdn, v.codeName],
      Quoteless value.toList ∧ ∀ token : Token, value ≠ token.name) :
    substitute v' (substitute v text) = substitute v text := by
  have values : ∀ token : Token,
      Quoteless (token.value v).toList ∧ Token.ofName? (token.value v).toList = none := by
    have given : ∀ value ∈ [v.full, v.cdn, v.codeName],
        Quoteless value.toList ∧ Token.ofName? value.toList = none := by
      intro value mem
      obtain ⟨free, unnamed⟩ := ordinary value mem
      exact ⟨free, Token.ofName?_eq_none_iff.mpr fun token same =>
        unnamed token (String.toList_inj.mp same.symm)⟩
    have number : ∀ n : UInt64, Quoteless (Version.decimal n).toList ∧
        Token.ofName? (Version.decimal n).toList = none :=
      fun n => ⟨(plain_decimal n).1, (plain_decimal n).unknown⟩
    intro token
    cases token with
    | full => exact given v.full (by simp)
    | major => exact number v.major
    | minor => exact number v.minor
    | dot => exact number v.patch
    | cdn => exact given v.cdn (by simp)
    | codeName => exact given v.codeName (by simp)
  apply String.toList_inj.mp
  rw [toList_substitute, toList_substitute]
  refine stamp_stamp_of_settled fun l rest asks => ⟨asks.shut apart, ?_⟩
  obtain ⟨token, known⟩ := asks.known
  have name := Literal.answered_of_known (v := v) known
  exact stamp_spelled (name ▸ (values token).1) (name ▸ (values token).2)

namespace Sample

/-- A script that asks in quotes of both kinds. -/
def script : String := "full = \"NG_VERSION_FULL\", name = 'NG_VERSION_CODENAME';"

/-- A version whose code name is a placeholder's name, but no token's. -/
def next : Version := .ofNumbers 1 8 3 "NG_VERSION_NEXT"

theorem not_sharesQuote_script : ¬ SharesQuote script.toList := by
  rintro ⟨before, q, first, second, after, -, -, same⟩
  -- Two literals that share a quote have three.
  have two : script.toList.count q.char = 2 := by cases q <;> decide
  rw [same] at two
  simp at two
  omega

theorem ordinary_next : ∀ value ∈ [next.full, next.cdn, next.codeName],
    Quoteless value.toList ∧ ∀ token : Token, value ≠ token.name := by
  have dotted : Quoteless next.full.toList ∧ ∀ token : Token, next.full ≠ token.name :=
    ⟨by rintro ⟨⟩ <;> decide, by rintro ⟨⟩ <;> decide⟩
  have name : Quoteless next.codeName.toList ∧ ∀ token : Token, next.codeName ≠ token.name :=
    ⟨by rintro ⟨⟩ <;> decide, by rintro ⟨⟩ <;> decide⟩
  intro value mem
  simp only [List.mem_cons, List.not_mem_nil, or_false] at mem
  rcases mem with rfl | rfl | rfl
  · exact dotted
  · exact dotted
  · exact name

theorem first_stamp_stands_script :
    ¬ SharesQuote script.toList ∧
      (∀ value ∈ [next.full, next.cdn, next.codeName],
        Quoteless value.toList ∧ ∀ token : Token, value ≠ token.name) ∧
      substitute (.ofNumbers 2 0 0 "zen") (substitute next script) = substitute next script :=
  ⟨not_sharesQuote_script, ordinary_next,
    first_stamp_stands script next (.ofNumbers 2 0 0 "zen") not_sharesQuote_script ordinary_next⟩

end Sample

end ReleaseBundle.Placeholder
