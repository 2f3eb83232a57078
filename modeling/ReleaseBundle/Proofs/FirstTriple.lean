import ReleaseBundle.Version

/-!
# Which triple a version is read from

A version is read from the first triple of digit runs in a text.  What the first one is can be
said without reading: no triple stands before it, counted by where it begins, and of those
that begin where it does none has a longer last run (`StandsFirst`).  There is at most one
such triple (`StandsFirst.unique`), and reading finds it unless no triple stands in the text
(`firstTriple?_cases`).

Nothing else of the text counts: if the runs of the first triple write no numbers, the
version is the fallback, whatever triples follow (`parse_reads_first_triple`).
-/

namespace ReleaseBundle.Version

variable {text run rest before after : List Char} {t : Triple}

/-! ## Runs of digits -/

/-- A run of digits: at least one character, and all are decimal digits of some script. -/
def IsRun (run : List Char) : Prop := run ≠ [] ∧ ∀ c ∈ run, Text.isDigit c = true

/-- No digit comes next. -/
def NoDigitAhead (text : List Char) : Prop := ∀ c ∈ text.head?, Text.isDigit c = false

theorem noDigitAhead_dot (rest : List Char) : NoDigitAhead ('.' :: rest) := by
  rintro c ⟨⟩
  exact Text.isDigit_stop

theorem noDigitAhead_dropWhile (text : List Char) :
    NoDigitAhead (text.dropWhile Text.isDigit) := by
  intro c mem
  have := List.head?_dropWhile_not Text.isDigit text
  rw [Option.mem_def.mp mem] at this
  exact this

theorem takeWhile_run (all : ∀ c ∈ run, Text.isDigit c = true) (stop : NoDigitAhead rest) :
    (run ++ rest).takeWhile Text.isDigit = run := by
  rw [List.takeWhile_append_of_pos all]
  cases rest with
  | nil => simp
  | cons c rest => rw [List.takeWhile_cons_of_neg (by simp [stop c rfl]), List.append_nil]

theorem dropWhile_run (all : ∀ c ∈ run, Text.isDigit c = true) (stop : NoDigitAhead rest) :
    (run ++ rest).dropWhile Text.isDigit = rest := by
  rw [List.dropWhile_append_of_pos all]
  cases rest with
  | nil => rfl
  | cons c rest => rw [List.dropWhile_cons_of_neg (by simp [stop c rfl])]

/-- **A run is read to its end.** -/
theorem digitRun?_eq_some_iff :
    digitRun? text = some (run, rest) ↔ IsRun run ∧ NoDigitAhead rest ∧ text = run ++ rest := by
  constructor
  · intro found
    rw [digitRun?] at found
    split at found
    · cases found
    · rename_i nonempty
      obtain ⟨rfl, rfl⟩ := Prod.mk.inj (Option.some.inj found)
      exact ⟨⟨nonempty, List.all_eq_true.mp List.all_takeWhile⟩, noDigitAhead_dropWhile text,
        List.takeWhile_append_dropWhile.symm⟩
  · rintro ⟨⟨nonempty, all⟩, stop, rfl⟩
    rw [digitRun?, takeWhile_run all stop, dropWhile_run all stop]
    split
    · exact absurd rfl nonempty
    · rfl

theorem digitRun?_before_dot (isRun : IsRun run) (rest : List Char) :
    digitRun? (run ++ '.' :: rest) = some (run, '.' :: rest) :=
  digitRun?_eq_some_iff.mpr ⟨isRun, noDigitAhead_dot rest, rfl⟩

theorem afterDot?_eq_some_iff : afterDot? text = some rest ↔ text = '.' :: rest := by
  constructor
  · intro found
    unfold afterDot? at found
    split at found
    · rw [Option.some.inj found]
    · cases found
  · rintro rfl
    rfl

/-! ## Triples -/

/-- The triple as it is written. -/
def Triple.spelled (t : Triple) : List Char := t.major ++ '.' :: (t.minor ++ '.' :: t.patch)

/-- The three parts are runs of digits. -/
structure Triple.HasRuns (t : Triple) : Prop where
  major : IsRun t.major
  minor : IsRun t.minor
  patch : IsRun t.patch

theorem Triple.spelled_append (t : Triple) (after : List Char) :
    t.spelled ++ after = t.major ++ '.' :: (t.minor ++ '.' :: (t.patch ++ after)) := by
  simp [spelled]

/-- A triple that is read at the start of a text is one with nothing left of its last run. -/
theorem tripleAt?_eq_some_iff :
    tripleAt? text = some t ↔
      t.HasRuns ∧ ∃ after, NoDigitAhead after ∧ text = t.spelled ++ after := by
  constructor
  · intro found
    simp only [tripleAt?, Option.bind_eq_bind, Option.bind_eq_some_iff, Prod.exists,
      digitRun?_eq_some_iff, afterDot?_eq_some_iff] at found
    obtain ⟨major, _, ⟨isMajor, -, rfl⟩, _, rfl, minor, _, ⟨isMinor, -, rfl⟩, _, rfl, patch, after,
      ⟨isPatch, stop, rfl⟩, found⟩ := found
    cases found
    exact ⟨⟨isMajor, isMinor, isPatch⟩, after, stop, by rw [Triple.spelled_append]⟩
  · rintro ⟨runs, after, stop, rfl⟩
    have readPatch := digitRun?_eq_some_iff.mpr ⟨runs.patch, stop, rfl⟩
    rw [Triple.spelled_append, tripleAt?]
    simp only [digitRun?_before_dot runs.major, digitRun?_before_dot runs.minor, readPatch,
      afterDot?, Option.bind_eq_bind, Option.bind_some, Option.pure_def]

/-! ## Where triples stand -/

/-- A triple of digit runs stands in a text, between what is before and after it. -/
structure Stands (text before : List Char) (t : Triple) (after : List Char) : Prop where
  runs : t.HasRuns
  split : text = before ++ (t.spelled ++ after)

/-- Where a triple stands one is read, with the same first two runs and at least its last. -/
theorem Stands.exists_tripleAt? (h : Stands text [] t after) :
    ∃ more, tripleAt? text = some ⟨t.major, t.minor, t.patch ++ more⟩ := by
  obtain ⟨runs, rfl⟩ := h
  refine ⟨after.takeWhile Text.isDigit, tripleAt?_eq_some_iff.mpr ⟨?_, ?_⟩⟩
  · refine ⟨runs.major, runs.minor, by simp [runs.patch.1], fun c mem => ?_⟩
    rcases List.mem_append.mp mem with mem | mem
    · exact runs.patch.2 c mem
    · exact List.all_eq_true.mp List.all_takeWhile c mem
  · refine ⟨after.dropWhile Text.isDigit, noDigitAhead_dropWhile after, ?_⟩
    simp [Triple.spelled]

/-- The triple is the first of the text: the text before it is the shortest that a triple comes
after, and its last run is as long as it can be there. -/
structure StandsFirst (text before : List Char) (t : Triple) (after : List Char) : Prop
    extends Stands text before t after where
  shortest : ∀ before' t' after', Stands text before' t' after' → before.length ≤ before'.length
  longest : ∀ t' after', Stands text before t' after' → t'.patch.length ≤ t.patch.length

/-- What is read at the start of a text is its first triple. -/
theorem standsFirst_of_tripleAt? (found : tripleAt? text = some t) :
    ∃ after, StandsFirst text [] t after := by
  obtain ⟨runs, after, -, split⟩ := tripleAt?_eq_some_iff.mp found
  refine ⟨after, ⟨runs, split⟩, fun _ _ _ _ => Nat.zero_le _, ?_⟩
  intro t' after' stands
  obtain ⟨more, found'⟩ := stands.exists_tripleAt?
  rw [found] at found'
  cases found'
  simp

/-- Where no triple is read at the first character, what stands in the text stands behind it. -/
theorem Stands.behind {c : Char} (h : Stands (c :: text) before t after)
    (none : tripleAt? (c :: text) = none) : ∃ before', before = c :: before' ∧
      Stands text before' t after := by
  cases before with
  | nil =>
    obtain ⟨more, found⟩ := h.exists_tripleAt?
    rw [none] at found
    cases found
  | cons b before' =>
    obtain ⟨runs, split⟩ := h
    obtain ⟨rfl, split'⟩ := List.cons.inj split
    exact ⟨before', rfl, runs, split'⟩

/-- A character where no triple is read may stand before a text. -/
theorem StandsFirst.cons {c : Char} (h : StandsFirst text before t after)
    (none : tripleAt? (c :: text) = none) : StandsFirst (c :: text) (c :: before) t after := by
  refine ⟨⟨h.runs, by rw [h.split]; rfl⟩, ?_, ?_⟩
  · intro before' t' after' stands
    obtain ⟨before'', rfl, stands'⟩ := stands.behind none
    have := h.shortest before'' t' after' stands'
    simpa using this
  · intro t' after' stands
    obtain ⟨before'', same, stands'⟩ := stands.behind none
    obtain ⟨-, rfl⟩ := List.cons.inj same
    exact h.longest t' after' stands'

theorem firstTriple?_of_tripleAt? (found : tripleAt? text = some t) :
    firstTriple? text = some t := by
  cases text with
  | nil => cases found
  | cons c rest => rw [firstTriple?, found]

theorem firstTriple?_cons {c : Char} (none : tripleAt? (c :: rest) = none) :
    firstTriple? (c :: rest) = firstTriple? rest := by
  rw [firstTriple?, none]

/-- **Reading finds a first triple**, or there is none. -/
theorem firstTriple?_cases (text : List Char) :
    (firstTriple? text = none ∧ ∀ before t after, ¬ Stands text before t after) ∨
      ∃ before t after, firstTriple? text = some t ∧ StandsFirst text before t after := by
  induction text with
  | nil =>
    refine .inl ⟨rfl, ?_⟩
    rintro before t after ⟨-, split⟩
    simp [Triple.spelled] at split
  | cons c rest ih =>
    cases found : tripleAt? (c :: rest) with
    | some t =>
      obtain ⟨after, first⟩ := standsFirst_of_tripleAt? found
      exact .inr ⟨[], t, after, firstTriple?_of_tripleAt? found, first⟩
    | none =>
      rw [firstTriple?_cons found]
      rcases ih with ⟨unread, nowhere⟩ | ⟨before, t, after, read, first⟩
      · refine .inl ⟨unread, fun before t after stands => ?_⟩
        obtain ⟨before', -, stands'⟩ := stands.behind found
        exact nowhere before' t after stands'
      · exact .inr ⟨c :: before, t, after, read, first.cons found⟩

/-- A digit right before the triple would belong to its first run. -/
theorem StandsFirst.noDigitBehind (h : StandsFirst text before t after) :
    ∀ c ∈ before.getLast?, Text.isDigit c = false := by
  intro c mem
  obtain ⟨front, rfl⟩ := List.getLast?_eq_some_iff.mp (Option.mem_def.mp mem)
  refine Bool.eq_false_iff.mpr fun digit => ?_
  have earlier : Stands text front ⟨c :: t.major, t.minor, t.patch⟩ after := by
    refine ⟨⟨⟨by simp, ?_⟩, h.runs.minor, h.runs.patch⟩, by rw [h.split]; simp [Triple.spelled]⟩
    rintro d (_ | ⟨_, mem⟩)
    · exact digit
    · exact h.runs.major.2 d mem
  have := h.shortest front _ after earlier
  rw [List.length_append, List.length_singleton] at this
  omega

/-- A digit right after the triple would belong to its last run. -/
theorem StandsFirst.noDigitAhead (h : StandsFirst text before t after) : NoDigitAhead after := by
  intro c mem
  obtain ⟨rest, rfl⟩ := List.head?_eq_some_iff.mp (Option.mem_def.mp mem)
  refine Bool.eq_false_iff.mpr fun digit => ?_
  have longer : Stands text before ⟨t.major, t.minor, t.patch ++ [c]⟩ rest := by
    refine ⟨⟨h.runs.major, h.runs.minor, by simp, fun d mem => ?_⟩,
      by rw [h.split]; simp [Triple.spelled]⟩
    rcases List.mem_append.mp mem with mem | mem
    · exact h.runs.patch.2 d mem
    · rw [List.mem_singleton.mp mem]
      exact digit
  have := h.longest _ rest longer
  rw [List.length_append, List.length_singleton] at this
  omega

/-- **There is one first triple at most.** -/
theorem StandsFirst.unique {before' after' : List Char} {t' : Triple}
    (h : StandsFirst text before t after) (h' : StandsFirst text before' t' after') :
    before' = before ∧ t' = t ∧ after' = after := by
  have there := h.shortest before' t' after' h'.toStands
  have there' := h'.shortest before t after h.toStands
  obtain ⟨rfl, behind⟩ := List.append_inj (h'.split.symm.trans h.split) (by omega)
  have read := tripleAt?_eq_some_iff.mpr ⟨h.runs, after, h.noDigitAhead, rfl⟩
  have read' := tripleAt?_eq_some_iff.mpr ⟨h'.runs, after', h'.noDigitAhead, rfl⟩
  rw [behind, read] at read'
  obtain rfl := Option.some.inj read'
  exact ⟨rfl, rfl, List.append_cancel_left behind⟩

theorem firstTriple?_of_standsFirst (h : StandsFirst text before t after) :
    firstTriple? text = some t := by
  rcases firstTriple?_cases text with ⟨-, nowhere⟩ | ⟨before', t', after', read, first⟩
  · exact absurd h.toStands (nowhere before t after)
  · obtain ⟨-, rfl, -⟩ := h.unique first
    exact read

/-! ## Numbers -/

/-- A run writes a number: its digits are ASCII and have the number's value in base ten,
whatever zeros lead them.  A number has sixty-four bits, so a greater value is none. -/
def Writes (run : List Char) (n : UInt64) : Prop :=
  (∀ c ∈ run, '0' ≤ c ∧ c ≤ '9') ∧ Nat.ofDigitChars 10 run 0 = n.toNat

/-- The three runs write three numbers. -/
def Triple.Writes (t : Triple) (major minor patch : UInt64) : Prop :=
  Version.Writes t.major major ∧ Version.Writes t.minor minor ∧ Version.Writes t.patch patch

theorem number?_eq_some_iff {n : UInt64} : number? run = some n ↔ Writes run n := by
  have value : Text.decimalValue 0 run = Nat.ofDigitChars 10 run 0 := rfl
  have ascii : run.all Text.isAsciiDigit = true ↔ ∀ c ∈ run, '0' ≤ c ∧ c ≤ '9' := by
    simp [Text.isAsciiDigit]
  rw [number?, value, Writes, ← ascii]
  constructor
  · intro found
    split at found
    · rename_i fits
      obtain ⟨all, small⟩ := Bool.and_eq_true_iff.mp fits
      obtain rfl := Option.some.inj found
      exact ⟨all, (UInt64.toNat_ofNat_of_lt' (of_decide_eq_true small)).symm⟩
    · cases found
  · rintro ⟨all, same⟩
    have small : n.toNat < UInt64.size := n.toNat_lt
    simp only [same, all, small, decide_true, Bool.and_self, if_true, UInt64.ofNat_toNat]

/-! ## What is read -/

variable {input codeName : String}

theorem parse_of_no_triple (nowhere : ∀ before t after, ¬ Stands input.toList before t after) :
    parse input codeName = fallback := by
  rcases firstTriple?_cases input.toList with ⟨unread, -⟩ | ⟨before, t, after, -, first⟩
  · rw [parse, read, unread]
  · exact absurd first.toStands (nowhere before t after)

theorem parse_of_writes {major minor patch : UInt64}
    (first : StandsFirst input.toList before t after) (writes : t.Writes major minor patch) :
    parse input codeName = ofNumbers major minor patch codeName := by
  obtain ⟨isMajor, isMinor, isPatch⟩ := writes
  rw [parse, read, firstTriple?_of_standsFirst first]
  simp only [number?_eq_some_iff.mpr isMajor, number?_eq_some_iff.mpr isMinor,
    number?_eq_some_iff.mpr isPatch]

theorem parse_of_not_writes (first : StandsFirst input.toList before t after)
    (unwritten : ∀ major minor patch, ¬ t.Writes major minor patch) :
    parse input codeName = fallback := by
  have unread : read input codeName = .error .outOfRange := by
    rw [read, firstTriple?_of_standsFirst first]
    dsimp only
    split
    · rename_i major minor patch isMajor isMinor isPatch
      exact absurd ⟨number?_eq_some_iff.mp isMajor, number?_eq_some_iff.mp isMinor,
        number?_eq_some_iff.mp isPatch⟩ (unwritten major minor patch)
    · rfl
  rw [parse, unread]

/-- What a version is read from, and what is read. -/
theorem parse_cases (input codeName : String) :
    ((∀ before t after, ¬ Stands input.toList before t after) ∧
      parse input codeName = fallback) ∨
    ∃ before t after, StandsFirst input.toList before t after ∧
      ((∃ major minor patch, t.Writes major minor patch ∧
          parse input codeName = ofNumbers major minor patch codeName) ∨
        ((∀ major minor patch, ¬ t.Writes major minor patch) ∧
          parse input codeName = fallback)) := by
  rcases firstTriple?_cases input.toList with ⟨-, nowhere⟩ | ⟨before, t, after, -, first⟩
  · exact .inl ⟨nowhere, parse_of_no_triple nowhere⟩
  · refine .inr ⟨before, t, after, first, ?_⟩
    by_cases written : ∃ major minor patch, t.Writes major minor patch
    · obtain ⟨major, minor, patch, writes⟩ := written
      exact .inl ⟨major, minor, patch, writes, parse_of_writes first writes⟩
    · have unwritten : ∀ major minor patch, ¬ t.Writes major minor patch :=
        fun major minor patch writes => written ⟨major, minor, patch, writes⟩
      exact .inr ⟨unwritten, parse_of_not_writes first unwritten⟩

/-- **A version is read from the first triple of the text.**  Without a triple of digit runs in
the text, the version is the fallback.  Else there is exactly one first triple; its first run
starts where the digits there start.  If its three runs write numbers, these are the version's
and it has the code name; if one of them does not, because it has digits of another script or
a value over sixty-four bits, the version is the fallback, whatever follows in the text. -/
theorem parse_reads_first_triple (input codeName : String) :
    ((∀ before t after, ¬ Stands input.toList before t after) ∧
      parse input codeName = fallback) ∨
    ∃ before t after, StandsFirst input.toList before t after ∧
      (∀ before' t' after', StandsFirst input.toList before' t' after' →
        before' = before ∧ t' = t ∧ after' = after) ∧
      (∀ c ∈ before.getLast?, Text.isDigit c = false) ∧
      ((∃ major minor patch, t.Writes major minor patch ∧
          parse input codeName = ofNumbers major minor patch codeName) ∨
        ((∀ major minor patch, ¬ t.Writes major minor patch) ∧
          parse input codeName = fallback)) := by
  rcases parse_cases input codeName with nowhere | ⟨before, t, after, first, result⟩
  · exact .inl nowhere
  · exact .inr ⟨before, t, after, first, fun _ _ _ => first.unique, first.noDigitBehind, result⟩

/-- A triple out of range is not passed over for the next one. -/
example : parse "18446744073709551616.0.0 or 1.2.3" "x" = fallback := by decide +kernel

end ReleaseBundle.Version
