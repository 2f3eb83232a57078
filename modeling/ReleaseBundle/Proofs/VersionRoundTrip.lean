import ReleaseBundle.Proofs.FirstTriple

/-!
# Reading a version back

The text of a version writes its three numbers.  In a longer text it is the first triple as
long as no digit stands before it and none right after it; dots, brackets and whatever the
code name holds may follow (`standsFirst_dotted`).  So a version is read back from its text and
from the text that messages show, and what has been read once is read the same from its own
text (`parse_reads_back`).
-/

namespace ReleaseBundle.Version

/-! ## Decimal numbers -/

theorem ascii_of_mem_toDigits {n : Nat} {c : Char} (mem : c ∈ Nat.toDigits 10 n) :
    '0' ≤ c ∧ c ≤ '9' := by
  have digit := Nat.isDigit_of_mem_toDigits (by decide) (by decide) mem
  simp only [Char.isDigit, Bool.and_eq_true, decide_eq_true_eq] at digit
  exact digit

/-- The decimal digits of a number write it. -/
theorem writes_toDigits (n : UInt64) : Writes (Nat.toDigits 10 n.toNat) n :=
  ⟨fun _ => ascii_of_mem_toDigits, Nat.ofDigitChars_ten_toDigits⟩

theorem isRun_toDigits (n : Nat) : IsRun (Nat.toDigits 10 n) := by
  refine ⟨Nat.toDigits_ne_nil, fun c mem => Text.isDigit_of_ascii ?_⟩
  simpa [Text.isAsciiDigit] using ascii_of_mem_toDigits mem

/-! ## The dotted text -/

theorem tripleAt?_of_not_digit {c : Char} {rest : List Char} (h : Text.isDigit c = false) :
    tripleAt? (c :: rest) = none := by
  rw [tripleAt?, digitRun?, List.takeWhile_cons_of_neg (by simp [h])]
  rfl

/-- The triple of the decimal digits of three numbers. -/
def Triple.ofNumbers (major minor patch : UInt64) : Triple :=
  ⟨Nat.toDigits 10 major.toNat, Nat.toDigits 10 minor.toNat, Nat.toDigits 10 patch.toNat⟩

variable (major minor patch : UInt64)

theorem Triple.hasRuns_ofNumbers : (Triple.ofNumbers major minor patch).HasRuns :=
  ⟨isRun_toDigits _, isRun_toDigits _, isRun_toDigits _⟩

theorem Triple.writes_ofNumbers :
    (Triple.ofNumbers major minor patch).Writes major minor patch :=
  ⟨writes_toDigits major, writes_toDigits minor, writes_toDigits patch⟩

theorem toList_dotted :
    (dotted major minor patch).toList = (Triple.ofNumbers major minor patch).spelled := by
  simp [dotted, decimal, Triple.ofNumbers, Triple.spelled]

/-- **The text of three numbers is the first triple where no digit stands before it and none
comes right after it.** -/
theorem standsFirst_dotted {before after : List Char}
    (none : ∀ c ∈ before, Text.isDigit c = false) (stop : NoDigitAhead after) :
    StandsFirst (before ++ ((dotted major minor patch).toList ++ after)) before
      (Triple.ofNumbers major minor patch) after := by
  rw [toList_dotted]
  have read := tripleAt?_eq_some_iff.mpr
    ⟨Triple.hasRuns_ofNumbers major minor patch, after, stop, rfl⟩
  induction before with
  | nil =>
    obtain ⟨after', first⟩ := standsFirst_of_tripleAt? read
    obtain rfl := List.append_cancel_left first.split
    exact first
  | cons c before ih =>
    have behind := ih fun d mem => none d (List.mem_cons_of_mem c mem)
    exact behind.cons (tripleAt?_of_not_digit (none c List.mem_cons_self))

/-! ## Reading back -/

theorem parse_of_dotted (codeName before after : String)
    (none : ∀ c ∈ before.toList, Text.isDigit c = false) (stop : NoDigitAhead after.toList) :
    parse (before ++ dotted major minor patch ++ after) codeName =
      ofNumbers major minor patch codeName := by
  have first := standsFirst_dotted major minor patch none stop
  rw [← List.append_assoc, ← String.toList_append, ← String.toList_append] at first
  exact parse_of_writes first (Triple.writes_ofNumbers major minor patch)

theorem parse_dotted_append (codeName after : String)
    (stop : NoDigitAhead after.toList) :
    parse (dotted major minor patch ++ after) codeName = ofNumbers major minor patch codeName := by
  have := parse_of_dotted major minor patch codeName "" after (by simp) stop
  rwa [String.empty_append] at this

theorem parse_dotted (codeName : String) :
    parse (dotted major minor patch) codeName = ofNumbers major minor patch codeName := by
  have := parse_dotted_append major minor patch codeName "" (by simp [NoDigitAhead])
  rwa [String.append_empty] at this

theorem parse_display (codeName : String) :
    parse (ofNumbers major minor patch codeName).display codeName =
      ofNumbers major minor patch codeName := by
  rw [display]
  split
  · exact parse_dotted major minor patch codeName
  · rw [String.append_assoc, String.append_assoc]
    refine parse_dotted_append major minor patch codeName _ ?_
    -- The code name comes behind a blank and a bracket.
    rw [String.toList_append]
    rintro c ⟨⟩
    decide

/-- Whatever the text, the version has the texts of its own numbers. -/
theorem exists_parse_eq_ofNumbers (input codeName : String) :
    ∃ major minor patch name, parse input codeName = ofNumbers major minor patch name := by
  rcases parse_cases input codeName with
    ⟨-, none⟩ | ⟨-, -, -, -, ⟨major, minor, patch, -, written⟩ | ⟨-, unwritten⟩⟩
  · exact ⟨0, 0, 0, "", none⟩
  · exact ⟨major, minor, patch, codeName, written⟩
  · exact ⟨0, 0, 0, "", unwritten⟩

/-- **A version is read back from what it is shown as.**  The text of three numbers gives the
version of these numbers, whatever stands before it without digits and after it without a
digit right there; so does the text that messages show, whatever the code name holds.  And a
version that was read, from any text, has its numbers in decimal as its texts, and is read
again from them with its code name. -/
theorem parse_reads_back (codeName : String) :
    (∀ (major minor patch : UInt64) (before after : String),
      (∀ c ∈ before.toList, Text.isDigit c = false) →
      (∀ c ∈ after.toList.head?, Text.isDigit c = false) →
        parse (before ++ (ofNumbers major minor patch codeName).full ++ after) codeName =
          ofNumbers major minor patch codeName) ∧
    (∀ major minor patch : UInt64,
      parse (ofNumbers major minor patch codeName).display codeName =
        ofNumbers major minor patch codeName) ∧
    (∀ (input : String) (v : Version), parse input codeName = v →
      v.full = toString v.major.toNat ++ "." ++ toString v.minor.toNat ++ "." ++
        toString v.patch.toNat ∧ v.cdn = v.full ∧ parse v.full v.codeName = v) := by
  refine ⟨fun major minor patch before after none stop =>
    parse_of_dotted major minor patch codeName before after none stop,
    fun major minor patch => parse_display major minor patch codeName, ?_⟩
  rintro input v rfl
  obtain ⟨major, minor, patch, name, isRead⟩ := exists_parse_eq_ofNumbers input codeName
  rw [isRead]
  exact ⟨rfl, rfl, parse_dotted major minor patch name⟩

/-- Neither the pre-release behind the numbers nor the triple behind it is read. -/
theorem parse_reads_back_prerelease :
    (∀ c ∈ "release v".toList, Text.isDigit c = false) ∧
    (∀ c ∈ "-rc.4 after 9.8.7".toList.head?, Text.isDigit c = false) ∧
    parse ("release v" ++ (ofNumbers 1 20 3 "den").full ++ "-rc.4 after 9.8.7") "den" =
      ofNumbers 1 20 3 "den" := by
  have none : ∀ c ∈ "release v".toList, Text.isDigit c = false := by
    have all : "release v".toList.all (fun c => !Text.isDigit c) = true := by decide
    simpa using all
  have stop : ∀ c ∈ "-rc.4 after 9.8.7".toList.head?, Text.isDigit c = false := by
    rintro c ⟨⟩
    decide
  exact ⟨none, stop, (parse_reads_back "den").1 1 20 3 _ _ none stop⟩

end ReleaseBundle.Version
