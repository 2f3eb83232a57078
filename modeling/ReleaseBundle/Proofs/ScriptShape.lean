import ReleaseBundle.Proofs.Restamping
import ReleaseBundle.Proofs.Stamping

/-!
# The shape of a stamped script

The quotes and line breaks of a text are its **marks**.  A literal that stamping rewrites has
two of them, its own quotes, and if the values of the version have none it has the same two
afterwards (`marks_rewritten`).  So a text keeps its marks, whatever is rewritten in it, and with
them all that hangs on them: how many lines it has, and which quotes belong together.

The same holds of what stands before any place in the text.  A stretch that is not rewritten
therefore stands behind as many line breaks as before, and between the same quotes; and since no
literal has a line break in it, each line is stamped by itself (`stamping_keeps_shape`).
-/

namespace ReleaseBundle.Placeholder

variable {v : Version} {text stamped stretch : List Char} {d front : Division}

/-! ## Marks -/

/-- Whether a character is a quote of either kind or a line break. -/
def isMark (c : Char) : Bool := c = '"' || c = '\'' || c = '\n'

/-- The quotes and line breaks of a text, in order. -/
def marks (text : List Char) : List Char := text.filter isMark

@[simp] theorem marks_append (text more : List Char) :
    marks (text ++ more) = marks text ++ marks more := List.filter_append text more

/-- A text without quotes and line breaks. -/
def Markless (text : List Char) : Prop := ∀ c ∈ text, isMark c = false

instance (text : List Char) : Decidable (Markless text) :=
  List.decidableBAll (fun c => isMark c = false) text

theorem marks_eq_nil_iff : marks text = [] ↔ Markless text := by
  rw [marks, List.filter_eq_nil_iff]
  simp [Markless]

/-- A text has the line breaks that are among its marks. -/
theorem break_mem_marks_iff : '\n' ∈ marks text ↔ '\n' ∈ text := by
  rw [marks, List.mem_filter]
  exact and_iff_left (by decide)

/-- A version whose texts have neither quotes nor line breaks. -/
structure MarklessVersion (v : Version) : Prop where
  full : Markless v.full.toList
  cdn : Markless v.cdn.toList
  codeName : Markless v.codeName.toList

theorem markless_decimal (n : UInt64) : Markless (Version.decimal n).toList := by
  intro c mem
  rw [Version.decimal, String.toList_ofList] at mem
  obtain ⟨low, high⟩ := Version.ascii_of_mem_toDigits mem
  refine Bool.eq_false_iff.mpr fun mark => ?_
  -- No mark is a digit.
  simp only [isMark, Bool.or_eq_true, decide_eq_true_eq] at mark
  rcases mark with (rfl | rfl) | rfl <;> revert low high <;> decide

theorem MarklessVersion.value (markless : MarklessVersion v) (token : Token) :
    Markless (token.value v).toList := by
  cases token with
  | full => exact markless.full
  | major => exact markless_decimal v.major
  | minor => exact markless_decimal v.minor
  | dot => exact markless_decimal v.patch
  | cdn => exact markless.cdn
  | codeName => exact markless.codeName

/-! ## Rewritten literals -/

/-- What stands in quotes and has no marks leaves the quotes as the only ones. -/
theorem marks_quoted (quote : Quote) {content : List Char} (markless : Markless content) :
    marks (quote.char :: content ++ [quote.char]) = [quote.char, quote.char] := by
  have mark : isMark quote.char = true := by cases quote <;> rfl
  have inside : marks content = [] := marks_eq_nil_iff.mpr markless
  rw [marks, List.filter_append, List.filter_cons_of_pos mark, List.filter_cons_of_pos mark]
  exact congrArg (fun rest => quote.char :: (rest ++ [quote.char])) inside

/-- **A literal keeps its marks** when it is rewritten. -/
theorem marks_rewritten (markless : MarklessVersion v) (l : Literal) :
    marks (l.rewritten v) = marks l.spelled := by
  rw [Literal.rewritten, lookup_valuesByName]
  cases known : Token.ofName? l.name with
  | none => rfl
  | some token =>
    have name : Markless l.name := by
      rw [← Token.name_of_ofName? known]
      cases token <;> decide
    rw [Literal.spelled, marks_quoted l.quote name]
    exact marks_quoted l.quote (markless.value token)

namespace Division

/-- What is written has the marks of what is divided, if each literal has. -/
theorem marks_write {r : Literal → List Char} (same : ∀ l, marks (r l) = marks l.spelled)
    (d : Division) : marks (d.write r) = marks d.spelled := by
  obtain ⟨parts, last⟩ := d
  induction parts with
  | nil => rfl
  | cons part parts ih =>
    obtain ⟨before, l⟩ := part
    have step := fun r => congrArg marks (write_literal r before l ⟨parts, last⟩)
    rw [spelled, step, step, marks_append, marks_append, same, marks_append, marks_append, ih,
      spelled]

/-- The stretches of a division that a version leaves alone, each with what is divided before
it: what stands before a literal, a literal whose name is not known, and what stands behind the
last literal. -/
inductive Untouched (v : Version) (d : Division) : Division → List Char → Prop
  | before {parts more : List (List Char × Literal)} {before : List Char} {l : Literal}
      (split : d.parts = parts ++ (before, l) :: more) : Untouched v d ⟨parts, []⟩ before
  | literal {parts more : List (List Char × Literal)} {before : List Char} {l : Literal}
      (split : d.parts = parts ++ (before, l) :: more)
      (unknown : (valuesByName v).lookup (String.ofList l.name) = none) :
      Untouched v d ⟨parts, before⟩ l.spelled
  | last : Untouched v d ⟨d.parts, []⟩ d.last

theorem write_split {parts more : List (List Char × Literal)} {before : List Char} {l : Literal}
    (split : d.parts = parts ++ (before, l) :: more) (r : Literal → List Char) :
    d.write r = write r ⟨parts, []⟩ ++ (before ++ (r l ++ write r ⟨more, d.last⟩)) := by
  simp [write, split]

/-- **An untouched stretch** stands in what is written behind what is written before it. -/
theorem Untouched.exists_rest (untouched : d.Untouched v front stretch)
    {r : Literal → List Char}
    (kept : ∀ l, (valuesByName v).lookup (String.ofList l.name) = none → r l = l.spelled) :
    ∃ rest, d.write r = front.write r ++ stretch ++ rest := by
  cases untouched with
  | before split => exact ⟨_, by rw [write_split split r, List.append_assoc]⟩
  | @literal parts more before l split unknown =>
    refine ⟨write r ⟨more, d.last⟩, ?_⟩
    rw [write_split split r, kept l unknown]
    simp [write]
  | last => exact ⟨[], by simp [write]⟩

end Division

/-! ## Lines -/

theorem stamp_eq_write (v : Version) (text : List Char) :
    stamp v text = (divide (pieces text)).write (Literal.rewritten v) := by
  rw [write_divide, ← stamped_eq_write]
  rfl

/-- **A text keeps its marks** when it is stamped. -/
theorem marks_stamp (markless : MarklessVersion v) (text : List Char) :
    marks (stamp v text) = marks text := by
  rw [stamp_eq_write, Division.marks_write (marks_rewritten markless), spelled_divide]

theorem stamp_append_break (v : Version) (line rest : List Char) :
    stamp v (line ++ '\n' :: rest) = stamp v line ++ '\n' :: stamp v rest := by
  rw [stamp, pieces_append_break, List.flatMap_append, List.flatMap_cons]
  rfl

/-- Lines joined and stamped are the lines stamped and joined. -/
theorem stamp_lines (v : Version) (lines : List (List Char)) :
    stamp v (['\n'].intercalate lines) = ['\n'].intercalate (lines.map (stamp v)) := by
  induction lines with
  | nil => exact stamp_nil
  | cons line lines ih =>
    cases lines with
    | nil => simp
    | cons next lines =>
      rw [List.map_cons] at ih
      rw [List.intercalate_cons_cons, List.map_cons, List.map_cons, List.intercalate_cons_cons,
        ← ih, List.append_assoc, List.singleton_append, stamp_append_break, List.append_assoc,
        List.singleton_append]

/-- No line has a line break in it. -/
theorem break_not_mem_of_mem_splitOn (text : List Char) :
    ∀ line ∈ text.splitOn '\n', '\n' ∉ line := by
  induction text with
  | nil =>
    intro line mem
    obtain rfl := List.mem_singleton.mp mem
    exact List.not_mem_nil
  | cons c text ih =>
    intro line mem
    rw [List.splitOn_cons_eq_if_modifyHead] at mem
    split at mem
    next =>
      obtain rfl | mem := List.mem_cons.mp mem
      · exact List.not_mem_nil
      · exact ih line mem
    next other =>
      obtain ⟨first, more, lines⟩ := List.exists_cons_of_ne_nil (List.splitOn_ne_nil '\n' text)
      rw [lines] at ih mem
      obtain rfl | mem := List.mem_cons.mp mem
      · rw [List.mem_cons]
        rintro (rfl | mem)
        · exact other (beq_self_eq_true _)
        · exact ih first List.mem_cons_self mem
      · exact ih line (List.mem_cons_of_mem first mem)

/-- **Each line is stamped by itself**, and none is added or lost. -/
theorem splitOn_stamp (markless : MarklessVersion v) (text : List Char) :
    (stamp v text).splitOn '\n' = (text.splitOn '\n').map (stamp v) := by
  have joined : ['\n'].intercalate (text.splitOn '\n') = text := List.intercalate_splitOn '\n'
  have whole : ∀ line ∈ (text.splitOn '\n').map (stamp v), '\n' ∉ line := by
    intro line mem
    obtain ⟨line, among, rfl⟩ := List.mem_map.mp mem
    rw [← break_mem_marks_iff, marks_stamp markless, break_mem_marks_iff]
    exact break_not_mem_of_mem_splitOn text line among
  have some_line : (text.splitOn '\n').map (stamp v) ≠ [] := by
    simp
  rw [← List.splitOn_intercalate '\n' whole some_line, ← stamp_lines, joined]

/-! ## Pairs of quotes -/

/-- The pairs of quotes in a text, by their numbers among its marks.  A quote that stands in no
string opens one; the next quote of its kind closes it, unless the line ends before.  The string
that has been opened, if any, is given by its quote and the number of this quote. -/
def quotePairsFrom (opened? : Option (Char × Nat)) (number : Nat) : List Char → List (Nat × Nat)
  | [] => []
  | c :: rest =>
    if isMark c then
      match opened? with
      | none => quotePairsFrom (if c = '\n' then none else some (c, number)) (number + 1) rest
      | some (quote, first) =>
        if c = quote then (first, number) :: quotePairsFrom none (number + 1) rest
        else quotePairsFrom (if c = '\n' then none else some (quote, first)) (number + 1) rest
    else quotePairsFrom opened? number rest

/-- The pairs of quotes in a text. -/
def quotePairs (text : List Char) : List (Nat × Nat) := quotePairsFrom none 0 text

/-- Pairs of quotes can be told from the marks alone. -/
theorem quotePairsFrom_marks (opened? : Option (Char × Nat)) (number : Nat) (text : List Char) :
    quotePairsFrom opened? number (marks text) = quotePairsFrom opened? number text := by
  induction text generalizing opened? number with
  | nil => rfl
  | cons c text ih =>
    cases mark : isMark c with
    | false =>
      have skipped : marks (c :: text) = marks text := List.filter_cons_of_neg (by simp [mark])
      rw [skipped, ih]
      simp only [quotePairsFrom, mark, Bool.false_eq_true, if_false]
    | true =>
      have told : marks (c :: text) = c :: marks text := List.filter_cons_of_pos mark
      rw [told]
      simp only [quotePairsFrom, mark, if_true, ih]

theorem quotePairs_eq_of_marks_eq (same : marks stamped = marks text) :
    quotePairs stamped = quotePairs text := by
  rw [quotePairs, quotePairs, ← quotePairsFrom_marks none 0 stamped, same, quotePairsFrom_marks]

/-! ## The shape of a text -/

/-- What a text and the stamped text have in common: their quotes and line breaks, and all that
is not rewritten, where it is. -/
structure SameShape (v : Version) (text stamped : List Char) : Prop where
  marks : marks stamped = marks text
  quotePairs : quotePairs stamped = quotePairs text
  lineCount : (stamped.splitOn '\n').length = (text.splitOn '\n').length
  /-- Each line is divided by its literals as before, and these alone are rewritten. -/
  lines : ∃ divisions : List Division, (∀ d ∈ divisions, d.Leftmost) ∧
    text.splitOn '\n' = divisions.map Division.spelled ∧
      stamped.splitOn '\n' = divisions.map (Division.write (Literal.rewritten v))
  /-- What is untouched stands behind the same quotes and line breaks. -/
  untouched : ∃ d : Division, d.Leftmost ∧ d.spelled = text ∧ ∀ front stretch,
    d.Untouched v front stretch → ∃ rest rest',
      text = front.spelled ++ stretch ++ rest ∧
        stamped = front.write (Literal.rewritten v) ++ stretch ++ rest' ∧
          Placeholder.marks (front.write (Literal.rewritten v)) = Placeholder.marks front.spelled

/-- **Stamping keeps the shape of a script**: if the values of the version have neither quotes
nor line breaks, then these are the same in the stamped text, in the same order, so quotes pair
as they did.  Lines stay lines, and in each of them the literals with a known name are rewritten
and all else stays as it is and in its order.  What stays has the same quotes and line breaks
before it, whatever is rewritten there. -/
theorem stamping_keeps_shape (v : Version) (text : String) (markless : MarklessVersion v) :
    SameShape v text.toList (substitute v text).toList := by
  have same := marks_stamp markless text.toList
  have lines := splitOn_stamp markless text.toList
  rw [toList_substitute]
  refine ⟨same, quotePairs_eq_of_marks_eq same, by rw [lines, List.length_map], ?_, ?_⟩
  · refine ⟨(text.toList.splitOn '\n').map fun line => divide (pieces line), ?_, ?_, ?_⟩
    · intro d mem
      obtain ⟨line, -, rfl⟩ := List.mem_map.mp mem
      exact leftmost_divide line
    · rw [List.map_map]
      exact (List.map_id'' spelled_divide _).symm
    · rw [lines, List.map_map]
      exact List.map_congr_left fun line _ => stamp_eq_write v line
  · refine ⟨divide (pieces text.toList), leftmost_divide _, spelled_divide _, ?_⟩
    intro front stretch untouched
    obtain ⟨rest, spelled⟩ := untouched.exists_rest (r := Literal.spelled) fun _ _ => rfl
    obtain ⟨rest', written⟩ := untouched.exists_rest (r := Literal.rewritten v) fun l unknown => by
      rw [Literal.rewritten, unknown]
    refine ⟨rest, rest', ?_, ?_, Division.marks_write (marks_rewritten markless) front⟩
    · rw [← spelled_divide text.toList]
      exact spelled
    · rw [stamp_eq_write, written]

namespace Sample

/-- Two lines with quotes in quotes, a known name among them, and a name that is not known. -/
def nested : String := "say('is it \"NG_VERSION_CODENAME\"?');\nask(\"NG_VERSION_WHO\", '\"');"

theorem marklessVersion_zen : MarklessVersion (.ofNumbers 1 8 3 "zen") where
  full := by decide
  cdn := by decide
  codeName := by decide

theorem stamping_keeps_shape_nested :
    MarklessVersion (.ofNumbers 1 8 3 "zen") ∧
      SameShape (.ofNumbers 1 8 3 "zen") nested.toList
        (substitute (.ofNumbers 1 8 3 "zen") nested).toList :=
  ⟨marklessVersion_zen, stamping_keeps_shape (.ofNumbers 1 8 3 "zen") nested marklessVersion_zen⟩

end Sample

end ReleaseBundle.Placeholder
