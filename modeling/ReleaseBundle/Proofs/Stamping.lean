import ReleaseBundle.Placeholder

/-!
# Stamping line by line

A literal with the shape of a placeholder has no line break in it.  So whatever
stands before a line break and after it is read apart (`pieces_append_break`): a
quote or half a name left open at the end of a line finds no continuation in the
next, and a text stamped as a whole is its lines stamped one by one
(`substitute_intercalate`).
-/

namespace ReleaseBundle.Placeholder

theorem char_ne_break (quote : Quote) : quote.char ≠ '\n' := by
  cases quote <;> decide

/-- A start without line breaks is not completed across one. -/
theorem isPrefixOf_append_break {start : List Char} (h : '\n' ∉ start) (before after : List Char) :
    start.isPrefixOf (before ++ '\n' :: after) = start.isPrefixOf before := by
  induction start generalizing before with
  | nil => simp
  | cons c start ih =>
    simp only [List.mem_cons, not_or] at h
    obtain ⟨hc, hs⟩ := h
    cases before with
    | nil => simp [List.isPrefixOf, Ne.symm hc]
    | cons b before => simp [List.isPrefixOf, ih hs]

theorem closed?_append_break (quote : Quote) (capitals before after : List Char) :
    closed? quote capitals (before ++ '\n' :: after) =
      (closed? quote capitals before).map fun (l, rest) => (l, rest ++ '\n' :: after) := by
  cases before with
  | nil => simp [closed?, Ne.symm (char_ne_break quote)]
  | cons c rest =>
    simp only [List.cons_append, closed?]
    split <;> simp

theorem takeWhile_isCapital_append_break (before after : List Char) :
    (before ++ '\n' :: after).takeWhile isCapital = before.takeWhile isCapital := by
  have stop : isCapital '\n' = false := by decide
  rw [List.takeWhile_append]
  split
  · rename_i all
    simpa [stop] using ((List.takeWhile_prefix isCapital).eq_of_length all).symm
  · rfl

theorem dropWhile_isCapital_append_break (before after : List Char) :
    (before ++ '\n' :: after).dropWhile isCapital =
      before.dropWhile isCapital ++ '\n' :: after := by
  have stop : isCapital '\n' = false := by decide
  rw [List.dropWhile_append]
  split
  · rename_i all
    simp [List.isEmpty_iff.mp all, stop]
  · rfl

/-- **No literal spans a line break.** -/
theorem literalAt?_append_break (before after : List Char) :
    literalAt? (before ++ '\n' :: after) =
      (literalAt? before).map fun (l, rest) => (l, rest ++ '\n' :: after) := by
  cases before with
  | nil => rfl
  | cons c rest =>
    simp only [List.cons_append, literalAt?]
    cases Quote.ofChar? c with
    | none => rfl
    | some quote =>
      simp only [isPrefixOf_append_break (show '\n' ∉ nameStart by decide)]
      split
      · rename_i starts
        obtain ⟨tail, rfl⟩ := List.isPrefixOf_iff_prefix.mp starts
        simp only [List.append_assoc, List.drop_left, takeWhile_isCapital_append_break,
          dropWhile_isCapital_append_break, closed?_append_break]
      · rfl

/-- **What a line break divides is read apart.** -/
theorem pieces_append_break (before after : List Char) :
    pieces (before ++ '\n' :: after) = pieces before ++ .plain '\n' :: pieces after := by
  induction h : before.length using Nat.strongRecOn generalizing before with
  | ind n ih =>
    subst h
    have whole := literalAt?_append_break before after
    cases before with
    | nil => simpa using pieces_of_plain whole
    | cons c rest =>
      cases found : literalAt? (c :: rest) with
      | none =>
        rw [found, List.cons_append] at whole
        rw [List.cons_append, pieces_of_plain whole, pieces_of_plain found, ih _ (by simp) _ rfl,
          List.cons_append]
      | some literal =>
        rw [found] at whole
        rw [pieces_of_literal whole, pieces_of_literal found,
          ih _ (length_lt_of_literalAt? found) _ rfl, List.cons_append]

theorem substitute_append_break (v : Version) (before after : String) :
    substitute v (before ++ "\n" ++ after) =
      substitute v before ++ "\n" ++ substitute v after := by
  apply String.toList_inj.mp
  simp [substitute, pieces_append_break, Piece.stamped]

/-- **Stamping lines joined is joining lines stamped.** -/
theorem substitute_intercalate (v : Version) (texts : List String) :
    substitute v ("\n".intercalate texts) = "\n".intercalate (texts.map (substitute v)) := by
  induction texts with
  | nil => simp [substitute]
  | cons text texts ih =>
    cases texts with
    | nil => simp
    | cons next texts =>
      simp only [List.map_cons, String.intercalate_cons_cons] at ih ⊢
      rw [substitute_append_break, ih]

end ReleaseBundle.Placeholder
