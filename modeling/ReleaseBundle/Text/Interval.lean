import ReleaseBundle.Text.Run

/-!
# Intervals of code points

A set of characters is written in one way only as a list of **intervals**: in their
order, with a gap between any two, and without the surrogates, which are no
characters.  `normalize` brings a list into order and joins what overlaps or touches,
and `compl` gives the characters that are left.  Main statements: the first changes
nothing about which code points are covered (`covers_normalize`), and the second
covers just the characters that the list does not (`covers_compl`).
-/

namespace ReleaseBundle.Text

/-- The code points from `first` to `last`. -/
structure Interval where
  first : Nat
  last : Nat
deriving DecidableEq, Repr

namespace Interval

/-- Whether a code point is one of an interval. -/
def has (i : Interval) (n : Nat) : Bool := i.first ≤ n && n ≤ i.last

/-- Whether a code point is one of some intervals. -/
def covers (set : List Interval) (n : Nat) : Bool := set.any (·.has n)

/-- The interval of one code point. -/
def single (n : Nat) : Interval := ⟨n, n⟩

/-- Joins an interval with those of a list, in the order of their starts, that it
overlaps or touches. -/
def join (present : Interval) : List Interval → List Interval
  | [] => [present]
  | next :: rest =>
    if next.first ≤ present.last + 1 then
      join ⟨present.first, max present.last next.last⟩ rest
    else present :: join next rest

/-- A list in order, without overlaps. -/
def normalize (set : List Interval) : List Interval :=
  match set.mergeSort fun i j => i.first ≤ j.first with
  | [] => []
  | i :: rest => join i rest

/-- The last code point. -/
def lastCode : Nat := 0x10FFFF

/-- The surrogates, which are no characters. -/
def surrogates : Interval := ⟨0xD800, 0xDFFF⟩

/-- The code points from `next` on that a list in order does not cover. -/
def gaps (next : Nat) : List Interval → List Interval
  | [] => if next ≤ lastCode then [⟨next, lastCode⟩] else []
  | i :: rest =>
    if next < i.first then ⟨next, i.first - 1⟩ :: gaps (max next (i.last + 1)) rest
    else gaps (max next (i.last + 1)) rest

/-- The characters that a list does not cover. -/
def compl (set : List Interval) : List Interval := gaps 0 (normalize (surrogates :: set))

/-- What two lists both cover. -/
def inter (a b : List Interval) : List Interval := compl (compl a ++ compl b)

/-- What the first of two lists alone covers. -/
def diff (a b : List Interval) : List Interval := compl (compl a ++ b)

/-- The characters between two code points. -/
def between (first last : Nat) : List Interval :=
  [⟨first, min last (surrogates.first - 1)⟩, ⟨max first (surrogates.last + 1), last⟩].filter
    fun i => i.first ≤ i.last

/-- The intervals of a run. -/
def ofRun (run : Run) : List Interval :=
  if run.step = 1 then between run.first run.last
  else
    let count := (run.last + run.step - run.first) / run.step
    (List.range' run.first count run.step).map single

/-! ## What is covered -/

/-- The lists that are in the order of their starts. -/
def Ordered (set : List Interval) : Prop := set.Pairwise fun i j => i.first ≤ j.first

theorem covers_cons (i : Interval) (set : List Interval) (n : Nat) :
    covers (i :: set) n = (i.has n || covers set n) := by
  simp [covers]

theorem covers_append (a b : List Interval) (n : Nat) :
    covers (a ++ b) n = (covers a n || covers b n) := by
  simp [covers]

/-- Two intervals of which the second starts in the first, or right behind it, cover
what reaches from the start of the first to the later end. -/
theorem has_max {i j : Interval} (start : i.first ≤ j.first) (touching : j.first ≤ i.last + 1)
    (n : Nat) : (Interval.mk i.first (max i.last j.last)).has n = (i.has n || j.has n) := by
  rw [Bool.eq_iff_iff]
  simp only [has, Bool.and_eq_true, decide_eq_true_eq, Bool.or_eq_true]
  omega

/-- Joining changes nothing about what is covered. -/
theorem covers_join {present : Interval} {rest : List Interval} {n : Nat}
    (ordered : Ordered (present :: rest)) :
    covers (join present rest) n = covers (present :: rest) n := by
  induction rest generalizing present with
  | nil => rfl
  | cons next rest ih =>
    have ⟨below, tail⟩ := List.pairwise_cons.mp ordered
    unfold join
    split
    · next touching =>
      rw [ih]
      · rw [covers_cons, has_max (below next List.mem_cons_self) touching, covers_cons, covers_cons,
          Bool.or_assoc]
      · exact List.pairwise_cons.mpr
          ⟨fun i member => below i (List.mem_cons_of_mem _ member), tail.of_cons⟩
    · rw [covers_cons, ih tail, ← covers_cons]

/-- A list in order covers what it covered before. -/
theorem covers_normalize (set : List Interval) (n : Nat) :
    covers (normalize set) n = covers set n := by
  have ordered : Ordered (set.mergeSort fun i j => i.first ≤ j.first) :=
    (List.pairwise_mergeSort (by simp; omega) (by simp; omega) set).imp (by simp)
  have same : covers (set.mergeSort fun i j => i.first ≤ j.first) n = covers set n := by
    rw [Bool.eq_iff_iff]
    simp [covers, (List.mergeSort_perm set _).mem_iff]
  unfold normalize
  split
  · next sorted => rw [← same, sorted]
  · next sorted =>
    rw [sorted] at ordered same
    rw [covers_join ordered, same]

/-- The gaps of a list in order cover what it does not. -/
theorem covers_gaps {set : List Interval} (ordered : Ordered set) {n : Nat} (bound : n ≤ lastCode)
    (next : Nat) : covers (gaps next set) n = (next ≤ n && !covers set n) := by
  induction set generalizing next with
  | nil =>
    by_cases h : next ≤ lastCode
    · simp [gaps, h, covers, has, bound]
    · have : ¬next ≤ n := by omega
      simp [gaps, h, covers, this]
  | cons i rest ih =>
    have ⟨below, tail⟩ := List.pairwise_cons.mp ordered
    have away (before : n < i.first) : covers rest n = false := by
      simp only [covers, List.any_eq_false]
      intro j member
      have := below j member
      simp only [has, Bool.and_eq_true, decide_eq_true_eq]
      omega
    unfold gaps
    split
    · rw [covers_cons, ih tail, covers_cons, Bool.eq_iff_iff]
      by_cases before : n < i.first
      · simp only [away before, has, Bool.not_false, Bool.and_true, Bool.or_eq_true,
          Bool.and_eq_true, decide_eq_true_eq, Bool.not_eq_eq_eq_not, Bool.not_true,
          Bool.or_false, Bool.and_eq_false_imp, decide_eq_false_iff_not]
        omega
      · cases covers rest n <;>
          simp only [has, Bool.not_false, Bool.not_true, Bool.and_true, Bool.and_false,
            Bool.or_false, Bool.or_true, Bool.or_eq_true, Bool.and_eq_true, decide_eq_true_eq,
            Bool.not_eq_eq_eq_not, Bool.and_eq_false_imp, decide_eq_false_iff_not,
            Bool.false_eq_true, iff_false] <;> omega
    · rw [ih tail, covers_cons, Bool.eq_iff_iff]
      cases covers rest n with
      | false =>
        simp only [has, Bool.not_false, Bool.and_true, Bool.or_false, Bool.and_eq_true,
          decide_eq_true_eq, Bool.not_eq_eq_eq_not, Bool.not_true, Bool.and_eq_false_imp,
          decide_eq_false_iff_not]
        omega
      | true => simp only [Bool.not_true, Bool.and_false, Bool.or_true]

/-- No interval starts before the one that joining began with. -/
theorem first_le_of_mem_join {present i : Interval} {rest : List Interval}
    (h : i ∈ join present rest) (ordered : Ordered (present :: rest)) :
    present.first ≤ i.first := by
  induction rest generalizing present with
  | nil =>
    rw [join, List.mem_singleton] at h
    exact h ▸ Nat.le_refl _
  | cons next rest ih =>
    have ⟨below, tail⟩ := List.pairwise_cons.mp ordered
    unfold join at h
    split at h
    · have start := ih h (List.pairwise_cons.mpr
        ⟨fun j member => below j (List.mem_cons_of_mem _ member), tail.of_cons⟩)
      exact start
    · rcases List.mem_cons.mp h with rfl | member
      · exact Nat.le_refl _
      · exact Nat.le_trans (below next List.mem_cons_self) (ih member tail)

theorem ordered_join {present : Interval} {rest : List Interval}
    (ordered : Ordered (present :: rest)) : Ordered (join present rest) := by
  induction rest generalizing present with
  | nil => exact List.pairwise_singleton _ _
  | cons next rest ih =>
    have ⟨below, tail⟩ := List.pairwise_cons.mp ordered
    unfold join
    split
    · exact ih (List.pairwise_cons.mpr
        ⟨fun j member => below j (List.mem_cons_of_mem _ member), tail.of_cons⟩)
    · exact List.pairwise_cons.mpr ⟨fun j member => Nat.le_trans
        (below next List.mem_cons_self) (first_le_of_mem_join member tail), ih tail⟩

/-- A list is in order behind `normalize`. -/
theorem ordered_normalize (set : List Interval) : Ordered (normalize set) := by
  have ordered : Ordered (set.mergeSort fun i j => i.first ≤ j.first) :=
    (List.pairwise_mergeSort (by simp; omega) (by simp; omega) set).imp (by simp)
  unfold normalize
  split
  · exact List.Pairwise.nil
  · next sorted =>
    rw [sorted] at ordered
    exact ordered_join ordered

/-- The complement of a list covers the characters that the list does not. -/
theorem covers_compl (set : List Interval) (c : Char) :
    covers (compl set) c.toNat = !covers set c.toNat := by
  have ⟨bound, character⟩ : c.toNat ≤ lastCode ∧ surrogates.has c.toNat = false := by
    have valid : c.toNat < 0xD800 ∨ 0xDFFF < c.toNat ∧ c.toNat < 0x110000 := c.valid
    refine ⟨?_, Bool.eq_false_iff.mpr fun inside => ?_⟩
    · simp only [lastCode]
      omega
    · have := Bool.and_eq_true_iff.mp inside
      have low : 0xD800 ≤ c.toNat := of_decide_eq_true this.1
      have high : c.toNat ≤ 0xDFFF := of_decide_eq_true this.2
      omega
  rw [compl, covers_gaps (ordered_normalize _) bound, covers_normalize, covers_cons, character]
  simp

theorem covers_inter (a b : List Interval) (c : Char) :
    covers (inter a b) c.toNat = (covers a c.toNat && covers b c.toNat) := by
  simp [inter, covers_compl, covers_append]

theorem covers_diff (a b : List Interval) (c : Char) :
    covers (diff a b) c.toNat = (covers a c.toNat && !covers b c.toNat) := by
  simp [diff, covers_compl, covers_append]

theorem covers_between (first last : Nat) (c : Char) :
    covers (between first last) c.toNat = (first ≤ c.toNat && c.toNat ≤ last) := by
  have := c.valid
  simp only [UInt32.isValidChar, Nat.isValidChar] at this
  rw [Bool.eq_iff_iff]
  simp only [between, surrogates, covers, List.any_filter, List.any_cons, List.any_nil, has,
    Bool.or_false, Bool.or_eq_true, Bool.and_eq_true, decide_eq_true_eq, Char.toNat]
  omega

/-- The intervals of a run cover what the run holds. -/
theorem covers_ofRun {run : Run} (step : 0 < run.step) (c : Char) :
    covers (ofRun run) c.toNat = run.has c := by
  unfold ofRun
  split
  · next one => simp [covers_between, Run.has, one, Nat.mod_one]
  · rw [Bool.eq_iff_iff]
    simp only [covers, List.any_map, List.any_eq_true, List.mem_range', Function.comp_apply, single,
      has, Run.has, Bool.and_eq_true, decide_eq_true_eq, beq_iff_eq]
    constructor
    · rintro ⟨_, ⟨i, below, rfl⟩, low, high⟩
      have reached : c.toNat = run.first + run.step * i :=
        Nat.le_antisymm (of_decide_eq_true high) (of_decide_eq_true low)
      have inside := (Nat.lt_div_iff_mul_lt step).mp below
      rw [reached, Nat.add_sub_cancel_left, Nat.mul_mod_right]
      rw [Nat.mul_comm] at inside
      omega
    · rintro ⟨⟨low, high⟩, even⟩
      have whole := Nat.div_add_mod (c.toNat - run.first) run.step
      have reached : c.toNat = run.first + run.step * ((c.toNat - run.first) / run.step) := by omega
      refine ⟨c.toNat, ⟨(c.toNat - run.first) / run.step, ?_, reached⟩, by simp, by simp⟩
      rw [Nat.lt_div_iff_mul_lt step, Nat.mul_comm]
      omega

end Interval

end ReleaseBundle.Text
