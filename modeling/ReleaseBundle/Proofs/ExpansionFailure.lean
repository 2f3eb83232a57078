import Mathlib.Data.List.Chain
import ReleaseBundle.Proofs.Resolution

/-!
# Why a group does not expand

Expanding a group follows the first reference from the left that does not expand, from
there the first one again, and so on: a group **turns** to a name if every reference before
it expands (`Manifest.Turns`).  The turns go from the group asked for through groups that
are all different, and they end in a name that nobody defines or in one of these groups
again.  In the first case the name is told, in the second the whole way.

Expanding is stuck in one way only, so the way that is found is the only one there is
(`Manifest.Stuck.unique`).  That rests on what keeps an expansion apart from the groups
under way: each of these refers, by way of the others, to the present one, so an expansion
that met one of them would lie on a cycle (`Manifest.Stuck.not_expands`).
-/

namespace ReleaseBundle.Manifest

variable {m : Manifest} {module group name last : String} {chain outer : List String}
  {e e' : BuildError}

/-! ## Stuck in one way -/

/-- Every group of a chain refers, through others or not, to a group. -/
def Under (m : Manifest) (chain : List String) (group : String) : Prop :=
  ∀ outer ∈ chain, Relation.TransGen m.Refers outer group

theorem under_nil (m : Manifest) (group : String) : m.Under [] group := by
  simp [Under]

/-- A group that is taken on the chain refers to the next one. -/
theorem Under.concat (under : m.Under chain group) (refers : m.Refers group name) :
    m.Under (chain ++ [group]) name := by
  intro outer mem
  rcases List.mem_append.mp mem with earlier | here
  · exact (under outer earlier).tail refers
  · obtain rfl := List.mem_singleton.mp here
    exact .single refers

/-- What is stuck does not expand. -/
theorem Stuck.not_expands (h : m.Stuck module chain group e) (under : m.Under chain group)
    (files : List String) : ¬ m.Expands group files := by
  intro expands
  have alone : ∀ outer ∈ chain,
      outer ∈ ([] : List String) ∨ Relation.TransGen m.Refers outer group :=
    fun outer mem => Or.inr (under outer mem)
  obtain ⟨name, outside, -⟩ := h.exists_around_of_expands alone expands
  cases outside

/-- A list is cut in one way at the first reference whose name lacks a property that the
names of all references before have. -/
theorem eq_of_first_reference {X : String → Prop} {before after before' after' : List String}
    {name' : String} (same : before ++ ("@" ++ name) :: after = before' ++ ("@" ++ name') :: after')
    (has : ∀ earlier, "@" ++ earlier ∈ before → X earlier) (lacks : ¬ X name)
    (has' : ∀ earlier, "@" ++ earlier ∈ before' → X earlier) (lacks' : ¬ X name') :
    name = name' := by
  rcases List.append_eq_append_iff.mp same with ⟨more, rfl, rest⟩ | ⟨more, rfl, rest⟩
  · cases more with
    | nil => exact (String.append_right_inj "@").mp (List.cons.inj rest).1
    | cons entry more =>
      obtain ⟨rfl, -⟩ := List.cons.inj rest
      exact absurd (has' name (by simp)) lacks
  · cases more with
    | nil => exact ((String.append_right_inj "@").mp (List.cons.inj rest).1).symm
    | cons entry more =>
      obtain ⟨rfl, -⟩ := List.cons.inj rest
      exact absurd (has name' (by simp)) lacks'

/-- **Expanding a group is stuck in one way at most.** -/
theorem Stuck.unique (h : m.Stuck module chain group e) (under : m.Under chain group)
    (h' : m.Stuck module chain group e') : e = e' := by
  induction h generalizing e' with
  | unknown undefined =>
    cases h' with
    | unknown => rfl
    | cycle defined => cases undefined.symm.trans defined
    | inside defined => cases undefined.symm.trans defined
  | cycle defined on =>
    cases h' with
    | unknown undefined => cases undefined.symm.trans defined
    | cycle => rfl
    | inside _ off => exact absurd on off
  | @inside chain before after group name e defined off expand stuck ih =>
    cases h' with
    | unknown undefined => cases undefined.symm.trans defined
    | cycle _ on => exact absurd on off
    | @inside _ before' after' _ name' _ defined' _ expand' stuck' =>
      have same := Option.some.inj (defined.symm.trans defined')
      have below : m.Under (chain ++ [group]) name := under.concat ⟨_, defined, by simp⟩
      have below' : m.Under (chain ++ [group]) name' := under.concat ⟨_, defined', by simp⟩
      obtain rfl := eq_of_first_reference same expand
        (fun ⟨files, expands⟩ => stuck.not_expands below files expands) expand'
        (fun ⟨files, expands⟩ => stuck'.not_expands below' files expands)
      exact ih below stuck'

/-- **A group fails to expand exactly where it is stuck.** -/
theorem filesFor_eq_error_iff : m.filesFor module group = .error e ↔ m.Stuck module [] group e := by
  refine ⟨filesFor_of_stuck, fun stuck => ?_⟩
  cases found : m.filesFor module group with
  | ok files =>
    exact absurd (expands_of_filesFor found) (stuck.not_expands (m.under_nil group) files)
  | error other => rw [(filesFor_of_stuck found).unique (m.under_nil group) stuck]

/-! ## The way to the fault -/

/-- A defined group turns to a name that it refers to if every reference before expands by
itself. -/
def Turns (m : Manifest) (module group name : String) : Prop :=
  ∃ before after, m.entries? group = some (before ++ ("@" ++ name) :: after) ∧
    ∀ earlier, "@" ++ earlier ∈ before → ∃ files, m.filesFor module earlier = .ok files

theorem Turns.contains (h : m.Turns module group name) : m.contains group = true := by
  obtain ⟨before, after, defined, -⟩ := h
  simp [Manifest.contains, defined]

/-- What is told of a name that a way through groups ends in: that it is unknown, or the way
if it comes back to one of the groups. -/
def Fault (m : Manifest) (module : String) (outer : List String) (last : String) (e : BuildError) :
    Prop :=
  m.contains last = false ∧ e = .unknownGroup module last ∨
    last ∈ outer ∧ e = .groupCycle (outer ++ [last])

/-- Where expanding is stuck, turns lead on from the chain to a fault. -/
theorem Stuck.exists_turns (h : m.Stuck module chain group e) (once : chain.Nodup) :
    ∃ outer last, (outer ++ [last]).head? = some group ∧
      (outer ++ [last]).IsChain (m.Turns module) ∧ (chain ++ outer).Nodup ∧
        m.Fault module (chain ++ outer) last e := by
  induction h with
  | @unknown chain group undefined =>
    refine ⟨[], group, rfl, List.isChain_singleton group, by simpa using once, Or.inl ⟨?_, rfl⟩⟩
    exact contains_eq_false_iff.mpr undefined
  | @cycle chain entries group _ on =>
    refine ⟨[], group, rfl, List.isChain_singleton group, by simpa using once, Or.inr ?_⟩
    rw [List.append_nil]
    exact ⟨on, rfl⟩
  | @inside chain before after group name e defined off expand _ ih =>
    have once' : (chain ++ [group]).Nodup := by
      simpa [List.nodup_append, once] using fun a mem (same : a = group) => off (same ▸ mem)
    obtain ⟨outer, last, starts, turns, distinct, fault⟩ := ih once'
    rw [List.append_assoc, List.singleton_append] at distinct fault
    have first : m.Turns module group name := by
      refine ⟨before, after, defined, fun earlier mem => ?_⟩
      obtain ⟨files, expands⟩ := expand earlier mem
      exact ⟨files, filesFor_of_expands module expands⟩
    refine ⟨group :: outer, last, rfl, ?_, distinct, fault⟩
    rw [List.cons_append, List.isChain_cons]
    refine ⟨fun next mem => ?_, turns⟩
    obtain rfl := Option.some.inj (starts.symm.trans mem)
    exact first

/-- Turns that lead from a chain of defined groups to a fault are where expanding is stuck. -/
theorem stuck_of_turns (turns : (outer ++ [last]).IsChain (m.Turns module))
    (starts : (outer ++ [last]).head? = some group) (distinct : (chain ++ outer).Nodup)
    (known : ∀ other ∈ chain, m.contains other = true)
    (fault : m.Fault module (chain ++ outer) last e) : m.Stuck module chain group e := by
  induction outer generalizing chain group with
  | nil =>
    obtain rfl : last = group := by simpa using starts
    rw [List.append_nil] at fault
    obtain ⟨undefined, rfl⟩ | ⟨on, rfl⟩ := fault
    · exact .unknown (contains_eq_false_iff.mp undefined)
    · obtain ⟨entries, defined⟩ := Option.isSome_iff_exists.mp (known last on)
      exact .cycle defined on
  | cons first outer ih =>
    obtain rfl : first = group := by simpa using starts
    rw [List.cons_append, List.isChain_cons] at turns
    obtain ⟨next, starts'⟩ : ∃ next, (outer ++ [last]).head? = some next := by
      cases outer <;> exact ⟨_, rfl⟩
    have step : m.Turns module first next := turns.1 next starts'
    have known' : ∀ other ∈ chain ++ [first], m.contains other = true := by
      intro other mem
      rcases List.mem_append.mp mem with mem | mem
      · exact known other mem
      · exact List.mem_singleton.mp mem ▸ step.contains
    have off : first ∉ chain := fun on =>
      (List.nodup_append.mp distinct).2.2 first on first List.mem_cons_self rfl
    have rest : m.Stuck module (chain ++ [first]) next e :=
      ih turns.2 starts' (by simpa using distinct) known' (by simpa using fault)
    obtain ⟨before, after, defined, expand⟩ := step
    refine .inside defined off (fun earlier mem => ?_) rest
    obtain ⟨files, found⟩ := expand earlier mem
    exact ⟨files, expands_of_filesFor found⟩

/-- **A group fails to expand for the leftmost fault.**  It fails exactly if turns lead from
it, through groups that are all different, to a name that nobody defines or to one of these
groups again; what is told is the name, on behalf of the module, or the whole way. -/
theorem filesFor_fails_for_leftmost_fault (m : Manifest) (module group : String)
    (e : BuildError) :
    m.filesFor module group = .error e ↔
      ∃ outer last, (outer ++ [last]).head? = some group ∧
        (outer ++ [last]).IsChain (m.Turns module) ∧ outer.Nodup ∧
          (m.contains last = false ∧ e = .unknownGroup module last ∨
            last ∈ outer ∧ e = .groupCycle (outer ++ [last])) := by
  rw [filesFor_eq_error_iff]
  constructor
  · intro stuck
    exact stuck.exists_turns List.nodup_nil
  · rintro ⟨outer, last, starts, turns, distinct, fault⟩
    exact stuck_of_turns turns starts distinct (List.forall_mem_nil _) fault

/-- A cycle behind a group that expands is told before the unknown name behind it. -/
example : (ofList [("a", ["@b", "@c", "@nope"]), ("b", ["b.js"]), ("c", ["@b", "@a"])]).filesFor
    "m" "a" = .error (.groupCycle ["a", "c", "a"]) := by
  cbv

end ReleaseBundle.Manifest
