import ReleaseBundle.FileSystem.Operations

/-!
# Walks stride by stride

A walk along a path is a sequence of **strides**: each reads one segment and
either ends the walk or goes on from another location with other segments, as
behind a link (`walk_eq_stride`).  A stride looks at two locations at most, where
it stands and what the segment names there, so facts about walks are shown for one
stride and follow for all by one induction (`walk_induction`).

Slashes at the end of a path to a directory say nothing (`walk_slashes`,
`walk_of_append_slashes`), and the last name of a path stands in the directory that
the segments before it lead to (`walk_snoc`).
-/

namespace ReleaseBundle.FileSystem

variable {t : FileSystem} {ending : Ending} {links : Nat} {here : Location}

/-- What one stride of a walk comes to. -/
inductive Stride where
  /-- The walk ends. -/
  | stop (result : Except IoError Place)
  /-- The walk goes on, with links that may still be followed, from a location. -/
  | go (links : Nat) (here : Location) (segments : List Name)

/-- The stride onto a name below `here`, by what is there. -/
def enter (ending : Ending) (links : Nat) (here : Location) (segment : Name) (rest : List Name) :
    Option Node → Stride
  | none => .stop (if rest = [] then .ok ⟨here ++ [segment], none⟩ else .error .notFound)
  | some (.file bytes) =>
    .stop (if rest = [] then .ok ⟨here ++ [segment], some (.file bytes)⟩ else .error .notADirectory)
  | some .directory =>
    if rest = [] then .stop (.ok ⟨here ++ [segment], some .directory⟩)
    else .go links (here ++ [segment]) rest
  | some (.link target) =>
    if rest = [] ∧ ending = .atLink then .stop (.ok ⟨here ++ [segment], some (.link target)⟩)
    else
      match links with
      | 0 => .stop (.error .tooManyLinks)
      | links + 1 =>
        .go links (if target.head? = some slash then [] else here) (Path.segments target ++ rest)

/-- The first stride of a walk. -/
def stride (t : FileSystem) (ending : Ending) (links : Nat) (here : Location) :
    List Name → Stride
  | [] => .stop (.ok ⟨here, t.lookup? here⟩)
  | segment :: rest =>
    match t.lookup? here with
    | some .directory =>
      if Path.isIdle segment then .go links here rest
      else if segment = [dot, dot] then .go links here.dropLast rest
      else if ending = .asFile ∧ rest ≠ [] ∧ rest.all List.isEmpty then .stop (.error .isADirectory)
      else if nameLimit < segment.length then .stop (.error .nameTooLong)
      else enter ending links here segment rest (t.lookup? (here ++ [segment]))
    | _ => .stop (.error .notADirectory)

theorem walk_nil : t.walk ending links here [] = .ok ⟨here, t.lookup? here⟩ := by
  rw [walk]

theorem walk_of_not_directory {segment : Name} {rest : List Name}
    (stuck : t.lookup? here ≠ some .directory) :
    t.walk ending links here (segment :: rest) = .error .notADirectory := by
  rw [walk]
  split
  · rename_i found
    exact absurd found stuck
  · rfl

/-- Going on from a node that is no link. -/
theorem walk_of_file {bytes : ByteArray} {rest : List Name}
    (found : t.lookup? here = some (.file bytes)) :
    t.walk ending links here rest =
      if rest = [] then .ok ⟨here, some (.file bytes)⟩ else .error .notADirectory := by
  cases rest with
  | nil => rw [walk_nil, found, if_pos rfl]
  | cons segment rest => rw [walk_of_not_directory (by simp [found]), if_neg (by simp)]

theorem walk_of_directory {rest : List Name} (found : t.lookup? here = some .directory) :
    t.walk ending links here rest =
      if rest = [] then .ok ⟨here, some .directory⟩ else t.walk ending links here rest := by
  split
  · rename_i last
    rw [last, walk_nil, found]
  · rfl

theorem stride_of_not_directory {segment : Name} {rest : List Name}
    (stuck : t.lookup? here ≠ some .directory) :
    t.stride ending links here (segment :: rest) = .stop (.error .notADirectory) := by
  rw [stride]
  split
  · rename_i found
    exact absurd found stuck
  · rfl

theorem stride_of_directory {segment : Name} {rest : List Name}
    (stands : t.lookup? here = some .directory) :
    t.stride ending links here (segment :: rest) =
      if Path.isIdle segment then .go links here rest
      else if segment = [dot, dot] then .go links here.dropLast rest
      else if ending = .asFile ∧ rest ≠ [] ∧ rest.all List.isEmpty then .stop (.error .isADirectory)
      else if nameLimit < segment.length then .stop (.error .nameTooLong)
      else enter ending links here segment rest (t.lookup? (here ++ [segment])) := by
  rw [stride, stands]

/-- **A walk is its first stride and the walk from there.** -/
theorem walk_eq_stride (t : FileSystem) (ending : Ending) (links : Nat) (here : Location)
    (segments : List Name) :
    t.walk ending links here segments =
      match t.stride ending links here segments with
      | .stop result => result
      | .go links here segments => t.walk ending links here segments := by
  cases segments with
  | nil => rw [walk_nil, stride]
  | cons segment rest =>
    by_cases stands : t.lookup? here = some .directory
    · rw [stride_of_directory stands, walk, stands]
      dsimp only
      by_cases idle : Path.isIdle segment = true
      · rw [if_pos idle, if_pos idle]
      by_cases up : segment = [dot, dot]
      · rw [if_neg idle, if_neg idle, if_pos up, if_pos up]
      rw [if_neg idle, if_neg idle, if_neg up, if_neg up]
      simp only [Bool.and_eq_true, decide_eq_true_eq, and_assoc]
      split
      · rfl
      split
      · rfl
      cases found : t.lookup? (here ++ [segment]) with
      | none => rfl
      | some node =>
        cases node with
        | file bytes => exact walk_of_file found
        | directory =>
          dsimp only [enter]
          rw [walk_of_directory found]
          split <;> rfl
        | link target =>
          dsimp only [enter]
          split
          · rfl
          · cases links <;> rfl
    · rw [walk_of_not_directory stands, stride_of_not_directory stands]

/-- **How a walk goes on**: it stays or goes up where it stands, goes down to a directory with
more to read, or follows a link. -/
theorem stride_go_cases {links' : Nat} {here' : Location} {segment : Name}
    {rest segments' : List Name}
    (on : t.stride ending links here (segment :: rest) = .go links' here' segments') :
    t.lookup? here = some .directory ∧
      (links' = links ∧ segments' = rest ∧ (here' = here ∨ here' = here.dropLast) ∨
        (links' = links ∧ segments' = rest ∧ rest ≠ [] ∧ here' = here ++ [segment]) ∨
        ∃ target, t.lookup? (here ++ [segment]) = some (.link target) ∧
          ¬ (rest = [] ∧ ending = .atLink) ∧ links = links' + 1 ∧
          segments' = Path.segments target ++ rest) := by
  by_cases stands : t.lookup? here = some .directory
  · refine ⟨stands, ?_⟩
    rw [stride_of_directory stands] at on
    split at on
    · cases on
      exact Or.inl ⟨rfl, rfl, Or.inl rfl⟩
    split at on
    · cases on
      exact Or.inl ⟨rfl, rfl, Or.inr rfl⟩
    split at on
    · cases on
    split at on
    · cases on
    cases found : t.lookup? (here ++ [segment]) with
    | none =>
      rw [found] at on
      cases on
    | some node =>
      rw [found] at on
      cases node with
      | file bytes => cases on
      | directory =>
        dsimp only [enter] at on
        split at on
        · cases on
        · cases on
          exact Or.inr (Or.inl ⟨rfl, rfl, ‹_›, rfl⟩)
      | link target =>
        dsimp only [enter] at on
        split at on
        · cases on
        · cases links with
          | zero => cases on
          | succ links =>
            cases on
            exact Or.inr (Or.inr ⟨target, rfl, ‹_›, rfl, rfl⟩)
  · rw [stride_of_not_directory stands] at on
    cases on

/-- A walk that goes on has fewer segments left, or fewer links to follow. -/
theorem lt_of_stride_go {links' : Nat} {here' : Location} {segments segments' : List Name}
    (h : t.stride ending links here segments = .go links' here' segments') :
    Prod.Lex (· < ·) (· < ·) (links', segments'.length) (links, segments.length) := by
  cases segments with
  | nil => cases h
  | cons segment rest =>
    obtain ⟨-, ⟨rfl, rfl, -⟩ | ⟨rfl, rfl, -⟩ | ⟨target, -, -, rfl, rfl⟩⟩ := stride_go_cases h
    · exact .right _ (by simp)
    · exact .right _ (by simp)
    -- The target of a link may have any number of segments, but a link is used up.
    · exact .left _ _ (Nat.lt_succ_self _)

/-- **Induction along a walk**: what holds of a walk as soon as it holds of the
walk after the first stride holds of every walk. -/
theorem walk_induction (t : FileSystem) (ending : Ending)
    {motive : Nat → Location → List Name → Prop}
    (step : ∀ links here segments,
      (∀ links' here' segments', t.stride ending links here segments = .go links' here' segments' →
        motive links' here' segments') → motive links here segments)
    (links : Nat) (here : Location) (segments : List Name) : motive links here segments :=
  step links here segments fun links' here' segments' _ =>
    walk_induction t ending step links' here' segments'
termination_by (links, segments.length)
decreasing_by exact lt_of_stride_go ‹_›

/-! ## Strides with more to read -/

/-- With a name at the end, a path does not end in slashes alone. -/
theorem not_slashes_append {rest more : List Name}
    (named : ending = .asFile → more.all List.isEmpty = false) :
    ¬ (ending = .asFile ∧ rest ++ more ≠ [] ∧ (rest ++ more).all List.isEmpty) := by
  rintro ⟨asFile, -, slashes⟩
  rw [List.all_append, named asFile, Bool.and_false] at slashes
  cases slashes

section

variable {e : Ending} {segment : Name} {rest more : List Name} {n : Option Node}

theorem enter_append {links' : Nat} {here' : Location} {rest' : List Name}
    (on : enter ending links here segment rest n = .go links' here' rest')
    (later : more ≠ [] ∨ e ≠ .atLink) :
    enter e links here segment (rest ++ more) n = .go links' here' (rest' ++ more) := by
  cases n with
  | none => cases on
  | some node =>
    cases node with
    | file bytes => cases on
    | directory =>
      by_cases last : rest = []
      · simp only [enter, if_pos last] at on
        cases on
      · simp only [enter, if_neg last] at on
        cases on
        simp only [enter, if_neg (List.append_ne_nil_of_left_ne_nil last more)]
    | link target =>
      have follow : ¬ (rest ++ more = [] ∧ e = .atLink) := by
        rcases later with ne | ne <;> simp [ne]
      dsimp only [enter] at on ⊢
      rw [if_neg follow]
      split at on
      · cases on
      · cases links with
        | zero => cases on
        | succ links =>
          cases on
          rw [List.append_assoc]

theorem enter_append_of_error {cause : IoError}
    (failed : enter ending links here segment rest n = .stop (.error cause))
    (later : more ≠ [] ∨ e ≠ .atLink) :
    enter e links here segment (rest ++ more) n = .stop (.error cause) := by
  by_cases last : rest = []
  · subst last
    cases n with
    | none => cases failed
    | some node =>
      cases node with
      | file bytes => cases failed
      | directory => cases failed
      | link target =>
        dsimp only [enter] at failed ⊢
        rw [if_neg (by rcases later with ne | ne <;> simp [ne])]
        split at failed
        · cases failed
        · cases links <;> cases failed
          rfl
  · have more_left : rest ++ more ≠ [] := List.append_ne_nil_of_left_ne_nil last more
    cases n with
    | none => simpa only [enter, if_neg last, if_neg more_left] using failed
    | some node =>
      cases node with
      | file bytes => simpa only [enter, if_neg last, if_neg more_left] using failed
      | directory =>
        simp only [enter, if_neg last] at failed
        cases failed
      | link target =>
        simp only [enter, last, more_left, false_and, if_false] at failed ⊢
        cases links <;> cases failed
        rfl

theorem eq_of_enter_ok {place : Place}
    (ends : enter ending links here segment rest n = .stop (.ok place)) :
    rest = [] ∧ place = ⟨here ++ [segment], n⟩ ∧
      ∀ target, n = some (.link target) → ending = .atLink := by
  by_cases last : rest = []
  · cases n with
    | none =>
      simp only [enter, if_pos last] at ends
      cases ends
      exact ⟨last, rfl, by simp⟩
    | some node =>
      cases node with
      | file bytes =>
        simp only [enter, if_pos last] at ends
        cases ends
        exact ⟨last, rfl, by simp⟩
      | directory =>
        simp only [enter, if_pos last] at ends
        cases ends
        exact ⟨last, rfl, by simp⟩
      | link target =>
        dsimp only [enter] at ends
        split at ends
        · rename_i atLink
          cases ends
          exact ⟨last, rfl, fun _ _ => atLink.2⟩
        · cases links <;> cases ends
  · cases n with
    | none =>
      simp only [enter, if_neg last] at ends
      cases ends
    | some node =>
      cases node with
      | file bytes =>
        simp only [enter, if_neg last] at ends
        cases ends
      | directory =>
        simp only [enter, if_neg last] at ends
        cases ends
      | link target =>
        simp only [enter, last, false_and, if_false] at ends
        cases links <;> cases ends

end

/-- A stride that goes on does so, with segments added at the end. -/
theorem stride_append {e : Ending} {links' : Nat} {here' : Location}
    {segments segments' more : List Name}
    (on : t.stride ending links here segments = .go links' here' segments')
    (later : more ≠ [] ∨ e ≠ .atLink)
    (named : e = .asFile → more.all List.isEmpty = false) :
    t.stride e links here (segments ++ more) = .go links' here' (segments' ++ more) := by
  cases segments with
  | nil => cases on
  | cons segment rest =>
    by_cases stands : t.lookup? here = some .directory
    · rw [stride_of_directory stands] at on
      rw [List.cons_append, stride_of_directory stands, if_neg (not_slashes_append named)]
      split at on
      · cases on
        rw [if_pos ‹_›]
      rw [if_neg ‹_›]
      split at on
      · cases on
        rw [if_pos ‹_›]
      rw [if_neg ‹_›]
      split at on
      · cases on
      split at on
      · cases on
      rw [if_neg ‹_›]
      exact enter_append on later
    · rw [stride_of_not_directory stands] at on
      cases on

/-- A stride that fails does so, with segments added at the end. -/
theorem stride_append_of_error {e : Ending} {segments more : List Name} {cause : IoError}
    (failed : t.stride ending links here segments = .stop (.error cause)) (free : ending ≠ .asFile)
    (later : more ≠ [] ∨ e ≠ .atLink)
    (named : e = .asFile → more.all List.isEmpty = false) :
    t.stride e links here (segments ++ more) = .stop (.error cause) := by
  cases segments with
  | nil => cases failed
  | cons segment rest =>
    by_cases stands : t.lookup? here = some .directory
    · have no_slashes : ¬ (ending = .asFile ∧ rest ≠ [] ∧ rest.all List.isEmpty) :=
        fun slashes => free slashes.1
      rw [stride_of_directory stands, if_neg no_slashes] at failed
      rw [List.cons_append, stride_of_directory stands, if_neg (not_slashes_append named)]
      split at failed
      · cases failed
      rw [if_neg ‹_›]
      split at failed
      · cases failed
      rw [if_neg ‹_›]
      split at failed
      · rw [if_pos ‹_›]
        exact failed
      rw [if_neg ‹_›]
      exact enter_append_of_error failed later
    · rw [stride_of_not_directory stands] at failed
      rw [List.cons_append, stride_of_not_directory stands]
      exact failed

/-- A stride onto a name enters it. -/
theorem stride_of_name (ending : Ending) {segment : Name} {rest : List Name}
    (stands : t.lookup? here = some .directory) (plain : Path.isIdle segment = false)
    (down : segment ≠ [dot, dot])
    (named : ¬ (ending = .asFile ∧ rest ≠ [] ∧ rest.all List.isEmpty))
    (short : segment.length ≤ nameLimit) :
    t.stride ending links here (segment :: rest) =
      enter ending links here segment rest (t.lookup? (here ++ [segment])) := by
  rw [stride_of_directory stands, if_neg (by simp [plain]), if_neg down, if_neg named,
    if_neg (Nat.not_lt.mpr short)]

/-- A stride that ends the walk at a place reads the last segment, a name. -/
theorem eq_of_stride_ok {segment : Name} {rest : List Name} {place : Place}
    (ends : t.stride ending links here (segment :: rest) = .stop (.ok place)) :
    t.lookup? here = some .directory ∧ Path.isIdle segment = false ∧ segment ≠ [dot, dot] ∧
      segment.length ≤ nameLimit ∧ rest = [] ∧
      place = ⟨here ++ [segment], t.lookup? (here ++ [segment])⟩ ∧
      ∀ target, place.node? = some (.link target) → ending = .atLink := by
  by_cases stands : t.lookup? here = some .directory
  · rw [stride_of_directory stands] at ends
    split at ends
    · cases ends
    rename_i idle
    split at ends
    · cases ends
    rename_i down
    split at ends
    · cases ends
    split at ends
    · cases ends
    rename_i short
    obtain ⟨last, rfl, atLink⟩ := eq_of_enter_ok ends
    exact ⟨stands, by simpa using idle, down, Nat.le_of_not_lt short, last, rfl, atLink⟩
  · rw [stride_of_not_directory stands] at ends
    cases ends

/-- A walk tells what is where it ends. -/
theorem lookup?_of_walk {segments : List Name} {l : Location} {n : Option Node}
    (h : t.walk ending links here segments = .ok ⟨l, n⟩) : t.lookup? l = n := by
  induction links, here, segments using walk_induction t ending with
  | step links here segments ih =>
    cases segments with
    | nil =>
      rw [walk_nil] at h
      obtain ⟨rfl, found⟩ := Place.mk.inj (Except.ok.inj h)
      exact found
    | cons segment rest =>
      rw [walk_eq_stride] at h
      cases strides : t.stride ending links here (segment :: rest) with
      | go links' here' segments' =>
        rw [strides] at h
        exact ih links' here' segments' strides h
      | stop result =>
        rw [strides] at h
        obtain rfl : result = .ok ⟨l, n⟩ := h
        obtain ⟨-, -, -, -, -, place, -⟩ := eq_of_stride_ok strides
        obtain ⟨rfl, rfl⟩ := Place.mk.inj place
        rfl

/-! ## Slashes at the end -/

/-- Slashes say nothing where a directory is. -/
theorem walk_slashes (count : Nat) (stands : t.lookup? here = some .directory) :
    t.walk ending links here (List.replicate count []) = .ok ⟨here, some .directory⟩ := by
  induction count with
  | zero => rw [List.replicate_zero, walk_nil, stands]
  | succ count ih =>
    rw [List.replicate_succ, walk_eq_stride, stride_of_directory stands]
    exact ih

/-- A path to a directory may do without the slashes at its end. -/
theorem walk_of_append_slashes {count : Nat} {segments : List Name} {l : Location}
    (h : t.walk .followed links here (segments ++ List.replicate count []) =
      .ok ⟨l, some .directory⟩) :
    t.walk .followed links here segments = .ok ⟨l, some .directory⟩ := by
  cases count with
  | zero => simpa using h
  | succ count =>
    induction links, here, segments using walk_induction t .followed with
    | step links here segments ih =>
      cases segments with
      | nil =>
        rw [List.nil_append] at h
        by_cases stands : t.lookup? here = some .directory
        · rw [walk_slashes _ stands] at h
          rw [walk_nil, stands, h]
        · rw [List.replicate_succ, walk_of_not_directory stands] at h
          cases h
      | cons segment rest =>
        rw [walk_eq_stride]
        rw [walk_eq_stride] at h
        cases strides : t.stride .followed links here (segment :: rest) with
        | go links' here' segments' =>
          rw [stride_append (e := .followed) strides (Or.inr nofun) nofun] at h
          exact ih links' here' segments' strides h
        | stop result =>
          cases result with
          | error cause =>
            rw [stride_append_of_error (e := .followed) strides nofun (Or.inr nofun) nofun] at h
            cases h
          | ok place =>
            -- The last segment is a name; slashes behind it say nothing if it is a directory's.
            obtain ⟨stands, plain, down, short, rfl, rfl, atLink⟩ := eq_of_stride_ok strides
            rw [List.singleton_append,
              stride_of_name .followed stands plain down (fun slashes => nomatch slashes.1) short]
              at h
            cases found : t.lookup? (here ++ [segment]) with
            | none =>
              rw [found] at h
              cases h
            | some node =>
              rw [found] at h
              cases node with
              | file bytes => cases h
              | link target => cases atLink target found
              | directory =>
                simp only [enter, List.replicate_succ, reduceCtorEq, if_false] at h
                rw [← List.replicate_succ, walk_slashes _ found] at h
                exact h

/-- A path that leads to something leads to something, or to a link, if links are
not followed. -/
theorem exists_walk_atLink {segments : List Name} {l : Location} {node : Node}
    (h : t.walk .followed links here segments = .ok ⟨l, some node⟩) :
    ∃ l' node', t.walk .atLink links here segments = .ok ⟨l', some node'⟩ := by
  induction links, here, segments using walk_induction t .atLink with
  | step links here segments ih =>
    cases segments with
    | nil =>
      rw [walk_nil] at h ⊢
      obtain ⟨rfl, found⟩ := Place.mk.inj (Except.ok.inj h)
      exact ⟨here, node, by rw [found]⟩
    | cons segment rest =>
      rw [walk_eq_stride] at h ⊢
      cases strides : t.stride .atLink links here (segment :: rest) with
      | go links' here' segments' =>
        have on : t.stride .followed links here (segment :: rest ++ []) =
            .go links' here' (segments' ++ []) := stride_append strides (Or.inr nofun) nofun
        rw [List.append_nil, List.append_nil] at on
        rw [on] at h
        exact ih links' here' segments' strides h
      | stop result =>
        cases result with
        | error cause =>
          have failed : t.stride .followed links here (segment :: rest ++ []) =
              .stop (.error cause) := stride_append_of_error strides nofun (Or.inr nofun) nofun
          rw [List.append_nil] at failed
          rw [failed] at h
          cases h
        | ok place =>
          obtain ⟨stands, plain, down, short, rfl, rfl, -⟩ := eq_of_stride_ok strides
          cases found : t.lookup? (here ++ [segment]) with
          | none =>
            rw [stride_of_name .followed stands plain down (fun slashes => nomatch slashes.1) short,
              found] at h
            cases h
          | some node' => exact ⟨_, _, rfl⟩

/-! ## The last name -/

/-- **The last name stands in the directory that the rest leads to.** -/
theorem walk_snoc {segments : List Name} {name : Name} {l : Location} (some_name : name ≠ [])
    (h : t.walk .followed links here segments = .ok ⟨l, some .directory⟩) :
    ∃ links', ∀ ending, t.walk ending links here (segments ++ [name]) =
      t.walk ending links' l [name] := by
  induction links, here, segments using walk_induction t .followed with
  | step links here segments ih =>
    have named : ∀ ending : Ending, ending = .asFile → [name].all List.isEmpty = false := by
      intro ending _
      simpa using some_name
    cases segments with
    | nil =>
      rw [walk_nil] at h
      obtain ⟨rfl, -⟩ := Place.mk.inj (Except.ok.inj h)
      exact ⟨links, fun ending => rfl⟩
    | cons segment rest =>
      rw [walk_eq_stride] at h
      cases strides : t.stride .followed links here (segment :: rest) with
      | go links' here' segments' =>
        rw [strides] at h
        -- The name is read after the same strides, with as many links left.
        obtain ⟨left, same⟩ := ih links' here' segments' strides h
        refine ⟨left, fun ending => ?_⟩
        rw [walk_eq_stride, stride_append strides (Or.inl (by simp)) (named ending)]
        exact same ending
      | stop result =>
        rw [strides] at h
        obtain rfl : result = .ok ⟨l, some .directory⟩ := h
        obtain ⟨stands, plain, down, short, rfl, place, -⟩ := eq_of_stride_ok strides
        obtain ⟨rfl, found⟩ := Place.mk.inj place
        refine ⟨links, fun ending => ?_⟩
        rw [walk_eq_stride, List.singleton_append, stride_of_name ending stands plain down
          (fun slashes => by simp [some_name] at slashes) short, ← found]
        rfl

theorem walk_long_name {name : Name} (stands : t.lookup? here = some .directory)
    (plain : Path.isIdle name = false) (down : name ≠ [dot, dot])
    (long : nameLimit < name.length) :
    t.walk ending links here [name] = .error .nameTooLong := by
  rw [walk_eq_stride, stride_of_directory stands, if_neg (by simp [plain]), if_neg down,
    if_neg (fun slashes => slashes.2.1 rfl), if_pos long]

/-- A walk along a single name ends there, if it does not follow a link. -/
theorem walk_name {name : Name} (stands : t.lookup? here = some .directory)
    (plain : Path.isIdle name = false) (down : name ≠ [dot, dot])
    (short : name.length ≤ nameLimit)
    (straight : ∀ target, t.lookup? (here ++ [name]) = some (.link target) → ending = .atLink) :
    t.walk ending links here [name] = .ok ⟨here ++ [name], t.lookup? (here ++ [name])⟩ := by
  rw [walk_eq_stride,
    stride_of_name ending stands plain down (fun slashes => slashes.2.1 rfl) short]
  cases found : t.lookup? (here ++ [name]) with
  | none => rfl
  | some node =>
    cases node with
    | file bytes => rfl
    | directory => rfl
    | link target => simp only [enter, straight target found, and_self, if_true]

end ReleaseBundle.FileSystem
