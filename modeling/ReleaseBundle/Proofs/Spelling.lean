import ReleaseBundle.Proofs.GrowingRuns

/-!
# Spellings of one path

Paths are compared by their components, but a file system reads their segments.  Idle
segments in front of others make no difference to it: it needs a directory where they
stand, and the segments behind them need one too (`walk_respelled`).  At the end of a path
they do: a path that ends in an idle segment leads to a directory or nowhere
(`directory_of_walk_idle`), so behind a file such a segment is one too many
(`walk_append_of_file`).

Hence a path leads to the same file in all its spellings, but for two kinds of them: those
that end as the path of a directory may, and those that are too long to be told to the
system (`FileSystem.resolve_of_sameAs`).
-/

namespace ReleaseBundle

namespace Path

/-! ## Segments with idle ones among them -/

/-- Two lists of segments that differ in idle segments, but not at the end. -/
inductive Respelled : List Name → List Name → Prop where
  | refl (segments : List Name) : Respelled segments segments
  | left {segment : Name} {rest other : List Name} (idle : isIdle segment = true)
      (more : rest ≠ []) (h : Respelled rest other) : Respelled (segment :: rest) other
  | right {segment : Name} {rest other : List Name} (idle : isIdle segment = true)
      (more : other ≠ []) (h : Respelled rest other) : Respelled rest (segment :: other)
  | cons (segment : Name) {rest other : List Name} (h : Respelled rest other) :
      Respelled (segment :: rest) (segment :: other)

variable {rest other : List Name}

namespace Respelled

theorem eq_nil_iff (h : Respelled rest other) : rest = [] ↔ other = [] := by
  induction h with
  | refl => exact .rfl
  | left _ more _ ih => simpa using fun empty => more (ih.mpr empty)
  | right _ more _ ih => simpa using fun empty => more (ih.mp empty)
  | cons => simp

theorem append_left (before : List Name) (h : Respelled rest other) :
    Respelled (before ++ rest) (before ++ other) := by
  induction before with
  | nil => exact h
  | cons segment before ih => exact .cons segment ih

/-- Idle segments before others may be left out. -/
theorem of_idle {pieces : List Name} (idle : ∀ segment ∈ pieces, isIdle segment = true)
    (more : other ≠ []) (h : Respelled rest other) : Respelled rest (pieces ++ other) := by
  induction pieces with
  | nil => exact h
  | cons segment pieces ih =>
    obtain ⟨first, idle⟩ := List.forall_mem_cons.mp idle
    exact .right first (List.append_ne_nil_of_right_ne_nil pieces more) (ih idle)

end Respelled

/-- The segments that say something. -/
def loud (segments : List Name) : List Name := segments.filter fun segment => !isIdle segment

/-- **Segments that say the same**, before a common last one, differ in idle ones only. -/
theorem respelled_of_loud {last : Name} {segments segments' : List Name}
    (same : loud segments = loud segments') :
    Respelled (segments ++ [last]) (segments' ++ [last]) := by
  induction segments generalizing segments' with
  | nil =>
    refine .of_idle (fun segment mem => ?_) (List.cons_ne_nil last []) (.refl [last])
    have quiet := List.filter_eq_nil_iff.mp same.symm segment mem
    simpa using quiet
  | cons segment segments ih =>
    by_cases idle : isIdle segment = true
    · have same' : loud segments = loud segments' := by
        rw [← same, loud, loud, List.filter_cons_of_neg (by simp [idle])]
      exact .left idle (by simp) (ih same')
    · have first : loud (segment :: segments) = segment :: loud segments :=
        List.filter_cons_of_pos (by simp [idle])
      rw [first] at same
      obtain ⟨before, after, rfl, quiet, -, same'⟩ := List.filter_eq_cons_iff.mp same.symm
      rw [List.append_assoc]
      refine .of_idle (fun other mem => by simpa using quiet other mem) (by simp) ?_
      exact .cons segment (ih same'.symm)

/-- Segments that say something end, before idle ones, in one that does. -/
theorem exists_last_loud {segments : List Name} (ne : loud segments ≠ []) :
    ∃ init last idles, segments = init ++ [last] ++ idles ∧ loud idles = [] ∧
      loud segments = loud init ++ [last] := by
  induction segments with
  | nil => exact absurd rfl ne
  | cons segment segments ih =>
    by_cases idle : isIdle segment = true
    · have same : ∀ more, loud (segment :: more) = loud more := fun more => by
        rw [loud, List.filter_cons_of_neg (by simp [idle]), loud]
      rw [same] at ne
      obtain ⟨init, last, idles, rfl, quiet, split⟩ := ih ne
      exact ⟨segment :: init, last, idles, rfl, quiet, by rw [same, same, split]⟩
    · have keeps : ∀ more, loud (segment :: more) = segment :: loud more := fun more => by
        rw [loud, List.filter_cons_of_pos (by simp [idle]), loud]
      by_cases quiet : loud segments = []
      · exact ⟨[], segment, segments, rfl, quiet, by rw [keeps, quiet]; rfl⟩
      · obtain ⟨init, last, idles, rfl, quiet, split⟩ := ih quiet
        exact ⟨segment :: init, last, idles, rfl, quiet, by rw [keeps, keeps, split]; rfl⟩

theorem exists_last_idle {segments : List Name} (ne : segments ≠ []) (quiet : loud segments = []) :
    ∃ init last, segments = init ++ [last] ∧ isIdle last = true := by
  obtain rfl | ⟨init, last, rfl⟩ := segments.eq_nil_or_concat
  · exact absurd rfl ne
  · have idle := List.filter_eq_nil_iff.mp quiet last (by simp)
    exact ⟨init, last, by simp, by simpa using idle⟩

/-! ## Components and segments -/

/-- The segment that says what a component says. -/
def segmentOf : Component → Name
  | .root => []
  | .here => [dot]
  | .up => [dot, dot]
  | .name name => name

theorem loud_eq_map (body : List Name) :
    loud body = (body.filterMap component?).map segmentOf := by
  induction body with
  | nil => rfl
  | cons segment body ih =>
    by_cases idle : isIdle segment = true
    · have spoken : component? segment = none := by rw [component?, if_pos idle]
      rw [loud, List.filter_cons_of_neg (by simp [idle]), List.filterMap_cons_none spoken]
      exact ih
    · have spoken : ∃ c, component? segment = some c ∧ segmentOf c = segment := by
        by_cases up : segment = [dot, dot]
        · exact ⟨.up, by rw [component?, if_neg idle, if_pos up], up.symm⟩
        · exact ⟨.name segment, by rw [component?, if_neg idle, if_neg up], rfl⟩
      obtain ⟨c, spoken, spells⟩ := spoken
      rw [loud, List.filter_cons_of_pos (by simp [idle]), List.filterMap_cons_some spoken,
        List.map_cons, spells]
      exact congrArg _ ih

/-- Whether a component says where a path starts. -/
def isStart (c : Component) : Bool := c = .root || c = .here

/-- A body says nothing about the start. -/
theorem isStart_of_component? {segment : Name} {c : Component}
    (spoken : component? segment = some c) : isStart c = false := by
  rw [component?] at spoken
  split at spoken
  · cases spoken
  split at spoken
  · cases spoken
    rfl
  · cases spoken
    rfl

theorem filter_isStart (start : Start) (body : List Name) :
    (start.components ++ body.filterMap component?).filter isStart = start.components := by
  have nothing : (body.filterMap component?).filter isStart = [] := by
    refine List.filter_eq_nil_iff.mpr fun c mem => ?_
    obtain ⟨segment, -, spoken⟩ := List.mem_filterMap.mp mem
    simp [isStart_of_component? spoken]
  rw [List.filter_append, nothing, List.append_nil]
  cases start <;> rfl

theorem Start.eq_of_components {a b : Start} (same : a.components = b.components) : a = b := by
  cases a <;> cases b <;> first | rfl | cases same

/-- A path starts at the root if it is absolute, and its body has its loud segments. -/
theorem parts_spec (p : Path) :
    (p.parts.start = .root ↔ p.isAbsolute = true) ∧
      loud p.parts.body = loud (segments p.spelling) := by
  rw [parts, isAbsolute]
  cases text : p.spelling with
  | nil => simp [segments, loud, isIdle]
  | cons c rest =>
    obtain ⟨first, more, split⟩ := List.exists_cons_of_ne_nil (segments_ne_nil rest)
    by_cases slash : c = slash
    · subst slash
      rw [segments_slash, split]
      simp [loud, isIdle]
    · rw [segments_of_ne_slash slash split]
      split
      · rename_i alone
        cases alone
      · rename_i root
        cases root
      · rename_i here
        cases here
        simp [loud, isIdle, show (46 : UInt8) ≠ ReleaseBundle.slash by decide]
      · simp [slash]

/-- **Two spellings of a path** start alike and have the same loud segments. -/
theorem SameAs.loud_eq {p q : Path} (same : p.SameAs q) :
    p.isAbsolute = q.isAbsolute ∧
      loud (segments p.spelling) = loud (segments q.spelling) := by
  obtain ⟨absolute_p, loud_p⟩ := parts_spec p
  obtain ⟨absolute_q, loud_q⟩ := parts_spec q
  have starts : p.parts.start.components = q.parts.start.components := by
    rw [← filter_isStart p.parts.start p.parts.body, ← filter_isStart q.parts.start q.parts.body]
    exact congrArg _ same
  have bodies : p.parts.body.filterMap component? = q.parts.body.filterMap component? := by
    rw [SameAs, components, components, starts] at same
    exact List.append_cancel_left same
  constructor
  · rw [Bool.eq_iff_iff, ← absolute_p, ← absolute_q, Start.eq_of_components starts]
  · rw [← loud_p, ← loud_q, loud_eq_map, loud_eq_map, bodies]

/-- Both remain so when they are seen from another path. -/
theorem SameAs.loud_join {p q : Path} (same : p.SameAs q) (dir : Path) :
    (dir.join p).isAbsolute = (dir.join q).isAbsolute ∧
      loud (segments (dir.join p).spelling) = loud (segments (dir.join q).spelling) := by
  obtain ⟨absolute, alike⟩ := same.loud_eq
  cases relative : p.isAbsolute with
  | true =>
    rw [join, if_pos relative, join, if_pos (absolute ▸ relative)]
    exact ⟨absolute, alike⟩
  | false =>
    have relative' : q.isAbsolute = false := absolute ▸ relative
    rw [isAbsolute_join dir relative, isAbsolute_join dir relative', segments_join dir relative,
      segments_join dir relative', loud, loud, List.filter_append, List.filter_append]
    exact ⟨rfl, congrArg _ alike⟩

/-- An octet that is written in a path, but no slash, is in one of its segments. -/
theorem mem_spelling_iff {spelling : List UInt8} {c : UInt8} (name : c ≠ slash) :
    c ∈ spelling ↔ ∃ segment ∈ segments spelling, c ∈ segment := by
  induction spelling with
  | nil => simp [segments]
  | cons d rest ih =>
    obtain ⟨first, more, split⟩ := List.exists_cons_of_ne_nil (segments_ne_nil rest)
    by_cases slash : d = slash
    · subst slash
      rw [segments_slash, List.mem_cons, ih]
      simp [name]
    · rw [split] at ih
      rw [segments_of_ne_slash slash split, List.mem_cons, ih]
      simp [or_assoc]

/-- An octet that says something is in one of the loud segments. -/
theorem mem_spelling_iff_loud {spelling : List UInt8} {c : UInt8} (name : c ≠ slash)
    (no_dot : c ≠ dot) : c ∈ spelling ↔ ∃ segment ∈ loud (segments spelling), c ∈ segment := by
  rw [mem_spelling_iff name]
  constructor
  · rintro ⟨segment, mem, inside⟩
    refine ⟨segment, List.mem_filter.mpr ⟨mem, ?_⟩, inside⟩
    by_contra idle
    have quiet : isIdle segment = true := by simpa using idle
    rcases (by simpa [isIdle] using quiet : segment = [] ∨ segment = [dot]) with rfl | rfl
    · cases inside
    · exact no_dot (List.mem_singleton.mp inside)
  · rintro ⟨segment, mem, inside⟩
    exact ⟨segment, (List.mem_filter.mp mem).1, inside⟩

end Path

namespace FileSystem

variable {t : FileSystem} {ending : Ending} {links : Nat} {here : Location} {segment : Name}
  {rest other : List Name}

/-! ## Walks along segments with idle ones among them -/

/-- An idle segment before others says nothing. -/
theorem walk_idle (idle : Path.isIdle segment = true) (more : rest ≠ []) :
    t.walk ending links here (segment :: rest) = t.walk ending links here rest := by
  by_cases stands : t.lookup? here = some .directory
  · rw [walk_eq_stride, stride_of_directory stands, if_pos idle]
  · obtain ⟨next, rest, rfl⟩ := List.exists_cons_of_ne_nil more
    rw [walk_of_not_directory stands, walk_of_not_directory stands]

/-- What strides come to that read one segment and have as many segments left, idle ones
aside. -/
inductive Stride.Respelled : Stride → Stride → Prop where
  | stop (result : Except IoError Place) : Stride.Respelled (.stop result) (.stop result)
  | go (links : Nat) (here : Location) {rest other : List Name} (h : Path.Respelled rest other) :
      Stride.Respelled (.go links here rest) (.go links here other)

theorem enter_respelled (h : Path.Respelled rest other) (n : Option Node) :
    Stride.Respelled (enter ending links here segment rest n)
      (enter ending links here segment other n) := by
  by_cases last : rest = []
  · rw [last, h.eq_nil_iff.mp last]
    generalize enter ending links here segment [] n = stride
    cases stride with
    | stop result => exact .stop result
    | go links here segments => exact .go links here (.refl segments)
  · have last' : other ≠ [] := fun empty => last (h.eq_nil_iff.mpr empty)
    cases n with
    | none =>
      simp only [enter, if_neg last, if_neg last']
      exact .stop _
    | some node =>
      cases node with
      | file bytes =>
        simp only [enter, if_neg last, if_neg last']
        exact .stop _
      | directory =>
        simp only [enter, if_neg last, if_neg last']
        exact .go _ _ h
      | link target =>
        simp only [enter, last, last', false_and, if_false]
        cases links with
        | zero => exact .stop _
        | succ links => exact .go _ _ (h.append_left _)

theorem stride_respelled (t : FileSystem) (links : Nat) (here : Location) (segment : Name)
    (free : ending ≠ .asFile) (h : Path.Respelled rest other) :
    Stride.Respelled (t.stride ending links here (segment :: rest))
      (t.stride ending links here (segment :: other)) := by
  by_cases stands : t.lookup? here = some .directory
  · have no_slashes : ∀ segments : List Name,
        ¬ (ending = .asFile ∧ segments ≠ [] ∧ segments.all List.isEmpty) :=
      fun _ slashes => free slashes.1
    rw [stride_of_directory stands, stride_of_directory stands, if_neg (no_slashes rest),
      if_neg (no_slashes other)]
    split
    · exact .go _ _ h
    split
    · exact .go _ _ h
    split
    · exact .stop _
    · exact enter_respelled h _
  · rw [stride_of_not_directory stands, stride_of_not_directory stands]
    exact .stop _

/-- **Idle segments before others make no difference** to a walk. -/
theorem walk_respelled (free : ending ≠ .asFile) {segments segments' : List Name}
    (h : Path.Respelled segments segments') :
    t.walk ending links here segments = t.walk ending links here segments' := by
  induction links, here, segments using walk_induction t ending generalizing segments' with
  | step links here segments ih =>
    -- Before the second walk makes the same stride it may read idle segments.
    induction h with
    | refl => rfl
    | right idle more h inner => rw [walk_idle idle more, inner ih]
    | @left segment rest other idle more h =>
      by_cases stands : t.lookup? here = some .directory
      · rw [walk_idle idle more]
        exact ih links here rest (by rw [stride_of_directory stands, if_pos idle]) h
      · obtain ⟨next, others, rfl⟩ :=
          List.exists_cons_of_ne_nil fun empty => more (h.eq_nil_iff.mpr empty)
        rw [walk_of_not_directory stands, walk_of_not_directory stands]
    | @cons segment rest other h =>
      have alike := stride_respelled t links here segment free h
      rw [walk_eq_stride, walk_eq_stride t ending links here (segment :: other)]
      generalize t.stride ending links here (segment :: other) = stride' at alike ⊢
      cases strides : t.stride ending links here (segment :: rest) with
      | stop result =>
        rw [strides] at alike
        cases alike
        rfl
      | go links' here' rest' =>
        rw [strides] at alike
        cases alike with
        | go _ _ h' => exact ih links' here' rest' strides h'

/-! ## Idle segments at the end -/

/-- A stride with more to read than one segment leaves all but the first ones to be read. -/
theorem exists_of_stride_go {links' : Nat} {here' : Location} {segments' more : List Name}
    (some_more : more ≠ [])
    (on : t.stride ending links here (segment :: (rest ++ more)) = .go links' here' segments') :
    ∃ rest', segments' = rest' ++ more := by
  by_cases stands : t.lookup? here = some .directory
  · rw [stride_of_directory stands] at on
    split at on
    · cases on
      exact ⟨rest, rfl⟩
    split at on
    · cases on
      exact ⟨rest, rfl⟩
    split at on
    · cases on
    split at on
    · cases on
    have last : rest ++ more ≠ [] := List.append_ne_nil_of_right_ne_nil rest some_more
    cases found : t.lookup? (here ++ [segment]) with
    | none =>
      rw [found] at on
      cases on
    | some node =>
      rw [found] at on
      cases node with
      | file bytes => cases on
      | directory =>
        simp only [enter, if_neg last] at on
        cases on
        exact ⟨rest, rfl⟩
      | link target =>
        simp only [enter, last, false_and, if_false] at on
        cases links with
        | zero => cases on
        | succ links =>
          cases on
          exact ⟨Path.segments target ++ rest, (List.append_assoc _ _ _).symm⟩
  · rw [stride_of_not_directory stands] at on
    cases on

/-- **A path that ends in an idle segment leads to a directory**, if anywhere. -/
theorem directory_of_walk_idle {segments : List Name} {l : Location} {n : Option Node}
    (idle : Path.isIdle segment = true)
    (ends : t.walk ending links here (segments ++ [segment]) = .ok ⟨l, n⟩) :
    n = some .directory := by
  generalize whole : segments ++ [segment] = pieces at ends
  induction links, here, pieces using walk_induction t ending generalizing segments with
  | step links here pieces ih =>
    subst whole
    cases segments with
    | nil =>
      by_cases stands : t.lookup? here = some .directory
      · rw [List.nil_append, walk_eq_stride, stride_of_directory stands, if_pos idle] at ends
        dsimp only at ends
        rw [walk_nil, stands] at ends
        exact (Place.mk.inj (Except.ok.inj ends)).2.symm
      · rw [List.nil_append, walk_of_not_directory stands] at ends
        cases ends
    | cons first rest =>
      rw [List.cons_append, walk_eq_stride] at ends
      cases strides : t.stride ending links here (first :: (rest ++ [segment])) with
      | stop result =>
        rw [strides] at ends
        obtain rfl : result = .ok ⟨l, n⟩ := ends
        obtain ⟨-, -, -, -, last, -⟩ := eq_of_stride_ok strides
        simp at last
      | go links' here' pieces' =>
        rw [strides] at ends
        obtain ⟨rest', rfl⟩ := exists_of_stride_go (List.cons_ne_nil segment []) strides
        exact ih links' here' _ strides rfl ends

/-- **Behind a file there is nothing to read**, not even an idle segment. -/
theorem walk_append_of_file {segments more : List Name} {l : Location} {bytes : ByteArray}
    (found : t.walk .followed links here segments = .ok ⟨l, some (.file bytes)⟩)
    (some_more : more ≠ []) :
    t.walk .followed links here (segments ++ more) = .error .notADirectory := by
  induction links, here, segments using walk_induction t .followed with
  | step links here segments ih =>
    cases segments with
    | nil =>
      rw [walk_nil] at found
      obtain ⟨rfl, there⟩ := Place.mk.inj (Except.ok.inj found)
      rw [List.nil_append, walk_of_file there, if_neg some_more]
    | cons segment rest =>
      rw [walk_eq_stride] at found ⊢
      cases strides : t.stride .followed links here (segment :: rest) with
      | go links' here' segments' =>
        rw [strides] at found
        rw [stride_append (e := .followed) strides (Or.inr nofun) nofun]
        exact ih links' here' segments' strides found
      | stop result =>
        rw [strides] at found
        obtain rfl : result = .ok ⟨l, some (.file bytes)⟩ := found
        obtain ⟨stands, plain, down, short, rfl, place, -⟩ := eq_of_stride_ok strides
        obtain ⟨rfl, there⟩ := Place.mk.inj place
        rw [List.singleton_append,
          stride_of_name .followed stands plain down (fun slashes => nomatch slashes.1) short,
          ← there]
        simp only [enter, if_neg some_more]

/-! ## Paths in other spellings -/

/-- **Segments that say the same** as those of a path to a file lead there as well, unless
they end in an idle one, which is read behind the file. -/
theorem walk_of_loud {segments segments' : List Name} {l : Location} {bytes : ByteArray}
    (same : Path.loud segments = Path.loud segments')
    (found : t.walk .followed links here segments' = .ok ⟨l, some (.file bytes)⟩) :
    t.walk .followed links here segments = .ok ⟨l, some (.file bytes)⟩ ∨
      (∃ init last, segments = init ++ [last] ∧ Path.isIdle last = true) ∧
        t.walk .followed links here segments = .error .notADirectory := by
  -- The path leads to a file, so it ends in a segment that says something: only what stands
  -- before this one may differ, and idle segments after it in the other spelling.
  have no_end : ∀ init last, segments' = init ++ [last] → Path.isIdle last ≠ true := by
    rintro init last rfl idle
    cases directory_of_walk_idle idle found
  by_cases silent : Path.loud segments' = []
  · have nothing : segments' = [] := by
      by_contra ne
      obtain ⟨init, last, split, idle⟩ := Path.exists_last_idle ne silent
      exact no_end init last split idle
    subst nothing
    by_cases empty : segments = []
    · subst empty
      exact Or.inl found
    · exact Or.inr ⟨Path.exists_last_idle empty same, walk_append_of_file found empty⟩
  · obtain ⟨init', last', idles', rfl, quiet', split'⟩ := Path.exists_last_loud silent
    obtain ⟨init, last, idles, rfl, quiet, split⟩ := Path.exists_last_loud (same ▸ silent)
    have nothing : idles' = [] := by
      by_contra ne
      obtain ⟨before, idle, rfl, is_idle⟩ := Path.exists_last_idle ne quiet'
      exact no_end _ idle (List.append_assoc _ _ _).symm is_idle
    obtain ⟨alike, same_last⟩ := List.append_inj' (split.symm.trans (same.trans split')) rfl
    obtain rfl := (List.cons.inj same_last).1
    have follows : Ending.followed ≠ .asFile := nofun
    rw [nothing, List.append_nil, ← walk_respelled follows (Path.respelled_of_loud alike)] at found
    by_cases empty : idles = []
    · rw [empty, List.append_nil]
      exact Or.inl found
    · obtain ⟨before, idle, rfl, is_idle⟩ := Path.exists_last_idle empty quiet
      exact Or.inr ⟨⟨_, idle, (List.append_assoc _ _ _).symm, is_idle⟩,
        walk_append_of_file found empty⟩

/-- Why a path leads nowhere though another spelling of it leads to a file: it ends as the
path of a directory may, or it is too long. -/
inductive Misspelled (p : Path) : IoError → Prop where
  | asDirectory {init : List Name} {last : Name}
      (ends : Path.segments p.spelling = init ++ [last]) (idle : Path.isIdle last = true) :
      Misspelled p .notADirectory
  | tooLong (long : pathLimit < p.spelling.length) : Misspelled p .nameTooLong

/-- Where a path leads to a file it says something. -/
theorem loud_ne_nil_of_walk {p : Path} {l : Location} {bytes : ByteArray}
    (found : t.walk ending links here (Path.segments p.spelling) =
      .ok ⟨l, some (.file bytes)⟩) : Path.loud (Path.segments p.spelling) ≠ [] := by
  intro quiet
  obtain ⟨init, last, split, idle⟩ := Path.exists_last_idle (Path.segments_ne_nil _) quiet
  rw [split] at found
  cases directory_of_walk_idle idle found

/-- A spelling that says the same as a sound one is sound, or it is too long. -/
theorem pathFault?_of_loud {p q : Path} (sound : pathFault? q = none)
    (some_loud : Path.loud (Path.segments p.spelling) ≠ [])
    (alike : Path.loud (Path.segments p.spelling) = Path.loud (Path.segments q.spelling)) :
    pathFault? p = none ∨
      pathFault? p = some .nameTooLong ∧ pathLimit < p.spelling.length := by
  have some_text : p.spelling.isEmpty = false := by
    by_contra empty
    have nothing : p.spelling = [] := by simpa using empty
    rw [nothing] at some_loud
    exact some_loud rfl
  have no_nul : p.spelling.contains 0 = false := by
    by_contra nul
    have mem : 0 ∈ p.spelling := by simpa using nul
    rw [Path.mem_spelling_iff_loud (by decide) (by decide), alike,
      ← Path.mem_spelling_iff_loud (by decide) (by decide)] at mem
    rw [pathFault?] at sound
    split at sound
    · cases sound
    · rw [if_pos (by simpa using mem)] at sound
      cases sound
  rw [pathFault?, some_text, no_nul]
  by_cases long : pathLimit < p.spelling.length
  · exact Or.inr ⟨by simp [long], long⟩
  · exact Or.inl (by simp [long])

/-- **A path leads to the same file in every spelling**, or it is misspelled. -/
theorem resolve_of_sameAs {dir p q : Path} (same : p.SameAs q) {l : Location} {bytes : ByteArray}
    (found : t.resolve .followed (dir.join q) = .ok ⟨l, some (.file bytes)⟩) :
    t.resolve .followed (dir.join p) = .ok ⟨l, some (.file bytes)⟩ ∨
      ∃ cause, Misspelled (dir.join p) cause ∧
        t.resolve .followed (dir.join p) = .error cause := by
  obtain ⟨absolute, alike⟩ := same.loud_join dir
  generalize dir.join p = p at absolute alike ⊢
  generalize dir.join q = q at absolute alike found
  obtain ⟨sound', walked⟩ := walk_of_resolve found
  have some_loud := loud_ne_nil_of_walk walked
  have start : t.startOf p = t.startOf q := by rw [startOf, startOf, absolute]
  rw [resolve_eq]
  obtain sound | ⟨fault, long⟩ := pathFault?_of_loud sound' (alike ▸ some_loud) alike
  · rw [sound, start]
    obtain leads | ⟨⟨init, last, ends, idle⟩, fails⟩ := walk_of_loud alike walked
    · exact Or.inl leads
    · exact Or.inr ⟨_, .asDirectory ends idle, fails⟩
  · rw [fault]
    exact Or.inr ⟨_, .tooLong long, rfl⟩

end FileSystem

end ReleaseBundle
