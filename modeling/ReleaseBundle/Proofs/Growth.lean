import ReleaseBundle.Proofs.Walk

/-!
# Trees that grow

Building takes no node away: it **writes** files, where there was a file or
nothing, and **makes** directories where there was nothing.  `t.Grown W M u` says
that `u` is `t` with files written at locations of `W` and directories made at
locations of `M`, and otherwise the same.

A path leads to the same place in the grown tree, as far as it led there before
(`walk_grows`).  A path that led nowhere may come to lead somewhere through a new
directory.  Through a new file it leads nowhere either, but for another reason: what
was not found lies below something that is not a directory (`WalkGrows.blocked`).
-/

namespace ReleaseBundle.FileSystem

/-- What may become of a node, where writing and making directories are allowed
or not. -/
inductive NodeGrows (written made : Prop) : Option Node → Option Node → Prop where
  | same (node : Option Node) : NodeGrows written made node node
  | written (w : written) (bytes : ByteArray) : NodeGrows written made none (some (.file bytes))
  | rewritten (w : written) (before after : ByteArray) :
      NodeGrows written made (some (.file before)) (some (.file after))
  | made (m : made) : NodeGrows written made none (some .directory)

namespace NodeGrows

variable {written made : Prop} {n n' n'' : Option Node}

theorem trans (h : NodeGrows written made n n') (h' : NodeGrows written made n' n'') :
    NodeGrows written made n n'' := by
  cases h with
  | same => exact h'
  | written w =>
    cases h' with
    | same => exact .written w _
    | rewritten _ _ after => exact .written w after
  | rewritten w before =>
    cases h' with
    | same => exact .rewritten w before _
    | rewritten _ _ after => exact .rewritten w before after
  | made m =>
    cases h' with
    | same => exact .made m

theorem mono {written' made' : Prop} (h : NodeGrows written made n n')
    (hw : written → written') (hm : made → made') : NodeGrows written' made' n n' := by
  cases h with
  | same => exact .same _
  | written w => exact .written (hw w) _
  | rewritten w => exact .rewritten (hw w) _ _
  | made m => exact .made (hm m)

/-- Directories and links stay as they are. -/
theorem directory (h : NodeGrows written made (some .directory) n') : n' = some .directory := by
  cases h
  rfl

theorem link {target : List UInt8} (h : NodeGrows written made (some (.link target)) n') :
    n' = some (.link target) := by
  cases h
  rfl

/-- A file stays as it is where none is written. -/
theorem unwritten {bytes : ByteArray} (h : NodeGrows written made (some (.file bytes)) n')
    (hw : ¬ written) : n' = some (.file bytes) := by
  cases h with
  | same => rfl
  | rewritten w => exact absurd w hw

/-- Where no file is written, at most a directory is made. -/
theorem cases_made (h : NodeGrows False made n n') :
    n' = n ∨ made ∧ n = none ∧ n' = some .directory := by
  cases h with
  | same => exact Or.inl rfl
  | written w => exact w.elim
  | rewritten w => exact w.elim
  | made m => exact Or.inr ⟨m, rfl, rfl⟩

/-- Nothing is taken away. -/
theorem of_none (h : NodeGrows written made n none) : n = none := by
  cases h
  rfl

/-- Links were there before. -/
theorem of_link {target : List UInt8} (h : NodeGrows written made n (some (.link target))) :
    n = some (.link target) := by
  cases h
  rfl

theorem directory_iff (h : NodeGrows written made n n') (hm : ¬ made) :
    n' = some .directory ↔ n = some .directory := by
  cases h with
  | same => exact .rfl
  | written => simp
  | rewritten => simp
  | made m => exact absurd m hm

theorem eq_of_not_written (h : NodeGrows written made n n') (hw : ¬ written) (hm : ¬ made) :
    n' = n := by
  cases h with
  | same => rfl
  | written w => exact absurd w hw
  | rewritten w => exact absurd w hw
  | made m => exact absurd m hm

end NodeGrows

variable {t u v : FileSystem} {W M : Location → Prop}

/-- A tree with files written at some locations and directories made at others. -/
structure Grown (W M : Location → Prop) (t u : FileSystem) : Prop where
  workDir : u.workDir = t.workDir
  node : ∀ l, NodeGrows (W l) (M l) (t.lookup? l) (u.lookup? l)

/-- A tree with files written at some locations, and nothing else changed. -/
abbrev Written (W : Location → Prop) (t u : FileSystem) : Prop := Grown W (fun _ => False) t u

namespace Grown

theorem refl (t : FileSystem) : Grown W M t t := ⟨rfl, fun _ => .same _⟩

theorem trans (h : Grown W M t u) (h' : Grown W M u v) : Grown W M t v :=
  ⟨h'.workDir.trans h.workDir, fun l => (h.node l).trans (h'.node l)⟩

theorem mono {W' M' : Location → Prop} (h : Grown W M t u) (hw : ∀ l, W l → W' l)
    (hm : ∀ l, M l → M' l) : Grown W' M' t u :=
  ⟨h.workDir, fun l => (h.node l).mono (hw l) (hm l)⟩

theorem lookup?_eq (h : Grown W M t u) {l : Location} (hw : ¬ W l) (hm : ¬ M l) :
    u.lookup? l = t.lookup? l :=
  (h.node l).eq_of_not_written hw hm

theorem directory (h : Grown W M t u) {l : Location} (hl : t.lookup? l = some .directory) :
    u.lookup? l = some .directory := by
  have grows := h.node l
  rw [hl] at grows
  exact grows.directory

end Grown

theorem ne_nil_of_lookup? {l : Location} (h : t.lookup? l ≠ some .directory) : l ≠ [] := by
  rintro rfl
  exact h (by simp [lookup?])

/-- Putting a file where there is a file or nothing. -/
theorem grown_put_file {l : Location} (hw : W l) (bytes : ByteArray)
    (free : t.lookup? l = none ∨ ∃ before, t.lookup? l = some (.file before)) :
    Grown W M t (t.put l (.file bytes)) := by
  have hl : l ≠ [] := ne_nil_of_lookup? (t := t) (by rcases free with h | ⟨_, h⟩ <;> simp [h])
  refine ⟨rfl, fun k => ?_⟩
  rw [lookup?_put t hl]
  split
  · rename_i here
    subst here
    rcases free with h | ⟨before, h⟩ <;> rw [h]
    · exact .written hw bytes
    · exact .rewritten hw before bytes
  · exact .same _

/-- Putting a directory where there is nothing. -/
theorem grown_put_directory {l : Location} (hm : M l) (free : t.lookup? l = none) :
    Grown W M t (t.put l .directory) := by
  have hl : l ≠ [] := ne_nil_of_lookup? (t := t) (by simp [free])
  refine ⟨rfl, fun k => ?_⟩
  rw [lookup?_put t hl]
  split
  · rename_i here
    subst here
    rw [free]
    exact .made hm
  · exact .same _

/-- The same node put into both trees. -/
theorem Grown.put (h : Grown W M t u) {l : Location} (hl : l ≠ []) (node : Node) :
    Grown W M (t.put l node) (u.put l node) := by
  refine ⟨h.workDir, fun k => ?_⟩
  rw [lookup?_put t hl, lookup?_put u hl]
  split
  · exact .same _
  · exact h.node k

/-! ## Walks in a grown tree -/

/-- The locations that a walk comes by: where it stands before each stride, and
what the segment read there names. -/
inductive ComesBy (t : FileSystem) (ending : Ending) : Nat → Location → List Name → Location → Prop
    where
  | here {links : Nat} {here : Location} {segments : List Name} :
      ComesBy t ending links here segments here
  | name {links : Nat} {here : Location} {segment : Name} {rest : List Name}
      (stands : t.lookup? here = some .directory) (plain : Path.isIdle segment = false)
      (down : segment ≠ [dot, dot]) :
      ComesBy t ending links here (segment :: rest) (here ++ [segment])
  | later {links links' : Nat} {here here' l : Location} {segments segments' : List Name}
      (on : t.stride ending links here segments = .go links' here' segments')
      (after : ComesBy t ending links' here' segments' l) : ComesBy t ending links here segments l

/-- How the end of a walk may change in a grown tree. -/
inductive WalkGrows (W M : Location → Prop) : Except IoError Place → Except IoError Place → Prop
    where
  | same (result : Except IoError Place) : WalkGrows W M result result
  | place {l : Location} {n n' : Option Node} (grows : NodeGrows (W l) (M l) n n') :
      WalkGrows W M (.ok ⟨l, n⟩) (.ok ⟨l, n'⟩)
  | blocked {l : Location} (w : W l) : WalkGrows W M (.error .notFound) (.error .notADirectory)
  | opened {l : Location} (m : M l) (e : IoError) (result : Except IoError Place) :
      WalkGrows W M (.error e) result

theorem WalkGrows.mono {W' M' : Location → Prop} {r r' : Except IoError Place}
    (h : WalkGrows W M r r') (hw : ∀ l, W l → W' l) (hm : ∀ l, M l → M' l) :
    WalkGrows W' M' r r' := by
  cases h with
  | same => exact .same _
  | place grows => exact .place (grows.mono (hw _) (hm _))
  | blocked w => exact .blocked (hw _ w)
  | opened m => exact .opened (hm _ m) _ _

theorem WalkGrows.ok {l : Location} {n : Option Node} {r : Except IoError Place}
    (h : WalkGrows W M (.ok ⟨l, n⟩) r) : ∃ n', r = .ok ⟨l, n'⟩ ∧ NodeGrows (W l) (M l) n n' := by
  cases h with
  | same => exact ⟨n, rfl, .same n⟩
  | place grows => exact ⟨_, rfl, grows⟩

/-- Where no directories are made, a path leads to the same place or stays lost. -/
theorem WalkGrows.cases_written {r r' : Except IoError Place}
    (h : WalkGrows W (fun _ => False) r r') :
    r' = r ∨ (∃ l n n', r = .ok ⟨l, n⟩ ∧ r' = .ok ⟨l, n'⟩ ∧ NodeGrows (W l) False n n') ∨
      ∃ l, W l ∧ r = .error .notFound ∧ r' = .error .notADirectory := by
  cases h with
  | same => exact Or.inl rfl
  | place grows => exact Or.inr (Or.inl ⟨_, _, _, rfl, rfl, grows⟩)
  | blocked w => exact Or.inr (Or.inr ⟨_, w, rfl, rfl⟩)
  | opened m => exact m.elim

/-- How a stride may change in a grown tree: it stays the same, or it ends the walk
and the end grows. -/
inductive StrideGrows (W M : Location → Prop) : Stride → Stride → Prop where
  | same (s : Stride) : StrideGrows W M s s
  | stop {r r' : Except IoError Place} (grows : WalkGrows W M r r') :
      StrideGrows W M (.stop r) (.stop r')
  | opened {l : Location} (m : M l) (e : IoError) (s : Stride) :
      StrideGrows W M (.stop (.error e)) s

theorem StrideGrows.go {links : Nat} {here : Location} {segments : List Name} {s : Stride}
    (h : StrideGrows W M (.go links here segments) s) : s = .go links here segments := by
  cases h
  rfl

theorem enter_grows {ending : Ending} {links : Nat} {here : Location} {segment : Name}
    {rest : List Name} {n n' : Option Node}
    (h : NodeGrows (W (here ++ [segment])) (M (here ++ [segment])) n n') :
    StrideGrows W M (enter ending links here segment rest n)
      (enter ending links here segment rest n') := by
  by_cases last : rest = []
  · subst last
    cases h with
    | same => exact .same _
    | written w bytes => exact .stop (.place (.written w bytes))
    | rewritten w before after => exact .stop (.place (.rewritten w before after))
    | made m => exact .stop (.place (.made m))
  · cases h with
    | same => exact .same _
    | written w =>
      simp only [enter, if_neg last]
      exact .stop (.blocked w)
    | rewritten =>
      simp only [enter, if_neg last]
      exact .same _
    | made m =>
      simp only [enter, if_neg last]
      exact .opened m _ _

/-- **A stride in a grown tree**: only what the stride looks at counts. -/
theorem stride_grows (h : Grown W M t u) (ending : Ending) (links : Nat) (here : Location)
    (segments : List Name) :
    StrideGrows (fun l => W l ∧ ComesBy t ending links here segments l) M
      (t.stride ending links here segments) (u.stride ending links here segments) := by
  have grows : NodeGrows (W here ∧ ComesBy t ending links here segments here) (M here)
      (t.lookup? here) (u.lookup? here) := (h.node here).mono (fun w => ⟨w, .here⟩) id
  cases segments with
  | nil => exact .stop (.place grows)
  | cons segment rest =>
    by_cases stands : t.lookup? here = some .directory
    · rw [stride_of_directory stands, stride_of_directory (h.directory stands)]
      by_cases idle : Path.isIdle segment = true
      · rw [if_pos idle, if_pos idle]
        exact .same _
      by_cases up : segment = [dot, dot]
      · rw [if_neg idle, if_neg idle, if_pos up, if_pos up]
        exact .same _
      rw [if_neg idle, if_neg idle, if_neg up, if_neg up]
      split
      · exact .same _
      split
      · exact .same _
      · refine enter_grows ((h.node _).mono (fun w => ⟨w, ?_⟩) id)
        exact .name stands (by simpa using idle) up
    · rw [stride_of_not_directory stands]
      -- Where no directory stood, one may have been made; nothing else lets a walk go on.
      by_cases stands' : u.lookup? here = some .directory
      · rw [stands'] at grows
        cases free : t.lookup? here with
        | none =>
          rw [free] at grows
          cases grows with
          | made m => exact .opened m _ _
        | some node =>
          rw [free] at grows
          cases grows
          exact absurd free stands
      · rw [stride_of_not_directory stands']
        exact .same _

/-- **A walk in a grown tree** ends as before, but for what the walk comes by. -/
theorem walk_grows (h : Grown W M t u) (ending : Ending) (links : Nat) (here : Location)
    (segments : List Name) :
    WalkGrows (fun l => W l ∧ ComesBy t ending links here segments l) M
      (t.walk ending links here segments) (u.walk ending links here segments) := by
  induction links, here, segments using walk_induction t ending with
  | step links here segments ih =>
    have grows := stride_grows h ending links here segments
    rw [walk_eq_stride t, walk_eq_stride u]
    generalize u.stride ending links here segments = after at grows ⊢
    cases strides : t.stride ending links here segments with
    | stop result =>
      rw [strides] at grows
      cases grows with
      | same => exact .same _
      | stop grows => exact grows
      | opened m => exact .opened m _ _
    -- A stride that goes on is the same stride in both trees, and the rest grows.
    | go links' here' segments' =>
      rw [strides] at grows
      cases grows with
      | same =>
        exact (ih links' here' segments' strides).mono (fun l w => ⟨w.1, .later strides w.2⟩)
          fun _ m => m

/-- A directory made where a path leads is found by that path, whatever slashes are
behind it. -/
theorem walk_put_directory {links : Nat} {here : Location} {segments : List Name} {l : Location}
    (count : Nat) (free : t.walk .atLink links here segments = .ok ⟨l, none⟩) :
    (t.put l .directory).walk .followed links here (segments ++ List.replicate count []) =
      .ok ⟨l, some .directory⟩ := by
  have nothing : t.lookup? l = none := lookup?_of_walk free
  have grown : Grown (fun _ => False) (fun k => k = l) t (t.put l .directory) :=
    grown_put_directory rfl nothing
  have made : (t.put l .directory).lookup? l = some .directory := by
    rw [lookup?_put t (ne_nil_of_lookup? (t := t) (by simp [nothing])), if_pos rfl]
  induction links, here, segments using walk_induction t .atLink with
  | step links here segments ih =>
    cases segments with
    | nil =>
      rw [walk_nil] at free
      obtain ⟨rfl, -⟩ := Place.mk.inj (Except.ok.inj free)
      exact walk_slashes count made
    | cons segment rest =>
      rw [walk_eq_stride] at free ⊢
      cases strides : t.stride .atLink links here (segment :: rest) with
      | go links' here' segments' =>
        rw [strides] at free
        have on : t.stride .followed links here (segment :: rest ++ List.replicate count []) =
            .go links' here' (segments' ++ List.replicate count []) :=
          stride_append strides (Or.inr nofun) nofun
        have same := stride_grows grown .followed links here
          (segment :: rest ++ List.replicate count [])
        rw [on] at same
        rw [same.go]
        exact ih links' here' segments' strides free
      | stop result =>
        rw [strides] at free
        obtain rfl : result = .ok ⟨l, none⟩ := free
        obtain ⟨stands, plain, down, short, rfl, place, -⟩ := eq_of_stride_ok strides
        obtain ⟨rfl, -⟩ := Place.mk.inj place
        rw [List.singleton_append, stride_of_name .followed (grown.directory stands) plain down
          (fun slashes => nomatch slashes.1) short, made]
        cases count with
        | zero => rfl
        | succ count => exact walk_slashes (count + 1) made

end ReleaseBundle.FileSystem
