import ReleaseBundle.Proofs.Effect
import ReleaseBundle.Proofs.MakingDirectories

/-!
# Programs let a tree grow

No operation takes a node away.  Writing puts a file where there is a file or nothing,
or fails and changes nothing (`writeBytes_cases`); so does a copy (`copy_cases`); and
directories are made where there was nothing.  Whatever a program asks for, and whether
it succeeds, the tree it leaves has **grown** (`Program.grows_effect`).

A path that leads to a file therefore does so forever (`isFile_of_grown`), and a path
that has been written to, by whatever text, leads to a file from then on
(`isFile_of_writeBytes`).
-/

namespace ReleaseBundle

namespace FileSystem

variable {t u v : FileSystem} {W M : Location → Prop} {p source target : Path} {bytes : ByteArray}

/-- A tree with files written and directories made, wherever that may be. -/
abbrev Grows (t u : FileSystem) : Prop := Grown (fun _ => True) (fun _ => True) t u

theorem Grown.grows (h : Grown W M t u) : t.Grows u :=
  h.mono (fun _ _ => trivial) fun _ _ => trivial

/-- A place where a file can be put: there is a file or nothing. -/
def Free (t : FileSystem) (l : Location) : Prop :=
  t.lookup? l = none ∨ ∃ before, t.lookup? l = some (.file before)

theorem Free.ne_nil {l : Location} (free : t.Free l) : l ≠ [] :=
  ne_nil_of_lookup? (t := t) (by rcases free with h | ⟨_, h⟩ <;> simp [h])

theorem Free.written {l : Location} (free : t.Free l) (bytes : ByteArray) :
    Written (fun k => k = l) t (t.put l (.file bytes)) := by
  refine grown_put_file ?_ bytes free
  rfl

theorem Free.lookup?_put_self {l : Location} (free : t.Free l) (node : Node) :
    (t.put l node).lookup? l = some node := by
  rw [lookup?_put t free.ne_nil, if_pos rfl]

/-! ## Where paths lead -/

section

variable {l k : Location}

/-- A path leads to a location, whatever is there. -/
def LeadsTo (t : FileSystem) (p : Path) (l : Location) : Prop :=
  ∃ n, t.resolve .followed p = .ok ⟨l, n⟩

namespace LeadsTo

theorem unique (h : t.LeadsTo p l) (h' : t.LeadsTo p k) : l = k := by
  obtain ⟨n, found⟩ := h
  obtain ⟨n', found'⟩ := h'
  exact (Place.mk.inj (Except.ok.inj (found.symm.trans found'))).1

theorem node?_eq (h : t.LeadsTo p l) : t.node? p = t.lookup? l := by
  obtain ⟨n, found⟩ := h
  rw [node?, found]
  exact (lookup?_of_resolve found).symm

theorem grown (h : t.LeadsTo p l) (grown : Grown W M t u) : u.LeadsTo p l := by
  obtain ⟨n, found⟩ := h
  exact ⟨_, resolve_of_grown grown found⟩

end LeadsTo

/-- Writing files leads no path elsewhere. -/
theorem leadsTo_iff_of_written (h : Written W t u) : u.LeadsTo p l ↔ t.LeadsTo p l := by
  constructor
  · rintro ⟨n, found⟩
    exact ⟨_, resolve_of_written h found⟩
  · exact fun leads => leads.grown h

/-- A file that is not written over can still be found. -/
theorem node?_of_written (h : Written W t u) (free : ∀ l, t.LeadsTo p l → ¬ W l) :
    u.node? p = t.node? p := by
  have grows := (resolve_grows h .followed p).cases_written
  rw [node?, node?]
  obtain same | ⟨l, n, n', found, found', grows⟩ | ⟨l, -, lost, lost'⟩ := grows
  · rw [same]
  · rw [found, found', grows.eq_of_not_written (fun w => free l ⟨n, found⟩ w.1) id]
  · rw [lost, lost']

/-- A plain name in a directory leads to its place there, if anywhere. -/
theorem eq_of_leadsTo_child {dir : Path} {home : Location} {name : Name}
    (opens : t.Opens dir home) (plain : Path.IsName name)
    (straight : ¬ t.IsLink (dir.child name)) (leads : t.LeadsTo (dir.child name) l) :
    l = home ++ [name] := by
  obtain ⟨n, found⟩ := leads
  cases fault : childFault? dir name with
  | some cause =>
    rw [opens.resolve_of_fault plain fault] at found
    cases found
  | none =>
    rw [opens.resolve_child plain fault straight] at found
    exact (Place.mk.inj (Except.ok.inj found)).1.symm

end

/-! ## Paths that files are written to -/

/-- A stride on the way to a file is the stride that only looks, unless it is refused
for the slashes behind a name. -/
theorem stride_asFile (t : FileSystem) (links : Nat) (here : Location) (segments : List Name) :
    t.stride .asFile links here segments = .stop (.error .isADirectory) ∨
      t.stride .followed links here segments = t.stride .asFile links here segments := by
  cases segments with
  | nil => exact Or.inr rfl
  | cons segment rest =>
    by_cases stands : t.lookup? here = some .directory
    · have looking : ¬ (Ending.followed = .asFile ∧ rest ≠ [] ∧ rest.all List.isEmpty) :=
        fun slashes => nomatch slashes.1
      rw [stride_of_directory stands, stride_of_directory stands, if_neg looking]
      by_cases idle : Path.isIdle segment = true
      · exact Or.inr (by rw [if_pos idle, if_pos idle])
      by_cases up : segment = [dot, dot]
      · exact Or.inr (by rw [if_neg idle, if_neg idle, if_pos up, if_pos up])
      rw [if_neg idle, if_neg idle, if_neg up, if_neg up]
      split
      · exact Or.inl rfl
      · refine Or.inr ?_
        split
        · rfl
        · cases t.lookup? (here ++ [segment]) with
          | none => rfl
          | some node =>
            cases node with
            | file => rfl
            | directory => rfl
            | link target => simp only [enter, reduceCtorEq, and_false, if_false]
    · exact Or.inr (by rw [stride_of_not_directory stands, stride_of_not_directory stands])

theorem walk_followed_of_asFile {links : Nat} {here : Location} {segments : List Name}
    {place : Place} (h : t.walk .asFile links here segments = .ok place) :
    t.walk .followed links here segments = .ok place := by
  induction links, here, segments using walk_induction t .asFile with
  | step links here segments ih =>
    rw [walk_eq_stride] at h ⊢
    obtain refused | same := stride_asFile t links here segments
    · rw [refused] at h
      cases h
    · rw [same]
      cases strides : t.stride .asFile links here segments with
      | stop result => rwa [strides] at h
      | go links' here' segments' =>
        rw [strides] at h
        exact ih links' here' segments' strides h

/-- **Where a file can be written, it is found.** -/
theorem resolve_followed_of_asFile {place : Place} (h : t.resolve .asFile p = .ok place) :
    t.resolve .followed p = .ok place := by
  obtain ⟨sound, walked⟩ := walk_of_resolve h
  rw [resolve_eq, sound]
  exact walk_followed_of_asFile walked

/-- **Writing puts a file** where there is a file or nothing, or it changes nothing. -/
theorem writeBytes_cases (t : FileSystem) (p : Path) (bytes : ByteArray) :
    (∃ l, t.Free l ∧ t.resolve .asFile p = .ok ⟨l, t.lookup? l⟩ ∧
        t.writeBytes p bytes = (.ok (), t.put l (.file bytes))) ∨
      ∃ cause, t.writeBytes p bytes = (.error cause, t) := by
  rw [writeBytes]
  cases resolved : t.resolve .asFile p with
  | error cause => exact Or.inr ⟨cause, rfl⟩
  | ok place =>
    obtain ⟨l, found⟩ := place
    have there := lookup?_of_resolve resolved
    cases found with
    | none => exact Or.inl ⟨l, Or.inl there, by rw [there], rfl⟩
    | some node =>
      cases node with
      | file before => exact Or.inl ⟨l, Or.inr ⟨before, there⟩, by rw [there], rfl⟩
      | directory => exact Or.inr ⟨.isADirectory, rfl⟩
      | link target => exact Or.inr ⟨.tooManyLinks, rfl⟩

theorem put_of_writeBytes (wrote : t.writeBytes p bytes = (.ok (), u)) :
    ∃ l, t.Free l ∧ t.resolve .asFile p = .ok ⟨l, t.lookup? l⟩ ∧ u = t.put l (.file bytes) := by
  obtain ⟨l, free, found, outcome⟩ | ⟨cause, outcome⟩ := writeBytes_cases t p bytes
  · exact ⟨l, free, found, (Prod.mk.inj (wrote.symm.trans outcome)).2⟩
  · cases wrote.symm.trans outcome

theorem grows_writeBytes (t : FileSystem) (p : Path) (bytes : ByteArray) :
    t.Grows (t.writeBytes p bytes).2 := by
  obtain ⟨l, free, -, outcome⟩ | ⟨cause, outcome⟩ := writeBytes_cases t p bytes
  · rw [outcome]
    exact (free.written bytes).grows
  · rw [outcome]
    exact .refl t

/-! ## Paths that lead to files -/

theorem isFile_iff :
    t.isFile p = true ↔ ∃ l bytes, t.resolve .followed p = .ok ⟨l, some (.file bytes)⟩ := by
  rw [isFile]
  constructor
  · intro h
    split at h
    · rename_i bytes found
      obtain ⟨l, there⟩ := node?_eq_some_iff.mp found
      exact ⟨l, bytes, there⟩
    · cases h
  · rintro ⟨l, bytes, there⟩
    rw [node?_eq_some_iff.mpr ⟨l, there⟩]

/-- **A path that leads to a file goes on doing so.** -/
theorem isFile_of_grown (h : Grown W M t u) (file : t.isFile p = true) : u.isFile p = true := by
  obtain ⟨l, bytes, found⟩ := isFile_iff.mp file
  have grows := h.node l
  rw [lookup?_of_resolve found] at grows
  have there := resolve_of_grown h found
  generalize u.lookup? l = node at grows there
  cases grows with
  | same => exact isFile_iff.mpr ⟨l, bytes, there⟩
  | rewritten _ _ after => exact isFile_iff.mpr ⟨l, after, there⟩

/-- **What has been written to is a file.** -/
theorem isFile_of_writeBytes (wrote : t.writeBytes p bytes = (.ok (), u)) : u.isFile p = true := by
  obtain ⟨l, free, found, rfl⟩ := put_of_writeBytes wrote
  have there := resolve_of_grown (free.written bytes) (resolve_followed_of_asFile found)
  rw [free.lookup?_put_self] at there
  exact isFile_iff.mpr ⟨l, bytes, there⟩

/-! ## Copies -/

/-- **A copy puts a file** where there is a file or nothing, or it changes nothing: then
there is no source, or the target cannot be opened.  What it puts is what the source holds,
unless source and target are one file: it is emptied before it is read. -/
theorem copy_cases (t : FileSystem) (source target : Path) :
    (∃ l before k u, t.resolve .followed source = .ok ⟨l, some (.file before)⟩ ∧
        t.resolve .followed target = .ok ⟨k, t.lookup? k⟩ ∧ Written (fun j => j = k) t u ∧
        u.lookup? k = some (.file (if l = k then ByteArray.empty else before)) ∧
        t.copy source target = (.ok (), u)) ∨
      ∃ cause, t.copy source target = (.error cause, t) ∧
        (t.isFile source = false ∨ t.writeBytes target ByteArray.empty = (.error cause, t)) := by
  rw [copy, isFile, node?]
  cases resolved : t.resolve .followed source with
  | error cause => exact Or.inr ⟨cause, rfl, Or.inl rfl⟩
  | ok place =>
    obtain ⟨l, found⟩ := place
    cases found with
    | none => exact Or.inr ⟨.notFound, rfl, Or.inl rfl⟩
    | some node =>
      cases node with
      | directory => exact Or.inr ⟨.isADirectory, rfl, Or.inl rfl⟩
      | link => exact Or.inr ⟨.tooManyLinks, rfl, Or.inl rfl⟩
      | file before =>
        obtain ⟨k, free, there, outcome⟩ | ⟨cause, outcome⟩ :=
          writeBytes_cases t target ByteArray.empty
        · -- The target has been opened, and now holds nothing.
          have opened := free.written ByteArray.empty
          have empty := free.lookup?_put_self (.file ByteArray.empty)
          have there' := resolve_of_grown opened (resolve_followed_of_asFile there)
          have still : (t.put k (.file ByteArray.empty)).resolve .asFile target =
              .ok ⟨k, some (.file ByteArray.empty)⟩ := by
            rw [resolve_of_grown opened there, empty]
          have filled : ∀ bytes,
              (t.put k (.file ByteArray.empty)).writeBytes target bytes =
                (.ok (), (t.put k (.file ByteArray.empty)).put k (.file bytes)) := fun bytes => by
            rw [writeBytes, still]
          have again : (t.put k (.file ByteArray.empty)).Free k := Or.inr ⟨_, empty⟩
          refine Or.inl ⟨l, before, k, _, rfl, resolve_followed_of_asFile there,
            opened.trans (again.written (if l = k then ByteArray.empty else before)),
            again.lookup?_put_self _, ?_⟩
          rw [outcome]
          dsimp only
          by_cases same : l = k
          · rw [same, empty, if_pos rfl]
            exact filled _
          · rw [lookup?_put t free.ne_nil, if_neg same, lookup?_of_resolve resolved, if_neg same]
            exact filled _
        · exact Or.inr ⟨cause, by rw [outcome], Or.inr outcome⟩

/-- What a copy has done. -/
theorem exists_of_copy (copied : t.copy source target = (.ok (), u)) :
    ∃ k l before, t.LeadsTo source k ∧ t.LeadsTo target l ∧
      t.lookup? k = some (.file before) ∧ Written (fun j => j = l) t u ∧
      u.lookup? l = some (.file (if k = l then ByteArray.empty else before)) := by
  obtain ⟨k, before, l, v, found, there, written, held, outcome⟩ | ⟨cause, outcome, -⟩ :=
    copy_cases t source target
  · obtain rfl : u = v := (Prod.mk.inj (copied.symm.trans outcome)).2
    exact ⟨k, l, before, ⟨_, found⟩, ⟨_, there⟩, lookup?_of_resolve found, written, held⟩
  · cases copied.symm.trans outcome

/-- A copy that succeeds has opened its target. -/
theorem exists_opened_of_copy (copied : t.copy source target = (.ok (), u)) :
    ∃ v, t.writeBytes target ByteArray.empty = (.ok (), v) := by
  rcases opened : t.writeBytes target ByteArray.empty with ⟨cause | ⟨⟩, v⟩
  · rw [copy, opened] at copied
    split at copied <;> cases copied
  · exact ⟨v, rfl⟩

/-- A copy succeeds if its source is a file and its target can be opened. -/
theorem exists_copy (file : t.isFile source = true)
    (opened : t.writeBytes target ByteArray.empty = (.ok (), v)) :
    ∃ u, t.copy source target = (.ok (), u) := by
  obtain ⟨-, -, -, u, -, -, -, -, copied⟩ | ⟨cause, -, lost | stuck⟩ := copy_cases t source target
  · exact ⟨u, copied⟩
  · cases file.symm.trans lost
  · cases opened.symm.trans stuck

theorem grows_copy (t : FileSystem) (source target : Path) :
    t.Grows (t.copy source target).2 := by
  obtain ⟨l, before, k, u, -, -, written, -, outcome⟩ | ⟨cause, outcome, -⟩ :=
    copy_cases t source target
  · rw [outcome]
    exact written.grows
  · rw [outcome]
    exact .refl t

/-! ## Runs -/

/-- **One operation lets the tree grow**, however it goes. -/
theorem grows_answer (t : FileSystem) (r : Request) : t.Grows (t.answer r).2 := by
  cases r with
  | readText => exact .refl t
  | isFile => exact .refl t
  | visitsFrom => exact .refl t
  | note => exact .refl t
  | ensureDirectory path => exact (grows_ensureAll t path.lineage).grows
  | writeText path text => exact grows_writeBytes t path text.toUTF8
  | copy source target => exact grows_copy t source target

end FileSystem

/-- **A program lets the tree grow.** -/
theorem Program.grows_effect {α : Type} (program : Program α) (t : FileSystem) :
    t.Grows (program.effect t).2 := by
  induction program generalizing t with
  | done => exact .refl t
  | ask r next ih => exact (t.grows_answer r).trans (ih (t.answer r).1 (t.answer r).2)

theorem Attempt.grows_of_effect {ε α : Type} {attempt : Attempt ε α} {t u : FileSystem}
    {result : Except ε α} (ran : attempt.effect t = (result, u)) : t.Grows u := by
  have grows : t.Grows (attempt.effect t).2 := Program.grows_effect attempt.outcome t
  rwa [ran] at grows

end ReleaseBundle
