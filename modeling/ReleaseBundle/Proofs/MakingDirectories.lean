import Mathlib.Data.List.TakeWhile
import ReleaseBundle.Proofs.Directory

/-!
# Making directories

A directory that is there already is left alone (`ensureDirectory_of_isDirectory`),
and one that is made is there afterwards (`exists_opens_of_ensureDirectory`).  Between
the two the tree grows by directories only, where there was nothing
(`grown_of_ensureAll`).  Files that are written before a directory is made can get
in its way, but if they do not, it is made as if they were not there
(`ensureAll_of_written`).
-/

namespace ReleaseBundle.FileSystem

variable {t u v : FileSystem} {W M : Location → Prop} {p : Path}

/-! ## Slashes behind the last name -/

theorem spelling_eq_withoutSlashes (p : Path) :
    ∃ count, p.spelling = withoutSlashes p ++ List.replicate count slash := by
  have split := List.takeWhile_append_dropWhile (p := (· = slash)) (l := p.spelling.reverse)
  refine ⟨(p.spelling.reverse.takeWhile (· = slash)).length, ?_⟩
  have slashes : p.spelling.reverse.takeWhile (· = slash) =
      List.replicate (p.spelling.reverse.takeWhile (· = slash)).length slash :=
    List.eq_replicate_iff.mpr ⟨rfl, fun c mem => by simpa using List.mem_takeWhile_imp mem⟩
  rw [← List.reverse_inj, List.reverse_append, List.reverse_replicate, ← slashes, withoutSlashes,
    List.reverse_reverse, split]

theorem segments_append_slashes (spelling : List UInt8) (count : Nat) :
    Path.segments (spelling ++ List.replicate count slash) =
      Path.segments spelling ++ List.replicate count [] := by
  induction count generalizing spelling with
  | zero => simp
  | succ count ih =>
    rw [List.replicate_succ, Path.segments_append_slash,
      ← List.nil_append (List.replicate count slash),
      ih, Path.segments, List.singleton_append, List.replicate_succ]

/-- A directory is made by its path or by this path without the slashes at its end. -/
theorem madeBy_cases (p : Path) :
    madeBy p = p ∨ isTellable p = true ∧ (madeBy p).spelling ≠ [] ∧
      ∃ count, p.spelling = (madeBy p).spelling ++ List.replicate count slash := by
  rw [madeBy]
  split
  · exact Or.inl rfl
  · rename_i cut
    simp only [Bool.or_eq_true, decide_eq_true_eq, Bool.not_eq_true', not_or, Bool.not_eq_false]
      at cut
    refine Or.inr ⟨cut.2, by simpa using cut.1, ?_⟩
    simpa using spelling_eq_withoutSlashes p

theorem segments_madeBy (p : Path) :
    ∃ count, Path.segments p.spelling =
      Path.segments (madeBy p).spelling ++ List.replicate count [] := by
  obtain same | ⟨-, -, count, spelled⟩ := madeBy_cases p
  · exact ⟨0, by simp [same]⟩
  · exact ⟨count, by rw [spelled, segments_append_slashes]⟩

theorem startOf_madeBy (t : FileSystem) (p : Path) : t.startOf (madeBy p) = t.startOf p := by
  obtain same | ⟨-, ne, count, spelled⟩ := madeBy_cases p
  · rw [same]
  · obtain ⟨c, rest, cut⟩ := List.exists_cons_of_ne_nil ne
    simp only [startOf, Path.isAbsolute, spelled, cut, List.cons_append, List.head?_cons]

theorem pathFault?_madeBy (p : Path) : pathFault? (madeBy p) = pathFault? p := by
  obtain same | ⟨tellable, ne, count, spelled⟩ := madeBy_cases p
  · rw [same]
  · have size : (madeBy p).spelling.length ≤ p.spelling.length := by
      rw [spelled, List.length_append]
      exact Nat.le_add_right _ _
    have short : p.spelling.length ≤ pathLimit := by simpa [isTellable] using tellable
    have no_slash : (0 : UInt8) ≠ slash := by decide
    have nul : (madeBy p).spelling.contains 0 = p.spelling.contains 0 := by
      simp [spelled, no_slash]
    have some_spelling : p.spelling.isEmpty = false := by
      have longer : p.spelling ≠ [] := by simp [spelled, ne]
      simpa using longer
    have some_cut : (madeBy p).spelling.isEmpty = false := by simpa using ne
    simp only [pathFault?, some_spelling, some_cut, nul, Nat.not_lt.mpr short,
      Nat.not_lt.mpr (size.trans short)]

theorem resolve_madeBy (t : FileSystem) (ending : Ending) (p : Path) :
    t.resolve ending (madeBy p) =
      match pathFault? p with
      | some cause => .error cause
      | none => t.walk ending linkLimit (t.startOf p) (Path.segments (madeBy p).spelling) := by
  have walked := resolve_eq t ending (madeBy p)
  rw [pathFault?_madeBy, startOf_madeBy] at walked
  exact walked

/-! ## One directory -/

theorem isDirectory_iff :
    t.isDirectory p = true ↔ ∃ l, t.resolve .followed p = .ok ⟨l, some .directory⟩ := by
  rw [← node?_eq_some_iff, isDirectory]
  cases t.node? p with
  | none => simp
  | some node => cases node <;> simp

theorem isDirectory_of_written (h : Written W t u) (dir : u.isDirectory p = true) :
    t.isDirectory p = true := by
  obtain ⟨l, found⟩ := isDirectory_iff.mp dir
  have stood := ((h.node l).directory_iff id).mp (lookup?_of_resolve found)
  exact isDirectory_iff.mpr ⟨l, by rw [resolve_of_written h found, stood]⟩

/-- What is there already is not made. -/
theorem makeDirectory_of_isDirectory (dir : t.isDirectory p = true) :
    t.makeDirectory p = (.error .alreadyExists, t) := by
  obtain ⟨l, found⟩ := isDirectory_iff.mp dir
  obtain ⟨sound, walked⟩ := walk_of_resolve found
  obtain ⟨count, split⟩ := segments_madeBy p
  rw [split] at walked
  obtain ⟨k, node, there⟩ := exists_walk_atLink (walk_of_append_slashes walked)
  rw [makeDirectory, resolve_madeBy, sound]
  dsimp only
  rw [there]

/-- Making a directory succeeds where there was nothing, and else changes nothing. -/
theorem makeDirectory_cases (t : FileSystem) (p : Path) :
    (∃ l, t.resolve .atLink (madeBy p) = .ok ⟨l, none⟩ ∧
        t.makeDirectory p = (.ok (), t.put l .directory)) ∨
      ∃ cause, t.makeDirectory p = (.error cause, t) ∧
        (cause = .notFound ↔ t.resolve .atLink (madeBy p) = .error .notFound) := by
  rw [makeDirectory]
  cases t.resolve .atLink (madeBy p) with
  | error cause => exact Or.inr ⟨cause, rfl, by simp⟩
  | ok place =>
    obtain ⟨l, _ | node⟩ := place
    · exact Or.inl ⟨l, rfl, rfl⟩
    · exact Or.inr ⟨.alreadyExists, rfl, by simp⟩

/-- **A directory that is made is there**, in a place where nothing was. -/
theorem exists_of_makeDirectory (made : t.makeDirectory p = (.ok (), u)) :
    ∃ l, t.lookup? l = none ∧ u = t.put l .directory ∧
      u.resolve .followed p = .ok ⟨l, some .directory⟩ := by
  obtain ⟨l, free, outcome⟩ | ⟨cause, outcome, -⟩ := makeDirectory_cases t p
  · obtain rfl : t.put l .directory = u := (Prod.mk.inj (outcome.symm.trans made)).2
    refine ⟨l, lookup?_of_resolve free, rfl, ?_⟩
    rw [resolve_madeBy] at free
    rw [resolve_eq]
    cases fault : pathFault? p with
    | some cause =>
      rw [fault] at free
      cases free
    | none =>
      obtain ⟨count, split⟩ := segments_madeBy p
      rw [fault] at free
      dsimp only at free ⊢
      rw [split]
      exact walk_put_directory count free
  · rw [outcome] at made
    cases made

/-! ## With the directories around it -/

variable {outer : List Path}

theorem ensureAll_of_isDirectory (dir : t.isDirectory p = true) :
    t.ensureAll (p :: outer) = (.ok (), t) := by
  rw [ensureAll, makeDirectory_of_isDirectory dir]
  simp only [dir, if_true, ite_self]

theorem ensureAll_of_made (some_text : p.spelling.isEmpty = false)
    (made : t.makeDirectory p = (.ok (), u)) : t.ensureAll (p :: outer) = (.ok (), u) := by
  rw [ensureAll, some_text, made]
  rfl

/-- A directory is made after the one it lies in, unless it is there by then. -/
theorem ensureAll_of_outer (some_text : p.spelling.isEmpty = false)
    (missing : t.makeDirectory p = (.error .notFound, t))
    (around : t.ensureAll outer = (.ok (), u))
    (made : u.makeDirectory p = (.ok (), v) ∨ u.isDirectory p = true ∧ v = u) :
    t.ensureAll (p :: outer) = (.ok (), v) := by
  rw [ensureAll, some_text, missing]
  simp only [around]
  rcases made with made | ⟨dir, rfl⟩
  · rw [made]
    rfl
  · rw [makeDirectory_of_isDirectory dir]
    simp [dir]

/-- How a path comes to be a directory. -/
theorem ensureAll_cases (ensured : t.ensureAll (p :: outer) = (.ok (), v)) :
    p.spelling.isEmpty = true ∧ v = t ∨
      p.spelling.isEmpty = false ∧
        (t.isDirectory p = true ∧ v = t ∨ t.makeDirectory p = (.ok (), v) ∨
          ∃ u, t.makeDirectory p = (.error .notFound, t) ∧ t.ensureAll outer = (.ok (), u) ∧
            (u.makeDirectory p = (.ok (), v) ∨ u.isDirectory p = true ∧ v = u)) := by
  by_cases empty : p.spelling.isEmpty = true
  · rw [ensureAll_of_empty empty] at ensured
    exact Or.inl ⟨empty, (Prod.mk.inj ensured).2.symm⟩
  refine Or.inr ⟨by simpa using empty, ?_⟩
  by_cases dir : t.isDirectory p = true
  · rw [ensureAll_of_isDirectory dir] at ensured
    exact Or.inl ⟨dir, (Prod.mk.inj ensured).2.symm⟩
  -- Nothing is there yet: the directory is made at once, or after what it lies in.
  refine Or.inr ?_
  rw [ensureAll, if_neg empty] at ensured
  obtain ⟨l, -, made⟩ | ⟨cause, failed, -⟩ := makeDirectory_cases t p
  · rw [made] at ensured ⊢
    exact Or.inl ensured
  · by_cases missing : cause = .notFound
    · subst missing
      rw [failed] at ensured
      dsimp only at ensured
      rcases around : t.ensureAll outer with ⟨_ | ⟨⟩, u⟩
      · rw [around] at ensured
        cases ensured
      · rw [around] at ensured
        dsimp only at ensured
        refine Or.inr ⟨u, failed, rfl, ?_⟩
        obtain ⟨l, -, made⟩ | ⟨cause, failed', -⟩ := makeDirectory_cases u p
        · rw [made] at ensured ⊢
          exact Or.inl ensured
        · rw [failed'] at ensured
          dsimp only at ensured
          split at ensured
          · exact Or.inr ⟨‹_›, (Prod.mk.inj ensured).2.symm⟩
          · cases ensured
    · rw [failed] at ensured
      split at ensured
      · rename_i outcome
        cases outcome
      · rename_i outcome
        cases outcome
        exact absurd rfl missing
      · rw [if_neg dir] at ensured
        cases ensured

/-- The directories that some paths lead to. -/
def Along (t : FileSystem) (paths : List Path) (l : Location) : Prop :=
  ∃ q ∈ paths, t.resolve .followed q = .ok ⟨l, some .directory⟩

theorem Along.grown {l : Location} {paths : List Path} (along : t.Along paths l)
    (h : Grown W M t u) : u.Along paths l := by
  obtain ⟨q, mem, found⟩ := along
  refine ⟨q, mem, ?_⟩
  rw [resolve_of_grown h found, h.directory (lookup?_of_resolve found)]

theorem Along.mono {l : Location} {paths more : List Path} (along : t.Along paths l)
    (le : ∀ q ∈ paths, q ∈ more) : t.Along more l := by
  obtain ⟨q, mem, found⟩ := along
  exact ⟨q, le q mem, found⟩

theorem grown_makeDirectory (t : FileSystem) (p : Path) :
    Grown (fun _ => False) ((t.makeDirectory p).2.Along [p]) t (t.makeDirectory p).2 := by
  rcases outcome : t.makeDirectory p with ⟨_ | ⟨⟩, u⟩
  · obtain ⟨l, -, made⟩ | ⟨cause, failed, -⟩ := makeDirectory_cases t p
    · cases outcome.symm.trans made
    · cases outcome.symm.trans failed
      exact .refl t
  · obtain ⟨l, free, rfl, found⟩ := exists_of_makeDirectory outcome
    exact grown_put_directory ⟨p, List.mem_cons_self, found⟩ free

/-- **Making directories adds directories** on the way, and nothing else, however it
ends. -/
theorem grown_of_ensureAll (t : FileSystem) (paths : List Path) :
    Grown (fun _ => False) ((t.ensureAll paths).2.Along paths) t (t.ensureAll paths).2 := by
  induction paths with
  | nil => exact .refl t
  | cons p outer ih =>
    have here : ∀ u : FileSystem, Grown (fun _ => False)
        ((u.makeDirectory p).2.Along (p :: outer)) u (u.makeDirectory p).2 := fun u =>
      (grown_makeDirectory u p).mono (fun _ w => w) fun _ along => along.mono (by simp)
    rw [ensureAll]
    split
    · exact .refl t
    have first := here t
    split
    · rename_i made
      rwa [made] at first
    · rcases around : t.ensureAll outer with ⟨_ | ⟨⟩, u⟩
      · rw [around] at ih
        exact ih.mono (fun _ w => w) fun _ along => along.mono fun _ => List.mem_cons_of_mem p
      · rw [around] at ih
        have second := here u
        dsimp only
        split
        · rename_i made
          rw [made] at second
          -- What was made further out is still where its path leads.
          exact (ih.mono (fun _ w => w) fun _ along =>
            (along.grown second).mono fun _ => List.mem_cons_of_mem p).trans second
        · split <;> exact ih.mono (fun _ w => w) fun _ along =>
            along.mono fun _ => List.mem_cons_of_mem p
    · split <;> exact .refl t

theorem grown_ensureAll {paths : List Path} (ensured : t.ensureAll paths = (.ok (), v)) :
    Grown (fun _ => False) (v.Along paths) t v := by
  have grown := grown_of_ensureAll t paths
  rwa [ensured] at grown

/-- Whatever becomes of it, making directories adds directories only. -/
theorem grows_ensureAll (t : FileSystem) (paths : List Path) :
    Grown (fun _ => False) (fun _ => True) t (t.ensureAll paths).2 :=
  (grown_of_ensureAll t paths).mono (fun _ w => w) fun _ _ => trivial

theorem isDirectory_of_ensureAll (ensured : t.ensureAll (p :: outer) = (.ok (), v)) :
    p.spelling.isEmpty = true ∨ v.isDirectory p = true := by
  obtain ⟨empty, -⟩ | ⟨-, ⟨dir, rfl⟩ | made | ⟨u, -, -, made | ⟨dir, rfl⟩⟩⟩ :=
    ensureAll_cases ensured
  · exact Or.inl empty
  · exact Or.inr dir
  · obtain ⟨l, -, -, found⟩ := exists_of_makeDirectory made
    exact Or.inr (isDirectory_iff.mpr ⟨l, found⟩)
  · obtain ⟨l, -, -, found⟩ := exists_of_makeDirectory made
    exact Or.inr (isDirectory_iff.mpr ⟨l, found⟩)
  · exact Or.inr dir

/-! ## Beside written files -/

theorem makeDirectory_of_written (h : Written W t u) (made : u.makeDirectory p = (.ok (), v)) :
    ∃ s, t.makeDirectory p = (.ok (), s) ∧ Written W s v := by
  obtain ⟨l, free, outcome⟩ | ⟨cause, outcome, -⟩ := makeDirectory_cases u p
  · obtain rfl : u.put l .directory = v := (Prod.mk.inj (outcome.symm.trans made)).2
    have free' : t.resolve .atLink (madeBy p) = .ok ⟨l, none⟩ := by
      have grows := h.node l
      rw [lookup?_of_resolve free] at grows
      rw [resolve_of_written h free, grows.of_none]
    refine ⟨t.put l .directory, by rw [makeDirectory, free'], h.put ?_ .directory⟩
    exact ne_nil_of_lookup? (t := t) (by simp [lookup?_of_resolve free'])
  · rw [outcome] at made
    cases made

theorem makeDirectory_missing_of_written (h : Written W t u)
    (missing : u.makeDirectory p = (.error .notFound, u)) :
    t.makeDirectory p = (.error .notFound, t) := by
  obtain ⟨l, -, outcome⟩ | ⟨cause, outcome, why⟩ := makeDirectory_cases u p
  · rw [outcome] at missing
    cases missing
  · obtain rfl : cause = .notFound := Except.error.inj (Prod.mk.inj (outcome.symm.trans missing)).1
    have lost := why.mp rfl
    obtain same | ⟨k, n, n', -, hu, -⟩ | ⟨k, -, -, hu⟩ :=
      (resolve_grows h .atLink (madeBy p)).cases_written
    · rw [makeDirectory, ← same, lost]
    · rw [hu] at lost
      cases lost
    · rw [hu] at lost
      cases lost

/-- **Written files do not help to make directories**: where these can be made beside
the files, they can be made without them. -/
theorem ensureAll_of_written {paths : List Path} (h : Written W t u)
    (ensured : u.ensureAll paths = (.ok (), v)) :
    ∃ s, t.ensureAll paths = (.ok (), s) ∧ Written W s v := by
  induction paths generalizing t u v with
  | nil => cases ensured
  | cons p outer ih =>
    obtain ⟨empty, rfl⟩ | ⟨some_text, ⟨dir, rfl⟩ | made | ⟨w, missing, around, made⟩⟩ :=
      ensureAll_cases ensured
    · exact ⟨t, ensureAll_of_empty empty, h⟩
    · exact ⟨t, ensureAll_of_isDirectory (isDirectory_of_written h dir), h⟩
    · obtain ⟨s, made', written⟩ := makeDirectory_of_written h made
      exact ⟨s, ensureAll_of_made some_text made', written⟩
    · have missing' := makeDirectory_missing_of_written h missing
      obtain ⟨r, around', written⟩ := ih h around
      rcases made with made | ⟨dir, rfl⟩
      · obtain ⟨s, made', written'⟩ := makeDirectory_of_written written made
        exact ⟨s, ensureAll_of_outer some_text missing' around' (Or.inl made'), written'⟩
      · have dir' := isDirectory_of_written written dir
        exact ⟨r, ensureAll_of_outer some_text missing' around' (Or.inr ⟨dir', rfl⟩), written⟩

/-! ## By a path -/

theorem exists_lineage (p : Path) : ∃ outer, p.lineage = p :: outer := by
  rw [Path.lineage]
  cases p.spelling.length with
  | zero => exact ⟨[], rfl⟩
  | succ count =>
    rw [Path.lineageUpTo]
    split
    · exact ⟨[], rfl⟩
    · exact ⟨_, rfl⟩

/-- **A directory that is there is left alone.** -/
theorem ensureDirectory_of_isDirectory (dir : t.isDirectory p = true) :
    t.ensureDirectory p = (.ok (), t) := by
  obtain ⟨outer, split⟩ := exists_lineage p
  rw [ensureDirectory, split, ensureAll_of_isDirectory dir]

theorem ensureDirectory_of_empty (empty : p.spelling = []) : t.ensureDirectory p = (.ok (), t) := by
  obtain ⟨outer, split⟩ := exists_lineage p
  rw [ensureDirectory, split, ensureAll_of_empty (by simp [empty])]

theorem Opens.ensureDirectory {home : Location} (opens : t.Opens p home) :
    t.ensureDirectory p = (.ok (), t) := by
  cases opens with
  | path found => exact ensureDirectory_of_isDirectory (isDirectory_iff.mpr ⟨home, found⟩)
  | here empty => exact ensureDirectory_of_empty empty

theorem effect_ensureDirectory (ensured : t.ensureDirectory p = (.ok (), u)) :
    (ReleaseBundle.ensureDirectory p).effect t = (.ok (), u) := by
  have asked : (Attempt.request (.ensureDirectory p) : Build _).effect t =
      (.ok (t.ensureDirectory p).1, (t.ensureDirectory p).2) := Attempt.effect_request _ t
  rw [ensured] at asked
  exact Attempt.effect_orFail asked

theorem Opens.effect_ensureDirectory {home : Location} (opens : t.Opens p home) :
    (ReleaseBundle.ensureDirectory p).effect t = (.ok (), t) :=
  FileSystem.effect_ensureDirectory opens.ensureDirectory

/-- Names are looked up in a directory that was made. -/
theorem exists_opens_of_ensureDirectory (ensured : t.ensureDirectory p = (.ok (), u)) :
    p.spelling = [] ∨ ∃ home, u.Opens p home := by
  obtain ⟨outer, split⟩ := exists_lineage p
  rw [ensureDirectory, split] at ensured
  rcases isDirectory_of_ensureAll ensured with empty | dir
  · exact Or.inl (by simpa using empty)
  · obtain ⟨l, found⟩ := isDirectory_iff.mp dir
    exact Or.inr ⟨l, .path found⟩

/-- What has been made a directory need not be made again. -/
theorem ensureDirectory_of_grown (ensured : t.ensureDirectory p = (.ok (), u))
    (h : Grown W M u v) : v.ensureDirectory p = (.ok (), v) := by
  rcases exists_opens_of_ensureDirectory ensured with empty | ⟨home, opens⟩
  · exact ensureDirectory_of_empty empty
  · exact (opens.grown h).ensureDirectory

/-! ## One after the other -/

/-- The tree with directories made, one after the other. -/
def withDirectories (t : FileSystem) (dirs : List Path) : FileSystem :=
  dirs.foldl (fun t dir => (t.ensureDirectory dir).2) t

/-- Directories can all be made, one after the other. -/
def Ensures (t : FileSystem) : List Path → Prop
  | [] => True
  | dir :: dirs => ∃ u, t.ensureDirectory dir = (.ok (), u) ∧ u.Ensures dirs

theorem grows_withDirectories (t : FileSystem) (dirs : List Path) :
    Grown (fun _ => False) (fun _ => True) t (t.withDirectories dirs) := by
  induction dirs generalizing t with
  | nil => exact .refl t
  | cons dir dirs ih => exact (grows_ensureAll t dir.lineage).trans (ih _)

/-- **Directories that are made** lie where their paths lead, or the paths of what they
lie in. -/
theorem grown_withDirectories {dirs : List Path} (h : t.Ensures dirs) :
    Grown (fun _ => False)
      (fun l => ∃ dir ∈ dirs, ∃ q ∈ dir.lineage,
        (t.withDirectories dirs).resolve .followed q = .ok ⟨l, some .directory⟩)
      t (t.withDirectories dirs) := by
  induction dirs generalizing t with
  | nil => exact .refl t
  | cons dir dirs ih =>
    obtain ⟨u, ensured, rest⟩ := h
    have split : t.withDirectories (dir :: dirs) = u.withDirectories dirs := by
      rw [withDirectories, List.foldl_cons, ensured, withDirectories]
    have later := grows_withDirectories u dirs
    rw [split]
    refine ((grown_ensureAll ensured).mono (fun _ w => w) ?_).trans
      ((ih rest).mono (fun _ w => w) fun l ⟨other, mem, q, lead⟩ =>
        ⟨other, List.mem_cons_of_mem dir mem, q, lead⟩)
    rintro l ⟨q, mem, found⟩
    refine ⟨dir, List.mem_cons_self, q, mem, ?_⟩
    rw [resolve_of_grown later found, later.directory (lookup?_of_resolve found)]

end ReleaseBundle.FileSystem
