import ReleaseBundle.Artifact
import ReleaseBundle.Proofs.Content
import ReleaseBundle.Proofs.Effect
import ReleaseBundle.Proofs.Growth

/-!
# Names in a directory

Most paths that a build writes are a name in a directory.  If a path leads to a
directory, `dir.child name` leads to the place of that name in it, unless the path
is at fault as it is written or there is a link (`resolve_child`); a tree that grows does
not change that.  So writing to such a path is putting a file at a known location
(`writeBytes_child`).

The empty path leads nowhere, but names are seen from it as from the working
directory.  A directory is therefore what **opens** onto a location.
-/

namespace ReleaseBundle

namespace Path

/-- A name that can stand in a directory. -/
structure IsName (name : Name) : Prop where
  slash : slash ∉ name
  idle : isIdle name = false
  down : name ≠ [dot, dot]

theorem IsName.ne_nil {name : Name} (h : IsName name) : name ≠ [] := by
  rintro rfl
  cases h.idle

theorem segments_of_no_slash {spelling : List UInt8} (h : slash ∉ spelling) :
    segments spelling = [spelling] := by
  induction spelling with
  | nil => rfl
  | cons c rest ih =>
    obtain ⟨other, rest_free⟩ := not_or.mp (fun mem => h (List.mem_cons.mpr mem))
    exact segments_of_ne_slash (Ne.symm other) (ih rest_free)

theorem not_isAbsolute_of_no_slash {p : Path} (h : slash ∉ p.spelling) : p.isAbsolute = false := by
  rw [isAbsolute]
  cases spelled : p.spelling with
  | nil => rfl
  | cons c rest =>
    rw [spelled] at h
    simpa using fun same : c = slash => h (same ▸ List.mem_cons_self)

/-- A relative path seen from another is written behind it: a slash stands between where one is
needed. -/
theorem spelling_join (dir : Path) {q : Path} (relative : q.isAbsolute = false) :
    (dir.join q).spelling =
      if dir.spelling = [] ∨ dir.spelling.getLast? = some slash then
        dir.spelling ++ q.spelling
      else dir.spelling ++ slash :: q.spelling := by
  have empty : dir.spelling.isEmpty = true ↔ dir.spelling = [] := by simp
  simp only [join, relative, Bool.false_eq_true, if_false, Bool.or_eq_true,
    decide_eq_true_eq, empty]
  split
  · simp
  · simp

/-- The segments after which the names in a directory are read. -/
def outer (dir : Path) : List Name :=
  if dir.spelling = [] ∨ dir.spelling.getLast? = some slash then
    (segments dir.spelling).dropLast
  else segments dir.spelling

/-- **A relative path's segments follow the directory's.** -/
theorem segments_join (dir : Path) {q : Path} (relative : q.isAbsolute = false) :
    segments (dir.join q).spelling = dir.outer ++ segments q.spelling := by
  rw [spelling_join dir relative, outer]
  split
  · rename_i needless
    rcases needless with empty | slash
    · rw [empty]
      rfl
    · obtain ⟨before, spelled⟩ := List.getLast?_eq_some_iff.mp slash
      rw [spelled, List.append_assoc, List.singleton_append, segments_append_slash,
        segments_append_slash before [], segments, List.dropLast_concat]
  · rw [segments_append_slash]

/-- **A child's last segment is its name**, and the others are the directory's. -/
theorem segments_child (dir : Path) {name : Name} (h : IsName name) :
    segments (dir.child name).spelling = dir.outer ++ [name] := by
  rw [child, segments_join dir (not_isAbsolute_of_no_slash h.slash), segments_of_no_slash h.slash]

/-- A directory's own segments are those before its children's names, and slashes. -/
theorem segments_eq_outer (dir : Path) (ne : dir.spelling ≠ []) :
    ∃ count, segments dir.spelling = dir.outer ++ List.replicate count [] := by
  rw [outer]
  split
  · rename_i needless
    obtain ⟨before, spelled⟩ := List.getLast?_eq_some_iff.mp (needless.resolve_left ne)
    refine ⟨1, ?_⟩
    rw [spelled, segments_append_slash, segments, List.dropLast_concat]
    rfl
  · exact ⟨0, by simp⟩

theorem isAbsolute_join (dir : Path) {q : Path} (relative : q.isAbsolute = false) :
    (dir.join q).isAbsolute = dir.isAbsolute := by
  rw [isAbsolute, spelling_join dir relative, isAbsolute]
  cases spelled : dir.spelling with
  | nil =>
    rw [if_pos (Or.inl rfl), List.nil_append]
    exact relative
  | cons c rest => split <;> rfl

theorem isAbsolute_child (dir : Path) {name : Name} (h : IsName name) :
    (dir.child name).isAbsolute = dir.isAbsolute :=
  isAbsolute_join dir (not_isAbsolute_of_no_slash h.slash)

end Path

namespace FileSystem

variable {t u : FileSystem} {W M : Location → Prop} {p dir : Path} {home : Location}
  {ending : Ending} {name : Name}

/-! ## Paths as walks -/

/-- Why a path is refused for how it is written, if it is. -/
def pathFault? (p : Path) : Option IoError :=
  if p.spelling.isEmpty then some .notFound
  else if p.spelling.contains 0 then some .nulInPath
  else if pathLimit < p.spelling.length then some .nameTooLong
  else none

/-- Where the walk along a path starts. -/
def startOf (t : FileSystem) (p : Path) : Location := if p.isAbsolute then [] else t.workDir

theorem resolve_eq (t : FileSystem) (ending : Ending) (p : Path) :
    t.resolve ending p =
      match pathFault? p with
      | some cause => .error cause
      | none => t.walk ending linkLimit (t.startOf p) (Path.segments p.spelling) := by
  rw [resolve, pathFault?]
  split
  · rfl
  split
  · rfl
  split <;> rfl

/-- A path that is written soundly leads where the walk along it leads. -/
theorem resolve_of_sound (sound : pathFault? p = none) :
    t.resolve ending p =
      t.walk ending linkLimit (t.startOf p) (Path.segments p.spelling) := by
  rw [resolve_eq, sound]

/-- A path that leads somewhere is written soundly, and the walk along it leads there. -/
theorem walk_of_resolve {place : Place} (found : t.resolve ending p = .ok place) :
    pathFault? p = none ∧
      t.walk ending linkLimit (t.startOf p) (Path.segments p.spelling) = .ok place := by
  rw [resolve_eq] at found
  cases fault : pathFault? p with
  | some cause =>
    rw [fault] at found
    cases found
  | none =>
    rw [fault] at found
    exact ⟨rfl, found⟩

/-- A path tells what is where it leads. -/
theorem lookup?_of_resolve {l : Location} {n : Option Node}
    (found : t.resolve ending p = .ok ⟨l, n⟩) : t.lookup? l = n :=
  lookup?_of_walk (walk_of_resolve found).2

/-- The locations that the walk along a path comes by. -/
def PassesBy (t : FileSystem) (ending : Ending) (p : Path) (l : Location) : Prop :=
  ComesBy t ending linkLimit (t.startOf p) (Path.segments p.spelling) l

/-- **A path in a grown tree** leads where it led, but for what it passes by. -/
theorem resolve_grows (h : Grown W M t u) (ending : Ending) (p : Path) :
    WalkGrows (fun l => W l ∧ t.PassesBy ending p l) M (t.resolve ending p)
      (u.resolve ending p) := by
  rw [resolve_eq, resolve_eq]
  cases pathFault? p with
  | some cause => exact .same _
  | none =>
    have start : u.startOf p = t.startOf p := by rw [startOf, startOf, h.workDir]
    rw [start]
    exact walk_grows h ending linkLimit (t.startOf p) _

/-- What a path leads to in a tree, it leads to when the tree has grown. -/
theorem resolve_of_grown (h : Grown W M t u) {l : Location} {n : Option Node}
    (found : t.resolve ending p = .ok ⟨l, n⟩) : u.resolve ending p = .ok ⟨l, u.lookup? l⟩ := by
  have grows := resolve_grows h ending p
  rw [found] at grows
  obtain ⟨n', found', -⟩ := grows.ok
  rw [found', lookup?_of_resolve found']

/-- What a path leads to among written files, it led to before. -/
theorem resolve_of_written (h : Written W t u) {l : Location} {n : Option Node}
    (found : u.resolve ending p = .ok ⟨l, n⟩) : t.resolve ending p = .ok ⟨l, t.lookup? l⟩ := by
  obtain same | ⟨k, m, m', ht, hu, -⟩ | ⟨k, -, -, hu⟩ := (resolve_grows h ending p).cases_written
  · have before := same.symm.trans found
    rw [before, lookup?_of_resolve before]
  · obtain ⟨rfl, -⟩ := Place.mk.inj (Except.ok.inj (hu.symm.trans found))
    rw [ht, lookup?_of_resolve ht]
  · rw [hu] at found
    cases found

/-! ## Names -/

/-- A path under which names are looked up at a location: one that leads to the
directory there, or the empty path, which stands for the working directory. -/
inductive Opens (t : FileSystem) (dir : Path) (home : Location) : Prop where
  | path (found : t.resolve .followed dir = .ok ⟨home, some .directory⟩)
  | here (empty : dir.spelling = []) (stands : t.lookup? home = some .directory)
      (start : t.workDir = home)

theorem Opens.walk (h : t.Opens dir home) :
    t.walk .followed linkLimit (t.startOf dir) dir.outer = .ok ⟨home, some .directory⟩ := by
  cases h with
  | path found =>
    obtain ⟨sound, walked⟩ := walk_of_resolve found
    have ne : dir.spelling ≠ [] := by
      intro empty
      rw [pathFault?, if_pos (by simpa using empty)] at sound
      cases sound
    obtain ⟨count, split⟩ := dir.segments_eq_outer ne
    rw [split] at walked
    exact walk_of_append_slashes walked
  | here empty stands start =>
    have outer : dir.outer = [] := by simp [Path.outer, empty, Path.segments]
    have relative : dir.isAbsolute = false := by simp [Path.isAbsolute, empty]
    simp [outer, walk_nil, startOf, relative, start, stands]

theorem Opens.stands (h : t.Opens dir home) : t.lookup? home = some .directory :=
  lookup?_of_walk h.walk

theorem resolve_of_empty (empty : p.spelling = []) : t.resolve ending p = .error .notFound := by
  rw [resolve, if_pos (by simp [empty])]

/-- A path opens onto one location. -/
theorem Opens.unique {home' : Location} (h : t.Opens dir home) (h' : t.Opens dir home') :
    home = home' := by
  have same := h.walk.symm.trans h'.walk
  exact (Place.mk.inj (Except.ok.inj same)).1

/-- All empty paths open onto the same location. -/
theorem Opens.of_empty {dir' : Path} (h : t.Opens dir home) (empty : dir.spelling = [])
    (empty' : dir'.spelling = []) : t.Opens dir' home := by
  cases h with
  | path found =>
    rw [resolve_of_empty empty] at found
    cases found
  | here _ stands start => exact .here empty' stands start

theorem Opens.grown (h : t.Opens dir home) (grown : Grown W M t u) : u.Opens dir home := by
  cases h with
  | path found =>
    refine .path ?_
    rw [resolve_of_grown grown found, grown.directory (lookup?_of_resolve found)]
  | here empty stands start =>
    exact .here empty (grown.directory stands) (grown.workDir.trans start)

theorem Opens.of_written (h : u.Opens dir home) (written : Written W t u) : t.Opens dir home := by
  have stood : t.lookup? home = some .directory :=
    ((written.node home).directory_iff id).mp h.stands
  cases h with
  | path found => exact .path (by rw [resolve_of_written written found, stood])
  | here empty stands start => exact .here empty stood (written.workDir.symm.trans start)

/-- Why a name in a directory is refused, if it is: for how its path is written, or its
length. -/
def childFault? (dir : Path) (name : Name) : Option IoError :=
  (pathFault? (dir.child name)).or
    (if nameLimit < name.length then some .nameTooLong else none)

/-- Whether a path leads to a link. -/
def IsLink (t : FileSystem) (p : Path) : Prop :=
  ∃ l target, t.resolve .atLink p = .ok ⟨l, some (.link target)⟩

theorem not_isLink_of_forall (h : ∀ l target, t.lookup? l ≠ some (.link target)) :
    ¬ t.IsLink p := fun ⟨l, target, found⟩ => h l target (lookup?_of_resolve found)

theorem isLink_of_grown (h : Grown W M t u) (link : t.IsLink p) : u.IsLink p := by
  obtain ⟨l, target, found⟩ := link
  refine ⟨l, target, ?_⟩
  have grows := h.node l
  rw [lookup?_of_resolve found] at grows
  rw [resolve_of_grown h found, grows.link]

/-- Writing makes no links. -/
theorem not_isLink_written (h : Written W t u) (straight : ¬ t.IsLink p) : ¬ u.IsLink p := by
  rintro ⟨l, target, found⟩
  have grows := h.node l
  rw [lookup?_of_resolve found] at grows
  exact straight ⟨l, target, by rw [resolve_of_written h found, grows.of_link]⟩

theorem Opens.resolve_eq_walk (h : t.Opens dir home) (plain : Path.IsName name)
    (sound : pathFault? (dir.child name) = none) :
    ∃ links, ∀ ending,
      t.resolve ending (dir.child name) = t.walk ending links home [name] := by
  obtain ⟨links, same⟩ := walk_snoc plain.ne_nil h.walk
  refine ⟨links, fun ending => ?_⟩
  rw [resolve_of_sound sound, ← same ending, Path.segments_child dir plain, startOf, startOf,
    Path.isAbsolute_child dir plain]

theorem Opens.resolve_of_fault (h : t.Opens dir home) (plain : Path.IsName name)
    {cause : IoError} (fault : childFault? dir name = some cause) :
    t.resolve ending (dir.child name) = .error cause := by
  cases whole : pathFault? (dir.child name) with
  | some cause' =>
    rw [childFault?, whole] at fault
    rw [resolve_eq, whole]
    cases fault
    rfl
  | none =>
    rw [childFault?, whole, Option.none_or] at fault
    obtain ⟨links, same⟩ := h.resolve_eq_walk plain whole
    split at fault
    · cases fault
      rw [same ending]
      exact walk_long_name h.stands plain.idle plain.down ‹_›
    · cases fault

theorem pathFault?_eq_none (sound : childFault? dir name = none) :
    pathFault? (dir.child name) = none := (Option.or_eq_none_iff.mp sound).1

theorem name_length_le (sound : childFault? dir name = none) : name.length ≤ nameLimit := by
  have short := (Option.or_eq_none_iff.mp sound).2
  split at short
  · cases short
  · exact Nat.le_of_not_lt ‹_›

theorem Opens.isLink_child_iff (h : t.Opens dir home) (plain : Path.IsName name) :
    t.IsLink (dir.child name) ↔
      childFault? dir name = none ∧
        ∃ target, t.lookup? (home ++ [name]) = some (.link target) := by
  constructor
  · rintro ⟨l, target, link⟩
    cases fault : childFault? dir name with
    | some cause =>
      rw [h.resolve_of_fault plain fault] at link
      cases link
    | none =>
      obtain ⟨links, same⟩ := h.resolve_eq_walk plain (pathFault?_eq_none fault)
      rw [same .atLink, walk_name h.stands plain.idle plain.down (name_length_le fault)
        (fun _ _ => rfl)] at link
      exact ⟨rfl, target, (Place.mk.inj (Except.ok.inj link)).2⟩
  · rintro ⟨sound, target, link⟩
    obtain ⟨links, same⟩ := h.resolve_eq_walk plain (pathFault?_eq_none sound)
    refine ⟨home ++ [name], target, ?_⟩
    rw [same .atLink, walk_name h.stands plain.idle plain.down (name_length_le sound)
      (fun _ _ => rfl), link]

/-- **A name in a directory** leads to its place there, if it is sound and no link. -/
theorem Opens.resolve_child (h : t.Opens dir home) (plain : Path.IsName name)
    (sound : childFault? dir name = none) (straight : ¬ t.IsLink (dir.child name)) :
    t.resolve ending (dir.child name) =
      .ok ⟨home ++ [name], t.lookup? (home ++ [name])⟩ := by
  obtain ⟨links, same⟩ := h.resolve_eq_walk plain (pathFault?_eq_none sound)
  rw [same ending, walk_name h.stands plain.idle plain.down (name_length_le sound)]
  exact fun target link => absurd ((h.isLink_child_iff plain).mpr ⟨sound, target, link⟩) straight

theorem Opens.node?_child (h : t.Opens dir home) (plain : Path.IsName name)
    (sound : childFault? dir name = none) (straight : ¬ t.IsLink (dir.child name)) :
    t.node? (dir.child name) = t.lookup? (home ++ [name]) := by
  rw [node?, h.resolve_child plain sound straight]

/-- Names are seen from the empty path only if the working directory is there. -/
theorem opens_of_empty {place : Place} (empty : dir.spelling = []) (plain : Path.IsName name)
    (found : t.resolve ending (dir.child name) = .ok place) : t.Opens dir t.workDir := by
  refine .here empty ?_ rfl
  have outer : dir.outer = [] := by simp [Path.outer, empty, Path.segments]
  have relative : dir.isAbsolute = false := by simp [Path.isAbsolute, empty]
  rw [resolve_eq, Path.segments_child dir plain, outer, List.nil_append, startOf,
    Path.isAbsolute_child dir plain, relative] at found
  by_cases stands : t.lookup? t.workDir = some .directory
  · exact stands
  · split at found
    · cases found
    · rw [if_neg (by simp), walk_of_not_directory stands] at found
      cases found

/-! ## Writing -/

theorem exists_of_writeBytes {bytes : ByteArray} (wrote : t.writeBytes p bytes = (.ok (), u)) :
    ∃ place, t.resolve .asFile p = .ok place := by
  rw [writeBytes] at wrote
  cases resolved : t.resolve .asFile p with
  | error cause =>
    rw [resolved] at wrote
    cases wrote
  | ok place => exact ⟨place, rfl⟩

/-- Why no file can be written under a name in a directory, if so. -/
def writeFault? (t : FileSystem) (dir : Path) (home : Location) (name : Name) : Option IoError :=
  (childFault? dir name).or
    (if t.lookup? (home ++ [name]) = some .directory then some .isADirectory else none)

/-- **Writing under a name** puts a file at its place in the directory. -/
theorem Opens.writeBytes_child (h : t.Opens dir home) (plain : Path.IsName name)
    (straight : ¬ t.IsLink (dir.child name)) (bytes : ByteArray) :
    t.writeBytes (dir.child name) bytes =
      match t.writeFault? dir home name with
      | some cause => (.error cause, t)
      | none => (.ok (), t.put (home ++ [name]) (.file bytes)) := by
  rw [writeBytes, writeFault?]
  cases fault : childFault? dir name with
  | some cause =>
    rw [h.resolve_of_fault plain fault]
    rfl
  | none =>
    rw [h.resolve_child plain fault straight, Option.none_or]
    cases found : t.lookup? (home ++ [name]) with
    | none => rfl
    | some node =>
      cases node with
      | file before => rfl
      | directory => rfl
      | link target =>
        exact absurd ((h.isLink_child_iff plain).mpr ⟨fault, target, found⟩) straight

/-- Where a file can be written, there is a file or nothing. -/
theorem Opens.free_of_writeFault? (h : t.Opens dir home) (plain : Path.IsName name)
    (straight : ¬ t.IsLink (dir.child name)) (sound : t.writeFault? dir home name = none) :
    t.lookup? (home ++ [name]) = none ∨
      ∃ before, t.lookup? (home ++ [name]) = some (.file before) := by
  obtain ⟨short, other⟩ := Option.or_eq_none_iff.mp sound
  cases found : t.lookup? (home ++ [name]) with
  | none => exact Or.inl rfl
  | some node =>
    cases node with
    | file before => exact Or.inr ⟨before, rfl⟩
    | directory =>
      rw [found, if_pos rfl] at other
      cases other
    | link target => exact absurd ((h.isLink_child_iff plain).mpr ⟨short, target, found⟩) straight

/-- Written files are no reason that others cannot be written. -/
theorem writeFault?_written (h : Written W t u) (dir : Path) (home : Location) (name : Name) :
    u.writeFault? dir home name = t.writeFault? dir home name := by
  have same := (h.node (home ++ [name])).directory_iff id
  simp only [writeFault?, same]

theorem Opens.effect_writeFile (h : t.Opens dir home) (plain : Path.IsName name)
    (straight : ¬ t.IsLink (dir.child name)) (text : String) :
    (writeFile (dir.child name) text).effect t =
      match t.writeFault? dir home name with
      | some cause => (.error (.unwritable (dir.child name) cause), t)
      | none => (.ok (), t.put (home ++ [name]) (.file text.toUTF8)) := by
  have asked : (Attempt.request (.writeText (dir.child name) text) : Build _).effect t =
      (.ok (t.writeText (dir.child name) text).1, (t.writeText (dir.child name) text).2) :=
    Attempt.effect_request _ t
  rw [writeText, h.writeBytes_child plain straight] at asked
  rw [writeFile, Attempt.effect_bind, Attempt.effect_orFail asked]
  cases t.writeFault? dir home name <;> rfl

/-! ## Reading -/

/-- A text is held on when directories are made. -/
theorem HoldsText.grown {text : String} (h : t.HoldsText p text)
    (grown : Grown (fun _ => False) M t u) : u.HoldsText p text := by
  obtain ⟨l, found⟩ := node?_eq_some_iff.mp h
  have grows := grown.node l
  rw [lookup?_of_resolve found] at grows
  exact node?_eq_some_iff.mpr ⟨l, by rw [resolve_of_grown grown found, grows.unwritten id]⟩

theorem readText_congr (h : u.resolve .followed p = t.resolve .followed p) :
    u.readText p = t.readText p := by
  rw [readText, readText, readBytes, readBytes, h]

/-- **Reading in a tree where files were written elsewhere** finds what was there.
What was not there may be missing for another reason. -/
theorem readText_written (h : Written W t u)
    (elsewhere : ∀ place, t.resolve .followed p = .ok place → ¬ W place.location) :
    u.readText p = t.readText p ∨
      (∃ l, W l ∧ t.PassesBy .followed p l) ∧ t.readText p = .error .notFound ∧
        u.readText p = .error .notADirectory := by
  obtain same | ⟨l, n, n', ht, hu, grows⟩ | ⟨l, blocked, ht, hu⟩ :=
    (resolve_grows h .followed p).cases_written
  · exact Or.inl (readText_congr same)
  · have unwritten : ¬ (W l ∧ t.PassesBy .followed p l) := fun w => elsewhere _ ht w.1
    rw [grows.eq_of_not_written unwritten id] at hu
    exact Or.inl (readText_congr (hu.trans ht.symm))
  · refine Or.inr ⟨⟨l, blocked⟩, ?_, ?_⟩
    · rw [readText, readBytes, ht]
      rfl
    · rw [readText, readBytes, hu]
      rfl

end FileSystem

end ReleaseBundle
