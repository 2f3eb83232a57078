import ReleaseBundle.Proofs.TreeOrder

/-!
# Tours of a tree

A **tour** is told by what it does at each node (`FileSystem.Tours`): it sees a file, passes a
link by, and goes through a directory name by name, in the order of the octets of the names,
unless the path of the directory is too long to be opened.  A tour that starts at a path
follows a link there, but only to a directory (`FileSystem.ToursFrom`).  From each path there is
one tour (`ToursFrom.unique`).

In a tree the walk that a program asks for comes upon the files of this tour, in its order
(`FileSystem.IsTree.exists_toursFrom`).  Each of them has the path of the start with the names
that lead on from there, and its path ends in the name of the file.
-/

namespace ReleaseBundle

namespace FileSystem

variable {t : FileSystem} {path start : Path} {l : Location} {name : Name}

/-! ## What a tour sees -/

/-- A file that is come upon: the path that led to it, and where it is. -/
structure Sighting where
  path : Path
  location : Location
deriving DecidableEq

/-- The files that a tour sees at a location that it has come to by a path. -/
inductive Tours (t : FileSystem) : Path → Location → List Sighting → Prop where
  | file {path : Path} {l : Location} {bytes : ByteArray}
      (here : t.lookup? l = some (.file bytes)) : Tours t path l [⟨path, l⟩]
  | link {path : Path} {l : Location} {target : List UInt8}
      (here : t.lookup? l = some (.link target)) : Tours t path l []
  | closed {path : Path} {l : Location} (here : t.lookup? l = some .directory)
      (long : isTellable path = false) : Tours t path l []
  | directory {path : Path} {l : Location} {names : List Name} {part : Name → List Sighting}
      (here : t.lookup? l = some .directory) (short : isTellable path = true)
      (all : ∀ name, name ∈ names ↔ (t.lookup? (l ++ [name])).isSome = true)
      (sorted : names.Pairwise fun a b => a < b)
      (inside : ∀ name ∈ names,
        Tours t (path.child name) (l ++ [name]) (part name)) :
      Tours t path l (names.flatMap part)

/-- The files that a tour sees from a path on. -/
inductive ToursFrom (t : FileSystem) (start : Path) : List Sighting → Prop where
  | directory {l : Location} {seen : List Sighting}
      (leads : t.resolve .followed start = .ok ⟨l, some .directory⟩)
      (inside : t.Tours start l seen) : ToursFrom t start seen
  | file {l : Location} {bytes : ByteArray}
      (leads : t.resolve .atLink start = .ok ⟨l, some (.file bytes)⟩) :
      ToursFrom t start [⟨start, l⟩]
  | nothing (no_directory : ∀ l, t.resolve .followed start ≠ .ok ⟨l, some .directory⟩)
      (no_file : ∀ l bytes, t.resolve .atLink start ≠ .ok ⟨l, some (.file bytes)⟩) :
      ToursFrom t start []

/-- **There is one tour** of a location at most. -/
theorem Tours.unique {seen seen' : List Sighting} (h : t.Tours path l seen)
    (h' : t.Tours path l seen') : seen = seen' := by
  induction h generalizing seen' with
  | file here =>
    cases h' with
    | file => rfl
    | link here' => cases here.symm.trans here'
    | closed here' => cases here.symm.trans here'
    | directory here' => cases here.symm.trans here'
  | link here =>
    cases h' with
    | file here' => cases here.symm.trans here'
    | link => rfl
    | closed => rfl
    | directory here' => cases here.symm.trans here'
  | closed here long =>
    cases h' with
    | file here' => cases here.symm.trans here'
    | link => rfl
    | closed => rfl
    | directory _ short => cases long.symm.trans short
  | @directory path l names part here short all sorted _ ih =>
    cases h' with
    | file here' => cases here.symm.trans here'
    | link here' => cases here.symm.trans here'
    | closed _ long => cases short.symm.trans long
    | @directory _ _ names' part' _ _ all' sorted' inside' =>
      let Before (a b : Name) : Prop := a < b
      have : Std.Irrefl Before := ⟨fun a => List.lt_irrefl a⟩
      have : Std.Antisymm Before :=
        ⟨fun a b smaller greater => absurd greater (List.lt_asymm smaller)⟩
      obtain rfl : names = names' := List.Pairwise.eq_of_mem_iff (r := Before) sorted sorted'
        fun name => (all name).trans (all' name).symm
      exact List.flatMap_congr fun name mem => ih name mem (inside' name mem)

/-! ## Links at the end of a path -/

/-- A walk that does not end at a link is the same if links are followed. -/
theorem walk_followed_of_atLink {links : Nat} {here : Location} {segments : List Name}
    {n : Option Node} (ends : t.walk .atLink links here segments = .ok ⟨l, n⟩)
    (straight : ∀ target, n ≠ some (.link target)) :
    t.walk .followed links here segments = .ok ⟨l, n⟩ := by
  induction links, here, segments using walk_induction t .atLink with
  | step links here segments ih =>
    cases segments with
    | nil => rwa [walk_nil] at ends ⊢
    | cons segment rest =>
      rw [walk_eq_stride] at ends
      cases strides : t.stride .atLink links here (segment :: rest) with
      | go links' here' segments' =>
        rw [strides] at ends
        have on : t.stride .followed links here (segment :: rest ++ []) =
            .go links' here' (segments' ++ []) := stride_append strides (Or.inr nofun) nofun
        rw [List.append_nil, List.append_nil] at on
        rw [walk_eq_stride, on]
        exact ih links' here' segments' strides ends
      | stop result =>
        rw [strides] at ends
        obtain rfl : result = .ok ⟨l, n⟩ := ends
        obtain ⟨stands, plain, down, short, rfl, place, -⟩ := eq_of_stride_ok strides
        obtain ⟨rfl, rfl⟩ := Place.mk.inj place
        exact walk_name stands plain down short fun target link => absurd link (straight target)

theorem resolve_followed_of_atLink {n : Option Node}
    (leads : t.resolve .atLink start = .ok ⟨l, n⟩) (straight : ∀ target, n ≠ some (.link target)) :
    t.resolve .followed start = .ok ⟨l, n⟩ := by
  obtain ⟨sound, walked⟩ := walk_of_resolve leads
  rw [resolve_eq, sound]
  exact walk_followed_of_atLink walked straight

/-- What a path leads to is something, or a link, if links are not followed. -/
theorem exists_resolve_atLink {node : Node}
    (leads : t.resolve .followed start = .ok ⟨l, some node⟩) :
    ∃ l' node', t.resolve .atLink start = .ok ⟨l', some node'⟩ := by
  obtain ⟨sound, walked⟩ := walk_of_resolve leads
  rw [resolve_eq, sound]
  exact exists_walk_atLink walked

/-- **There is one tour** from a path at most. -/
theorem ToursFrom.unique {seen seen' : List Sighting} (h : t.ToursFrom start seen)
    (h' : t.ToursFrom start seen') : seen = seen' := by
  have apart : ∀ {l k : Location} {bytes : ByteArray},
      t.resolve .followed start = .ok ⟨l, some .directory⟩ →
        t.resolve .atLink start ≠ .ok ⟨k, some (.file bytes)⟩ := by
    intro l k bytes directory file
    cases directory.symm.trans (resolve_followed_of_atLink file nofun)
  cases h with
  | directory leads inside =>
    cases h' with
    | directory leads' inside' =>
      obtain ⟨rfl, -⟩ := Place.mk.inj (Except.ok.inj (leads.symm.trans leads'))
      exact inside.unique inside'
    | file leads' => exact absurd leads' (apart leads)
    | nothing no_directory => exact absurd leads (no_directory _)
  | file leads =>
    cases h' with
    | directory leads' => exact absurd leads (apart leads')
    | file leads' =>
      obtain ⟨rfl, -⟩ := Place.mk.inj (Except.ok.inj (leads.symm.trans leads'))
      rfl
    | nothing _ no_file => exact absurd leads (no_file _ _)
  | nothing no_directory no_file =>
    cases h' with
    | directory leads' => exact absurd leads' (no_directory _)
    | file leads' => exact absurd leads' (no_file _ _)
    | nothing => rfl

/-! ## The tour that is taken -/

/-- The path of a file that is come upon. -/
def Visit.file? : Visit → Option Path
  | .file path => some path
  | .unreadable _ _ => none

/-- What is seen of an entry below the start of a tour. -/
def sighting? (start : Path) (l : Location) : Location × Node → Option Sighting
  | (names, .file _) =>
    if isTellable (start.childBelow names.dropLast) then some ⟨start.childBelow names, l ++ names⟩
    else none
  | _ => none

/-- What is seen below the start of a tour. -/
def seenBelow (t : FileSystem) (start : Path) (l : Location) : List Sighting :=
  (t.entriesBelow l).filterMap (sighting? start l)

/-- The files that are come upon below a location are those that are seen there. -/
theorem files_visitsBelow (t : FileSystem) (start : Path) (l : Location) :
    (t.visitsBelow start l).filterMap Visit.file? = (t.seenBelow start l).map Sighting.path := by
  rw [visitsBelow, seenBelow, List.filterMap_filterMap, List.map_filterMap]
  congr 1
  funext entry
  obtain ⟨names, node⟩ := entry
  cases open_dir : isTellable (start.childBelow names.dropLast) with
  | false => cases node <;> simp [visit?, sighting?, open_dir]
  | true =>
    cases node with
    | file bytes => simp [visit?, sighting?, open_dir, Visit.file?]
    | directory => cases isTellable (start.childBelow names) <;>
        simp_all [visit?, sighting?, Visit.file?]
    | link target => simp [visit?, sighting?, open_dir]

/-- A path with names behind it is no shorter. -/
theorem isTellable_of_childBelow {names : List Name} (named : ∀ name ∈ names, Path.IsName name)
    (short : isTellable (start.childBelow names) = true) : isTellable start = true := by
  induction names generalizing start with
  | nil => exact short
  | cons name names ih =>
    obtain ⟨first, rest⟩ := List.forall_mem_cons.mp named
    have child : isTellable (start.child name) = true := ih rest short
    have relative : (⟨name⟩ : Path).isAbsolute = false :=
      Path.not_isAbsolute_of_no_slash first.slash
    rw [isTellable, decide_eq_true_eq] at child ⊢
    refine le_trans ?_ child
    rw [Path.child, Path.join, relative]
    dsimp only
    split
    · cases ‹false = true›
    · split <;> simp only [List.length_append, List.length_cons] <;> omega

/-- The names of an entry below a location can stand in directories. -/
theorem IsTree.isName_of_entry (tree : t.IsTree) {names : Location} {node : Node}
    (mem : (names, node) ∈ t.entriesBelow l) : ∀ name ∈ names, Path.IsName name :=
  fun name among =>
    tree.named _ _ (mem_entriesBelow_iff.mp mem).2 name (List.mem_append_right l among)

/-- Nothing is seen below a directory that cannot be opened. -/
theorem IsTree.seenBelow_eq_nil (tree : t.IsTree) (long : isTellable start = false) :
    t.seenBelow start l = [] := by
  refine List.filterMap_eq_nil_iff.mpr fun ⟨names, node⟩ mem => ?_
  have closed : isTellable (start.childBelow names.dropLast) = false := by
    by_contra short
    have named : ∀ name ∈ names.dropLast, Path.IsName name := fun name among =>
      tree.isName_of_entry mem name (List.dropLast_subset names among)
    rw [isTellable_of_childBelow named (by simpa using short)] at long
    cases long
  cases node <;> simp [sighting?, closed]

/-- What is seen at a node: the file itself, or what lies below a directory. -/
def seenAt (t : FileSystem) (path : Path) (l : Location) : Node → List Sighting
  | .file _ => [⟨path, l⟩]
  | .directory => t.seenBelow path l
  | .link _ => []

theorem IsTree.seen_of_branch (tree : t.IsTree) (short : isTellable start = true) {node : Node}
    (there : t.lookup? (l ++ [name]) = some node) :
    (t.branch l name).filterMap (sighting? start l) =
      t.seenAt (start.child name) (l ++ [name]) node := by
  rw [branch, there, List.filterMap_append, List.filterMap_map, List.filterMap_map]
  cases node with
  | file bytes =>
    rw [tree.entriesBelow_eq_nil (by simp [there])]
    simp [sighting?, Path.childBelow, short, seenAt]
  | link target =>
    rw [tree.entriesBelow_eq_nil (by simp [there])]
    rfl
  | directory =>
    rw [Option.toList_some, List.filterMap_cons_none rfl, List.filterMap_nil, List.nil_append,
      seenAt, seenBelow]
    refine List.filterMap_congr fun entry mem => ?_
    obtain ⟨names, node⟩ := entry
    obtain ⟨ne, -⟩ := mem_entriesBelow_iff.mp mem
    cases node with
    | file bytes =>
      simp only [Function.comp_apply, sighting?, List.dropLast_cons_of_ne_nil ne,
        List.append_assoc, List.singleton_append]
      rfl
    | directory => rfl
    | link target => rfl

/-- **What is seen below a directory of a tree is a tour of it.** -/
theorem IsTree.tours_seenBelow (tree : t.IsTree) {start : Path} {l : Location}
    (here : t.lookup? l = some .directory) (short : isTellable start = true) :
    t.Tours start l (t.seenBelow start l) := by
  have parts : t.seenBelow start l =
      (t.contents l).flatMap fun name => (t.branch l name).filterMap (sighting? start l) := by
    rw [seenBelow, tree.entriesBelow_eq l, List.filterMap_flatMap]
  rw [parts]
  refine .directory here short (fun name => mem_contents_iff)
    (t.contents_sorted l) fun name mem => ?_
  obtain ⟨node, there⟩ := Option.isSome_iff_exists.mp (mem_contents_iff.mp mem)
  rw [tree.seen_of_branch short there]
  cases node with
  | file bytes => exact .file there
  | link target => exact .link there
  | directory =>
    rw [seenAt]
    cases open_dir : isTellable (start.child name) with
    | false =>
      rw [tree.seenBelow_eq_nil open_dir]
      exact .closed there open_dir
    | true => exact tree.tours_seenBelow there open_dir
termination_by (t.entriesBelow l).length
decreasing_by exact tree.length_entriesBelow_lt mem

theorem isTellable_of_resolve {ending : Ending} {place : Place}
    (leads : t.resolve ending start = .ok place) : isTellable start = true := by
  have sound := (walk_of_resolve leads).1
  rw [pathFault?] at sound
  split_ifs at sound with empty nul long
  rw [isTellable, decide_eq_true_eq]
  exact Nat.le_of_not_lt long

/-- **A walk through a tree is a tour**: it comes upon the files that are seen, in order. -/
theorem IsTree.exists_toursFrom (tree : t.IsTree) (start : Path) :
    ∃ seen, t.ToursFrom start seen ∧
      (t.visitsFrom start).filterMap Visit.file? = seen.map Sighting.path := by
  have through : ∀ {l}, t.resolve .followed start = .ok ⟨l, some .directory⟩ →
      t.ToursFrom start (t.seenBelow start l) := fun leads =>
    .directory leads (tree.tours_seenBelow (lookup?_of_resolve leads) (isTellable_of_resolve leads))
  -- Without a node where the path ends, or with one that is passed by, there is nothing to see.
  have nowhere : (∀ l node, t.resolve .atLink start ≠ .ok ⟨l, some node⟩) →
      t.ToursFrom start [] := fun none =>
    .nothing (fun l leads => by
      obtain ⟨l', node, leads'⟩ := exists_resolve_atLink leads
      exact none l' node leads') fun l bytes => none l (.file bytes)
  rw [visitsFrom]
  cases atLink : t.resolve .atLink start with
  | error cause => exact ⟨[], nowhere (by simp [atLink]), rfl⟩
  | ok place =>
    obtain ⟨l, found⟩ := place
    cases found with
    | none => exact ⟨[], nowhere (by simp [atLink]), rfl⟩
    | some node =>
      cases node with
      | file bytes => exact ⟨_, .file atLink, rfl⟩
      | directory =>
        have followed := resolve_followed_of_atLink atLink (by simp)
        exact ⟨_, through followed, t.files_visitsBelow start l⟩
      | link target =>
        have beside : (∀ l, t.resolve .followed start ≠ .ok ⟨l, some .directory⟩) →
            t.ToursFrom start [] := fun no_directory => .nothing no_directory (by simp [atLink])
        dsimp only
        cases followed : t.resolve .followed start with
        | error cause => exact ⟨[], beside (by simp [followed]), rfl⟩
        | ok place =>
          obtain ⟨k, found⟩ := place
          cases found with
          | none => exact ⟨[], beside (by simp [followed]), rfl⟩
          | some node =>
            cases node with
            | file bytes => exact ⟨[], beside (by simp [followed]), rfl⟩
            | directory => exact ⟨_, through followed, t.files_visitsBelow start k⟩
            | link target => exact ⟨[], beside (by simp [followed]), rfl⟩

/-! ## The files of a tour -/

/-- **What is seen on a tour** is a file, at names below the start and by the path with these
names. -/
theorem Tours.exists_of_mem {seen : List Sighting} (h : t.Tours path l seen) (sound : t.Named)
    {f : Sighting} (mem : f ∈ seen) :
    ∃ names, (∀ name ∈ names, Path.IsName name) ∧ f.path = path.childBelow names ∧
      f.location = l ++ names ∧ ∃ bytes, t.lookup? f.location = some (.file bytes) := by
  induction h with
  | @file path l bytes here =>
    obtain rfl := List.mem_singleton.mp mem
    exact ⟨[], nofun, rfl, (List.append_nil l).symm, bytes, here⟩
  | link => cases mem
  | closed => cases mem
  | @directory path l names part _ _ all _ _ ih =>
    obtain ⟨name, among, mem⟩ := List.mem_flatMap.mp mem
    obtain ⟨more, named, path', location, file⟩ := ih name among mem
    obtain ⟨node, there⟩ := Option.isSome_iff_exists.mp ((all name).mp among)
    have first : Path.IsName name := sound _ _ there name (by simp)
    refine ⟨name :: more, List.forall_mem_cons.mpr ⟨first, named⟩, path', ?_, file⟩
    rw [location, List.append_assoc, List.singleton_append]

end FileSystem

end ReleaseBundle
