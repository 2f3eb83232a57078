import ReleaseBundle.Proofs.BuildResult
import ReleaseBundle.Proofs.Copies
import ReleaseBundle.Proofs.GrowingRuns

/-!
# When copies are faithful

A copy opens its target, which empties it, before it reads its source.  What a projection
leaves therefore hangs on where its paths lead in the tree that has its directory.  If no
target leads to where a source is, and targets that lead to one place are copied from one
place, every copy holds what its source held, and so does the source
(`Projection.apply_copies_listed`).

A target that leads to its own source is the other case, and a projection into the output
directory itself, however that is spelled, is made of nothing else
(`Projection.empty_of_same_directory`): every artifact that it lists is empty afterwards.
Nothing in the code stands against it (`Sample.apply_empties_artifact`).
-/

namespace ReleaseBundle

namespace Projection

open FileSystem

variable {t u v : FileSystem} {M : Location → Prop} {copies : List FileCopy}
  {targets : List Path} {l k : Location} {p : Projection} {outDir : Path}

/-! ## Copies one after the other -/

/-- A location that a copy is put to. -/
def Targets (t : FileSystem) (copies : List FileCopy) (l : Location) : Prop :=
  ∃ c ∈ copies, t.LeadsTo c.target l

theorem targets_iff_of_written {W : Location → Prop} (h : Written W t u) :
    Targets u copies l ↔ Targets t copies l := by
  simp only [Targets, leadsTo_iff_of_written h]

/-- **Copies write where their targets lead**, and all their paths lead somewhere. -/
theorem written_of_makeCopies (made : (makeCopies copies).effect u = (.ok targets, v)) :
    targets = copies.map FileCopy.target ∧ Written (Targets u copies) u v ∧
      ∀ c ∈ copies, ∃ k l, u.LeadsTo c.source k ∧ u.LeadsTo c.target l := by
  induction copies generalizing u targets with
  | nil =>
    cases made
    exact ⟨rfl, .refl v, nofun⟩
  | cons c copies ih =>
    obtain ⟨w, rest, copied, more, rfl⟩ := exists_of_makeCopies_cons made
    obtain ⟨k, l, before, from_k, to_l, -, written, -⟩ := exists_of_copy copied
    obtain ⟨rfl, others, lead⟩ := ih more
    refine ⟨rfl, ?_, List.forall_mem_cons.mpr ⟨⟨k, l, from_k, to_l⟩, ?_⟩⟩
    · have first : Written (Targets u (c :: copies)) u w := by
        refine written.mono ?_ fun _ => id
        rintro j rfl
        exact ⟨c, List.mem_cons_self, to_l⟩
      refine first.trans (others.mono (fun j target => ?_) fun _ => id)
      obtain ⟨d, mem, to_j⟩ := (targets_iff_of_written written).mp target
      exact ⟨d, List.mem_cons_of_mem c mem, to_j⟩
    · intro d mem
      obtain ⟨k', l', from_k', to_l'⟩ := lead d mem
      exact ⟨k', l', (leadsTo_iff_of_written written).mp from_k',
        (leadsTo_iff_of_written written).mp to_l'⟩

/-- **What is copied to a location** is what is at the place that all the copies there are
made from, if nothing is copied to that place.  It is nothing if it is that place itself. -/
theorem lookup?_of_makeCopies (made : (makeCopies copies).effect u = (.ok targets, v))
    (target : Targets u copies l)
    (from_k : ∀ c ∈ copies, u.LeadsTo c.target l → u.LeadsTo c.source k)
    (kept : k = l ∨ ¬ Targets u copies k) :
    v.lookup? l = if k = l then some (.file ByteArray.empty) else u.lookup? k := by
  induction copies generalizing u targets with
  | nil =>
    obtain ⟨c, mem, -⟩ := target
    cases mem
  | cons c copies ih =>
    obtain ⟨w, rest, copied, more, rfl⟩ := exists_of_makeCopies_cons made
    obtain ⟨k', l', before, from_k', to_l', held, written, laid⟩ := exists_of_copy copied
    have alike : ∀ {q j}, w.LeadsTo q j ↔ u.LeadsTo q j := leadsTo_iff_of_written written
    by_cases later : Targets u copies l
    -- A later copy puts to the location what the source still holds.
    · have kept' : k = l ∨ ¬ Targets w copies k := by
        refine kept.imp_right fun free target => free ?_
        obtain ⟨d, mem, to_k⟩ := (targets_iff_of_written written).mp target
        exact ⟨d, List.mem_cons_of_mem c mem, to_k⟩
      rw [ih more ((targets_iff_of_written written).mpr later)
        (fun d mem to_l => alike.mpr (from_k d (List.mem_cons_of_mem c mem) (alike.mp to_l))) kept']
      by_cases onto : k = l
      · rw [if_pos onto, if_pos onto]
      · have apart : k ≠ l' := by
          rintro rfl
          exact kept.resolve_left onto ⟨c, List.mem_cons_self, to_l'⟩
        rw [if_neg onto, if_neg onto, written.lookup?_eq apart id]
    -- This copy is the last one that is put there.
    · have to_l : u.LeadsTo c.target l := by
        obtain ⟨d, mem, to_l⟩ := target
        rcases List.mem_cons.mp mem with rfl | mem
        · exact to_l
        · exact absurd ⟨d, mem, to_l⟩ later
      obtain rfl := to_l'.unique to_l
      obtain rfl := from_k'.unique (from_k c List.mem_cons_self to_l)
      have others := (written_of_makeCopies more).2.1
      have untouched : ¬ Targets w copies l' := fun target =>
        later ((targets_iff_of_written written).mp target)
      rw [others.lookup?_eq untouched id, laid, held]
      split <;> rfl

/-! ## One projection -/

/-- No copy's target leads to where a source is, and targets that lead to one place are
copied from one place. -/
structure Clear (p : Projection) (outDir : Path) (t : FileSystem) : Prop where
  apart : ∀ c ∈ p.copies outDir, ∀ l, t.LeadsTo c.source l → ¬ Targets t (p.copies outDir) l
  alike : ∀ c ∈ p.copies outDir, ∀ d ∈ p.copies outDir, ∀ l k,
    t.LeadsTo c.target l → t.LeadsTo d.target l → t.LeadsTo c.source k → t.LeadsTo d.source k

/-- Every copy holds what its source held, and so does the source. -/
def Faithful (p : Projection) (outDir : Path) (t u : FileSystem) : Prop :=
  ∀ c ∈ p.copies outDir, ∃ bytes, t.node? c.source = some (.file bytes) ∧
    u.node? c.target = some (.file bytes) ∧ u.node? c.source = some (.file bytes)

theorem target_copies (p : Projection) (outDir : Path) :
    (p.copies outDir).map FileCopy.target =
      p.listed.map fun name : String => (p.target outDir).child name := by
  simp [copies, listed, fileNames_eq, List.map_flatMap, Function.comp_def]

/-- **A clear projection is faithful.** -/
theorem Clear.faithful (clear : p.Clear outDir u)
    (found : ∀ c ∈ p.copies outDir, t.isFile c.source = true)
    (grown : Grown (fun _ => False) M t u)
    (made : (makeCopies (p.copies outDir)).effect u = (.ok targets, v)) :
    p.Faithful outDir t v := by
  obtain ⟨-, written, lead⟩ := written_of_makeCopies made
  intro c mem
  obtain ⟨k, bytes, there⟩ := isFile_iff.mp (found c mem)
  have from_k : u.LeadsTo c.source k := LeadsTo.grown ⟨_, there⟩ grown
  obtain ⟨-, l, -, to_l⟩ := lead c mem
  have held : u.lookup? k = some (.file bytes) := by
    have grows := grown.node k
    rw [lookup?_of_resolve there] at grows
    exact grows.unwritten id
  have free : ¬ Targets u (p.copies outDir) k := clear.apart c mem k from_k
  have apart : k ≠ l := by
    rintro rfl
    exact free ⟨c, mem, to_l⟩
  have copied : v.lookup? l = some (.file bytes) := by
    rw [lookup?_of_makeCopies made ⟨c, mem, to_l⟩
      (fun d mem' to_l' => clear.alike c mem d mem' l k to_l to_l' from_k) (Or.inr free),
      if_neg apart, held]
  have kept : v.lookup? k = some (.file bytes) := by rw [written.lookup?_eq free id, held]
  refine ⟨bytes, node?_eq_some_iff.mpr ⟨k, there⟩, ?_, ?_⟩
  · rw [(to_l.grown written).node?_eq, copied]
  · rw [(from_k.grown written).node?_eq, kept]

/-- **A file that is copied onto itself**, and not onto by any other, ends empty. -/
theorem empty_of_copied_onto_itself (made : (makeCopies copies).effect u = (.ok targets, v))
    {c : FileCopy} (mem : c ∈ copies) (from_l : u.LeadsTo c.source l) (to_l : u.LeadsTo c.target l)
    (alone : ∀ d ∈ copies, u.LeadsTo d.target l → u.LeadsTo d.source l) :
    v.node? c.source = some (.file ByteArray.empty) := by
  have written := (written_of_makeCopies made).2.1
  rw [(from_l.grown written).node?_eq,
    lookup?_of_makeCopies made ⟨c, mem, to_l⟩ alone (Or.inl rfl), if_pos rfl]

/-! ## Plain names in two directories -/

theorem exists_name_of_mem_copies {c : FileCopy} (mem : c ∈ p.copies outDir) :
    ∃ name ∈ p.listed, c.source = outDir.child name ∧ c.target = (p.target outDir).child name := by
  obtain ⟨module, mem_module, among⟩ := List.mem_flatMap.mp mem
  obtain ⟨name, mem_name, rfl⟩ := List.mem_map.mp among
  exact ⟨name, List.mem_flatMap.mpr ⟨module, mem_module, mem_name⟩, rfl, rfl⟩

/-- What is listed has plain names, and there are no links in its place in either of the
two directories. -/
structure Straight (p : Projection) (outDir : Path) (t : FileSystem) : Prop where
  plain : ∀ name ∈ p.listed, Path.IsName (octets name)
  source : ∀ name ∈ p.listed, ¬ t.IsLink (outDir.child name)
  target : ∀ name ∈ p.listed, ¬ t.IsLink ((p.target outDir).child name)

variable {home home' : Location}

theorem Straight.places (straight : p.Straight outDir t) (opens : t.Opens outDir home)
    (opens' : t.Opens (p.target outDir) home') {c : FileCopy} (mem : c ∈ p.copies outDir) :
    ∃ name : String, c.source = outDir.child name ∧
      (∀ l, t.LeadsTo c.source l → l = home ++ [octets name]) ∧
      ∀ l, t.LeadsTo c.target l → l = home' ++ [octets name] := by
  obtain ⟨name, listed, source, target⟩ := exists_name_of_mem_copies mem
  have plain := straight.plain name listed
  refine ⟨name, source, fun l leads => ?_, fun l leads => ?_⟩
  · rw [source] at leads
    exact eq_of_leadsTo_child opens plain (straight.source name listed) leads
  · rw [target] at leads
    exact eq_of_leadsTo_child opens' plain (straight.target name listed) leads

/-- Targets in one place are copied from one source. -/
theorem Straight.source_eq (straight : p.Straight outDir t) (opens : t.Opens outDir home)
    (opens' : t.Opens (p.target outDir) home') {c d : FileCopy} (mem : c ∈ p.copies outDir)
    (mem' : d ∈ p.copies outDir) (to_l : t.LeadsTo c.target l) (to_l' : t.LeadsTo d.target l) :
    c.source = d.source := by
  obtain ⟨name, source, -, target⟩ := straight.places opens opens' mem
  obtain ⟨name', source', -, target'⟩ := straight.places opens opens' mem'
  have same : home' ++ [octets name] = home' ++ [octets name'] :=
    (target l to_l).symm.trans (target' l to_l')
  obtain rfl : name = name' := octets_inj.mp (by simpa using same)
  rw [source, source']

/-- **Another directory is clear.** -/
theorem Straight.clear (straight : p.Straight outDir t) (opens : t.Opens outDir home)
    (opens' : t.Opens (p.target outDir) home') (apart : home ≠ home') : p.Clear outDir t := by
  constructor
  · rintro c mem l from_l ⟨d, mem', to_l⟩
    obtain ⟨name, -, source, -⟩ := straight.places opens opens' mem
    obtain ⟨name', -, -, target⟩ := straight.places opens opens' mem'
    have same : home ++ [octets name] = home' ++ [octets name'] :=
      (source l from_l).symm.trans (target l to_l)
    exact apart (List.append_inj' same rfl).1
  · intro c mem d mem' l k to_l to_l' from_k
    rwa [straight.source_eq opens opens' mem mem' to_l to_l'] at from_k

/-! ## What a projection leaves -/

theorem isFile_of_apply (applied : (p.apply outDir).effect t = (.ok targets, v)) :
    ∀ c ∈ p.copies outDir, t.isFile c.source = true := by
  obtain ⟨_, u, checked, -⟩ := Attempt.exists_of_effect_bind_ok applied
  exact (effect_checkSources checked).2

/-- **A projection into the output directory** empties what it lists. -/
theorem empty_of_same_directory (applied : (p.apply outDir).effect t = (.ok targets, v))
    (opens : t.Opens outDir home) (opens' : t.Opens (p.target outDir) home)
    (straight : p.Straight outDir t) :
    ∀ c ∈ p.copies outDir, v.node? c.source = some (.file ByteArray.empty) := by
  intro c mem
  obtain ⟨u, ensured, made⟩ := exists_of_apply applied
  -- The directory is there, so the copies are made in the tree as it was.
  obtain rfl : t = u := (Prod.mk.inj (opens'.ensureDirectory.symm.trans ensured)).2
  obtain ⟨k, l, from_k, to_l⟩ := (written_of_makeCopies made).2.2 c mem
  obtain ⟨name, -, source, target⟩ := straight.places opens opens' mem
  obtain rfl : k = l := (source k from_k).trans (target l to_l).symm
  refine empty_of_copied_onto_itself made mem from_k to_l fun d mem' to_k => ?_
  rwa [← straight.source_eq opens opens' mem mem' to_l to_k]

/-- **What a projection leaves.**  A projection that succeeds tells every listed file, in
order.  Where its paths are clear of each other, once its directory has been made, each of
its copies holds what the source held, and the source still does.  A source that is copied
onto itself, and that nothing else is copied onto, is empty. -/
theorem apply_copies_listed (p : Projection) (outDir : Path) (w : World) (copied : List Path)
    (applied : ((p.apply outDir).run w).1 = .ok copied) :
    copied = (p.listed.map fun name : String => (p.target outDir).child name) ∧
      (p.Clear outDir (w.files.ensureDirectory (p.target outDir)).2 →
        p.Faithful outDir w.files ((p.apply outDir).run w).2.files) ∧
      ∀ c ∈ p.copies outDir, ∀ l,
        (w.files.ensureDirectory (p.target outDir)).2.LeadsTo c.source l →
        (w.files.ensureDirectory (p.target outDir)).2.LeadsTo c.target l →
        (∀ d ∈ p.copies outDir,
          (w.files.ensureDirectory (p.target outDir)).2.LeadsTo d.target l →
            (w.files.ensureDirectory (p.target outDir)).2.LeadsTo d.source l) →
        ((p.apply outDir).run w).2.files.node? c.source = some (.file ByteArray.empty) := by
  rw [Attempt.run_fst] at applied
  rw [Attempt.files_run]
  have ran : (p.apply outDir).effect w.files =
      (.ok copied, ((p.apply outDir).effect w.files).2) := Prod.ext applied rfl
  obtain ⟨u, ensured, made⟩ := exists_of_apply ran
  have grown : Grown (fun _ => False) (fun _ => True) w.files u := by
    have grows := grows_ensureAll w.files (p.target outDir).lineage
    rwa [show w.files.ensureAll (p.target outDir).lineage = (.ok (), u) from ensured] at grows
  rw [ensured]
  refine ⟨?_, fun clear => clear.faithful (isFile_of_apply ran) grown made, ?_⟩
  · rw [(written_of_makeCopies made).1, target_copies]
  · intro c mem l from_l to_l alone
    exact empty_of_copied_onto_itself made mem from_l to_l alone

end Projection

namespace Sample

open FileSystem

/-- A script copied into the directory for copies. -/
def beside : Projection := ⟨⟨"test-bundles"⟩, ["a"], false⟩

/-- A script copied into the directory where it is. -/
def inPlace : Projection := ⟨⟨"."⟩, ["a"], false⟩

variable {script : ByteArray}

theorem written_written (script : ByteArray) : Written (fun _ => True) tree (written script) :=
  grown_put_file trivial script (Or.inl (lookup?_tree _))

theorem straight_written (p : Path) : ¬ (written script).IsLink p :=
  not_isLink_written (written_written script) (not_isLink p)

theorem isName_script : Path.IsName (octets (fullName "a")) :=
  isName_artifact (by decide) List.mem_cons_self

theorem node?_script :
    (written script).node? ((⟨"./build"⟩ : Path).child (fullName "a")) = some (.file script) := by
  have here := opens.grown (written_written script)
  rw [here.node?_child isName_script rfl (straight_written _), written, lookup?_put _ (by simp)]
  exact if_pos rfl

/-- The script can be copied into a directory where it is, or is not. -/
theorem exists_effect_apply {p : Projection} {home : Location}
    (single : p.copies ⟨"./build"⟩ = [⟨"a", (⟨"./build"⟩ : Path).child (fullName "a"),
      (p.target ⟨"./build"⟩).child (fullName "a")⟩])
    (opens' : tree.Opens (p.target ⟨"./build"⟩) home)
    (sound : (written script).writeFault? (p.target ⟨"./build"⟩) home (fullName "a") = none) :
    ∃ v, (p.apply ⟨"./build"⟩).effect (written script) =
      (.ok [(p.target ⟨"./build"⟩).child (fullName "a")], v) := by
  have there := opens'.grown (written_written script)
  have file : (written script).isFile ((⟨"./build"⟩ : Path).child (fullName "a")) = true := by
    rw [isFile, node?_script]
  have opened := there.writeBytes_child isName_script (straight_written _) ByteArray.empty
  rw [sound] at opened
  obtain ⟨v, copied⟩ := exists_copy file opened
  have made := Projection.effect_makeCopies_cons
    (c := ⟨"a", (⟨"./build"⟩ : Path).child (fullName "a"),
      (p.target ⟨"./build"⟩).child (fullName "a")⟩) copied (Projection.effect_makeCopies_nil v)
  rw [← single] at made
  have found : ∀ c ∈ p.copies ⟨"./build"⟩, (written script).isFile c.source = true := by
    rw [single, List.forall_mem_singleton]
    exact file
  exact ⟨v, Projection.effect_apply_ok found there made⟩

theorem straight_projection {p : Projection} (listed : p.listed = [fullName "a"]) :
    p.Straight ⟨"./build"⟩ (written script) := by
  refine ⟨?_, fun _ _ => straight_written _, fun _ _ => straight_written _⟩
  rw [listed, List.forall_mem_singleton]
  exact isName_script

theorem run_beside :
    ((beside.apply ⟨"./build"⟩).run ⟨written script, []⟩).1 =
      .ok [⟨"./build/test-bundles/a.js"⟩] := by
  have sound : (written script).writeFault? ⟨"./build/test-bundles"⟩
      [octets "build", octets "test-bundles"] (fullName "a") = none := by
    rw [writeFault?_written (written_written script)]
    exact writeFault?_tree rfl (lookup?_tree _)
  obtain ⟨v, ran⟩ := exists_effect_apply (p := beside) rfl opens_copies sound
  rw [Attempt.run_fst, ran]
  rfl

theorem clear_beside : beside.Clear ⟨"./build"⟩
    ((written script).ensureDirectory (beside.target ⟨"./build"⟩)).2 := by
  have here := opens.grown (written_written script)
  have there : (written script).Opens (beside.target ⟨"./build"⟩) _ :=
    opens_copies.grown (written_written script)
  rw [there.ensureDirectory]
  exact (straight_projection rfl).clear here there (by decide)

theorem apply_copies_listed_beside :
    ((beside.apply ⟨"./build"⟩).run ⟨written "x".toUTF8, []⟩).1 =
        .ok [⟨"./build/test-bundles/a.js"⟩] ∧
      beside.Clear ⟨"./build"⟩
        ((written "x".toUTF8).ensureDirectory (beside.target ⟨"./build"⟩)).2 ∧
      beside.Faithful ⟨"./build"⟩ (written "x".toUTF8)
        ((beside.apply ⟨"./build"⟩).run ⟨written "x".toUTF8, []⟩).2.files := by
  have applied :=
    beside.apply_copies_listed ⟨"./build"⟩ ⟨written "x".toUTF8, []⟩ _ run_beside
  exact ⟨run_beside, clear_beside, applied.2.1 clear_beside⟩

/-- The output directory in another spelling. -/
theorem opens_inPlace : tree.Opens (inPlace.target ⟨"./build"⟩) [octets "build"] := by
  have sound : pathFault? ⟨"./build/."⟩ = none := rfl
  have walked : tree.walk .followed 40 [] [[dot], octets "build", [dot]] =
      .ok ⟨[octets "build"], some .directory⟩ := by cbv
  have spelled : inPlace.target ⟨"./build"⟩ = ⟨"./build/."⟩ := rfl
  refine .path ?_
  rw [spelled]
  exact (resolve_of_sound sound).trans walked

/-- **A projection can empty an artifact**: one that is copied into the directory where it
is. -/
theorem apply_empties_artifact :
    ¬ ∀ (p : Projection) (outDir : Path) (w : World) (copied : List Path),
      (∀ module ∈ p.modules, Path.IsName (octets module)) →
        ((p.apply outDir).run w).1 = .ok copied →
          copied = (p.listed.map fun name : String => (p.target outDir).child name) ∧
            p.Faithful outDir w.files ((p.apply outDir).run w).2.files := by
  intro faithful
  have sound : (written "x".toUTF8).writeFault? (inPlace.target ⟨"./build"⟩) [octets "build"]
      (fullName "a") = none := by
    rw [writeFault?_written (written_written "x".toUTF8)]
    exact writeFault?_tree rfl (lookup?_tree _)
  obtain ⟨v, ran⟩ := exists_effect_apply rfl opens_inPlace sound
  have applied : ((inPlace.apply ⟨"./build"⟩).run ⟨written "x".toUTF8, []⟩).1 =
      .ok [(inPlace.target ⟨"./build"⟩).child (fullName "a")] := by rw [Attempt.run_fst, ran]
  have plain : ∀ module ∈ inPlace.modules, Path.IsName (octets module) := by
    intro module mem
    obtain rfl : module = "a" := List.mem_singleton.mp mem
    exact ⟨by decide, by decide, by decide⟩
  obtain ⟨-, kept⟩ := faithful inPlace ⟨"./build"⟩ ⟨written "x".toUTF8, []⟩ _ plain applied
  obtain ⟨bytes, before, -, after⟩ := kept _ (List.mem_singleton.mpr rfl)
  have emptied := Projection.empty_of_same_directory ran (opens.grown (written_written _))
    (opens_inPlace.grown (written_written _)) (straight_projection rfl) _
    (List.mem_singleton.mpr rfl)
  rw [Attempt.files_run, ran, emptied] at after
  have held : some (Node.file bytes) = some (.file "x".toUTF8) := before.symm.trans node?_script
  have same : ByteArray.empty = "x".toUTF8 := Node.file.inj (Option.some.inj (after.trans held))
  exact absurd (congrArg ByteArray.size same) (by decide)

end Sample

end ReleaseBundle
