import ReleaseBundle.Proofs.GrowingRuns
import ReleaseBundle.Proofs.Pipelines

/-!
# Where the artifacts of a module are

The name of a module may be anything, so it may have slashes in it, and the artifacts need not
be in the output directory.  Still their three paths never lead to one place, unless there is a
link (`artifactName_eq_of_leadsTo`): whatever stands before, the last segment of each path is a
name, and the three names end in different ways (`Path.exists_last_child`).  And a path whose
last segment is a name leads to this name, if it leads anywhere and not to a link
(`FileSystem.getLast?_of_leadsTo`).
-/

namespace ReleaseBundle

namespace Path

/-- What has no slashes and stands behind a spelling belongs to its last segment. -/
theorem exists_last_segment (spelling : List UInt8) :
    ∃ init last, segments spelling = init ++ [last] ∧
      ∀ ending, slash ∉ ending → segments (spelling ++ ending) = init ++ [last ++ ending] := by
  induction spelling with
  | nil => exact ⟨[], [], rfl, fun ending no_slash => segments_of_no_slash no_slash⟩
  | cons c spelling ih =>
    obtain ⟨init, last, split, longer⟩ := ih
    by_cases slash : c = slash
    · subst slash
      refine ⟨[] :: init, last, ?_, fun ending no_slash => ?_⟩
      · rw [segments_slash, split, List.cons_append]
      · rw [List.cons_append, segments_slash, longer ending no_slash, List.cons_append]
    · cases init with
      | nil =>
        exact ⟨[], c :: last, segments_of_ne_slash slash split, fun ending no_slash =>
          segments_of_ne_slash slash (longer ending no_slash)⟩
      | cons first init =>
        exact ⟨(c :: first) :: init, last, segments_of_ne_slash slash split, fun ending no_slash =>
          segments_of_ne_slash slash (longer ending no_slash)⟩

/-- A path that is joined to another is read last. -/
theorem exists_segments_join (dir q : Path) :
    ∃ before, segments (dir.join q).spelling = before ++ segments q.spelling := by
  cases absolute : q.isAbsolute with
  | true => exact ⟨[], by rw [join, if_pos absolute, List.nil_append]⟩
  | false => exact ⟨dir.outer, segments_join dir absolute⟩

/-- **The last segments of children** whose names start alike do so, too, and go on in the same
way. -/
theorem exists_last_child (dir : Path) (name : String) :
    ∃ last, slash ∉ last ∧ ∀ ending : String, slash ∉ octets ending →
      (segments (dir.child (octets (name ++ ending))).spelling).getLast? =
        some (last ++ octets ending) := by
  obtain ⟨init, last, split, longer⟩ := exists_last_segment (octets name)
  have mem : last ∈ segments (octets name) := by simp [split]
  refine ⟨last, slash_not_mem_of_mem_segments mem, fun ending free => ?_⟩
  obtain ⟨before, whole⟩ := exists_segments_join dir ⟨octets (name ++ ending)⟩
  rw [child, whole, octets_append, longer _ free, ← List.append_assoc, List.getLast?_concat]

end Path

namespace FileSystem

variable {t : FileSystem} {links : Nat} {here l : Location} {name : Name} {n : Option Node}

/-- A walk along one name ends at this name, if it does not come to a link. -/
theorem eq_of_walk_name (is_name : Path.IsName name)
    (ends : t.walk .followed links here [name] = .ok ⟨l, n⟩)
    (straight : ∀ k target, t.walk .atLink links here [name] ≠ .ok ⟨k, some (.link target)⟩) :
    l = here ++ [name] := by
  by_cases stands : t.lookup? here = some .directory
  · by_cases short : name.length ≤ nameLimit
    · have unlinked : ∀ target, t.lookup? (here ++ [name]) ≠ some (.link target) := by
        intro target link
        refine straight (here ++ [name]) target ?_
        rw [walk_name stands is_name.idle is_name.down short fun _ _ => rfl, link]
      rw [walk_name stands is_name.idle is_name.down short fun target link =>
        absurd link (unlinked target)] at ends
      exact (Place.mk.inj (Except.ok.inj ends)).1.symm
    · rw [walk_long_name stands is_name.idle is_name.down (Nat.lt_of_not_le short)] at ends
      cases ends
  · rw [walk_of_not_directory stands] at ends
    cases ends

/-- **A walk whose last segment is a name** ends at this name, if it does not come to a link in
the last place. -/
theorem getLast?_of_walk {segments : List Name} (last : segments.getLast? = some name)
    (is_name : Path.IsName name) (ends : t.walk .followed links here segments = .ok ⟨l, n⟩)
    (straight : ∀ k target, t.walk .atLink links here segments ≠ .ok ⟨k, some (.link target)⟩) :
    l.getLast? = some name := by
  induction links, here, segments using walk_induction t .atLink with
  | step links here segments ih =>
    cases segments with
    | nil => cases last
    | cons segment rest =>
      by_cases more : rest = []
      · subst more
        obtain rfl : segment = name := Option.some.inj last
        rw [eq_of_walk_name is_name ends straight, List.getLast?_concat]
      rw [List.getLast?_cons_of_ne_nil more] at last
      rw [walk_eq_stride] at ends straight
      cases strides : t.stride .atLink links here (segment :: rest) with
      | go links' here' segments' =>
        have on : t.stride .followed links here (segment :: rest ++ []) =
            .go links' here' (segments' ++ []) := stride_append strides (Or.inr nofun) nofun
        rw [List.append_nil, List.append_nil] at on
        rw [on] at ends
        rw [strides] at straight
        -- The rest is still there to be read, behind the target if a link is followed.
        have last' : segments'.getLast? = some name := by
          obtain ⟨-, ⟨-, rfl, -⟩ | ⟨-, rfl, -⟩ | ⟨target, -, -, -, rfl⟩⟩ := stride_go_cases strides
          · exact last
          · exact last
          · rw [List.getLast?_append, last, Option.some_or]
        exact ih links' here' segments' strides last' ends straight
      | stop result =>
        cases result with
        | error cause =>
          have failed : t.stride .followed links here (segment :: rest ++ []) =
              .stop (.error cause) := stride_append_of_error strides nofun (Or.inr nofun) nofun
          rw [List.append_nil] at failed
          rw [failed] at ends
          cases ends
        | ok place =>
          obtain ⟨-, -, -, -, none_left, -⟩ := eq_of_stride_ok strides
          exact absurd none_left more

/-- **A path whose last segment is a name** leads to this name, if it leads anywhere and not to a
link. -/
theorem getLast?_of_leadsTo {p : Path}
    (last : (Path.segments p.spelling).getLast? = some name) (is_name : Path.IsName name)
    (straight : ¬ t.IsLink p) (leads : t.LeadsTo p l) : l.getLast? = some name := by
  obtain ⟨n, found⟩ := leads
  obtain ⟨sound, walked⟩ := walk_of_resolve found
  exact getLast?_of_walk last is_name walked fun k target link =>
    straight ⟨k, target, (resolve_of_sound sound).trans link⟩

end FileSystem

open FileSystem

variable {module name name' : String} {outDir : Path} {t u : FileSystem} {l : Location}

/-- How the name of an artifact goes on behind the name of the module. -/
theorem exists_ending (artifact : name ∈ artifactNames module) :
    ∃ ending : String, name = module ++ ending ∧ slash ∉ octets ending ∧
      2 < (octets ending).length := by
  obtain rfl | rfl | rfl := mem_artifactNames_iff.mp artifact
  · exact ⟨_, rfl, by decide, by decide⟩
  · exact ⟨_, rfl, by decide, by decide⟩
  · exact ⟨_, rfl, by decide, by decide⟩

/-- **In one place there is one artifact of a module**, if its paths lead to no links. -/
theorem artifactName_eq_of_leadsTo (artifact : name ∈ artifactNames module)
    (artifact' : name' ∈ artifactNames module)
    (straight : ¬ t.IsLink (outDir.child name)) (straight' : ¬ t.IsLink (outDir.child name'))
    (leads : t.LeadsTo (outDir.child name) l) (leads' : t.LeadsTo (outDir.child name') l) :
    name = name' := by
  obtain ⟨last, no_slash, ends⟩ := outDir.exists_last_child module
  have at_name : ∀ ending : String, slash ∉ octets ending → 2 < (octets ending).length →
      ¬ t.IsLink (outDir.child (octets (module ++ ending))) →
        t.LeadsTo (outDir.child (octets (module ++ ending))) l →
          l.getLast? = some (last ++ octets ending) := by
    intro ending free long straight leads
    refine getLast?_of_leadsTo (ends ending free) (isName_of_long ?_ ?_) straight leads
    · exact fun slash => (List.mem_append.mp slash).elim no_slash free
    · rw [List.length_append]
      omega
  obtain ⟨ending, rfl, free, long⟩ := exists_ending artifact
  obtain ⟨ending', rfl, free', long'⟩ := exists_ending artifact'
  have same := (at_name ending free long straight leads).symm.trans
    (at_name ending' free' long' straight' leads')
  rw [octets_inj.mp (List.append_cancel_left (Option.some.inj same))]

/-- **Writing one artifact leaves the others alone**, unless a link makes them one file. -/
theorem node?_of_other_artifact (artifact : name ∈ artifactNames module)
    (artifact' : name' ∈ artifactNames module)
    (ne : name' ≠ name) (leads : t.LeadsTo (outDir.child name) l)
    (written : Written (fun k => k = l) t u) :
    u.node? (outDir.child name') = t.node? (outDir.child name') ∨
      (t.IsLink (outDir.child name) ∨ t.IsLink (outDir.child name')) ∧
        u.node? (outDir.child name') = u.node? (outDir.child name) := by
  by_cases shared : t.LeadsTo (outDir.child name') l
  · refine Or.inr ⟨?_, ?_⟩
    · by_contra straight
      obtain ⟨first, second⟩ := not_or.mp straight
      exact ne (artifactName_eq_of_leadsTo artifact' artifact second first shared leads)
    · rw [(shared.grown written).node?_eq, (leads.grown written).node?_eq]
  · refine Or.inl (node?_of_written written ?_)
    rintro _ there rfl
    exact shared there

end ReleaseBundle
