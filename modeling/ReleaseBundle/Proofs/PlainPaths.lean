import ReleaseBundle.Proofs.Spelling

/-!
# Plain paths

A path is **plain** if it goes down by names alone: it starts neither at the root nor, in so
many words, at the place where one is, and it never goes up.  What a plain path says, seen
from a directory, is what the directory says and then its own names (`Path.components_join`),
and what is left of a path below a base is what it says after the base
(`Path.components_below`).

Without links a path can be followed in its text: where it leads, if anywhere, is its
**landing** (`FileSystem.location_of_resolve`).  So two plain paths that lead to one place
from the same directory are two spellings of one path (`FileSystem.sameAs_of_resolve`).
-/

namespace ReleaseBundle

/-- Whether a component is a name. -/
def Component.isName : Component → Bool
  | .name _ => true
  | _ => false

namespace Path

/-- A path that goes down by names alone. -/
def IsPlain (p : Path) : Prop := ∀ c ∈ p.components, c.isName = true

instance (p : Path) : Decidable p.IsPlain :=
  inferInstanceAs (Decidable (∀ c ∈ p.components, c.isName = true))

/-! ## Start and body -/

/-- How segments are cut into a start and a body. -/
inductive Cut : List Name → Parts → Prop where
  | nothing : Cut [[]] ⟨.plain, []⟩
  | root {body : List Name} (some_more : body ≠ []) : Cut ([] :: body) ⟨.root, body⟩
  | here {body : List Name} : Cut ([dot] :: body) ⟨.here, body⟩
  | plain {first : Name} {more : List Name} (loud : isIdle first = false) :
      Cut (first :: more) ⟨.plain, first :: more⟩

variable {p q base dir : Path} {first segment : Name} {body more : List Name}

/-- **A path's segments are cut** into its start and its body. -/
theorem cut_parts (p : Path) : Cut (segments p.spelling) p.parts := by
  rw [parts]
  split
  · rename_i empty
    rw [empty]
    exact .nothing
  · rename_i body some_more split
    rw [split]
    exact .root some_more
  · rename_i split
    rw [split]
    exact .here
  · rename_i no_root no_here
    obtain ⟨first, more, split⟩ := List.exists_cons_of_ne_nil (segments_ne_nil p.spelling)
    rw [split] at no_root no_here ⊢
    refine .plain ?_
    rw [isIdle, Bool.or_eq_false_iff]
    constructor
    · exact decide_eq_false fun root => no_root more (root ▸ rfl)
    · exact decide_eq_false fun here => no_here more (here ▸ rfl)

theorem Cut.unique {segments : List Name} {a b : Parts} (h : Cut segments a)
    (h' : Cut segments b) : a = b := by
  cases h with
  | nothing =>
    cases h' with
    | nothing => rfl
    | root some_more => exact absurd rfl some_more
    | plain loud => cases loud
  | root some_more =>
    cases h' with
    | nothing => exact absurd rfl some_more
    | root => rfl
    | plain loud => cases loud
  | here =>
    cases h' with
    | here => rfl
    | plain loud => cases loud
  | plain loud =>
    cases h' with
    | nothing => cases loud
    | root => cases loud
    | here => cases loud
    | plain => rfl

theorem parts_eq_of_cut {parts : Parts} (cut : Cut (segments p.spelling) parts) :
    p.parts = parts := p.cut_parts.unique cut

theorem mem_segments_of_mem_body (mem : segment ∈ p.parts.body) :
    segment ∈ segments p.spelling := by
  have cut := p.cut_parts
  generalize p.parts = parts at cut mem
  generalize segments p.spelling = pieces at cut ⊢
  cases cut with
  | nothing => cases mem
  | root => exact List.mem_cons_of_mem _ mem
  | here => exact List.mem_cons_of_mem _ mem
  | plain => exact mem

/-- A path that starts plainly says something at once. -/
theorem not_isIdle_of_plain (plain : p.parts.start = .plain)
    (split : p.parts.body = first :: more) : isIdle first = false := by
  have cut := p.cut_parts
  generalize p.parts = parts at cut plain split
  generalize segments p.spelling = pieces at cut
  cases cut with
  | nothing => cases split
  | root => cases plain
  | here => cases plain
  | plain loud =>
    cases split
    exact loud

/-- A plain path starts plainly. -/
theorem IsPlain.start (plain : p.IsPlain) : p.parts.start = .plain := by
  rw [IsPlain, components] at plain
  cases start : p.parts.start with
  | plain => rfl
  | root =>
    rw [start] at plain
    cases plain .root (List.mem_append_left _ (List.mem_singleton_self _))
  | here =>
    rw [start] at plain
    cases plain .here (List.mem_append_left _ (List.mem_singleton_self _))

theorem IsPlain.relative (plain : p.IsPlain) : p.isAbsolute = false := by
  by_contra absolute
  have root := p.parts_spec.1.mpr (by simpa using absolute)
  rw [plain.start] at root
  cases root

/-! ## What segments say -/

theorem component?_of_idle (idle : isIdle segment = true) : component? segment = none := by
  rw [component?, if_pos idle]

theorem filterMap_of_idle {pieces : List Name} (idle : ∀ segment ∈ pieces, isIdle segment = true) :
    pieces.filterMap component? = [] :=
  List.filterMap_eq_nil_iff.mpr fun segment mem => component?_of_idle (idle segment mem)

theorem filterMap_loud (segments : List Name) :
    (loud segments).filterMap component? = segments.filterMap component? := by
  rw [loud, List.filterMap_filter]
  congr 1
  funext segment
  by_cases idle : isIdle segment = true
  · simp [idle, component?_of_idle idle]
  · simp [idle]

/-- A path's body says what its segments say. -/
theorem filterMap_body (p : Path) :
    p.parts.body.filterMap component? = (segments p.spelling).filterMap component? := by
  rw [← filterMap_loud, p.parts_spec.2, filterMap_loud]

/-- What a plain path says, it says in its segments. -/
theorem IsPlain.components_eq (plain : p.IsPlain) :
    p.components = (segments p.spelling).filterMap component? := by
  rw [components, plain.start, filterMap_body]
  rfl

/-- What the first segment of a path says, in its place. -/
def opening (first : Name) : List Component :=
  if first = [] then [.root] else if first = [dot] then [.here] else (component? first).toList

/-- **What a path says**, segment by segment: the first one may say where it starts. -/
theorem components_of_segments (split : segments p.spelling = first :: more)
    (ne : p.spelling ≠ []) :
    p.components = opening first ++ more.filterMap component? := by
  have cut := p.cut_parts
  rw [split] at cut
  rw [components]
  generalize p.parts = parts at cut ⊢
  cases cut with
  | nothing =>
    have text := unsegment_segments p.spelling
    rw [split] at text
    exact absurd text.symm ne
  | root => rfl
  | here => rfl
  | plain loud =>
    obtain ⟨not_root, not_here⟩ := Bool.or_eq_false_iff.mp loud
    rw [opening, if_neg (of_decide_eq_false not_root), if_neg (of_decide_eq_false not_here)]
    cases spoken : component? first <;> simp [Start.components, spoken]

/-! ## Paths put together -/

theorem outer_ne_nil (ne : dir.spelling ≠ []) : dir.outer ≠ [] := by
  rw [outer]
  split
  · rename_i needless
    obtain ⟨before, text⟩ := List.getLast?_eq_some_iff.mp (needless.resolve_left ne)
    rw [text, segments_append_slash, segments, List.dropLast_concat]
    exact segments_ne_nil before
  · exact segments_ne_nil _

theorem components_of_empty (empty : p.spelling = []) : p.components = [] := by
  have nothing : p.parts = ⟨.plain, []⟩ := parts_eq_of_cut (by rw [empty]; exact .nothing)
  rw [components, nothing]
  rfl

/-- **A relative path, seen from a directory,** says what the directory says and what its own
segments say; how it starts goes for nothing. -/
theorem components_join_of_relative (ne : dir.spelling ≠ []) (relative : q.isAbsolute = false) :
    (dir.join q).components =
      dir.components ++ (segments q.spelling).filterMap component? := by
  obtain ⟨first, more, split⟩ := List.exists_cons_of_ne_nil (outer_ne_nil ne)
  obtain ⟨count, slashes⟩ := dir.segments_eq_outer ne
  have joined := dir.segments_join relative
  have some_text : (dir.join q).spelling ≠ [] := by
    intro nothing
    rw [dir.spelling_join relative] at nothing
    split at nothing <;> simp [ne] at nothing
  have idle : (List.replicate count ([] : Name)).filterMap component? = [] :=
    filterMap_of_idle fun segment mem => by rw [List.eq_of_mem_replicate mem]; rfl
  rw [split, List.cons_append] at slashes joined
  rw [components_of_segments slashes ne, components_of_segments joined some_text,
    List.filterMap_append, List.filterMap_append, idle, List.append_nil, List.append_assoc]

/-- **A plain path, seen from a directory,** says what the directory says and what it says
itself. -/
theorem components_join (dir : Path) (plain : q.IsPlain) :
    (dir.join q).components = dir.components ++ q.components := by
  by_cases empty : dir.spelling = []
  · have joined : dir.join q = q := by simp [join, plain.relative, empty]
    rw [joined, components_of_empty empty, List.nil_append]
  · rw [components_join_of_relative empty plain.relative, plain.components_eq]

/-- What a directory says comes first in a relative path that is seen from it. -/
theorem components_prefix_join (dir : Path) (relative : q.isAbsolute = false) :
    dir.components <+: (dir.join q).components := by
  by_cases empty : dir.spelling = []
  · rw [components_of_empty empty]
    exact List.nil_prefix
  · exact ⟨_, (components_join_of_relative empty relative).symm⟩

theorem IsName.components {name : Name} (h : IsName name) :
    (⟨name⟩ : Path).components = [.name name] := by
  have cut : Cut (segments name) ⟨.plain, [name]⟩ := by
    rw [segments_of_no_slash h.slash]
    exact .plain h.idle
  rw [Path.components, parts_eq_of_cut (p := ⟨name⟩) cut]
  simp [Start.components, component?, h.idle, h.down]

theorem IsName.isPlain {name : Name} (h : IsName name) : (⟨name⟩ : Path).IsPlain := by
  intro c mem
  rw [h.components] at mem
  obtain rfl := List.mem_singleton.mp mem
  rfl

/-- **Names below a directory** are said after it, one by one. -/
theorem components_childBelow (dir : Path) {names : List Name}
    (sound : ∀ name ∈ names, IsName name) :
    (dir.childBelow names).components = dir.components ++ names.map .name := by
  induction names generalizing dir with
  | nil => simp [childBelow]
  | cons name names ih =>
    obtain ⟨first, rest⟩ := List.forall_mem_cons.mp sound
    have step : dir.childBelow (name :: names) =
        (dir.child name).childBelow names := rfl
    rw [step, ih _ rest, child, components_join dir first.isPlain, first.components,
      List.append_assoc]
    rfl

/-! ## Paths below others -/

theorem segments_unsegment (no_slash : ∀ segment ∈ body, slash ∉ segment) (ne : body ≠ []) :
    segments (unsegment body) = body := by
  induction body with
  | nil => exact absurd rfl ne
  | cons first more ih =>
    obtain ⟨here, rest⟩ := List.forall_mem_cons.mp no_slash
    cases more with
    | nil => simpa [unsegment] using segments_of_no_slash here
    | cons next more =>
      have text : unsegment (first :: next :: more) =
          first ++ slash :: unsegment (next :: more) := by
        simp [unsegment, List.intercalate_cons_cons]
      rw [text, segments_append_slash, segments_of_no_slash here, ih rest (List.cons_ne_nil _ _)]
      rfl

/-- **The path of a start and a body** says what they say, if its body does not start anew. -/
theorem components_ofParts (start : Start) (no_slash : ∀ segment ∈ body, slash ∉ segment)
    (goes_on : start = .plain → ∀ first more, body = first :: more → isIdle first = false) :
    (ofParts ⟨start, body⟩).components = start.components ++ body.filterMap component? := by
  cases body with
  | nil => cases start <;> rfl
  | cons first more =>
    have spelled := segments_unsegment no_slash (List.cons_ne_nil first more)
    have cut : Cut (segments (ofParts ⟨start, first :: more⟩).spelling)
        ⟨start, first :: more⟩ := by
      cases start with
      | plain =>
        rw [ofParts, spelled]
        exact .plain (goes_on rfl first more rfl)
      | root =>
        rw [ofParts, segments_slash, spelled]
        exact .root (List.cons_ne_nil first more)
      | here =>
        have split := segments_append_slash [dot] (unsegment (first :: more))
        rw [spelled] at split
        rw [ofParts]
        · exact split ▸ .here
        · exact List.cons_ne_nil first more
    rw [components, parts_eq_of_cut cut]

theorem trimEnd_isPrefixOf (body : List Name) : trimEnd body <+: body := by
  have suffix := List.dropWhile_suffix (l := body.reverse) isIdle
  simpa [trimEnd] using List.reverse_prefix.mpr suffix

theorem filterMap_dropWhile (body : List Name) :
    (body.dropWhile isIdle).filterMap component? = body.filterMap component? := by
  induction body with
  | nil => rfl
  | cons segment body ih =>
    by_cases idle : isIdle segment = true
    · rw [List.dropWhile_cons_of_pos idle, ih,
        List.filterMap_cons_none (component?_of_idle idle)]
    · rw [List.dropWhile_cons_of_neg idle]

theorem filterMap_trimEnd (body : List Name) :
    (trimEnd body).filterMap component? = body.filterMap component? := by
  rw [trimEnd, List.filterMap_reverse, filterMap_dropWhile, ← List.filterMap_reverse,
    List.reverse_reverse]

theorem dropComponents_suffix (count : Nat) (body : List Name) :
    dropComponents count body <:+ body := by
  fun_induction dropComponents count body with
  | case1 body => exact List.suffix_refl body
  | case2 count => exact List.suffix_refl []
  | case3 count segment body idle ih => exact ih.trans (List.suffix_cons segment body)
  | case4 count segment body loud ih => exact ih.trans (List.suffix_cons segment body)

/-- A body after some components says what is left. -/
theorem filterMap_dropComponents (count : Nat) (body : List Name) :
    (dropComponents count body).filterMap component? = (body.filterMap component?).drop count := by
  fun_induction dropComponents count body with
  | case1 body => rfl
  | case2 count => rfl
  | case3 count segment body idle ih =>
    rw [ih, List.filterMap_cons_none (component?_of_idle idle)]
  | case4 count segment body loud ih =>
    have spoken : ∃ c, component? segment = some c := by
      rw [component?, if_neg loud]
      split <;> exact ⟨_, rfl⟩
    obtain ⟨c, spoken⟩ := spoken
    rw [ih, List.filterMap_cons_some spoken, List.drop_succ_cons]

/-- Idle segments at its end are nothing to a path. -/
theorem components_trimmed (p : Path) :
    (ofParts ⟨p.parts.start, trimEnd p.parts.body⟩).components = p.components := by
  obtain ⟨tail, whole⟩ := trimEnd_isPrefixOf p.parts.body
  have no_slash : ∀ segment ∈ trimEnd p.parts.body, slash ∉ segment := fun segment mem =>
    slash_not_mem_of_mem_segments
      (mem_segments_of_mem_body ((trimEnd_isPrefixOf p.parts.body).subset mem))
  rw [components_ofParts p.parts.start no_slash, filterMap_trimEnd, components]
  intro plain first more split
  rw [split, List.cons_append] at whole
  exact not_isIdle_of_plain plain whole.symm

/-- Segments without the idle ones around them, as a path of their own, say what they said. -/
theorem components_rest {rest : List Name} (no_slash : ∀ segment ∈ rest, slash ∉ segment) :
    (ofParts ⟨.plain, trimEnd (rest.dropWhile isIdle)⟩).components =
      rest.filterMap component? := by
  obtain ⟨tail, whole⟩ := trimEnd_isPrefixOf (rest.dropWhile isIdle)
  have kept : trimEnd (rest.dropWhile isIdle) ⊆ rest := fun segment mem =>
    (List.dropWhile_suffix isIdle).subset ((trimEnd_isPrefixOf _).subset mem)
  rw [components_ofParts .plain fun segment mem => no_slash segment (kept mem), filterMap_trimEnd,
    filterMap_dropWhile]
  · rfl
  · intro _ first more split
    have head := List.head?_dropWhile_not isIdle rest
    rw [← whole, split] at head
    simpa using head

/-- What starts with what a base says is below the base. -/
theorem exists_below (starts : base.components <+: p.components) : ∃ q, p.below? base = some q := by
  rw [below?, if_pos (List.isPrefixOf_iff_prefix.mpr starts)]
  split <;> exact ⟨_, rfl⟩

/-- **A path below a base** says what is left after the base. -/
theorem components_below (below : p.below? base = some q) :
    base.components ++ q.components = p.components := by
  rw [below?] at below
  split at below
  · rename_i starts
    have whole := List.prefix_iff_eq_append.mp (List.isPrefixOf_iff_prefix.mp starts)
    cases count : base.components.length with
    | zero =>
      rw [count] at below
      obtain rfl := (Option.some.inj below).symm
      rw [components_trimmed, List.eq_nil_of_length_eq_zero count, List.nil_append]
    | succ count' =>
      rw [count] at below
      obtain rfl := (Option.some.inj below).symm
      have no_slash : ∀ segment ∈ dropComponents (count' + 1 - p.parts.start.components.length)
          p.parts.body, slash ∉ segment := fun segment mem =>
        slash_not_mem_of_mem_segments
          (mem_segments_of_mem_body ((dropComponents_suffix _ _).subset mem))
      -- The start is a component of the base, if it is one at all.
      have short : p.parts.start.components.length ≤ count' + 1 := by
        cases p.parts.start <;> simp [Start.components]
      have left : p.components.drop base.components.length =
          (p.parts.body.filterMap component?).drop
            (count' + 1 - p.parts.start.components.length) := by
        rw [count, components, List.drop_append, List.drop_of_length_le short, List.nil_append]
      rw [components_rest no_slash, filterMap_dropComponents, ← left]
      exact whole
  · cases below

/-! ## Where a text leads -/

/-- Where segments lead from a location if no link is on the way. -/
def landing (here : Location) (segments : List Name) : Location :=
  segments.foldl (fun l segment =>
    if isIdle segment then l else if segment = [dot, dot] then l.dropLast else l ++ [segment]) here

theorem landing_cons_idle (here : Location) (idle : isIdle segment = true) (rest : List Name) :
    landing here (segment :: rest) = landing here rest := by
  rw [landing, List.foldl_cons, if_pos idle, landing]

theorem landing_cons_up (here : Location) (rest : List Name) :
    landing here ([dot, dot] :: rest) = landing here.dropLast rest := rfl

theorem landing_cons_name (here : Location) (loud : ¬ isIdle segment = true)
    (down : segment ≠ [dot, dot]) (rest : List Name) :
    landing here (segment :: rest) = landing (here ++ [segment]) rest := by
  rw [landing, List.foldl_cons, if_neg loud, if_neg down, landing]

theorem landing_append (here : Location) (before after : List Name) :
    landing here (before ++ after) = landing (landing here before) after := by
  rw [landing, List.foldl_append, landing, landing]

/-- Names lead down to themselves. -/
theorem landing_of_names (here : Location) {segments : List Name}
    (names : ∀ c ∈ segments.filterMap component?, c.isName = true) :
    (landing here segments).map Component.name =
      here.map Component.name ++ segments.filterMap component? := by
  induction segments generalizing here with
  | nil => simp [landing]
  | cons segment rest ih =>
    by_cases idle : isIdle segment = true
    · rw [List.filterMap_cons_none (component?_of_idle idle)] at names ⊢
      rw [landing_cons_idle here idle, ih here names]
    by_cases up : segment = [dot, dot]
    · subst up
      cases names .up (List.mem_filterMap.mpr ⟨_, List.mem_cons_self, rfl⟩)
    · have spoken : component? segment = some (.name segment) := by
        rw [component?, if_neg idle, if_neg up]
      rw [List.filterMap_cons_some spoken] at names ⊢
      rw [landing_cons_name here idle up, ih _ (List.forall_mem_cons.mp names).2]
      simp

end Path

namespace FileSystem

variable {t : FileSystem} {ending ending' : Ending} {links : Nat} {here : Location}

/-- **Without links a walk ends where its text lands.** -/
theorem location_of_walk (unlinked : ∀ l target, t.lookup? l ≠ some (.link target))
    {segments : List Name} {place : Place}
    (ends : t.walk ending links here segments = .ok place) :
    place.location = Path.landing here segments := by
  induction links, here, segments using walk_induction t ending with
  | step links here segments ih =>
    cases segments with
    | nil =>
      rw [walk_nil] at ends
      cases ends
      rfl
    | cons segment rest =>
      by_cases stands : t.lookup? here = some .directory
      · rw [walk_eq_stride] at ends
        cases strides : t.stride ending links here (segment :: rest) with
        | stop result =>
          rw [strides] at ends
          obtain rfl : result = .ok place := ends
          obtain ⟨-, plain, down, -, rfl, rfl, -⟩ := eq_of_stride_ok strides
          rw [Path.landing_cons_name here (by simp [plain]) down]
          rfl
        | go links' here' segments' =>
          rw [strides] at ends
          have later := ih links' here' segments' strides ends
          rw [stride_of_directory stands] at strides
          split at strides
          · rename_i idle
            cases strides
            rw [later, Path.landing_cons_idle here idle]
          split at strides
          · rename_i up
            cases strides
            rw [later, up, Path.landing_cons_up]
          split at strides
          · cases strides
          split at strides
          · cases strides
          rename_i loud down _ _
          cases found : t.lookup? (here ++ [segment]) with
          | none =>
            rw [found] at strides
            cases strides
          | some node =>
            cases node with
            | file bytes =>
              rw [found] at strides
              cases strides
            | directory =>
              rw [found, enter] at strides
              split at strides
              · cases strides
              · cases strides
                rw [later, Path.landing_cons_name here loud down]
            | link target => exact absurd found (unlinked _ target)
      · rw [walk_of_not_directory stands] at ends
        cases ends

theorem location_of_resolve (unlinked : ∀ l target, t.lookup? l ≠ some (.link target)) {p : Path}
    {place : Place} (leads : t.resolve ending p = .ok place) :
    place.location = Path.landing (t.startOf p) (Path.segments p.spelling) :=
  location_of_walk unlinked (walk_of_resolve leads).2

/-- A plain path lands below its directory, at what it says. -/
theorem location_of_plain (unlinked : ∀ l target, t.lookup? l ≠ some (.link target))
    {dir p : Path} (plain : p.IsPlain) {place : Place}
    (leads : t.resolve ending (dir.join p) = .ok place) :
    place.location.map Component.name =
      (Path.landing (t.startOf dir) dir.outer).map Component.name ++ p.components := by
  have start : t.startOf (dir.join p) = t.startOf dir := by
    rw [startOf, startOf, Path.isAbsolute_join dir plain.relative]
  have names := plain
  rw [Path.IsPlain, plain.components_eq] at names
  rw [location_of_resolve unlinked leads, start, dir.segments_join plain.relative,
    Path.landing_append, Path.landing_of_names _ names, plain.components_eq]

/-- **Plain paths to one place** are spellings of one path. -/
theorem sameAs_of_resolve (unlinked : ∀ l target, t.lookup? l ≠ some (.link target))
    {dir p q : Path} (plain : p.IsPlain) (plain' : q.IsPlain) {place : Place}
    (leads : t.resolve ending (dir.join p) = .ok place)
    (leads' : t.resolve ending' (dir.join q) = .ok place) : p.SameAs q := by
  have at_p := location_of_plain unlinked plain leads
  have at_q := location_of_plain unlinked plain' leads'
  exact List.append_cancel_left (at_p.symm.trans at_q)

end FileSystem

end ReleaseBundle
