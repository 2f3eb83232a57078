import ReleaseBundle.Text.Octets

/-!
# Paths

A path is kept as the octets it was written as, which need not be text.  Between its
slashes stand **segments**; an empty segment and a segment "." say nothing,
except that a path may start at the **root** ("/a") or, in so many words, at the
place where one is (**here**, "./a").  What is left are the **components**: two
paths are the same path when their components agree (`Path.SameAs`), however
they are spelled.  A segment ".." is a component like another: only a file
system can say where it leads.

Main statements: the segments of a spelling give it back (`unsegment_segments`), and a
slash between two spellings keeps their segments apart (`segments_append_slash`).
-/

namespace ReleaseBundle

/-- What a file is called in its directory: octets, which need not be text. -/
abbrev Name := List UInt8

/-- A text calls a file by its octets. -/
instance : Coe String Name := ⟨octets⟩

/-- A path, as it is written. -/
structure Path where
  spelling : List UInt8
deriving DecidableEq, Repr, Inhabited

/-- One component of a path. -/
inductive Component where
  | root
  | here
  | up
  | name (name : Name)
deriving DecidableEq, Repr

namespace Path

/-! ## Segments -/

/-- The path that a text writes. -/
abbrev ofText (text : String) : Path := ⟨octets text⟩

/-- What is shown of a path. -/
def text (p : Path) : String := Text.shown p.spelling

@[simp] theorem text_ofText (text : String) : (ofText text).text = text := Text.shown_octets text

/-- The pieces of a spelling between its slashes; one without a slash is one piece. -/
def segments : List UInt8 → List Name
  | [] => [[]]
  | slash :: rest => [] :: segments rest
  | c :: rest =>
    match segments rest with
    | [] => [[c]]
    | segment :: more => (c :: segment) :: more

/-- Segments with slashes between them. -/
def unsegment (pieces : List Name) : List UInt8 := [slash].intercalate pieces

theorem segments_slash (rest : List UInt8) : segments (slash :: rest) = [] :: segments rest := rfl

theorem segments_ne_nil (spelling : List UInt8) : segments spelling ≠ [] := by
  fun_induction segments spelling <;> simp

theorem segments_of_ne_slash {c : UInt8} (hc : c ≠ slash) {rest segment : List UInt8}
    {more : List Name} (h : segments rest = segment :: more) :
    segments (c :: rest) = (c :: segment) :: more := by
  rw [segments, h]
  exact hc

/-- **The segments of a spelling give it back.** -/
theorem unsegment_segments (spelling : List UInt8) :
    unsegment (segments spelling) = spelling := by
  induction spelling with
  | nil => rfl
  | cons c rest ih =>
    obtain ⟨segment, more, h⟩ := List.exists_cons_of_ne_nil (segments_ne_nil rest)
    rw [h] at ih
    rcases Decidable.em (c = slash) with rfl | hc
    · rw [segments_slash, h, unsegment, List.intercalate_cons_cons]
      exact congrArg (slash :: ·) ih
    · rw [segments_of_ne_slash hc h]
      cases more with
      | nil => simpa [unsegment] using ih
      | cons next more =>
        rw [unsegment, List.intercalate_cons_cons] at ih ⊢
        exact congrArg (c :: ·) ih

/-- A slash between two spellings keeps their segments apart. -/
theorem segments_append_slash (before after : List UInt8) :
    segments (before ++ slash :: after) = segments before ++ segments after := by
  induction before with
  | nil => exact segments_slash after
  | cons c before ih =>
    rcases Decidable.em (c = slash) with rfl | hc
    · rw [List.cons_append, segments_slash, segments_slash, ih, List.cons_append]
    · obtain ⟨first, more, h⟩ := List.exists_cons_of_ne_nil (segments_ne_nil before)
      rw [h, List.cons_append] at ih
      rw [List.cons_append, segments_of_ne_slash hc ih, segments_of_ne_slash hc h, List.cons_append]

/-- No segment has a slash in it. -/
theorem slash_not_mem_of_mem_segments {spelling segment : List UInt8}
    (h : segment ∈ segments spelling) : slash ∉ segment := by
  induction spelling generalizing segment with
  | nil =>
    obtain rfl := List.mem_singleton.mp h
    exact List.not_mem_nil
  | cons c rest ih =>
    obtain ⟨first, more, hs⟩ := List.exists_cons_of_ne_nil (segments_ne_nil rest)
    rw [hs] at ih
    rcases Decidable.em (c = slash) with rfl | hc
    · rw [segments_slash, hs] at h
      rcases List.mem_cons.mp h with rfl | h
      · exact List.not_mem_nil
      · exact ih h
    · rw [segments_of_ne_slash hc hs] at h
      rcases List.mem_cons.mp h with rfl | h
      · intro slash
        rcases List.mem_cons.mp slash with same | slash
        · exact hc same.symm
        · exact ih List.mem_cons_self slash
      · exact ih (List.mem_cons_of_mem _ h)

/-- Whether a segment says nothing: "" and ".". -/
def isIdle (segment : List UInt8) : Bool := segment = [] || segment = [dot]

/-- How a path starts. -/
inductive Start where
  | plain
  | root
  | here
deriving DecidableEq, Repr

/-- A path cut into its start and the segments after it. -/
structure Parts where
  start : Start
  body : List Name
deriving DecidableEq, Repr

/-- The start and the body of a path. -/
def parts (p : Path) : Parts :=
  match segments p.spelling with
  | [] :: [] => ⟨.plain, []⟩
  | [] :: body => ⟨.root, body⟩
  | [dot] :: body => ⟨.here, body⟩
  | body => ⟨.plain, body⟩

/-- The path with a given start and body. -/
def ofParts : Parts → Path
  | ⟨.plain, body⟩ => ⟨unsegment body⟩
  | ⟨.root, body⟩ => ⟨slash :: unsegment body⟩
  | ⟨.here, []⟩ => ⟨[dot]⟩
  | ⟨.here, body⟩ => ⟨dot :: slash :: unsegment body⟩

/-- Segments without the idle ones at their end. -/
def trimEnd (body : List Name) : List Name :=
  (body.reverse.dropWhile isIdle).reverse

/-! ## Components -/

/-- The component that a start is. -/
def Start.components : Start → List Component
  | .plain => []
  | .root => [.root]
  | .here => [.here]

/-- The component that a segment of the body is, if it says something. -/
def component? (segment : List UInt8) : Option Component :=
  if isIdle segment then none else if segment = [dot, dot] then some .up else some (.name segment)

/-- What a path says, spelling aside. -/
def components (p : Path) : List Component :=
  p.parts.start.components ++ p.parts.body.filterMap component?

/-- Two paths with the same components. -/
def SameAs (p q : Path) : Prop := p.components = q.components

instance (p q : Path) : Decidable (p.SameAs q) :=
  inferInstanceAs (Decidable (p.components = q.components))

theorem SameAs.refl (p : Path) : p.SameAs p := rfl

theorem SameAs.symm {p q : Path} (h : p.SameAs q) : q.SameAs p := Eq.symm h

theorem SameAs.trans {p q r : Path} (h : p.SameAs q) (k : q.SameAs r) : p.SameAs r :=
  Eq.trans h k

/-! ## Joining -/

/-- Whether a path starts at the root. -/
def isAbsolute (p : Path) : Bool := p.spelling.head? = some slash

/-- The path `q` as seen from `p`: an absolute `q` stands alone, and any other is
written after `p`, with a slash between unless one is there already. -/
def join (p q : Path) : Path :=
  if q.isAbsolute then q
  else if p.spelling.isEmpty || p.spelling.getLast? = some slash then ⟨p.spelling ++ q.spelling⟩
  else ⟨p.spelling ++ slash :: q.spelling⟩

/-- The file of a given name in the directory `p`. -/
def child (p : Path) (name : Name) : Path := p.join ⟨name⟩

/-- What the names lead to from the directory `p`, one below the other. -/
def childBelow (p : Path) (names : List Name) : Path := names.foldl child p

/-! ## Taking paths apart -/

/-- The last component, if it is a name. -/
def fileName? (p : Path) : Option Name :=
  match p.components.getLast? with
  | some (.name name) => some name
  | _ => none

/-- Whether a name is a text that starts with a dot.  Octets that encode no text are not, whatever
the first of them is. -/
def isDotted (name : Name) : Bool :=
  match Text.text? name with
  | some text => text.toList.head? = some '.'
  | none => false

theorem isDotted_iff {name : Name} :
    isDotted name = true ↔ ∃ rest : String, name = octets ("." ++ rest) := by
  constructor
  · intro dotted
    rw [isDotted] at dotted
    split at dotted
    · rename_i text encoded
      obtain ⟨rest, chars⟩ := List.head?_eq_some_iff.mp (of_decide_eq_true dotted)
      have split : text = "." ++ String.ofList rest := String.toList_inj.mp (by simp [chars])
      exact ⟨String.ofList rest, split ▸ Text.text?_eq_some_iff.mp encoded⟩
    · cases dotted
  · rintro ⟨rest, rfl⟩
    rw [isDotted, Text.text?_octets]
    simp

/-- Whether a path names a hidden file. -/
def isHidden (p : Path) : Bool := p.fileName?.any isDotted

/-- What a path lies in: its spelling without the last component, if there is one
to leave out; the root lies in nothing. -/
def parent? (p : Path) : Option Path :=
  match trimEnd p.parts.body with
  | [] => if p.parts.start = .here then some ⟨[]⟩ else none
  | body => some (ofParts ⟨p.parts.start, trimEnd body.dropLast⟩)

/-- A path and what it lies in, `count` steps outwards or as far as it goes. -/
def lineageUpTo : Nat → Path → List Path
  | 0, p => [p]
  | count + 1, p =>
    match p.parent? with
    | none => [p]
    | some q => p :: lineageUpTo count q

/-- A path and all it lies in, from the path itself outwards.  Every step leaves
out a component, so there are no more steps than octets. -/
def lineage (p : Path) : List Path := lineageUpTo p.spelling.length p

/-- A body after its first `count` components. -/
def dropComponents : Nat → List Name → List Name
  | 0, body => body
  | _ + 1, [] => []
  | count + 1, segment :: body =>
    if isIdle segment then dropComponents (count + 1) body else dropComponents count body

/-- The rest of a path below `base`: the spelling after the components of `base`,
if the path starts with these. -/
def below? (p base : Path) : Option Path :=
  if base.components.isPrefixOf p.components then
    match base.components.length with
    | 0 => some (ofParts ⟨p.parts.start, trimEnd p.parts.body⟩)
    | count + 1 =>
      let rest := dropComponents (count + 1 - p.parts.start.components.length) p.parts.body
      some (ofParts ⟨.plain, trimEnd (rest.dropWhile isIdle)⟩)
  else none

end Path

end ReleaseBundle
