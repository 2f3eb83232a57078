/-!
# TOML values

A value is a string, a boolean, a number, a moment, an array or a table. Numbers and
moments are kept as they are written. A table remembers how it came to be, because that
decides who may still add to it: a table written in braces is complete, one opened by a
header line is opened once, one that a longer header implies may be opened later, and
one that dotted keys made takes more dotted keys.
-/

namespace ReleaseBundle.Toml

/-- How a table came to be. -/
inductive Origin where
  | braces
  | header
  | implied
  | dotted
deriving DecidableEq, Repr

/-- A value. -/
inductive Value where
  | text (value : String)
  | flag (value : Bool)
  | number (text : String)
  /-- A date, a time of day, or both. -/
  | moment (text : String)
  /-- An array; `grows` if header lines in double brackets make its items. -/
  | list (grows : Bool) (items : List Value)
  | table (origin : Origin) (entries : List (String × Value))
deriving Repr

/-- The keys of a table with their values, in the order in which they appear. -/
abbrev Table := List (String × Value)

namespace Table

/-- The table with a new value for a key that it has. -/
def replace (t : Table) (key : String) (value : Value) : Table :=
  t.map fun (k, old) => if k = key then (k, value) else (k, old)

/-- The table with a new key, which it must not have. -/
def add? (t : Table) (key : String) (value : Value) : Option Table :=
  match t.lookup key with
  | some _ => none
  | none => some (t ++ [(key, value)])

/-- Changes the table at the end of a path of keys.  Tables missing on the way are
made, with the given origin; `mayEnter` tells which tables the path may pass. -/
def changeAt (made : Origin) (mayEnter : Origin → Bool) (change : Origin → Table → Option Table) :
    List String → Origin → Table → Option Table
  | [], origin, t => change origin t
  | key :: path, _, t =>
    match t.lookup key with
    | none => do
      let inner ← changeAt made mayEnter change path made []
      return t ++ [(key, .table made inner)]
    | some (.table origin inner) =>
      if mayEnter origin then do
        let inner ← changeAt made mayEnter change path origin inner
        return replace t key (.table origin inner)
      else none
    | some (.list true items) =>
      match items.getLast? with
      | some (.table origin inner) => do
        let inner ← changeAt made mayEnter change path origin inner
        return replace t key (.list true (items.dropLast ++ [.table origin inner]))
      | _ => none
    | some _ => none

/-- Changes the table that a header line names. -/
def changeSection (change : Origin → Table → Option Table) (path : List String) (t : Table) :
    Option Table :=
  changeAt .implied (· ≠ .braces) change path .header t

/-- The table with a value for a dotted key. -/
def assign (keys : List String) (value : Value) (t : Table) : Option Table := do
  let key ← keys.getLast?
  match keys.dropLast with
  | [] => add? t key value
  | path =>
    changeAt .dotted (· = .dotted)
      (fun origin inner => if origin = .dotted then add? inner key value else none) path .dotted t

/-- Opens the table that a header line in single brackets names. -/
def openTable (keys : List String) (t : Table) : Option Table := do
  let key ← keys.getLast?
  changeSection (fun _ outer =>
    match outer.lookup key with
    | none => some (outer ++ [(key, .table .header [])])
    | some (.table .implied inner) => some (replace outer key (.table .header inner))
    | some _ => none) keys.dropLast t

/-- Adds a table to the array that a header line in double brackets names. -/
def openItem (keys : List String) (t : Table) : Option Table := do
  let key ← keys.getLast?
  changeSection (fun _ outer =>
    match outer.lookup key with
    | none => some (outer ++ [(key, .list true [.table .header []])])
    | some (.list true items) =>
      some (replace outer key (.list true (items ++ [.table .header []])))
    | some _ => none) keys.dropLast t

/-- The document with a value for a dotted key of the present section. -/
def assignIn (path keys : List String) (value : Value) (t : Table) : Option Table :=
  changeSection (fun _ inner => assign keys value inner) path t

end Table

end ReleaseBundle.Toml
