import ReleaseBundle.Pattern.Segment
import ReleaseBundle.Pattern.Tree
import ReleaseBundle.Text.Edition

/-!
# Names of properties

The names by which a pattern may ask for a property: the properties that characters
have or have not, the general categories with their groups, the scripts, and the
properties that are asked for together with one of their values.  Names are compared
in a loose form: case, blanks, hyphens and underscores do not count, and neither does
a leading "is".
-/

namespace ReleaseBundle.Pattern

open Text

/-- Whether a character counts in a name. -/
def countsInName (c : Char) : Bool :=
  c.toNat < 0x80 && c ≠ ' ' && c ≠ '-' && c ≠ '_'

/-- The loose form of a name. -/
def looseName (name : String) : List Char :=
  let counted (chars : List Char) : List Char := (chars.map Char.toLower).filter countsInName
  match name.toList with
  | a :: b :: rest =>
    if a.toLower = 'i' && b.toLower = 's' then
      -- one letter behind the two is no name, and the whole is one
      if counted rest = ['c'] then ['i', 's', 'c'] else counted rest
    else counted (a :: b :: rest)
  | chars => counted chars

/-! ## General categories -/

/-- The loose names of a general category. -/
def categoryNames : Category → List String
  | .upperLetter => ["lu", "uppercaseletter"]
  | .lowerLetter => ["ll", "lowercaseletter"]
  | .titleLetter => ["lt", "titlecaseletter"]
  | .modifierLetter => ["lm", "modifierletter"]
  | .otherLetter => ["lo", "otherletter"]
  | .nonspacingMark => ["mn", "nonspacingmark"]
  | .spacingMark => ["mc", "spacingmark"]
  | .enclosingMark => ["me", "enclosingmark"]
  | .decimalNumber => ["nd", "decimalnumber", "digit"]
  | .letterNumber => ["nl", "letternumber"]
  | .otherNumber => ["no", "othernumber"]
  | .connector => ["pc", "connectorpunctuation"]
  | .dash => ["pd", "dashpunctuation"]
  | .opening => ["ps", "openpunctuation"]
  | .closing => ["pe", "closepunctuation"]
  | .initialQuote => ["pi", "initialpunctuation"]
  | .finalQuote => ["pf", "finalpunctuation"]
  | .otherPunctuation => ["po", "otherpunctuation"]
  | .mathSymbol => ["sm", "mathsymbol"]
  | .currencySymbol => ["sc", "currencysymbol"]
  | .modifierSymbol => ["sk", "modifiersymbol"]
  | .otherSymbol => ["so", "othersymbol"]
  | .spaceSeparator => ["zs", "spaceseparator"]
  | .lineSeparator => ["zl", "lineseparator"]
  | .paragraphSeparator => ["zp", "paragraphseparator"]
  | .control => ["cc", "control", "cntrl"]
  | .format => ["cf", "format"]
  | .privateUse => ["co", "privateuse"]

/-- The groups of general categories that have a name. -/
def categoryGroups : List NamedSet :=
  [⟨["l", "letter"], .letters⟩,
   ⟨["lc", "casedletter"], .ofCategories Category.casedLetters⟩,
   ⟨["m", "mark", "combiningmark"], .ofCategories Category.marks⟩,
   ⟨["n", "number"], .ofCategories Category.numbers⟩,
   ⟨["p", "punctuation", "punct"], .ofCategories Category.punctuation⟩,
   ⟨["s", "symbol"], .ofCategories Category.symbols⟩,
   ⟨["z", "separator"], .ofCategories Category.separators⟩,
   ⟨["c", "other"], .ofCategories Category.others ∪ .compl .assigned⟩,
   ⟨["cn", "unassigned"], .compl .assigned⟩,
   ⟨["any"], .all⟩,
   ⟨["assigned"], .assigned⟩,
   ⟨["ascii"], .range '\x00' '\x7f'⟩]

/-- The general categories, and the groups of them. -/
def categorySets : List NamedSet :=
  (Category.all.map fun category => ⟨categoryNames category, .ofCategory category⟩) ++
    categoryGroups

/-! ## Scripts and editions -/

/-- The scripts, by the characters that are written for them. -/
def scriptSets : List NamedSet :=
  scripts.map fun script => ⟨script.names, .listed script.runs⟩

/-- The characters that are used with some script that is listed. -/
def charsWithUse : Charset := .unions (scriptUses.map fun use => .listed use.runs)

/-- The characters that are used with a script: those for which it is listed, and of
those for which none is listed the ones that are written for it. -/
def charsUsedWith (script : Script) : Charset :=
  let uses := scriptUses.filter fun use => use.codes.contains script.code
  .unions (uses.map fun use => .listed use.runs) ∪ .listed script.runs \ charsWithUse

/-- The scripts, by the characters that are used with them. -/
def scriptUseSets : List NamedSet :=
  scripts.map fun script => ⟨script.names, charsUsedWith script⟩

/-- The editions, by the characters that were assigned up to them. -/
def editionSets : List NamedSet :=
  editions.mapIdx fun i edition =>
    let (major, minor) := edition.number
    ⟨[s!"{major}.{minor}", s!"v{major}{minor}"],
      .unions ((editions.take (i + 1)).map fun edition => .listed edition.runs)⟩

/-! ## Queries -/

/-- The values of a property that may be asked for. -/
def valuesOf? : String → Option (List NamedSet)
  | "gc" | "generalcategory" => some categorySets
  | "sc" | "script" => some scriptSets
  | "scx" | "scriptextensions" => some scriptUseSets
  | "age" => some editionSets
  | "gcb" | "graphemeclusterbreak" => some Segment.graphemes
  | "wb" | "wordbreak" => some Segment.words
  | "sb" | "sentencebreak" => some Segment.sentences
  | _ => none

/-- The names of a value without a set: the surrogates of the general categories, and
two of the scripts. -/
def valuesWithoutSet : List String :=
  ["cs", "surrogate", "zzzz", "unknown", "hrkt", "katakanaorhiragana"]

/-- The names of properties that stand for a general category where no value is asked
for. -/
def namesOfCategories : List String := ["cf", "sc", "lc"]

/-- The set that one name asks for: of the property that has it, or else of the general
category or the script. -/
def resolveName (name : String) : Except Problem Charset :=
  if Property.isKnown name && !namesOfCategories.contains name then
    match NamedSet.find? Property.all name with
    | some chars => .ok chars
    | none => .error .propertyUnknown
  else
    match NamedSet.find? (categorySets ++ scriptSets) name with
    | some chars => .ok chars
    | none =>
      .error (if valuesWithoutSet.contains name then .propertyValueUnknown else .propertyUnknown)

/-- The set that a name and a value ask for. -/
def resolveValue (name value : String) : Except Problem Charset :=
  match valuesOf? name with
  | some sets =>
    match NamedSet.find? sets value with
    | some chars => .ok chars
    | none => .error .propertyValueUnknown
  | none => .error (if Property.isKnown name then .propertyValueUnknown else .propertyUnknown)

/-- The set that a query asks for, before it is told whether its value should differ. -/
def PropertyQuery.resolve : PropertyQuery → Except Problem Charset
  | named name => resolveName (String.ofList (looseName name))
  | valued name value _ =>
    resolveValue (String.ofList (looseName name)) (String.ofList (looseName value))

end ReleaseBundle.Pattern
