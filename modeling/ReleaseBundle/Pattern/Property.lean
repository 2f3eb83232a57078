import ReleaseBundle.Pattern.Charset
import ReleaseBundle.Text.Blank
import ReleaseBundle.Text.Letter
import ReleaseBundle.Text.Trait

/-!
# Properties of characters

The properties that characters have or have not, each with the names that a pattern
may use for it.  Few have a table of their own: most are put together from general
categories, with further characters from a table and others taken out.
-/

namespace ReleaseBundle

open Text

namespace Charset

/-! ## Letters and words -/

/-- The assigned characters. -/
def assigned : Charset := ofCategories Category.all

/-- The letters of the general categories. -/
def letters : Charset := ofCategories Category.letters

/-- The small letters. -/
def lowercase : Charset := ofCategory .lowerLetter ∪ listed furtherLowercase

/-- The capital letters. -/
def uppercase : Charset := ofCategory .upperLetter ∪ listed furtherUppercase

/-- What the alphabetic characters have beside the categories of letters and letter
numbers. -/
def furtherAlphabetic : Charset := listed alphabeticMarks ∪ listed alphabeticSymbols

/-- The alphabetic characters. -/
def alphabetic : Charset := letters ∪ ofCategory .letterNumber ∪ furtherAlphabetic

/-- The invisible characters that join or part two others. -/
def joinControls : Charset := range '\u200c' '\u200d'

/-- The characters of words. -/
def word : Charset :=
  alphabetic ∪ ofCategories Category.marks ∪ ofCategory .decimalNumber ∪ ofCategory .connector ∪
    joinControls

/-! ## Case -/

/-- The characters that have case. -/
def cased : Charset := lowercase ∪ uppercase ∪ ofCategory .titleLetter

/-- The characters that do not count for the case of a word. -/
def caseIgnorable : Charset :=
  ofCategories [.nonspacingMark, .enclosingMark, .format, .modifierLetter, .modifierSymbol] ∪
    listed lettersInMarks

/-- The characters that another one takes the place of in small letters. -/
def loweredAway : Charset :=
  (uppercase ∪ ofCategory .titleLetter) \ listed lastingCapitals

/-- The characters that others take the place of in capital letters. -/
def raisedAway : Charset :=
  (lowercase ∪ ofCategory .titleLetter) \ listed lastingSmalls

/-- The capital letters that have a title form of their own. -/
def titledCapitals : Charset :=
  ranges [('\u01c4', '\u01c4'), ('\u01c7', '\u01c7'), ('\u01ca', '\u01ca'), ('\u01f1', '\u01f1')]

/-- The Georgian letters without a title form. -/
def untitledSmalls : Charset := ranges [('\u10d0', '\u10fa'), ('\u10fd', '\u10ff')]

/-- The characters that others take the place of at the start of a title. -/
def titledAway : Charset :=
  (raisedAway \ ofCategory .titleLetter ∪ titledCapitals) \ untitledSmalls

/-- The characters that change with one of the three. -/
def changing : Charset := loweredAway ∪ raisedAway ∪ titledAway

/-- The characters that others take the place of where case does not count. -/
def foldedAway : Charset :=
  loweredAway \ range '\u13a0' '\u13f5' ∪ listed foldedSmalls

/-! ## Graphemes -/

/-- The characters that extend the one before. -/
def extending : Charset :=
  ofCategories [.nonspacingMark, .enclosingMark] ∪ listed furtherExtending

/-- The characters that others may extend. -/
def bases : Charset :=
  assigned \ (ofCategories [.control, .format, .privateUse, .lineSeparator, .paragraphSeparator] ∪
    extending)

/-- The characters that nothing is shown for where they are not known. -/
def ignorable : Charset :=
  (ofCategory .format ∪ listed variationSelectors ∪ listed hiddenFormats) \ listed shownFormats

/-- The colours of skins. -/
def skinColours : Charset := listed [⟨0x1F3FB, 0x1F3FF, 1⟩]

/-- The letters that make up flags. -/
def flagLetters : Charset := listed [⟨0x1F1E6, 0x1F1FF, 1⟩]

/-! ## Names and mathematics -/

/-- What names may start with outside the categories and with a table of their own. -/
def furtherStarts : Charset :=
  ranges [('\u1885', '\u1886'), ('\u2118', '\u2118'), ('\u212e', '\u212e'), ('\u309b', '\u309c')]

/-- What names may go on with outside the categories. -/
def furtherParts : Charset :=
  ranges [('\u00b7', '\u00b7'), ('\u0387', '\u0387'), ('\u1369', '\u1371'), ('\u19da', '\u19da'),
    ('\u200c', '\u200d'), ('\u30fb', '\u30fb'), ('\uff65', '\uff65')]

/-- The characters that names may start with. -/
def identifierStart : Charset :=
  (letters ∪ ofCategory .letterNumber ∪ listed furtherIdStarts) \
    (listed patternSyntax ∪ listed patternBlanks)

/-- The characters that names may go on with. -/
def identifierPart : Charset :=
  identifierStart ∪
    ofCategories [.nonspacingMark, .spacingMark, .decimalNumber, .connector] ∪
      listed furtherIdParts

/-- The ASCII digits and letters of numbers to the base sixteen. -/
def asciiHexDigits : Charset := ranges [('0', '9'), ('A', 'F'), ('a', 'f')]

/-- The digits and letters of numbers to the base sixteen. -/
def hexDigits : Charset :=
  asciiHexDigits ∪ ranges [('\uff10', '\uff19'), ('\uff21', '\uff26'), ('\uff41', '\uff46')]

/-- The ideographs. -/
def ideographs : Charset := listed unifiedIdeographs ∪ listed furtherIdeographs

/-- The blank characters. -/
def blank : Charset := listed blanks

/-! ## What the sets hold -/

end Charset

namespace Property

open Charset

/-- The properties of letters and words. -/
def ofLetters : List NamedSet :=
  [⟨["alphabetic", "alpha"], alphabetic⟩,
   ⟨["otheralphabetic", "oalpha"], furtherAlphabetic⟩,
   ⟨["lowercase", "lower"], lowercase⟩,
   ⟨["otherlowercase", "olower"], listed furtherLowercase⟩,
   ⟨["uppercase", "upper"], uppercase⟩,
   ⟨["otheruppercase", "oupper"], listed furtherUppercase⟩,
   ⟨["cased"], cased⟩,
   ⟨["caseignorable", "ci"], caseIgnorable⟩,
   ⟨["changeswhenlowercased", "cwl"], loweredAway⟩,
   ⟨["changeswhenuppercased", "cwu"], raisedAway⟩,
   ⟨["changeswhentitlecased", "cwt"], titledAway⟩,
   ⟨["changeswhencasemapped", "cwcm"], changing⟩,
   ⟨["changeswhencasefolded", "cwcf"], foldedAway⟩,
   ⟨["softdotted", "sd"], listed softDotted⟩,
   ⟨["logicalorderexception", "loe"], listed visualOrderVowels⟩,
   ⟨["diacritic", "dia"], listed diacritics⟩,
   ⟨["extender", "ext"], listed extenders⟩]

/-- The properties of ideographs and pictures. -/
def ofPictures : List NamedSet :=
  [⟨["ideographic", "ideo"], ideographs⟩,
   ⟨["unifiedideograph", "uideo"], listed unifiedIdeographs⟩,
   ⟨["radical"], listed radicals⟩,
   ⟨["idsbinaryoperator", "idsb"],
     ranges [('\u2ff0', '\u2ff1'), ('\u2ff4', '\u2ffd'), ('\u31ef', '\u31ef')]⟩,
   ⟨["idstrinaryoperator", "idst"], range '\u2ff2' '\u2ff3'⟩,
   ⟨["idsunaryoperator", "idsu"], range '\u2ffe' '\u2fff'⟩,
   ⟨["emoji"], listed emoji⟩,
   ⟨["emojicomponent", "ecomp"], listed emojiComponents⟩,
   ⟨["emojimodifier", "emod"], skinColours⟩,
   ⟨["emojimodifierbase", "ebase"], listed emojiBases⟩,
   ⟨["emojipresentation", "epres"], listed emojiPictures⟩,
   ⟨["extendedpictographic", "extpict"], listed pictographs⟩,
   ⟨["regionalindicator", "ri"], flagLetters⟩]

/-- The properties of names and of the texts of formal languages. -/
def ofNames : List NamedSet :=
  [⟨["idstart", "ids"], identifierStart⟩,
   ⟨["idcontinue", "idc"], identifierPart⟩,
   ⟨["xidstart", "xids"], identifierStart \ listed unstableIdStarts⟩,
   ⟨["xidcontinue", "xidc"], identifierPart \ listed unstableIdParts⟩,
   ⟨["otheridstart", "oids"], furtherStarts⟩,
   ⟨["otheridcontinue", "oidc"], furtherParts⟩,
   ⟨["idcompatmathstart"], listed mathStarts⟩,
   ⟨["idcompatmathcontinue"], listed mathStarts ∪ listed mathParts⟩,
   ⟨["patternsyntax", "patsyn"], listed patternSyntax⟩,
   ⟨["patternwhitespace", "patws"], listed patternBlanks⟩,
   ⟨["asciihexdigit", "ahex"], asciiHexDigits⟩,
   ⟨["hexdigit", "hex"], hexDigits⟩,
   ⟨["math"], ofCategory .mathSymbol ∪ listed furtherMath⟩,
   ⟨["othermath", "omath"], listed furtherMath⟩]

/-- The properties of marks and of punctuation. -/
def ofSigns : List NamedSet :=
  [⟨["whitespace", "wspace", "space"], blank⟩,
   ⟨["dash"], ofCategory .dash ∪ listed furtherDashes⟩,
   ⟨["hyphen"], listed hyphens⟩,
   ⟨["quotationmark", "qmark"], listed quotationMarks⟩,
   ⟨["sentenceterminal", "sterm"], listed sentenceTerminals⟩,
   ⟨["terminalpunctuation", "term"], listed sentenceTerminals ∪ listed furtherTerminals⟩,
   ⟨["bidicontrol", "bidic"], listed bidiControls⟩,
   ⟨["bidimirrored", "bidim"], listed bidiMirrored⟩,
   ⟨["joincontrol", "joinc"], joinControls⟩,
   ⟨["graphemebase", "grbase"], bases⟩,
   ⟨["graphemeextend", "grext"], extending⟩,
   ⟨["othergraphemeextend", "ogrext"], listed furtherExtending⟩,
   ⟨["graphemelink", "grlink"], listed graphemeLinks⟩,
   ⟨["modifiercombiningmark", "mcm"], listed modifierMarks⟩,
   ⟨["prependedconcatenationmark", "pcm"], listed precedingMarks⟩,
   ⟨["defaultignorablecodepoint", "di"], ignorable⟩,
   ⟨["otherdefaultignorablecodepoint", "odi"], listed hiddenFormats⟩,
   ⟨["variationselector", "vs"], listed variationSelectors⟩,
   ⟨["noncharactercodepoint", "nchar"], listed nonCharacters⟩,
   ⟨["deprecated", "dep"], listed deprecated⟩]

/-- The properties that have a set. -/
def all : List NamedSet := ofLetters ++ ofPictures ++ ofNames ++ ofSigns

/-- The names of properties for which there is no set: of those with other values than
yes and no, and of some that nobody should ask for. -/
def namesWithoutSet : List String :=
  ["age", "bidiclass", "bc", "bidimirroringglyph", "bmg", "bidipairedbracket", "bpb",
   "bidipairedbrackettype", "bpt", "block", "blk", "canonicalcombiningclass", "ccc",
   "casefolding", "cf", "changeswhennfkccasefolded", "cwkcf", "compositionexclusion", "ce",
   "decompositionmapping", "dm", "decompositiontype", "dt", "eastasianwidth", "ea",
   "equivalentunifiedideograph", "equideo", "expandsonnfc", "xonfc", "expandsonnfd", "xonfd",
   "expandsonnfkc", "xonfkc", "expandsonnfkd", "xonfkd", "fcnfkcclosure", "fcnfkc",
   "fullcompositionexclusion", "compex", "generalcategory", "gc", "graphemeclusterbreak", "gcb",
   "hangulsyllabletype", "hst", "indicconjunctbreak", "incb", "indicpositionalcategory", "inpc",
   "indicsyllabiccategory", "insc", "isc", "ocomment", "jamoshortname", "jsn",
   "joininggroup", "jg", "joiningtype", "jt", "kehcat", "kehdesc", "kehhg", "kehifao", "kehjsesh",
   "kehnomirror", "kehnorotate", "linebreak", "lb", "lowercasemapping", "lc", "name", "na",
   "namealias", "nfcquickcheck", "nfcqc", "nfdquickcheck", "nfdqc", "nfkccasefold", "nfkccf",
   "nfkcquickcheck", "nfkcqc", "nfkcsimplecasefold", "nfkcscf", "nfkdquickcheck", "nfkdqc",
   "numerictype", "nt", "numericvalue", "nv", "script", "sc", "scriptextensions", "scx",
   "sentencebreak", "sb", "simplecasefolding", "scf", "sfc", "simplelowercasemapping", "slc",
   "simpletitlecasemapping", "stc", "simpleuppercasemapping", "suc", "titlecasemapping", "tc",
   "unicode1name", "na1", "unicoderadicalstroke", "urs", "uppercasemapping", "uc",
   "verticalorientation", "vo", "wordbreak", "wb",
   "cjkaccountingnumeric", "kaccountingnumeric", "cjkcompatibilityvariant",
   "kcompatibilityvariant", "cjkiicore", "kiicore", "cjkirggsource", "kirggsource",
   "cjkirghsource", "kirghsource", "cjkirgjsource", "kirgjsource", "cjkirgkpsource",
   "kirgkpsource", "cjkirgksource", "kirgksource", "cjkirgmsource", "kirgmsource",
   "cjkirgssource", "kirgssource", "cjkirgtsource", "kirgtsource", "cjkirguksource",
   "kirguksource", "cjkirgusource", "kirgusource", "cjkirgvsource", "kirgvsource",
   "cjkmandarin", "kmandarin", "cjkothernumeric", "kothernumeric", "cjkprimarynumeric",
   "kprimarynumeric", "cjkrsunicode", "krsunicode", "cjktotalstrokes", "ktotalstrokes",
   "cjkunihancore2020", "kunihancore2020"]

/-- Whether there is a property of a name, with a set or without. -/
def isKnown (name : String) : Bool :=
  (NamedSet.find? all name).isSome || namesWithoutSet.contains name

end Property

end ReleaseBundle
