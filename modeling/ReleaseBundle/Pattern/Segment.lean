import ReleaseBundle.Pattern.Property
import ReleaseBundle.Text.Break
import ReleaseBundle.Text.Script

/-!
# Parts of text

Between which characters a text may be broken into graphemes, words or sentences is
told by three further properties.  Each sorts the characters into a few classes,
which this module puts together, with the names that a pattern may use for them; the
class of all that is left has no set.
-/

namespace ReleaseBundle

open Text

namespace Charset

/-! ## Single characters and small sets -/

/-- The carriage return. -/
def carriageReturn : Charset := single '\r'

/-- The line feed. -/
def lineFeed : Charset := single '\n'

/-- The invisible character that joins two others. -/
def joiner : Charset := single '\u200d'

/-- The Georgian letters that make up whole capital words. -/
def georgianCapitals : Charset := ranges [('\u1c90', '\u1cba'), ('\u1cbd', '\u1cbf')]

/-- The invisible letters that a language is noted with. -/
def languageTags : Charset := listed [⟨0xE0020, 0xE007F, 1⟩]

/-! ## Graphemes -/

/-- The marks that stand before what they mark, and the letters that join what
follows. -/
def graphemePrepend : Charset := listed precedingMarks ∪ listed graphemePrefixes

/-- The characters that control how others are shown. -/
def graphemeControl : Charset :=
  (ofCategories [.control, .format, .lineSeparator, .paragraphSeparator] ∪
      ignorable \ assigned) \
    (carriageReturn ∪ lineFeed ∪ joiner ∪ listed precedingMarks ∪ extending)

/-- The marks that take room. -/
def graphemeSpacing : Charset :=
  ofCategory .spacingMark \ (extending ∪ listed looseMarks) ∪ listed joinedVowels

/-! ## Words -/

/-- The letters of Hebrew. -/
def hebrewLetters : Charset := listed Script.hebrew.runs ∩ ofCategory .otherLetter

/-- The letters and signs of Katakana. -/
def wordKatakana : Charset := listed Script.katakana.runs ∪ listed furtherKatakana

/-- The characters that extend the one before in words. -/
def wordExtend : Charset := extending ∪ ofCategory .spacingMark ∪ skinColours

/-- The letters of words. -/
def wordLetter : Charset :=
  (alphabetic \ (ideographs ∪ ofCategories [.nonspacingMark, .spacingMark]) ∪
      listed wordLetters) \
    (hebrewLetters ∪ wordKatakana ∪ listed Script.hiragana.runs ∪ listed unspacedLetters)

/-- The digits and signs of numbers in words. -/
def wordNumeric : Charset :=
  ofCategory .decimalNumber ∪ listed precedingMarks \ single '\u070f' ∪
    single '\u066b' ∪ single '\u19da'

/-- The blanks that hold words together. -/
def wordBlank : Charset :=
  ranges [(' ', ' '), ('\u1680', '\u1680'), ('\u2000', '\u2006'), ('\u2008', '\u200a'),
    ('\u205f', '\u205f'), ('\u3000', '\u3000')]

/-- The characters that end a line, the two of ASCII left out. -/
def wordNewline : Charset := ranges [('\x0b', '\x0c'), ('\u0085', '\u0085'), ('\u2028', '\u2029')]

/-! ## Sentences -/

/-- The characters that part paragraphs. -/
def sentenceSeparator : Charset := ranges [('\u0085', '\u0085'), ('\u2028', '\u2029')]

/-- The small letters of sentences. -/
def sentenceLower : Charset := lowercase \ (extending ∪ untitledSmalls)

/-- The capital letters of sentences. -/
def sentenceUpper : Charset := (uppercase ∪ ofCategory .titleLetter) \ georgianCapitals

/-- The letters of sentences that have no case. -/
def sentenceLetter : Charset :=
  (alphabetic \
      (lowercase ∪ uppercase ∪ ofCategories [.titleLetter, .nonspacingMark, .spacingMark]) ∪
    single '\u05f3' ∪ untitledSmalls ∪ georgianCapitals) \ range '\uff9e' '\uff9f'

end Charset

namespace Segment

open Charset

/-- The classes for graphemes. -/
def graphemes : List NamedSet :=
  [⟨["cn", "control"], graphemeControl⟩,
   ⟨["cr"], carriageReturn⟩,
   ⟨["ex", "extend"], extending ∪ skinColours⟩,
   ⟨["l"], listed leadingJamo⟩,
   ⟨["lf"], lineFeed⟩,
   ⟨["lv"], listed openSyllables⟩,
   ⟨["lvt"], listed syllables \ listed openSyllables⟩,
   ⟨["pp", "prepend"], graphemePrepend⟩,
   ⟨["ri", "regionalindicator"], flagLetters⟩,
   ⟨["sm", "spacingmark"], graphemeSpacing⟩,
   ⟨["t"], listed trailingJamo⟩,
   ⟨["v"], listed vowelJamo⟩,
   ⟨["zwj"], joiner⟩]

/-- The classes for words. -/
def words : List NamedSet :=
  [⟨["cr"], carriageReturn⟩,
   ⟨["dq", "doublequote"], single '\x22'⟩,
   ⟨["ex", "extendnumlet"], ofCategory .connector ∪ single '\u202f'⟩,
   ⟨["extend"], wordExtend⟩,
   ⟨["fo", "format"],
     ofCategory .format \ (listed precedingMarks ∪ range '\u200b' '\u200d' ∪ languageTags)⟩,
   ⟨["hl", "hebrewletter"], hebrewLetters⟩,
   ⟨["ka", "katakana"], wordKatakana⟩,
   ⟨["le", "aletter"], wordLetter⟩,
   ⟨["lf"], lineFeed⟩,
   ⟨["mb", "midnumlet"], listed midBoth⟩,
   ⟨["ml", "midletter"], listed midLetters⟩,
   ⟨["mn", "midnum"], listed midNumbers⟩,
   ⟨["nl", "newline"], wordNewline⟩,
   ⟨["nu", "numeric"], wordNumeric⟩,
   ⟨["ri", "regionalindicator"], flagLetters⟩,
   ⟨["sq", "singlequote"], single '\x27'⟩,
   ⟨["wsegspace"], wordBlank⟩,
   ⟨["zwj"], joiner⟩]

/-- The classes for sentences. -/
def sentences : List NamedSet :=
  [⟨["at", "aterm"], listed ambiguousStops⟩,
   ⟨["cl", "close"],
     ofCategories [.opening, .closing, .initialQuote, .finalQuote] ∪ listed furtherClosing⟩,
   ⟨["cr"], carriageReturn⟩,
   ⟨["ex", "extend"], extending ∪ ofCategory .spacingMark ∪ joiner⟩,
   ⟨["fo", "format"],
     (ofCategory .format \ listed precedingMarks ∪ single '\u070f') \
       (joinControls ∪ languageTags)⟩,
   ⟨["le", "oletter"], sentenceLetter⟩,
   ⟨["lf"], lineFeed⟩,
   ⟨["lo", "lower"], sentenceLower⟩,
   ⟨["nu", "numeric"], wordNumeric ∪ single '\u066c'⟩,
   ⟨["sc", "scontinue"], listed sentenceParts⟩,
   ⟨["se", "sep"], sentenceSeparator⟩,
   ⟨["sp"], blank \ (carriageReturn ∪ lineFeed ∪ sentenceSeparator)⟩,
   ⟨["st", "sterm"], listed sentenceTerminals \ listed ambiguousStops⟩,
   ⟨["up", "upper"], sentenceUpper⟩]

end Segment

end ReleaseBundle
