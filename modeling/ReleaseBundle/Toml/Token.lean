import ReleaseBundle.Text.Digit

/-!
# The tokens of a TOML document

A TOML text is read character by character into tokens: bare words, strings,
punctuation, blanks and line ends; comments are left out.  The reader is a
machine whose **mode** says what it is in the middle of, so that every step
takes at least one character.  Keys, booleans, numbers and dates are not told
apart here: each is a **word**, and where it stands decides what it may be.
-/

namespace ReleaseBundle.Toml

open Text (isAsciiDigit)

/-- A token. -/
inductive Token where
  /-- Spaces and tabs. -/
  | blank
  | newline
  /-- A run of other characters. -/
  | word (text : String)
  /-- A string on one line. -/
  | text (value : String)
  /-- A string between triple quotes. -/
  | longText (value : String)
  | dot
  | comma
  | equals
  | openBracket
  | closeBracket
  | openBrace
  | closeBrace
deriving DecidableEq, Repr

/-- What a backslash at the end of a line does to the text after it. -/
inductive Folding where
  /-- No backslash is waiting. -/
  | none
  /-- The line end has not come yet. -/
  | beforeBreak
  /-- Blanks and line ends are skipped. -/
  | afterBreak
deriving DecidableEq, Repr

/-- What the reader is in the middle of.  Texts under way are kept in reverse. -/
inductive Mode where
  /-- Between tokens, or in a word. -/
  | plain (word : List Char)
  | comment
  /-- In a string with escapes, `long` if between triple quotes. -/
  | quoted (long : Bool) (folding : Folding) (content : List Char)
  /-- In an escape that has `left` hexadecimal digits to come. -/
  | code (long : Bool) (content : List Char) (left value : Nat)
  /-- In a string without escapes. -/
  | literal (long : Bool) (content : List Char)
deriving DecidableEq, Repr

/-- Whether the word under way and the character behind a space are the two
sides of a date with a time: four digits, two and two, and then one more. -/
def joins (word : List Char) (c : Char) : Bool :=
  isAsciiDigit c &&
    (match word.reverse with
    | [y1, y2, y3, y4, '-', m1, m2, '-', d1, d2] =>
      [y1, y2, y3, y4, m1, m2, d1, d2].all isAsciiDigit
    | _ => false)

/-- Whether a character may stand in a comment or, unescaped, in a string. -/
def isPrintable (c : Char) : Bool := c = '\t' || (' ' ≤ c && c ≠ '\x7f')

/-- The value of a hexadecimal digit. -/
def hexValue? (c : Char) : Option Nat :=
  if '0' ≤ c ∧ c ≤ '9' then some (c.toNat - '0'.toNat)
  else if 'a' ≤ c ∧ c ≤ 'f' then some (c.toNat - 'a'.toNat + 10)
  else if 'A' ≤ c ∧ c ≤ 'F' then some (c.toNat - 'A'.toNat + 10)
  else none

/-- The character with a code point, if there is one. -/
def charOfCode? (n : Nat) : Option Char :=
  if h : n.isValidChar then some (Char.ofNatAux n h) else none

/-- The character that an escape of one letter stands for. -/
def shortEscape? : Char → Option Char
  | 'b' => some '\x08'
  | 't' => some '\t'
  | 'n' => some '\n'
  | 'f' => some '\x0c'
  | 'r' => some '\r'
  | 'e' => some '\x1b'
  | '"' => some '"'
  | '\\' => some '\\'
  | _ => none

/-- The number of hexadecimal digits after the letter of an escape. -/
def codeLength? : Char → Option Nat
  | 'x' => some 2
  | 'u' => some 4
  | 'U' => some 8
  | _ => none

/-- The token of a punctuation mark. -/
def punctuation? : Char → Option Token
  | '.' => some .dot
  | ',' => some .comma
  | '=' => some .equals
  | '[' => some .openBracket
  | ']' => some .closeBracket
  | '\x7b' => some .openBrace
  | '\x7d' => some .closeBrace
  | ' ' => some .blank
  | '\t' => some .blank
  | '\n' => some .newline
  | _ => none

/-- The word under way, if there is one. -/
def flush : List Char → List Token
  | [] => []
  | word => [.word (String.ofList word.reverse)]

/-- The token of a string. -/
def stringToken (long : Bool) (content : List Char) : Token :=
  let value := String.ofList content.reverse
  if long then .longText value else .text value

/-- The tokens of a text, read in a given mode. -/
def lexFrom : Mode → List Char → Option (List Token)
  | .plain word, [] => some (flush word)
  | .comment, [] => some []
  | _, [] => none
  -- between tokens
  | .plain word, '\r' :: '\n' :: rest =>
    (flush word ++ [.newline] ++ ·) <$> lexFrom (.plain []) rest
  | .plain word, '#' :: rest => (flush word ++ ·) <$> lexFrom .comment rest
  | .plain word, '"' :: '"' :: '"' :: '\n' :: rest =>
    (flush word ++ ·) <$> lexFrom (.quoted true .none []) rest
  | .plain word, '"' :: '"' :: '"' :: '\r' :: '\n' :: rest =>
    (flush word ++ ·) <$> lexFrom (.quoted true .none []) rest
  | .plain word, '"' :: '"' :: '"' :: rest =>
    (flush word ++ ·) <$> lexFrom (.quoted true .none []) rest
  | .plain word, '"' :: rest => (flush word ++ ·) <$> lexFrom (.quoted false .none []) rest
  | .plain word, '\'' :: '\'' :: '\'' :: '\n' :: rest =>
    (flush word ++ ·) <$> lexFrom (.literal true []) rest
  | .plain word, '\'' :: '\'' :: '\'' :: '\r' :: '\n' :: rest =>
    (flush word ++ ·) <$> lexFrom (.literal true []) rest
  | .plain word, '\'' :: '\'' :: '\'' :: rest =>
    (flush word ++ ·) <$> lexFrom (.literal true []) rest
  | .plain word, '\'' :: rest => (flush word ++ ·) <$> lexFrom (.literal false []) rest
  | .plain word, ' ' :: c :: rest =>
    if joins word c then lexFrom (.plain (c :: ' ' :: word)) rest
    else (flush word ++ [.blank] ++ ·) <$> lexFrom (.plain []) (c :: rest)
  | .plain word, c :: rest =>
    match punctuation? c with
    | some token => (flush word ++ [token] ++ ·) <$> lexFrom (.plain []) rest
    | none => lexFrom (.plain (c :: word)) rest
  -- in a comment
  | .comment, '\n' :: rest => (.newline :: ·) <$> lexFrom (.plain []) rest
  | .comment, '\r' :: '\n' :: rest => (.newline :: ·) <$> lexFrom (.plain []) rest
  | .comment, c :: rest => if isPrintable c then lexFrom .comment rest else none
  -- in a string on one line
  | .quoted false folding content, '"' :: rest =>
    if folding = .none then (stringToken false content :: ·) <$> lexFrom (.plain []) rest else none
  -- in a string between triple quotes, which may end with quotes of its own
  | .quoted true folding content, '"' :: '"' :: '"' :: '"' :: '"' :: rest =>
    if folding = .beforeBreak then none
    else (stringToken true ('"' :: '"' :: content) :: ·) <$> lexFrom (.plain []) rest
  | .quoted true folding content, '"' :: '"' :: '"' :: '"' :: rest =>
    if folding = .beforeBreak then none
    else (stringToken true ('"' :: content) :: ·) <$> lexFrom (.plain []) rest
  | .quoted true folding content, '"' :: '"' :: '"' :: rest =>
    if folding = .beforeBreak then none
    else (stringToken true content :: ·) <$> lexFrom (.plain []) rest
  | .quoted true folding content, '\r' :: '\n' :: rest =>
    match folding with
    | .none => lexFrom (.quoted true .none ('\n' :: '\r' :: content)) rest
    | _ => lexFrom (.quoted true .afterBreak content) rest
  | .quoted true folding content, '\n' :: rest =>
    match folding with
    | .none => lexFrom (.quoted true .none ('\n' :: content)) rest
    | _ => lexFrom (.quoted true .afterBreak content) rest
  | .quoted true .none content, '\\' :: '\n' :: rest =>
    lexFrom (.quoted true .afterBreak content) rest
  | .quoted true .none content, '\\' :: '\r' :: '\n' :: rest =>
    lexFrom (.quoted true .afterBreak content) rest
  | .quoted true .afterBreak content, '\\' :: '\n' :: rest =>
    lexFrom (.quoted true .afterBreak content) rest
  | .quoted true .afterBreak content, '\\' :: '\r' :: '\n' :: rest =>
    lexFrom (.quoted true .afterBreak content) rest
  | .quoted long folding content, '\\' :: c :: rest =>
    if folding = .beforeBreak then none
    else if long && (c = ' ' || c = '\t') then lexFrom (.quoted long .beforeBreak content) rest
    else
      match shortEscape? c, codeLength? c with
      | some value, _ => lexFrom (.quoted long .none (value :: content)) rest
      | none, some left => lexFrom (.code long content left 0) rest
      | none, none => none
  | .quoted long folding content, c :: rest =>
    if folding ≠ .none && (c = ' ' || c = '\t') then lexFrom (.quoted long folding content) rest
    else if folding ≠ .beforeBreak && isPrintable c && c ≠ '\\' then
      lexFrom (.quoted long .none (c :: content)) rest
    else none
  -- in an escape by code point
  | .code long content left value, c :: rest =>
    match hexValue? c with
    | none => none
    | some digit =>
      let value := 16 * value + digit
      if left = 1 then
        match charOfCode? value with
        | some c => lexFrom (.quoted long .none (c :: content)) rest
        | none => none
      else lexFrom (.code long content (left - 1) value) rest
  -- in a string without escapes
  | .literal false content, '\'' :: rest =>
    (stringToken false content :: ·) <$> lexFrom (.plain []) rest
  | .literal true content, '\'' :: '\'' :: '\'' :: '\'' :: '\'' :: rest =>
    (stringToken true ('\'' :: '\'' :: content) :: ·) <$> lexFrom (.plain []) rest
  | .literal true content, '\'' :: '\'' :: '\'' :: '\'' :: rest =>
    (stringToken true ('\'' :: content) :: ·) <$> lexFrom (.plain []) rest
  | .literal true content, '\'' :: '\'' :: '\'' :: rest =>
    (stringToken true content :: ·) <$> lexFrom (.plain []) rest
  | .literal true content, '\r' :: '\n' :: rest =>
    lexFrom (.literal true ('\n' :: '\r' :: content)) rest
  | .literal long content, c :: rest =>
    if isPrintable c || (long && c = '\n') then lexFrom (.literal long (c :: content)) rest
    else none

/-- The tokens of a document; a byte order mark at its start is passed over. -/
def lex (text : String) : Option (List Token) :=
  match text.toList with
  | '\ufeff' :: rest => lexFrom (.plain []) rest
  | chars => lexFrom (.plain []) chars

end ReleaseBundle.Toml
