import ReleaseBundle.Text.Shapeless

/-!
# Quoted text

Messages show a text that comes from outside between double quotes, so that its
ends and its unseen characters are plain to the reader: a quote and a backslash
are escaped, the common controls have letters, and a character without a shape
of its own is written by its code point.
-/

namespace ReleaseBundle.Text

/-- A code point in lower-case hexadecimal. -/
def hex (n : Nat) : List Char := Nat.toDigits 16 n

/-- One character as it stands between the quotes. -/
def quotedChar (c : Char) : List Char :=
  match c with
  | '\x00' => ['\\', '0']
  | '\t' => ['\\', 't']
  | '\r' => ['\\', 'r']
  | '\n' => ['\\', 'n']
  | '"' => ['\\', '"']
  | '\\' => ['\\', '\\']
  | _ => if isShapeless c then "\\u\x7b".toList ++ hex c.toNat ++ ['}'] else [c]

/-- A text between double quotes. -/
def quoted (text : String) : String :=
  String.ofList ('"' :: text.toList.flatMap quotedChar ++ ['"'])

/-- A list of quoted texts between square brackets. -/
def quotedList (texts : List String) : String :=
  "[" ++ ", ".intercalate (texts.map quoted) ++ "]"

end ReleaseBundle.Text
