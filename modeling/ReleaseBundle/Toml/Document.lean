import ReleaseBundle.Toml.Scalar
import ReleaseBundle.Toml.Token

/-!
# TOML documents

A document is read token by token.  The reader keeps the table read so far, the
section that the last header line opened, the key that waits for its value, and
the brackets and braces that are open around it.  Its **place** says what may
come next; a token that may not come ends the reading, and the text is then no
document.  How deep brackets and braces stand in each other is bounded, and so is
the number of keys in a path.
-/

namespace ReleaseBundle.Toml

/-- A bracket or brace that is open: what stands in it so far, and the key that
its value is for. -/
inductive Frame where
  /-- An array, its items in reverse. -/
  | list (items : List Value) (key : List String)
  /-- A table in braces. -/
  | table (entries : Table) (key : List String)

/-- Where the reader is, and so what may come next. -/
inductive Place where
  /-- At the start of a line. -/
  | line
  /-- Behind a statement, with nothing but the line end to come. -/
  | lineEnd
  /-- Directly behind the bracket that starts a header line. -/
  | bracket
  /-- Before a key of a header; `double` if it started with two brackets. -/
  | headerKey (double : Bool)
  /-- Behind a key of a header. -/
  | headerNext (double : Bool)
  /-- Between the two brackets that end a header. -/
  | headerClose
  /-- Before a key of a pair, behind a dot. -/
  | key
  /-- Behind a key of a pair. -/
  | keyNext
  /-- In a table in braces, on a line below a key. -/
  | keyEnd
  /-- Before the value of a pair. -/
  | value
  /-- In a value without quotes and brackets. -/
  | bare (text : String)
  /-- In an array, where an item may start. -/
  | item
  /-- In an array, behind an item. -/
  | itemNext
  /-- In a table in braces, where a pair may start. -/
  | pair
  /-- In a table in braces, behind a pair. -/
  | pairNext
deriving DecidableEq, Repr

/-- The reader between two tokens. -/
structure Reader where
  root : Table
  header : List String
  key : List String
  frames : List Frame
  place : Place

/-- How many arrays and tables in braces may be open at once. -/
def depthLimit : Nat := 80

/-- How many keys a path may have. -/
def keyLimit : Nat := 80

/-- Whether a character may stand in a key without quotes. -/
def isBare (c : Char) : Bool := c.isAlphanum || c = '-' || c = '_'

namespace Reader

/-- The reader before the first token. -/
def initial : Reader := ⟨[], [], [], [], .line⟩

/-- Puts a value that has been read where it belongs. -/
def supply (r : Reader) (value : Value) : Option Reader :=
  match r.frames with
  | [] => do
    let root ← Table.assignIn r.header r.key value r.root
    return { r with root, key := [], place := .lineEnd }
  | .list items key :: frames =>
    some { r with frames := .list (value :: items) key :: frames, place := .itemNext }
  | .table entries key :: frames => do
    let entries ← Table.assign r.key value entries
    return { r with frames := .table entries key :: frames, key := [], place := .pairNext }

/-- Opens an array or a table in braces, unless too many are open. -/
def openFrame (r : Reader) (frame : Frame) (place : Place) : Option Reader :=
  if r.frames.length < depthLimit then
    some { r with frames := frame :: r.frames, key := [], place }
  else none

/-- Reads a token where a value may start. -/
def startValue (r : Reader) : Token → Option Reader
  | .text value => r.supply (.text value)
  | .longText value => r.supply (.text value)
  | .word text => some { r with place := .bare text }
  | .openBracket => r.openFrame (.list [] r.key) .item
  | .openBrace => r.openFrame (.table [] r.key) .pair
  | _ => none

/-- Ends a value without quotes and brackets. -/
def endBare (r : Reader) (text : String) : Option Reader := Value.ofBare? text >>= r.supply

/-- Closes the innermost array. -/
def closeList (r : Reader) : Option Reader :=
  match r.frames with
  | .list items key :: frames => supply { r with frames, key } (.list false items.reverse)
  | _ => none

/-- Closes the innermost table in braces. -/
def closeTable (r : Reader) : Option Reader :=
  match r.frames with
  | .table entries key :: frames => supply { r with frames, key } (.table .braces entries)
  | _ => none

/-- The key that a token is. -/
def key? : Token → Option String
  | .word text => if text.toList.all isBare then some text else none
  | .text value => some value
  | _ => none

/-- Adds a token to the path of keys under way, unless the path is too long. -/
def addKey (r : Reader) (token : Token) (place : Place) : Option Reader := do
  let key ← key? token
  if r.key.length < keyLimit then some { r with key := r.key ++ [key], place } else none

/-- Ends a header line. -/
def endHeader (r : Reader) (double : Bool) : Option Reader := do
  let root ← if double then Table.openItem r.key r.root else Table.openTable r.key r.root
  return { r with root, header := r.key, key := [], place := .lineEnd }

/-- Whether the reader is in an array or in a table in braces. -/
def isInside (r : Reader) : Bool := !r.frames.isEmpty

/-- Reads one token behind a value. -/
def afterValue (r : Reader) (token : Token) : Option Reader :=
  match r.place, token with
  | .lineEnd, .blank => some r
  | .lineEnd, .newline => some { r with place := .line }
  | .itemNext, .blank => some r
  | .itemNext, .newline => some r
  | .itemNext, .comma => some { r with place := .item }
  | .itemNext, .closeBracket => r.closeList
  | .pairNext, .blank => some r
  | .pairNext, .newline => some r
  | .pairNext, .comma => some { r with place := .pair }
  | .pairNext, .closeBrace => r.closeTable
  | _, _ => none

/-- Reads one token. -/
def step (r : Reader) (token : Token) : Option Reader :=
  match r.place, token with
  | .line, .blank => some r
  | .line, .newline => some r
  | .line, .openBracket => some { r with place := .bracket }
  | .line, _ => r.addKey token .keyNext
  | .bracket, .openBracket => some { r with place := .headerKey true }
  | .bracket, .blank => some { r with place := .headerKey false }
  | .bracket, _ => r.addKey token (.headerNext false)
  | .headerKey _, .blank => some r
  | .headerKey double, _ => r.addKey token (.headerNext double)
  | .headerNext _, .blank => some r
  | .headerNext double, .dot => some { r with place := .headerKey double }
  | .headerNext true, .closeBracket => some { r with place := .headerClose }
  | .headerNext false, .closeBracket => r.endHeader false
  | .headerNext _, _ => none
  | .headerClose, .closeBracket => r.endHeader true
  | .headerClose, _ => none
  | .key, .blank => some r
  | .key, _ => r.addKey token .keyNext
  | .keyNext, .blank => some r
  | .keyNext, .dot => some { r with place := .key }
  | .keyNext, .equals => some { r with place := .value }
  | .keyNext, .newline => if r.isInside then some { r with place := .keyEnd } else none
  | .keyNext, _ => none
  | .keyEnd, .blank => some r
  | .keyEnd, .newline => some r
  | .keyEnd, .equals => some { r with place := .value }
  | .keyEnd, _ => none
  | .value, .blank => some r
  | .value, .newline => if r.isInside then some r else none
  | .value, _ => r.startValue token
  | .bare text, .word more => some { r with place := .bare (text ++ more) }
  | .bare text, .dot => some { r with place := .bare (text ++ ".") }
  | .bare text, _ => do (← r.endBare text).afterValue token
  | .item, .blank => some r
  | .item, .newline => some r
  | .item, .closeBracket => r.closeList
  | .item, _ => r.startValue token
  | .pair, .blank => some r
  | .pair, .newline => some r
  | .pair, .closeBrace => r.closeTable
  | .pair, _ => r.addKey token .keyNext
  | .lineEnd, _ => r.afterValue token
  | .itemNext, _ => r.afterValue token
  | .pairNext, _ => r.afterValue token

/-- The table of a document that may end here. -/
def finish? (r : Reader) : Option Table :=
  match r.place with
  | .line => some r.root
  | .lineEnd => some r.root
  | .bare text => if r.isInside then none else Reader.root <$> r.endBare text
  | _ => none

end Reader

/-- The table of a TOML text, if the text is a document. -/
def parse (text : String) : Option Table := do
  let tokens ← lex text
  let reader ← tokens.foldlM Reader.step Reader.initial
  reader.finish?

end ReleaseBundle.Toml
