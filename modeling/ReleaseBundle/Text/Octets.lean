import ReleaseBundle.Text.Utf8

/-!
# Octets and texts

Files are called by octets.  A text calls a file by its encoding in UTF-8 (`octets`), and not
all octets encode a text (`text?_eq_some_iff`).  Octets that do not are shown with a mark for
each piece that begins a character and does not end it.  An octet below 128 stands in an encoding
exactly where its character stands in the text (`mem_octets_iff`), so a text can be cut at slashes
before it is encoded or afterwards.
-/

namespace ReleaseBundle

/-- A text in UTF-8. -/
def octets (text : String) : List UInt8 := text.toUTF8.data.toList

/-- The octet of a slash. -/
@[match_pattern] abbrev slash : UInt8 := 0x2F

/-- The octet of a dot. -/
@[match_pattern] abbrev dot : UInt8 := 0x2E

namespace Text

/-- The text that octets encode, if they encode one. -/
def text? (bytes : List UInt8) : Option String := String.fromUTF8? ⟨bytes.toArray⟩

/-- The ranges of the octets that follow a first one in a character: none if it is a character,
or if none begins with it. -/
def followers (first : UInt8) : List OctetRange :=
  let sequences := Utf8.sequences ⟨0, 0xD7FF⟩ ++ Utf8.sequences ⟨0xE000, 0x10FFFF⟩
  match sequences.find? fun ranges =>
    ranges.head?.any fun r => r.first ≤ first && first ≤ r.last with
  | some (_ :: ranges) => ranges
  | _ => []

/-- How many octets are in the ranges, one in each, up to the first that is not. -/
def matching : List OctetRange → List UInt8 → Nat
  | r :: ranges, byte :: bytes =>
    if r.first ≤ byte && byte ≤ r.last then matching ranges bytes + 1 else 0
  | _, _ => 0

/-- Octets as characters, with a mark for each piece that is none; `count` bounds the number of
pieces. -/
def pieces : Nat → List UInt8 → List String
  | 0, _ => []
  | _, [] => []
  | count + 1, byte :: bytes =>
    let more := matching (followers byte) bytes
    (text? (byte :: bytes.take more)).getD "\uFFFD" :: pieces count (bytes.drop more)

/-- What is shown of octets: the text that they encode, or their characters with marks between. -/
def shown (bytes : List UInt8) : String :=
  (text? bytes).getD (String.join (pieces bytes.length bytes))

/-- A character that is broken off is one piece, and an octet that begins none is another. -/
example : shown [0x61, 0xE2, 0x82, 0xFF, 0x2E] = "a\uFFFD\uFFFD." := by decide

end Text

/-! ## Encodings -/

theorem octets_eq_flatMap (text : String) :
    octets text = text.toList.flatMap String.utf8EncodeChar := by
  rw [octets, ← String.ofList_toList (s := text), String.toList_ofList]
  exact List.toList_data_toByteArray

@[simp] theorem octets_append (before after : String) :
    octets (before ++ after) = octets before ++ octets after := by
  simp [octets]

theorem octets_inj {text text' : String} : octets text = octets text' ↔ text = text' := by
  rw [octets, octets, Array.toList_inj]
  exact ⟨fun same => String.toByteArray_inj.mp (ByteArray.ext same), fun same => same ▸ rfl⟩

/-- **Octets encode a text** if they are its encoding. -/
theorem Text.text?_eq_some_iff {bytes : List UInt8} {text : String} :
    Text.text? bytes = some text ↔ bytes = octets text := by
  rw [Text.text?, String.fromUTF8?, octets]
  constructor
  · intro h
    split at h
    · cases h
      rfl
    · cases h
  · rintro rfl
    exact dif_pos text.isValidUTF8

@[simp] theorem Text.text?_octets (text : String) : Text.text? (octets text) = some text :=
  Text.text?_eq_some_iff.mpr rfl

@[simp] theorem Text.shown_octets (text : String) : Text.shown (octets text) = text := by
  rw [Text.shown, Text.text?_octets, Option.getD_some]

/-- The octets of a character are its own if it is below 128, and above otherwise. -/
theorem mem_utf8EncodeChar_iff {c d : Char} (ascii : c.toNat < 128) :
    UInt8.ofNat c.toNat ∈ String.utf8EncodeChar d ↔ c = d := by
  have same_iff : c = d ↔ c.toNat = d.val.toNat := Char.toNat_inj.symm
  have octet_iff : ∀ n < 256, UInt8.ofNat c.toNat = UInt8.ofNat n ↔ c.toNat = n := by
    intro n small
    rw [← UInt8.toNat_inj, UInt8.toNat_ofNat', UInt8.toNat_ofNat']
    omega
  rw [String.utf8EncodeChar, same_iff]
  split
  · rw [List.mem_singleton, octet_iff _ (by omega)]
  -- The octets of all other characters are 128 at least.
  · split
    · simp only [List.mem_cons, List.not_mem_nil, or_false]
      rw [octet_iff _ (by omega), octet_iff _ (by omega)]
      omega
    · split
      · simp only [List.mem_cons, List.not_mem_nil, or_false]
        rw [octet_iff _ (by omega), octet_iff _ (by omega), octet_iff _ (by omega)]
        omega
      · simp only [List.mem_cons, List.not_mem_nil, or_false]
        rw [octet_iff _ (by omega), octet_iff _ (by omega), octet_iff _ (by omega),
          octet_iff _ (by omega)]
        omega

/-- **An octet below 128** is the encoding of its character and stands nowhere else. -/
theorem mem_octets_iff {c : Char} (ascii : c.toNat < 128) {text : String} :
    UInt8.ofNat c.toNat ∈ octets text ↔ c ∈ text.toList := by
  rw [octets_eq_flatMap, List.mem_flatMap]
  simp only [mem_utf8EncodeChar_iff ascii, exists_eq_right']

end ReleaseBundle
