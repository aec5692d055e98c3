/-! Texts as byte strings: every text has one UTF-8 form, and a byte string is the form of at most
one text. -/

namespace Signet

/-- A byte string, first byte first. -/
abbrev Bytes := List UInt8

/-- The byte of an ASCII character. -/
abbrev ascii (char : Char) : UInt8 := char.toUInt8

namespace Text

/-- The UTF-8 form of a text. -/
def utf8 (text : String) : Bytes := text.toByteArray.data.toList

/-- The text with this UTF-8 form, if there is one. -/
def ofUtf8? (bytes : Bytes) : Option String := String.fromUTF8? ⟨bytes.toArray⟩

@[simp] theorem ofUtf8?_utf8 (text : String) : ofUtf8? (utf8 text) = some text := by
  have valid : text.toByteArray.IsValidUTF8 := text.isValidUTF8
  simp only [ofUtf8?, utf8, Array.toArray_toList, String.fromUTF8?, valid, ↓reduceDIte]
  rfl

theorem utf8_of_ofUtf8? {bytes : Bytes} {text : String} (found : ofUtf8? bytes = some text) :
    utf8 text = bytes := by
  unfold ofUtf8? String.fromUTF8? at found
  split at found
  · cases found
    rfl
  · cases found

theorem utf8_injective {first second : String} (same : utf8 first = utf8 second) :
    first = second := by
  have decoded := congrArg ofUtf8? same
  simpa using decoded

@[simp] theorem utf8_empty : utf8 "" = [] := rfl

@[simp] theorem utf8_append (first second : String) :
    utf8 (first ++ second) = utf8 first ++ utf8 second := by
  simp [utf8]

theorem utf8_eq_nil_iff {text : String} : utf8 text = [] ↔ text = "" :=
  ⟨fun empty => utf8_injective (by simpa using empty), fun empty => by simp [empty]⟩

/-- The text whose characters have these numbers. -/
def ofAscii (bytes : Bytes) : String := String.ofList (bytes.map Char.ofUInt8)

private theorem utf8EncodeChar_ofUInt8 {byte : UInt8} (small : byte < 128) :
    String.utf8EncodeChar (Char.ofUInt8 byte) = [byte] := by
  have one : (Char.ofUInt8 byte).utf8Size = 1 := by
    rw [Char.utf8Size_eq_one_iff]
    show byte.toUInt32 ≤ 127
    rw [UInt32.le_iff_toNat_le]
    rw [UInt8.lt_iff_toNat_lt] at small
    simp at *
    omega
  rw [String.utf8EncodeChar_eq_singleton one]
  show [byte.toUInt32.toUInt8] = [byte]
  simp

theorem utf8_ofAscii {bytes : Bytes} (ascii : ∀ byte ∈ bytes, byte < 128) :
    utf8 (ofAscii bytes) = bytes := by
  have flat : utf8 (ofAscii bytes) =
      bytes.flatMap fun byte => String.utf8EncodeChar (Char.ofUInt8 byte) := by
    simp [utf8, ofAscii, String.toByteArray_ofList, List.utf8Encode, List.flatMap_map]
  rw [flat]
  clear flat
  induction bytes with
  | nil => rfl
  | cons byte rest ih =>
    have small := ascii byte (List.mem_cons_self ..)
    have tail := ih fun other member => ascii other (List.mem_cons_of_mem _ member)
    rw [List.flatMap_cons, utf8EncodeChar_ofUInt8 small, tail]
    rfl

end Text
end Signet
