import Signet.Proofs.Token.RoundTrip

/-! Tokens as three texts with points between them. Under a secret there is one text that counts as the
third, whatever the bytes are that others stand for: it is compared as it is written. -/

namespace Signet

namespace Text

theorem utf8_ofList (chars : List Char) :
    utf8 (String.ofList chars) = chars.flatMap String.utf8EncodeChar := by
  simp [utf8, String.toByteArray_ofList, List.utf8Encode]

theorem mem_utf8_iff {byte : UInt8} {text : String} :
    byte ∈ utf8 text ↔ ∃ char ∈ text.toList, byte ∈ String.utf8EncodeChar char := by
  have flat := utf8_ofList text.toList
  rw [String.ofList_toList] at flat
  rw [flat, List.mem_flatMap]

/-- Only the form of a point holds a point. -/
theorem eq_of_mem_utf8EncodeChar {char : Char} (member : ascii '.' ∈ String.utf8EncodeChar char) :
    char = '.' := by
  have dot : (ascii '.').toNat = 46 := rfl
  have number : char.toNat = '.'.toNat := by
    simp only [String.utf8EncodeChar] at member
    split at member
    case isTrue small =>
      have same := congrArg UInt8.toNat (List.mem_singleton.mp member)
      rw [dot, UInt8.toNat_ofNat'] at same
      show char.val.toNat = 46
      omega
    case isFalse large =>
      -- The bytes of every other form are at least 128.
      exfalso
      split at member
      case' isFalse => split at member
      all_goals
        simp only [List.mem_cons, List.not_mem_nil, or_false, ← UInt8.toNat_inj, dot,
          UInt8.toNat_ofNat'] at member
        omega
  exact Char.toNat_inj.mp number

theorem point_mem_utf8_iff {text : String} : ascii '.' ∈ utf8 text ↔ '.' ∈ text.toList := by
  rw [mem_utf8_iff]
  constructor
  · rintro ⟨char, among, byte⟩
    exact eq_of_mem_utf8EncodeChar byte ▸ among
  · intro member
    exact ⟨'.', member, by decide⟩

end Text

namespace Token

variable {header payload signature other : String} {secret : Secret} {claims : Claims}
  {algorithm : Algorithm}

theorem segments_ne_nil (separator : UInt8) (bytes : Bytes) : segments separator bytes ≠ [] := by
  cases bytes with
  | nil => simp [segments]
  | cons byte rest =>
    rw [segments]
    split
    · simp
    · split
      · simp
      · simp

/-- What stands in one segment has no separator in it. -/
theorem eq_of_segments_eq_singleton {separator : UInt8} {bytes only : Bytes}
    (single : segments separator bytes = [only]) : only = bytes ∧ separator ∉ bytes := by
  induction bytes generalizing only with
  | nil =>
    cases single
    exact ⟨rfl, List.not_mem_nil⟩
  | cons byte rest ih =>
    rw [segments] at single
    split at single
    case isTrue same =>
      obtain ⟨-, none⟩ := List.cons.inj single
      exact absurd none (segments_ne_nil separator rest)
    case isFalse different =>
      split at single
      case h_1 first others split =>
        obtain ⟨rfl, rfl⟩ := List.cons.inj single
        obtain ⟨rfl, absent⟩ := ih split
        exact ⟨rfl, by simp [absent, Ne.symm different]⟩
      case h_2 none => exact absurd none (segments_ne_nil separator rest)

/-- A separator parts what stands before it from what stands behind it. -/
theorem segments_split (separator : UInt8) (front back : Bytes) :
    segments separator (front ++ separator :: back) =
      segments separator front ++ segments separator back := by
  induction front with
  | nil => simp [segments]
  | cons byte front ih =>
    rw [List.cons_append, segments, segments, ih]
    split
    · rfl
    · obtain ⟨first, others, split⟩ := List.exists_cons_of_ne_nil (segments_ne_nil separator front)
      rw [split]
      rfl

/-- A token of three texts. -/
def joined (header payload signature : String) : String :=
  header ++ "." ++ payload ++ "." ++ signature

/-- A text that can stand between the points of a token. -/
structure IsSegment (text : String) : Prop where
  full : text ≠ ""
  whole : '.' ∉ text.toList

/-- The text of the tag of the others under a secret. -/
def tag (algorithm : Algorithm) (secret : Secret) (header payload : String) : String :=
  Text.ofAscii
    (Base64Url.encode (algorithm.mac secret.bytes (Text.utf8 (header ++ "." ++ payload))))

/-- Every token that is written is made of three texts. -/
theorem ofParts_eq_joined (parts : Parts) : ofParts parts =
    joined (Text.ofAscii parts.header) (Text.ofAscii parts.payload)
      (Text.ofAscii parts.signature) := by
  have dot : Char.ofUInt8 point = '.' := rfl
  have text : "." = String.ofList ['.'] := rfl
  simp only [ofParts, Parts.message, joined, Text.ofAscii, List.map_append, List.map_cons, dot, text,
    ← String.ofList_append, List.append_assoc, List.cons_append, List.nil_append]

theorem utf8_joined (header payload signature : String) :
    Text.utf8 (joined header payload signature) =
      Text.utf8 header ++ point :: (Text.utf8 payload ++ point :: Text.utf8 signature) := by
  have dot : Text.utf8 "." = [point] := rfl
  simp [joined, dot]

theorem utf8_tag (algorithm : Algorithm) (secret : Secret) (header payload : String) :
    Text.utf8 (tag algorithm secret header payload) = Base64Url.encode (algorithm.mac secret.bytes
      (Text.utf8 header ++ point :: Text.utf8 payload)) := by
  have dot : Text.utf8 "." = [point] := rfl
  rw [tag, Text.utf8_ofAscii fun _ member => Base64Url.lt_of_mem_encode member]
  simp [dot]

theorem isSegment_iff {text : String} :
    IsSegment text ↔ Text.utf8 text ≠ [] ∧ point ∉ Text.utf8 text := by
  rw [ne_eq, Text.utf8_eq_nil_iff, show point = ascii '.' from rfl, Text.point_mem_utf8_iff]
  exact ⟨fun segment => ⟨segment.full, segment.whole⟩, fun both => ⟨both.1, both.2⟩⟩

theorem isSegment_tag (algorithm : Algorithm) (secret : Secret) (header payload : String) :
    IsSegment (tag algorithm secret header payload) := by
  have unknown : Base64Url.value? point = none := rfl
  rw [isSegment_iff, utf8_tag]
  exact ⟨Base64Url.encode_ne_nil (Algorithm.mac_ne_nil _ _ _), Base64Url.not_mem_encode unknown _⟩

/-- Three texts with points between them are a token if none of them is empty or holds a point. -/
theorem ofText_joined_iff {parts : Parts} :
    Parts.ofText (joined header payload signature) = .ok parts ↔
      (IsSegment header ∧ IsSegment payload ∧ IsSegment signature) ∧
        parts = ⟨Text.utf8 header, Text.utf8 payload, Text.utf8 signature⟩ := by
  simp only [isSegment_iff]
  constructor
  · intro read
    have split := Parts.segments_of_ofText read
    obtain ⟨head, body, last⟩ := Parts.full_of_ofText read
    rw [utf8_joined, segments_split, segments_split] at split
    -- Each of the texts has a segment at least, and there are three of them.
    obtain ⟨first, firsts, one⟩ :=
      List.exists_cons_of_ne_nil (segments_ne_nil point (Text.utf8 header))
    obtain ⟨second, seconds, two⟩ :=
      List.exists_cons_of_ne_nil (segments_ne_nil point (Text.utf8 payload))
    obtain ⟨third, thirds, three⟩ :=
      List.exists_cons_of_ne_nil (segments_ne_nil point (Text.utf8 signature))
    have count := congrArg List.length split
    rw [one, two, three] at split count
    simp only [List.length_append, List.length_cons, List.length_nil] at count
    obtain rfl := List.eq_nil_of_length_eq_zero (show firsts.length = 0 by omega)
    obtain rfl := List.eq_nil_of_length_eq_zero (show seconds.length = 0 by omega)
    obtain rfl := List.eq_nil_of_length_eq_zero (show thirds.length = 0 by omega)
    obtain ⟨rfl, plain⟩ := eq_of_segments_eq_singleton one
    obtain ⟨rfl, simple⟩ := eq_of_segments_eq_singleton two
    obtain ⟨rfl, bare⟩ := eq_of_segments_eq_singleton three
    obtain ⟨_, _, _⟩ := parts
    cases split
    exact ⟨⟨⟨head, plain⟩, ⟨body, simple⟩, last, bare⟩, rfl⟩
  · rintro ⟨⟨⟨head, plain⟩, ⟨body, simple⟩, last, bare⟩, rfl⟩
    rw [Parts.ofText, utf8_joined, segments_append plain, segments_append simple,
      segments_of_not_mem bare]
    simp only [head, body, last, or_self, ↓reduceIte]

/-- Whatever stands in a token does not depend on its signature. -/
theorem Reading.resign {parts : Parts} {stated : Claims.Stated}
    (reading : Reading (joined header payload signature) parts algorithm stated)
    (segment : IsSegment other) : Reading (joined header payload other)
      ⟨Text.utf8 header, Text.utf8 payload, Text.utf8 other⟩ algorithm stated := by
  obtain ⟨⟨head, body, -⟩, rfl⟩ := ofText_joined_iff.mp reading.read
  exact ⟨ofText_joined_iff.mpr ⟨⟨head, body, segment⟩, rfl⟩, reading.named, reading.header,
    reading.payload⟩

theorem isSegment_of_peek (peeked : peek (joined header payload signature) = .ok claims) :
    IsSegment signature := by
  obtain ⟨parts, _, _, reading, -, -⟩ := peek_eq_ok_iff.mp peeked
  exact (ofText_joined_iff.mp reading.read).1.2.2

theorem peek_resign (peeked : peek (joined header payload signature) = .ok claims)
    (segment : IsSegment other) : peek (joined header payload other) = .ok claims := by
  obtain ⟨_, _, _, reading, same, some⟩ := peek_eq_ok_iff.mp peeked
  exact peek_eq_ok_iff.mpr ⟨_, _, _, reading.resign segment, same, some⟩

theorem inspect_resign (named : inspect (joined header payload signature) = .ok algorithm)
    (segment : IsSegment other) : inspect (joined header payload other) = .ok algorithm := by
  obtain ⟨parts, read, named⟩ := inspect_eq_ok_iff.mp named
  obtain ⟨⟨head, body, -⟩, rfl⟩ := ofText_joined_iff.mp read
  exact inspect_eq_ok_iff.mpr ⟨_, ofText_joined_iff.mpr ⟨⟨head, body, segment⟩, rfl⟩, named⟩

/-- The one signature that counts is the tag. -/
theorem tagged_joined_iff (named : inspect (joined header payload signature) = .ok algorithm) :
    Tagged (joined header payload signature) secret ↔
      signature = tag algorithm secret header payload := by
  obtain ⟨parts, read, -⟩ := inspect_eq_ok_iff.mp named
  obtain ⟨-, rfl⟩ := ofText_joined_iff.mp read
  rw [tagged_iff_of_inspect (Parts.segments_of_ofText read) named]
  constructor
  · exact fun same => Text.utf8_injective (same.trans (utf8_tag ..).symm)
  · rintro rfl
    exact utf8_tag ..

end Token
end Signet
