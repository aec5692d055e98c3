import Signet.Json.Printer
import Signet.Json.Typed
import Signet.Proofs.Reader

/-! Texts and whole numbers as they are written and read back. What follows a value in a written
object or list ends it, so a reader takes the written value and nothing else. -/

namespace Signet

namespace Json

variable {α : Type}

/-- What may follow a value: nothing, or the byte that stands behind an item or a member. -/
def Ends (rest : Bytes) : Prop :=
  ∀ byte, rest.head? = some byte → byte = ascii ',' ∨ byte = ascii ']' ∨ byte = ascii '\x7d'

theorem ends_comma (rest : Bytes) : Ends (ascii ',' :: rest) := by
  intro byte found
  exact .inl (Option.some.inj found).symm

theorem ends_brace (rest : Bytes) : Ends (ascii '\x7d' :: rest) := by
  intro byte found
  exact .inr (.inr (Option.some.inj found).symm)

/-- The reader takes this text off the front, and answers this value. -/
def Reads (reader : Reader Fault α) (text : Bytes) (value : α) : Prop :=
  ∀ rest, Ends rest → reader (text ++ rest) = .ok value rest

theorem Reads.bind {β : Type} {first : Reader Fault α} {next : α → Reader Fault β} {text : Bytes}
    {value : α} {result : β} (reads : Reads first text value)
    (same : ∀ rest, next value rest = .ok result rest) : Reads (first >>= next) text result := by
  intro rest ends
  rw [Reader.bind_of_ok (reads rest ends), same]

theorem peekWord_cons {byte : UInt8} (rest : Bytes) (dark : isBlank byte = false) :
    peekWord (byte :: rest) = .ok (some byte) (byte :: rest) := by
  simp [peekWord, Reader.skipWhile, Reader.peek, bind, EStateM.bind, dark]

/-- The sign that opens and closes a text. -/
def quote : UInt8 := ascii '"'

theorem hexValue?_hexDigit (value : Nat) (small : value < 16) :
    hexValue? (Print.hexDigit value) = some value := by
  have all : ∀ value : Fin 16, hexValue? (Print.hexDigit value) = some value.val := by decide
  exact all ⟨value, small⟩

/-- A byte of a text is written after a backslash by a letter or by its number, or as it is. -/
theorem escaped_cases (byte : UInt8) :
    (∃ letter, letter ≠ ascii 'u' ∧ shortEscape? letter = some byte ∧
      Print.escaped byte = [ascii '\\', letter]) ∨
    (byte < 32 ∧ Print.escaped byte = [ascii '\\', ascii 'u', ascii '0', ascii '0',
      Print.hexDigit (byte.toNat / 16), Print.hexDigit (byte.toNat % 16)]) ∨
    (byte ≠ quote ∧ byte ≠ ascii '\\' ∧ ¬ byte < 32 ∧ Print.escaped byte = [byte]) := by
  unfold Print.escaped
  split
  case isTrue same => subst same; exact .inl ⟨ascii '"', by decide, rfl, rfl⟩
  split
  case isTrue same => subst same; exact .inl ⟨ascii '\\', by decide, rfl, rfl⟩
  split
  case isTrue same => subst same; exact .inl ⟨ascii 'b', by decide, rfl, rfl⟩
  split
  case isTrue same => subst same; exact .inl ⟨ascii 't', by decide, rfl, rfl⟩
  split
  case isTrue same => subst same; exact .inl ⟨ascii 'n', by decide, rfl, rfl⟩
  split
  case isTrue same => subst same; exact .inl ⟨ascii 'f', by decide, rfl, rfl⟩
  split
  case isTrue same => subst same; exact .inl ⟨ascii 'r', by decide, rfl, rfl⟩
  split
  case isTrue control => exact .inr (.inl ⟨control, rfl⟩)
  case isFalse noQuote noEscape _ _ _ _ _ shown =>
    exact .inr (.inr ⟨noQuote, noEscape, shown, rfl⟩)

/-- A control character is read back from the four digits of its number. -/
theorem hexFour_control {byte : UInt8} (control : byte < 32) (rest : Bytes) :
    hexFour (ascii '0' :: ascii '0' :: Print.hexDigit (byte.toNat / 16) ::
      Print.hexDigit (byte.toNat % 16) :: rest) = .ok byte.toNat rest := by
  have small : byte.toNat < 32 := control
  have zero : hexValue? (ascii '0') = some 0 := rfl
  have high := hexValue?_hexDigit (byte.toNat / 16) (by omega)
  have low := hexValue?_hexDigit (byte.toNat % 16) (by omega)
  simp only [hexFour, zero, high, low]
  congr 1
  omega

private theorem unicodeEscape_control {byte : UInt8} (control : byte < 32) (rest : Bytes) :
    unicodeEscape (ascii '0' :: ascii '0' :: Print.hexDigit (byte.toNat / 16) ::
      Print.hexDigit (byte.toNat % 16) :: rest) = .ok [byte] rest := by
  have small : byte.toNat < 32 := control
  have ends : endsPair byte.toNat = false := by simp [endsPair]; omega
  have leads : leadsPair byte.toNat = false := by simp [leadsPair]; omega
  have one : ∀ value : Fin 32, String.utf8EncodeChar (Char.ofNat value.val) =
      [UInt8.ofNat value.val] := by decide
  have alone := one ⟨byte.toNat, small⟩
  rw [UInt8.ofNat_toNat] at alone
  rw [unicodeEscape, Reader.bind_of_ok (hexFour_control control rest)]
  simp only [ends, leads, alone]
  rfl

private theorem stringBytes_escape {fuel : Nat} {taken input plain rest : Bytes}
    (ok : escape input = .ok plain rest) :
    stringBytes (fuel + 1) taken (ascii '\\' :: input) =
      stringBytes fuel (plain.reverse ++ taken) rest := by
  rw [stringBytes]
  show (escape >>= _) input = _
  rw [Reader.bind_of_ok ok]

/-- One written byte of a text is read back as that byte. -/
private theorem stringBytes_escaped (fuel : Nat) (taken : Bytes) (byte : UInt8) (rest : Bytes) :
    stringBytes (fuel + 1) taken (Print.escaped byte ++ rest) =
      stringBytes fuel (byte :: taken) rest := by
  rcases escaped_cases byte with ⟨letter, short, found, written⟩ | ⟨control, written⟩ |
    ⟨noQuote, noEscape, shown, written⟩
  · have ok : escape (letter :: rest) = .ok [byte] rest := by
      simp [escape, Reader.next, bind, EStateM.bind, short, found, pure, EStateM.pure]
    rw [written]
    exact stringBytes_escape ok
  · have ok : escape (ascii 'u' :: ascii '0' :: ascii '0' :: Print.hexDigit (byte.toNat / 16) ::
        Print.hexDigit (byte.toNat % 16) :: rest) = .ok [byte] rest :=
      unicodeEscape_control control rest
    rw [written]
    exact stringBytes_escape ok
  · rw [written, List.singleton_append, stringBytes]
    have noQuote : byte ≠ ascii '"' := noQuote
    simp [Reader.next, bind, EStateM.bind, noQuote, noEscape, shown]

private theorem stringBytes_flatMap (bytes : Bytes) (fuel : Nat) (taken rest : Bytes)
    (enough : bytes.length < fuel) :
    stringBytes fuel taken (bytes.flatMap Print.escaped ++ quote :: rest) =
      .ok (taken.reverse ++ bytes) rest := by
  induction bytes generalizing fuel taken with
  | nil =>
    cases fuel with
    | zero => simp at enough
    | succ fuel =>
      simp [stringBytes, Reader.next, bind, EStateM.bind, pure, EStateM.pure, quote]
  | cons byte bytes ih =>
    cases fuel with
    | zero => simp at enough
    | succ fuel =>
      have fewer : bytes.length < fuel := by simpa using enough
      rw [List.flatMap_cons, List.append_assoc, stringBytes_escaped, ih fuel (byte :: taken) fewer]
      simp

theorem length_le_flatMap_escaped (bytes : Bytes) :
    bytes.length ≤ (bytes.flatMap Print.escaped).length := by
  induction bytes with
  | nil => simp
  | cons byte bytes ih =>
    have some : 1 ≤ (Print.escaped byte).length := by
      rcases escaped_cases byte with ⟨letter, _, _, written⟩ | ⟨_, written⟩ | ⟨_, _, _, written⟩ <;>
        rw [written] <;> simp
    simp only [List.flatMap_cons, List.length_append, List.length_cons]
    omega

theorem stringText_text (value : String) (rest : Bytes) :
    stringText ((Text.utf8 value).flatMap Print.escaped ++ quote :: rest) = .ok value rest := by
  have enough := length_le_flatMap_escaped (Text.utf8 value)
  have bytes := stringBytes_flatMap (Text.utf8 value)
    (((Text.utf8 value).flatMap Print.escaped ++ quote :: rest).length + 1) [] rest
    (by rw [List.length_append]; omega)
  rw [stringText, Reader.bind_of_ok (Reader.left_eq _), Reader.bind_of_ok bytes]
  simp [pure, EStateM.pure]

theorem text_eq (value : String) :
    Print.text value = quote :: ((Text.utf8 value).flatMap Print.escaped ++ [quote]) := rfl

theorem reads_text (value : String) : Reads text (Print.text value) value := by
  intro rest _
  rw [text_eq, List.cons_append, List.append_assoc, text,
    Reader.bind_of_ok (peekWord_cons _ (by decide))]
  exact stringText_text value rest

theorem Ends.not_digit {rest : Bytes} (ends : Ends rest) (byte : UInt8)
    (found : rest.head? = some byte) : Decimal.isDigit byte = false := by
  rcases ends byte found with rfl | rfl | rfl <;> rfl

theorem takeWhile_digits {run rest : Bytes} (digits : run.all Decimal.isDigit = true)
    (ends : Ends rest) : (run ++ rest).takeWhile Decimal.isDigit = run := by
  rw [List.takeWhile_append_of_pos (by simpa using digits)]
  cases rest with
  | nil => simp
  | cons byte rest => simp [ends.not_digit byte rfl]

theorem dropWhile_digits {run rest : Bytes} (digits : run.all Decimal.isDigit = true)
    (ends : Ends rest) : (run ++ rest).dropWhile Decimal.isDigit = rest := by
  rw [List.dropWhile_append_of_pos (by simpa using digits)]
  cases rest with
  | nil => simp
  | cons byte rest => simp [ends.not_digit byte rfl]

theorem digitNext_ends {rest : Bytes} (ends : Ends rest) : digitNext rest = .ok false rest := by
  cases rest with
  | nil => rfl
  | cons byte rest =>
    simp [digitNext, Reader.peek, bind, EStateM.bind, ends.not_digit byte rfl, pure,
      EStateM.pure]

/-- A written number goes on with a point or an exponent, and neither follows a value. -/
theorem Ends.not_more {rest : Bytes} (ends : Ends rest) :
    rest.head? ≠ some (ascii '.') ∧ isExponentMark rest.head? = false := by
  cases rest with
  | nil => exact ⟨by simp, rfl⟩
  | cons byte rest =>
    rcases ends byte rfl with rfl | rfl | rfl <;> exact ⟨by simp; decide, rfl⟩

theorem endWhole_ends (significand : Nat) {rest : Bytes} (ends : Ends rest) :
    endWhole true significand rest = .ok (.unsigned (UInt64.ofNat significand)) rest := by
  obtain ⟨noPoint, noExponent⟩ := ends.not_more
  simp [endWhole, Reader.peek, bind, EStateM.bind, noPoint, noExponent, pure, EStateM.pure]

theorem le_value (taken : Nat) (run : Bytes) : taken ≤ Decimal.value taken run := by
  induction run generalizing taken with
  | nil => exact Nat.le_refl taken
  | cons byte run ih =>
    have grown := ih (taken * 10 + Decimal.digitValue byte)
    simp only [Decimal.value, List.foldl_cons] at grown ⊢
    omega

/-- Whole digits are taken one after the other as long as the number fits. -/
private theorem wholeDigits_digits (run : Bytes) (significand : Nat) {rest : Bytes}
    (digits : run.all Decimal.isDigit = true) (fits : Decimal.value significand run < wholeBound)
    (ends : Ends rest) : wholeDigits true run significand (run ++ rest) =
      .ok (.unsigned (UInt64.ofNat (Decimal.value significand run))) rest := by
  induction run generalizing significand with
  | nil => exact endWhole_ends significand ends
  | cons byte run ih =>
    have later : run.all Decimal.isDigit = true := by
      simp only [List.all_cons, Bool.and_eq_true] at digits
      exact digits.2
    have grown := le_value (significand * 10 + Decimal.digitValue byte) run
    have small : significand * 10 + Decimal.digitValue byte < wholeBound :=
      Nat.lt_of_le_of_lt grown fits
    rw [wholeDigits]
    simp only [small, ↓reduceIte]
    exact ih _ later fits

/-- A written number is a lone zero or starts with another digit. -/
theorem digits_cases (value : Nat) : value = 0 ∨
    ∃ lead run, Decimal.digits value = lead :: run ∧ lead ≠ ascii '0' := by
  induction value using Decimal.digits.induct with
  | case1 value small =>
    have all : ∀ value : Fin 10, value.val = 0 ∨ Decimal.digit value ≠ ascii '0' := by decide
    rcases all ⟨value, small⟩ with zero | other
    · exact .inl zero
    · refine .inr ⟨Decimal.digit value, [], ?_, other⟩
      rw [Decimal.digits, if_pos small]
  | case2 value large ih =>
    rcases ih with zero | ⟨lead, run, written, other⟩
    · omega
    · refine .inr ⟨lead, run ++ [Decimal.digit (value % 10)], ?_, other⟩
      rw [Decimal.digits, if_neg large, written, List.cons_append]

/-- The first digit of a number and the others. -/
theorem digits_split {value : Nat} {lead : UInt8} {run : Bytes}
    (written : Decimal.digits value = lead :: run) :
    Decimal.isDigit lead = true ∧ run.all Decimal.isDigit = true ∧
      Decimal.value (Decimal.digitValue lead) run = value := by
  have all := Decimal.all_isDigit_digits value
  have whole := Decimal.value_digits value
  rw [written] at all whole
  simp only [List.all_cons, Bool.and_eq_true] at all
  refine ⟨all.1, all.2, ?_⟩
  simpa [Decimal.value] using whole

theorem digits_zero : Decimal.digits 0 = [ascii '0'] := by
  rw [Decimal.digits]
  rfl

theorem number_digits {value : Nat} (fits : value < wholeBound) {rest : Bytes} (ends : Ends rest) :
    number true (Decimal.digits value ++ rest) = .ok (.unsigned (UInt64.ofNat value)) rest := by
  rcases digits_cases value with rfl | ⟨lead, run, written, other⟩
  · rw [digits_zero, List.singleton_append]
    show (digitNext >>= _) rest = _
    rw [Reader.bind_of_ok (digitNext_ends ends)]
    exact endWhole_ends 0 ends
  · obtain ⟨digit, digits, whole⟩ := digits_split written
    have ahead : digitsAhead (run ++ rest) = .ok run (run ++ rest) := by
      simp only [digitsAhead, takeWhile_digits digits ends]
    rw [written, List.cons_append, number, Reader.bind_of_ok (Reader.next_cons lead _)]
    simp only [other, digit, ↓reduceIte]
    rw [Reader.bind_of_ok ahead, ← whole]
    exact wholeDigits_digits run _ digits (whole ▸ fits) ends

/-- A digit starts no other kind of value. -/
theorem digit_ne {lead : UInt8} (digit : Decimal.isDigit lead = true) (other : UInt8)
    (none : Decimal.isDigit other = false) : lead ≠ other := by
  rintro rfl
  rw [digit] at none
  cases none

theorem digit_not_blank {lead : UInt8} (digit : Decimal.isDigit lead = true) :
    isBlank lead = false := by
  have space := digit_ne digit 32 rfl
  have newline := digit_ne digit 10 rfl
  have tab := digit_ne digit 9 rfl
  have back := digit_ne digit 13 rfl
  simp [isBlank, space, newline, tab, back]

theorem digits_cons (value : Nat) :
    ∃ lead run, Decimal.digits value = lead :: run ∧ Decimal.isDigit lead = true := by
  cases written : Decimal.digits value with
  | nil => exact absurd written (Decimal.digits_ne_nil value)
  | cons lead run => exact ⟨lead, run, rfl, (digits_split written).1⟩

theorem reads_numeric {wanted : String} {accept : Number → Except Fault α} {value : Nat}
    {result : α} (fits : value < wholeBound)
    (accepted : accept (.unsigned (UInt64.ofNat value)) = .ok result) :
    Reads (numeric wanted accept) (Print.natural value) result := by
  intro rest ends
  obtain ⟨lead, run, written, digit⟩ := digits_cons value
  have whole := number_digits fits ends
  rw [written, List.cons_append] at whole
  rw [Print.natural, written, List.cons_append, numeric,
    Reader.bind_of_ok (peekWord_cons _ (digit_not_blank digit))]
  simp only [digit_ne digit (ascii '-') rfl, digit, ↓reduceIte]
  rw [Reader.bind_of_ok whole, accepted]
  rfl

theorem reads_unsigned (wanted : String) (value : UInt64) :
    Reads (unsigned wanted) (Print.natural value.toNat) value := by
  have small := value.toNat_lt
  refine reads_numeric small ?_
  simp [acceptBelow, wholeBound, UInt64.size, small]

end Json
end Signet
