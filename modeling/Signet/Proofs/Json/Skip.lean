import Signet.Json.Lenient
import Signet.Proofs.Json.Scalar

/-! Written texts and whole numbers that nobody asked for. They are passed over, or read as values
of any kind, and reading goes on behind them. -/

namespace Signet.Json

private theorem skipString_escaped (fuel : Nat) (byte : UInt8) (rest : Bytes) :
    skipString (fuel + 1) (Print.escaped byte ++ rest) = skipString fuel rest := by
  rcases escaped_cases byte with ⟨letter, short, found, written⟩ | ⟨control, written⟩ |
    ⟨noQuote, noEscape, shown, written⟩
  · have ok : skipEscape (letter :: rest) = .ok () rest := by
      simp [skipEscape, Reader.next, bind, EStateM.bind, short, found, pure, EStateM.pure]
    rw [written, skipString]
    show (skipEscape >>= _) (letter :: rest) = _
    rw [Reader.bind_of_ok ok]
  · have ok : skipEscape (ascii 'u' :: ascii '0' :: ascii '0' ::
        Print.hexDigit (byte.toNat / 16) :: Print.hexDigit (byte.toNat % 16) :: rest) =
        .ok () rest := by
      rw [skipEscape, Reader.bind_of_ok (Reader.next_cons _ _)]
      simp only [↓reduceIte]
      rw [Reader.bind_of_ok (hexFour_control control rest)]
      rfl
    rw [written, skipString]
    show (skipEscape >>= _) (ascii 'u' :: ascii '0' :: ascii '0' ::
      Print.hexDigit (byte.toNat / 16) :: Print.hexDigit (byte.toNat % 16) :: rest) = _
    rw [Reader.bind_of_ok ok]
  · have noQuote : byte ≠ ascii '"' := noQuote
    rw [written, List.singleton_append, skipString]
    simp [Reader.next, bind, EStateM.bind, noQuote, noEscape, shown]

private theorem skipString_flatMap (bytes : Bytes) (fuel : Nat) (rest : Bytes)
    (enough : bytes.length < fuel) :
    skipString fuel (bytes.flatMap Print.escaped ++ quote :: rest) = .ok () rest := by
  induction bytes generalizing fuel with
  | nil =>
    cases fuel with
    | zero => simp at enough
    | succ fuel =>
      simp [skipString, Reader.next, bind, EStateM.bind, pure, EStateM.pure, quote]
  | cons byte bytes ih =>
    cases fuel with
    | zero => simp at enough
    | succ fuel =>
      have fewer : bytes.length < fuel := by simpa using enough
      rw [List.flatMap_cons, List.append_assoc, skipString_escaped, ih fuel fewer]

theorem skipEndNumber_ends {rest : Bytes} (ends : Ends rest) :
    skipEndNumber rest = .ok () rest := by
  obtain ⟨noPoint, noExponent⟩ := ends.not_more
  simp [skipEndNumber, Reader.peek, bind, EStateM.bind, noPoint, noExponent, pure, EStateM.pure]

theorem skipNumber_digits (value : Nat) {rest : Bytes} (ends : Ends rest) :
    skipNumber (Decimal.digits value ++ rest) = .ok () rest := by
  rcases digits_cases value with rfl | ⟨lead, run, written, other⟩
  · rw [digits_zero, List.singleton_append]
    show (digitNext >>= _) rest = _
    rw [Reader.bind_of_ok (digitNext_ends ends)]
    exact skipEndNumber_ends ends
  · obtain ⟨digit, digits, -⟩ := digits_split written
    have skipped : (Reader.skipWhile Decimal.isDigit : Reader Fault Unit) (run ++ rest) =
        .ok () rest := by
      simp only [Reader.skipWhile, dropWhile_digits digits ends]
    rw [written, List.cons_append, skipNumber, Reader.bind_of_ok (Reader.next_cons lead _)]
    simp only [other, digit, ↓reduceIte]
    rw [Reader.bind_of_ok skipped]
    exact skipEndNumber_ends ends

/-- A written text or whole number. -/
inductive Scalar : Bytes → Prop where
  | text (value : String) : Scalar (Print.text value)
  | natural (value : Nat) (fits : value < wholeBound) : Scalar (Print.natural value)

theorem Scalar.ne_nil {text : Bytes} (scalar : Scalar text) : text ≠ [] := by
  cases scalar with
  | text value => simp [text_eq]
  | natural value fits => exact Decimal.digits_ne_nil value

theorem skipScalar_scalar {lead : UInt8} {text rest : Bytes} (scalar : Scalar (lead :: text))
    (ends : Ends rest) : isBlank lead = false ∧ lead ≠ ascii '[' ∧ lead ≠ ascii '\x7b' ∧
      skipScalar lead (lead :: (text ++ rest)) = .ok () rest := by
  generalize whole : lead :: text = written at scalar
  cases scalar with
  | text value =>
    rw [text_eq] at whole
    injection whole with first others
    subst first others
    have enough := length_le_flatMap_escaped (Text.utf8 value)
    have passed := skipString_flatMap (Text.utf8 value)
      (((Text.utf8 value).flatMap Print.escaped ++ quote :: rest).length + 1) rest
      (by rw [List.length_append]; omega)
    refine ⟨by decide, by decide, by decide, ?_⟩
    have start : skipScalar quote = (do Reader.skip; skipString ((← Reader.left) + 1)) :=
      rfl
    rw [start, List.append_assoc, List.singleton_append, Reader.bind_of_ok (Reader.skip_cons _ _),
      Reader.bind_of_ok (Reader.left_eq _), passed]
  | natural value fits =>
    have digit : Decimal.isDigit lead = true := (digits_split whole.symm).1
    have passed := skipNumber_digits value ends
    rw [← show lead :: text = Decimal.digits value from whole] at passed
    refine ⟨digit_not_blank digit, digit_ne digit _ rfl, digit_ne digit _ rfl, ?_⟩
    simp only [skipScalar, digit_ne digit (ascii 'n') rfl,
      digit_ne digit (ascii 't') rfl, digit_ne digit (ascii 'f') rfl,
      digit_ne digit (ascii '-') rfl, digit, ↓reduceIte]
    exact passed

theorem skipValue_scalar {text : Bytes} (scalar : Scalar text) : Reads skipValue text () := by
  intro rest ends
  cases text with
  | nil => exact absurd rfl scalar.ne_nil
  | cons lead text =>
    obtain ⟨dark, noList, noObject, passed⟩ := skipScalar_scalar scalar ends
    rw [List.cons_append, skipValue, Reader.bind_of_ok (Reader.left_eq _), skipFrom,
      Reader.bind_of_ok (peekWord_cons _ dark)]
    simp only [noList, noObject, ↓reduceIte]
    rw [Reader.bind_of_ok passed]
    rfl

theorem anyValue_scalar {text : Bytes} (scalar : Scalar text) (depth : Nat) :
    ∃ value, Reads (anyValue (depth + 1)) text value := by
  cases scalar with
  | text value =>
    refine ⟨.text value, ?_⟩
    intro rest _
    rw [text_eq, List.cons_append, List.append_assoc, anyValue,
      Reader.bind_of_ok (peekWord_cons _ (by decide))]
    show (stringText >>= _) ((Text.utf8 value).flatMap Print.escaped ++ quote :: rest) = _
    rw [Reader.bind_of_ok (stringText_text value rest)]
    rfl
  | natural value fits =>
    refine ⟨.number (.unsigned (UInt64.ofNat value)), ?_⟩
    intro rest ends
    obtain ⟨lead, run, written, digit⟩ := digits_cons value
    have whole := number_digits fits ends
    rw [written, List.cons_append] at whole
    rw [Print.natural, written, List.cons_append, anyValue,
      Reader.bind_of_ok (peekWord_cons _ (digit_not_blank digit))]
    simp only [digit_ne digit (ascii '[') rfl, digit_ne digit (ascii '\x7b') rfl,
      digit_ne digit (ascii '-') rfl, digit, ↓reduceIte]
    rw [Reader.bind_of_ok whole]
    rfl

end Signet.Json
