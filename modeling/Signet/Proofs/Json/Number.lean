import Signet.Proofs.Json.Record

/-! Numbers that are read as whole ones. A point, an exponent, a minus sign or a digit too many
makes a number something else, so a whole number is read from its own decimal digits and from
nothing else. -/

namespace Signet

namespace Decimal

variable {byte : UInt8} {run : Bytes} {number : Nat}

theorem digit_digitValue (digit : isDigit byte = true) :
    Decimal.digit (digitValue byte) = byte := by
  simp only [isDigit, Bool.and_eq_true, decide_eq_true_eq, UInt8.le_iff_toNat_le] at digit
  have low : 48 ≤ byte.toNat := digit.1
  apply UInt8.toNat_inj.mp
  rw [Decimal.digit, digitValue, Nat.add_sub_cancel' low, UInt8.ofNat_toNat]

theorem digitValue_lt (digit : isDigit byte = true) : digitValue byte < 10 := by
  simp only [isDigit, Bool.and_eq_true, decide_eq_true_eq, UInt8.le_iff_toNat_le] at digit
  have high : byte.toNat ≤ 57 := digit.2
  rw [digitValue]
  omega

/-- Digits behind a number that is not zero are the digits behind its own. -/
theorem digits_value (positive : 0 < number) (all : run.all isDigit = true) :
    digits (value number run) = digits number ++ run := by
  induction run generalizing number with
  | nil => rw [List.append_nil, value, List.foldl_nil]
  | cons byte run ih =>
    simp only [List.all_cons, Bool.and_eq_true] at all
    have small := digitValue_lt all.1
    have large : ¬ number * 10 + digitValue byte < 10 := by omega
    have front : (number * 10 + digitValue byte) / 10 = number := by omega
    have last : (number * 10 + digitValue byte) % 10 = digitValue byte := by omega
    have grown : digits (number * 10 + digitValue byte) = digits number ++ [byte] := by
      rw [digits, if_neg large, front, last, digit_digitValue all.1]
    rw [value, List.foldl_cons]
    exact (ih (by omega) all.2).trans (by rw [grown, List.append_assoc, List.singleton_append])

/-- Digits without a zero at the front are those of the number that they denote. -/
theorem digits_value_cons (lead : isDigit byte = true) (other : byte ≠ ascii '0')
    (all : run.all isDigit = true) : digits (value (digitValue byte) run) = byte :: run := by
  have positive : 0 < digitValue byte := by
    apply Nat.pos_of_ne_zero
    intro zero
    have same := digit_digitValue lead
    rw [zero] at same
    exact other same.symm
  rw [digits_value positive all, digits, if_pos (digitValue_lt lead), digit_digitValue lead,
    List.singleton_append]

end Decimal

namespace Json

open Reader (Ensures ensures_bind ensures_pure ensures_throw)

variable {α : Type} {input rest : Bytes} {value : UInt64}

/-- A number that is not a whole one without sign. -/
def Number.Other (number : Number) : Prop := ∀ value, number ≠ .unsigned value

theorem Number.other_float (bits : UInt64) : (float bits).Other := by
  intro value same
  cases same

theorem Number.other_negative (value : Int) : (negative value).Other := by
  intro value same
  cases same

theorem ensures_assemble (positive : Bool) (significand : Nat) (exponent : Int) :
    Ensures (assemble positive significand exponent) Number.Other := by
  unfold assemble
  split
  case h_1 => exact ensures_throw _
  case h_2 => exact ensures_pure (Number.other_float _)

theorem ensures_withExponent (positive : Bool) (significand : Nat) (start : Int) :
    Ensures (withExponent positive significand start) Number.Other := by
  refine ensures_bind fun _ => ensures_bind fun up => ensures_bind fun next => ?_
  cases next with
  | none => exact ensures_throw _
  | some byte =>
    dsimp only
    split
    case isFalse => exact ensures_throw _
    case isTrue =>
      refine ensures_bind fun ahead => ensures_bind fun exponent => ?_
      cases exponent with
      | some exponent => exact ensures_assemble _ _ _
      | none =>
        dsimp only
        split
        case isTrue => exact ensures_throw _
        case isFalse => exact ensures_bind fun _ => ensures_pure (Number.other_float _)

theorem ensures_endFloat (positive : Bool) (significand : Nat) (exponent : Int) :
    Ensures (endFloat positive significand exponent) Number.Other := by
  refine ensures_bind fun next => ?_
  split
  case isTrue => exact ensures_withExponent _ _ _
  case isFalse => exact ensures_assemble _ _ _

theorem ensures_withFraction (positive : Bool) (significand : Nat) (start : Int) :
    Ensures (withFraction positive significand start) Number.Other := by
  refine ensures_bind fun _ => ensures_bind fun digits => ?_
  split
  case isTrue =>
    refine ensures_bind fun ahead => ensures_bind fun taken => ?_
    exact ensures_endFloat _ _ _
  case isFalse =>
    refine ensures_bind fun next => ?_
    cases next with
    | none => exact ensures_throw _
    | some byte => exact ensures_throw _

theorem ensures_endLong (positive : Bool) (significand : Nat) :
    Ensures (endLong positive significand) Number.Other := by
  refine ensures_bind fun ahead => ensures_bind fun _ => ensures_bind fun next => ?_
  split
  case isTrue => exact ensures_withFraction _ _ _
  case isFalse => exact ensures_endFloat _ _ _

theorem ensures_endWhole_negative (significand : Nat) :
    Ensures (endWhole false significand) Number.Other := by
  refine ensures_bind fun following => ?_
  split
  case isTrue => exact ensures_withFraction _ _ _
  split
  case isTrue => exact ensures_withExponent _ _ _
  rw [if_neg Bool.false_ne_true]
  split
  case isTrue => exact ensures_pure (Number.other_float _)
  case isFalse => exact ensures_pure (Number.other_negative _)

theorem ensures_wholeDigits_negative (run : Bytes) (significand : Nat) :
    Ensures (wholeDigits false run significand) Number.Other := by
  induction run generalizing significand with
  | nil => exact ensures_endWhole_negative significand
  | cons byte run ih =>
    rw [wholeDigits]
    split
    case isTrue => exact ensures_bind fun _ => ih _
    case isFalse => exact ensures_endLong _ _

/-- What stands behind a minus sign is no whole number without sign. -/
theorem ensures_number_negative : Ensures (number false) Number.Other := by
  refine ensures_bind fun next => ?_
  cases next with
  | none => exact ensures_throw _
  | some byte =>
    dsimp only
    split
    case isTrue =>
      refine ensures_bind fun digits => ?_
      split
      case isTrue => exact ensures_throw _
      case isFalse => exact ensures_endWhole_negative 0
    case isFalse =>
      split
      case isTrue => exact ensures_bind fun ahead => ensures_wholeDigits_negative _ _
      case isFalse => exact ensures_throw _

theorem of_endWhole {significand : Nat} (fits : significand < wholeBound)
    (read : endWhole true significand input = .ok (.unsigned value) rest) :
    value.toNat = significand ∧ rest = input := by
  obtain ⟨following, behind, peeked, read⟩ := Reader.bind_eq_ok_iff.mp read
  obtain ⟨rfl, rfl⟩ : input.head? = following ∧ input = behind := by
    simpa [Reader.peek] using peeked
  split at read
  case isTrue => exact absurd rfl (ensures_withFraction _ _ _ _ _ _ read value)
  split at read
  case isTrue => exact absurd rfl (ensures_withExponent _ _ _ _ _ _ read value)
  rw [if_pos rfl, Reader.pure_eq_ok_iff] at read
  obtain ⟨same, rfl⟩ := read
  have whole : UInt64.ofNat significand = value := Number.unsigned.inj same
  rw [← whole, UInt64.toNat_ofNat_of_lt' fits]
  exact ⟨rfl, rfl⟩

theorem of_wholeDigits {run : Bytes} {significand : Nat} (fits : significand < wholeBound)
    (read : wholeDigits true run significand (run ++ input) = .ok (.unsigned value) rest) :
    value.toNat = Decimal.value significand run ∧ rest = input := by
  induction run generalizing significand with
  | nil => exact of_endWhole fits read
  | cons byte run ih =>
    rw [wholeDigits] at read
    split at read
    case isTrue small => exact ih small read
    case isFalse => exact absurd rfl (ensures_endLong _ _ _ _ _ read value)

theorem digitNext_left {digits : Bool} {behind : Bytes}
    (seen : digitNext input = .ok digits behind) : behind = input := by
  cases input with
  | nil =>
    cases seen
    rfl
  | cons byte input =>
    cases seen
    rfl

/-- A whole number is read from its own digits. -/
theorem of_number (read : number true input = .ok (.unsigned value) rest) :
    input = Decimal.digits value.toNat ++ rest := by
  cases input with
  | nil => cases read
  | cons byte input =>
    rw [number, Reader.bind_of_ok (Reader.next_cons byte input)] at read
    dsimp only at read
    split at read
    case isTrue zero =>
      obtain ⟨digits, behind, seen, read⟩ := Reader.bind_eq_ok_iff.mp read
      split at read
      case isTrue => cases read
      have left := digitNext_left seen
      obtain ⟨same, rfl⟩ := of_endWhole (by decide) read
      rw [same, digits_zero, zero, left, List.singleton_append]
    case isFalse other =>
      split at read
      case isFalse => cases read
      case isTrue lead =>
        have digits : (input.takeWhile Decimal.isDigit).all Decimal.isDigit = true :=
          List.all_takeWhile
        have fits : Decimal.digitValue byte < wholeBound :=
          Nat.lt_trans (Decimal.digitValue_lt lead) (by decide)
        obtain ⟨ahead, behind, seen, read⟩ := Reader.bind_eq_ok_iff.mp read
        cases seen
        have read : wholeDigits true (input.takeWhile Decimal.isDigit) (Decimal.digitValue byte)
            (input.takeWhile Decimal.isDigit ++ input.dropWhile Decimal.isDigit) =
              .ok (.unsigned value) rest := by
          rw [List.takeWhile_append_dropWhile]
          exact read
        obtain ⟨same, rfl⟩ := of_wholeDigits fits read
        rw [same, Decimal.digits_value_cons lead other digits, List.cons_append,
          List.takeWhile_append_dropWhile]

/-- Blanks, as they may stand around a value. -/
def Blank (bytes : Bytes) : Prop := bytes.all isBlank = true

theorem of_peekWord {next : Option UInt8} (read : peekWord input = .ok next rest) :
    next = rest.head? ∧ ∃ blanks, Blank blanks ∧ input = blanks ++ rest := by
  obtain ⟨nothing, behind, skipped, read⟩ := Reader.bind_eq_ok_iff.mp read
  cases skipped
  cases read
  exact ⟨rfl, input.takeWhile isBlank, List.all_takeWhile,
    (List.takeWhile_append_dropWhile).symm⟩

theorem of_accepted {accept : Number → Except Fault α} {reader : Reader Fault Number} {result : α}
    (read : (reader >>= fun number => MonadExcept.ofExcept (accept number)) input =
      .ok result rest) :
    ∃ number, reader input = .ok number rest ∧ accept number = .ok result := by
  obtain ⟨number, behind, taken, read⟩ := Reader.bind_eq_ok_iff.mp read
  cases accepted : accept number with
  | error fault =>
    rw [accepted] at read
    cases read
  | ok found =>
    rw [accepted] at read
    cases read
    exact ⟨number, taken, accepted⟩

/-- Whoever accepts whole numbers only reads blanks and the digits of one that is accepted. -/
theorem of_numeric {wanted : String} {accept : Number → Except Fault α} {result : α}
    (strict : ∀ number result, accept number = .ok result → ∃ value, number = .unsigned value)
    (read : numeric wanted accept input = .ok result rest) :
    ∃ blanks value, Blank blanks ∧ accept (.unsigned value) = .ok result ∧
      input = blanks ++ Decimal.digits value.toNat ++ rest := by
  obtain ⟨next, behind, peeked, read⟩ := Reader.bind_eq_ok_iff.mp read
  obtain ⟨first, blanks, blank, rfl⟩ := of_peekWord peeked
  cases next with
  | none => cases read
  | some byte =>
    dsimp only at read
    split at read
    case isTrue minus =>
      obtain ⟨_, left, -, read⟩ := Reader.bind_eq_ok_iff.mp read
      obtain ⟨number, taken, accepted⟩ := of_accepted read
      obtain ⟨value, rfl⟩ := strict number result accepted
      exact absurd rfl (ensures_number_negative _ _ _ taken value)
    case isFalse =>
      split at read
      case isTrue digit =>
        obtain ⟨number, taken, accepted⟩ := of_accepted read
        obtain ⟨value, rfl⟩ := strict number result accepted
        refine ⟨blanks, value, blank, accepted, ?_⟩
        rw [of_number taken, List.append_assoc]
      case isFalse =>
        have never : Ensures (wrong wanted byte : Reader Fault α) fun _ => False :=
          ensures_wrong wanted byte
        exact (never _ _ _ read).elim

/-- Nothing but blanks stands behind the value that a text holds. -/
theorem of_decode {reader : Reader Fault α} {text : Bytes} {result : α}
    (decoded : decode reader text = .ok result) :
    ∃ back, Blank back ∧ reader text = .ok result back := by
  unfold decode Reader.run at decoded
  split at decoded
  case h_2 => cases decoded
  case h_1 found rest read =>
    cases decoded
    obtain ⟨found, behind, taken, tail⟩ := Reader.bind_eq_ok_iff.mp read
    obtain ⟨next, left, peeked, last⟩ := Reader.bind_eq_ok_iff.mp tail
    obtain ⟨rfl, back, blank, rfl⟩ := of_peekWord peeked
    cases left with
    | cons byte left => cases last
    | nil =>
      cases last
      rw [List.append_nil] at taken
      exact ⟨back, blank, taken⟩

/-- A text that holds an accepted number holds its digits, and nothing else but blanks. -/
theorem of_decode_numeric {wanted : String} {accept : Number → Except Fault α} {text : Bytes}
    {result : α}
    (strict : ∀ number result, accept number = .ok result → ∃ value, number = .unsigned value)
    (decoded : decode (numeric wanted accept) text = .ok result) :
    ∃ front value back, Blank front ∧ Blank back ∧ accept (.unsigned value) = .ok result ∧
      text = front ++ Decimal.digits value.toNat ++ back := by
  obtain ⟨back, hollow, read⟩ := of_decode decoded
  obtain ⟨front, value, blank, accepted, same⟩ := of_numeric strict read
  exact ⟨front, value, back, blank, hollow, accepted, same⟩

end Json
end Signet
