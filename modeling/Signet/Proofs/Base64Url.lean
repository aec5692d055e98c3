import Signet.Text.Base64Url

/-! The written form of a byte string in 64 symbols. Reading it back gives the byte string, and none
of its symbols is a sign that separates the segments of a token. -/

namespace Signet.Base64Url

theorem value?_symbol {value : Nat} (small : value < 64) : value? (symbol value) = some value := by
  have all : ∀ value : Fin 64, value? (symbol value) = some value.val := by decide
  exact all ⟨value, small⟩

theorem symbol_lt {value : Nat} (small : value < 64) : symbol value < 128 := by
  have all : ∀ value : Fin 64, symbol value < 128 := by decide
  exact all ⟨value, small⟩

theorem symbol_ne {value : Nat} {byte : UInt8} (small : value < 64) (none : value? byte = none) :
    symbol value ≠ byte := by
  intro same
  rw [← same, value?_symbol small] at none
  cases none

/-- The numbers that the symbols of a written form stand for. -/
def sextets : Bytes → List Nat
  | first :: second :: third :: rest =>
    first.toNat / 4 :: (first.toNat % 4 * 16 + second.toNat / 16) ::
      (second.toNat % 16 * 4 + third.toNat / 64) :: third.toNat % 64 :: sextets rest
  | [first, second] =>
    [first.toNat / 4, first.toNat % 4 * 16 + second.toNat / 16, second.toNat % 16 * 4]
  | [first] => [first.toNat / 4, first.toNat % 4 * 16]
  | [] => []

theorem encode_eq_map_symbol (bytes : Bytes) : encode bytes = (sextets bytes).map symbol := by
  induction bytes using encode.induct with
  | case1 first second third rest ih => simp [encode, sextets, ih]
  | case2 first second => rfl
  | case3 first => rfl
  | case4 => rfl

theorem sextets_small (bytes : Bytes) : ∀ value ∈ sextets bytes, value < 64 := by
  induction bytes using sextets.induct with
  | case1 first second third rest ih =>
    have one := first.toNat_lt
    have two := second.toNat_lt
    have three := third.toNat_lt
    intro value member
    simp only [sextets, List.mem_cons] at member
    rcases member with rfl | rfl | rfl | rfl | later
    · omega
    · omega
    · omega
    · omega
    · exact ih value later
  | case2 first second =>
    have one := first.toNat_lt
    have two := second.toNat_lt
    intro value member
    simp only [sextets, List.mem_cons, List.not_mem_nil, or_false] at member
    rcases member with rfl | rfl | rfl <;> omega
  | case3 first =>
    have one := first.toNat_lt
    intro value member
    simp only [sextets, List.mem_cons, List.not_mem_nil, or_false] at member
    rcases member with rfl | rfl <;> omega
  | case4 => simp [sextets]

theorem lt_of_mem_encode {bytes : Bytes} {byte : UInt8} (member : byte ∈ encode bytes) :
    byte < 128 := by
  rw [encode_eq_map_symbol] at member
  obtain ⟨value, inside, rfl⟩ := List.mem_map.mp member
  exact symbol_lt (sextets_small bytes value inside)

/-- What is no symbol stands in no written form. -/
theorem not_mem_encode {byte : UInt8} (none : value? byte = none) (bytes : Bytes) :
    byte ∉ encode bytes := by
  intro member
  rw [encode_eq_map_symbol] at member
  obtain ⟨value, inside, same⟩ := List.mem_map.mp member
  exact symbol_ne (sextets_small bytes value inside) none same

theorem length_sextets_mod (bytes : Bytes) : (sextets bytes).length % 4 ≠ 1 := by
  induction bytes using sextets.induct with
  | case1 first second third rest ih =>
    simp only [sextets, List.length_cons]
    omega
  | case2 first second => simp [sextets]
  | case3 first => simp [sextets]
  | case4 => simp [sextets]

theorem encode_ne_nil {bytes : Bytes} (some : bytes ≠ []) : encode bytes ≠ [] := by
  rcases bytes with _ | ⟨first, _ | ⟨second, _ | ⟨third, rest⟩⟩⟩
  · exact absurd rfl some
  · simp [encode]
  · simp [encode]
  · simp [encode]

private theorem lastGroup_symbols (offset index : Nat) (taken group : List Nat)
    (small : ∀ value ∈ group, value < 64) :
    lastGroup offset index taken none (group.map symbol) = .ok (taken ++ group, false) := by
  induction group generalizing index taken with
  | nil => simp [lastGroup]
  | cons value rest ih =>
    have inside := small value (List.mem_cons_self ..)
    have later := ih (index + 1) (taken ++ [value]) fun other member =>
      small other (List.mem_cons_of_mem _ member)
    rw [List.map_cons, lastGroup, if_neg (symbol_ne inside rfl), valueAt, value?_symbol inside]
    rw [List.append_assoc] at later
    exact later

/-- A last group is read back if its spare bits are zero. -/
private theorem decodeLast_symbols (offset : Nat) (group : List Nat)
    (small : ∀ value ∈ group, value < 64) (enough : group.length ≠ 1)
    (zero : ∀ value extra, spare group = some (value, extra) → extra = 0) :
    decodeLast offset (group.map symbol) = .ok (groupBytes group) := by
  rw [decodeLast, lastGroup_symbols offset 0 [] group small, List.nil_append]
  have long : ¬ (group.map symbol ≠ [] ∧ group.length < 2) := by
    rintro ⟨some, short⟩
    cases group with
    | nil => exact some rfl
    | cons value rest => simp only [List.length_cons] at *; omega
  simp only [bind, Except.bind, if_neg long, pure, Except.pure, Bool.false_eq_true, ↓reduceIte]
  cases found : spare group with
  | none => rfl
  | some last =>
    have none := zero last.1 last.2 found
    simp [none]

private theorem ofNat_toNat_of_eq {value : Nat} {byte : UInt8} (same : value % 256 = byte.toNat) :
    UInt8.ofNat value = byte := by
  apply UInt8.toNat_inj.mp
  simpa using same

private theorem decodeFrom_group {offset first second third fourth : Nat} {rest : Bytes}
    (small : ∀ value ∈ [first, second, third, fourth], value < 64) (more : rest ≠ []) :
    decodeFrom offset ([first, second, third, fourth].map symbol ++ rest) =
      (decodeFrom (offset + 4) rest).map (groupBytes [first, second, third, fourth] ++ ·) := by
  cases rest with
  | nil => exact absurd rfl more
  | cons next rest =>
    simp only [List.mem_cons, List.not_mem_nil, or_false, forall_eq_or_imp, forall_eq] at small
    obtain ⟨one, two, three, four⟩ := small
    simp only [List.map_cons, List.map_nil, List.cons_append, List.nil_append, decodeFrom, valueAt,
      value?_symbol one, value?_symbol two, value?_symbol three, value?_symbol four]
    cases decodeFrom (offset + 4) (next :: rest) <;> rfl

/-- Three bytes are the group of the four numbers that they are written as. -/
private theorem groupBytes_three (first second third : UInt8) :
    groupBytes [first.toNat / 4, first.toNat % 4 * 16 + second.toNat / 16,
      second.toNat % 16 * 4 + third.toNat / 64, third.toNat % 64] = [first, second, third] := by
  have one := first.toNat_lt
  have two := second.toNat_lt
  have three := third.toNat_lt
  simp only [groupBytes, List.cons.injEq, and_true]
  refine ⟨?_, ?_, ?_⟩ <;> apply ofNat_toNat_of_eq <;> omega

private theorem decodeFrom_encode (offset : Nat) (bytes : Bytes) :
    decodeFrom offset (encode bytes) = .ok bytes := by
  induction bytes using encode.induct generalizing offset with
  | case1 first second third rest ih =>
    have small := sextets_small [first, second, third]
    have bytes := groupBytes_three first second third
    cases rest with
    | nil =>
      have last := decodeLast_symbols offset (sextets [first, second, third]) small
        (by simp [sextets]) (by simp [sextets, spare])
      rw [sextets, sextets, bytes] at last
      exact last
    | cons next rest =>
      have written : encode (first :: second :: third :: next :: rest) =
          (sextets [first, second, third]).map symbol ++ encode (next :: rest) := rfl
      rw [written, sextets, sextets, decodeFrom_group small (encode_ne_nil (by simp)), ih, bytes]
      rfl
  | case2 first second =>
    have one := first.toNat_lt
    have two := second.toNat_lt
    have last := decodeLast_symbols offset (sextets [first, second]) (sextets_small _)
      (by simp [sextets]) (by simp [sextets, spare])
    have bytes : groupBytes (sextets [first, second]) = [first, second] := by
      simp only [sextets, groupBytes, List.cons.injEq, and_true]
      refine ⟨?_, ?_⟩ <;> apply ofNat_toNat_of_eq <;> omega
    rw [bytes] at last
    exact last
  | case3 first =>
    have one := first.toNat_lt
    have last := decodeLast_symbols offset (sextets [first]) (sextets_small _)
      (by simp [sextets]) (by simp [sextets, spare])
    have bytes : groupBytes (sextets [first]) = [first] := by
      simp only [sextets, groupBytes, List.cons.injEq, and_true]
      apply ofNat_toNat_of_eq
      omega
    rw [bytes] at last
    exact last
  | case4 => rfl

theorem decode_encode (bytes : Bytes) : decode (encode bytes) = .ok bytes := by
  rw [decode]
  -- A length that no encoding has is refused before the symbols are read.
  cases encode bytes |>.getLast? with
  | none => exact decodeFrom_encode 0 bytes
  | some last =>
    have whole : (encode bytes).length % 4 ≠ 1 := by
      rw [encode_eq_map_symbol, List.length_map]
      exact length_sextets_mod bytes
    simp only [whole, false_and, ↓reduceIte]
    exact decodeFrom_encode 0 bytes

end Signet.Base64Url
