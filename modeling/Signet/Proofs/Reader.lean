import Signet.Reader

/-! Steps of readers, and what holds of every answer that a reader gives. -/

namespace Signet.Reader

variable {ε α β : Type} {holds : α → Prop}

theorem bind_of_ok {first : Reader ε α} {next : α → Reader ε β} {input rest : Bytes} {value : α}
    (ok : first input = .ok value rest) : (first >>= next) input = next value rest := by
  simp only [bind, EStateM.bind, ok]

theorem bind_of_error {first : Reader ε α} {next : α → Reader ε β} {input rest : Bytes}
    {fault : ε} (error : first input = .error fault rest) :
    (first >>= next) input = .error fault rest := by
  simp only [bind, EStateM.bind, error]

theorem bind_eq_ok_iff {first : Reader ε α} {next : α → Reader ε β} {input rest : Bytes}
    {value : β} : (first >>= next) input = .ok value rest ↔
      ∃ found behind, first input = .ok found behind ∧ next found behind = .ok value rest := by
  constructor
  · intro read
    simp only [bind, EStateM.bind] at read
    split at read
    case h_1 found behind taken => exact ⟨found, behind, taken, read⟩
    case h_2 => cases read
  · rintro ⟨found, behind, taken, read⟩
    rw [bind_of_ok taken, read]

theorem pure_eq_ok_iff {value found : α} {input rest : Bytes} :
    (pure found : Reader ε α) input = .ok value rest ↔ found = value ∧ input = rest := by
  simp [pure, EStateM.pure]

theorem next_cons (byte : UInt8) (rest : Bytes) :
    (next : Reader ε (Option UInt8)) (byte :: rest) = .ok (some byte) rest := rfl

theorem skip_cons (byte : UInt8) (rest : Bytes) :
    (skip : Reader ε Unit) (byte :: rest) = .ok () rest := rfl

theorem left_eq (input : Bytes) : (left : Reader ε Nat) input = .ok input.length input := rfl

theorem closing_of_ok {body : Reader ε α} {finish : Reader ε Unit}
    {input rest behind : Bytes} {value : α} (ok : body input = .ok value rest)
    (ends : finish rest = .ok () behind) : closing body finish input = .ok value behind := by
  simp only [closing, ok, ends]

/-- Whatever the reader answers, this holds of it. -/
def Ensures (reader : Reader ε α) (holds : α → Prop) : Prop :=
  ∀ input value rest, reader input = .ok value rest → holds value

theorem ensures_throw (fault : ε) : Ensures (throw fault : Reader ε α) holds := by
  intro input value rest ok
  cases ok

theorem ensures_pure {value : α} (held : holds value) :
    Ensures (pure value : Reader ε α) holds := by
  intro input found rest ok
  cases ok
  exact held

theorem Ensures.bind {first : Reader ε β} {next : β → Reader ε α} {before : β → Prop}
    (ensures : Ensures first before) (each : ∀ found, before found → Ensures (next found) holds) :
    Ensures (first >>= next) holds := by
  intro input value rest ok
  simp only [Bind.bind, EStateM.bind] at ok
  split at ok
  case h_1 found behind read =>
    exact each found (ensures input found behind read) behind value rest ok
  case h_2 => cases ok

/-- What holds of the last answer may have nothing to do with the first. -/
theorem ensures_bind {first : Reader ε β} {next : β → Reader ε α}
    (each : ∀ found, Ensures (next found) holds) : Ensures (first >>= next) holds :=
  have nothing : Ensures first fun _ => True := fun _ _ _ _ => trivial
  nothing.bind fun found _ => each found

theorem ensures_closing {body : Reader ε α} (ensures : Ensures body holds)
    (finish : Reader ε Unit) : Ensures (closing body finish) holds := by
  intro input value rest ok
  unfold closing at ok
  split at ok
  case h_1 found behind read =>
    split at ok
    case h_1 =>
      cases ok
      exact ensures input value behind read
    case h_2 => cases ok
  case h_2 => split at ok <;> cases ok

theorem ensures_ofExcept {result : Except ε α} (each : ∀ value, result = .ok value → holds value) :
    Ensures (MonadExcept.ofExcept result : Reader ε α) holds := by
  intro input value rest ok
  cases result with
  | error fault => cases ok
  | ok found =>
    cases ok
    exact each value rfl

end Signet.Reader
