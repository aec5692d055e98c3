import Signet.Proofs.Token.Signature
import Signet.Settings.Source

/-! Settings that pass their checks. The checks are made in 64 bits, one of them with a sum that
saturates, and one after the other; what passes them all is told here in whole numbers. -/

namespace Signet.Settings

variable {settings : Settings}

/-- What is to hold of settings, in whole numbers. -/
structure Sound (settings : Settings) : Prop where
  issuer : settings.issuer ≠ ""
  algorithm : settings.algorithm = "HS256" ∨ settings.algorithm = "HS384" ∨
    settings.algorithm = "HS512"
  leeway : settings.leeway.toNat < settings.tokenLifetime.toNat
  covers : settings.tokenLifetime.toNat + settings.leeway.toNat ≤ settings.secretTtl.toNat
  secretTtl : settings.secretTtl.toNat ≤ greatestTtl
  secretLength : leastSecretLength ≤ settings.secretLength.toNat
  workers : settings.workerThreads ≠ some 0

theorem exists_signingAlgorithm_iff : (∃ algorithm, settings.signingAlgorithm = .ok algorithm) ↔
    settings.algorithm = "HS256" ∨ settings.algorithm = "HS384" ∨ settings.algorithm = "HS512" := by
  constructor
  · rintro ⟨algorithm, named⟩
    unfold signingAlgorithm at named
    split at named
    case h_1 found read =>
      rw [← Algorithm.name_of_ofName? read]
      cases found <;> simp [Algorithm.name]
    case h_2 => cases named
  · have named : ∀ algorithm : Algorithm, settings.algorithm = algorithm.name →
        settings.signingAlgorithm = .ok algorithm := by
      intro algorithm same
      rw [signingAlgorithm, same, Algorithm.ofName?_name]
    rintro (same | same | same)
    · exact ⟨.hs256, named _ same⟩
    · exact ⟨.hs384, named _ same⟩
    · exact ⟨.hs512, named _ same⟩

/-- Settings pass just if they are sound: no order of the checks and no sum that saturates lets others
pass. -/
theorem validate_eq_ok_iff : settings.validate = .ok () ↔ settings.Sound := by
  have last : ∀ {refused : Prop} [Decidable refused] {error : SettingsError},
      (if refused then throw error else pure () : Except SettingsError Unit) = .ok () ↔
        ¬ refused := by
    intro refused _ error
    by_cases holds : refused
    · simp [holds, throw, throwThe, MonadExceptOf.throw]
    · simp [holds, pure, Except.pure]
  simp only [validate, Token.unless_refused_iff, Token.bind_eq_ok_iff, last]
  constructor
  · rintro ⟨issuer, algorithm, named, -, -, short, covers, long, leeway, workers⟩
    rw [UInt64.lt_iff_toNat_lt, toNat_saturatingAdd] at covers
    rw [UInt64.le_iff_toNat_le] at leeway
    have algorithm := exists_signingAlgorithm_iff.mp ⟨algorithm, named⟩
    refine ⟨issuer, algorithm, ?_, ?_, ?_, ?_, workers⟩
    all_goals
      simp only [greatestTtl, UInt64.size] at short covers ⊢
      omega
  · rintro ⟨issuer, algorithm, leeway, covers, short, long, workers⟩
    obtain ⟨algorithm, named⟩ := exists_signingAlgorithm_iff.mpr algorithm
    have lives : settings.tokenLifetime ≠ 0 := by
      intro none
      rw [none] at leeway
      exact absurd leeway (Nat.not_lt_zero _)
    refine ⟨issuer, algorithm, named, lives, ?_, ?_, ?_, ?_, ?_, workers⟩
    all_goals
      simp only [UInt64.lt_iff_toNat_lt, UInt64.le_iff_toNat_le, toNat_saturatingAdd, greatestTtl,
        leastSecretLength, UInt64.size] at *
      omega

/-- Settings that a service starts with are some that the environment has overridden without a failure,
and they have passed. -/
theorem exists_base_of_load {files : Files} {environment : Environment}
    (loaded : load files environment = .ok settings) :
    ∃ base : Settings, base.overrideFrom environment = (settings, .ok ()) ∧
      settings.validate = .ok () := by
  have finish : ∀ base : Settings,
      ((base.overrideFrom environment).2 >>= fun _ =>
        (base.overrideFrom environment).1.validate >>= fun _ =>
          pure (base.overrideFrom environment).1) = .ok settings →
      base.overrideFrom environment = (settings, .ok ()) ∧ settings.validate = .ok () := by
    intro base loaded
    obtain ⟨_, succeeded, loaded⟩ := Token.bind_eq_ok_iff.mp loaded
    obtain ⟨_, passed, same⟩ := Token.bind_eq_ok_iff.mp loaded
    cases same
    exact ⟨Prod.ext rfl succeeded, passed⟩
  unfold load at loaded
  cases named : environment fileVariable with
  | none =>
    rw [named] at loaded
    exact ⟨standard, finish standard loaded⟩
  | some path =>
    rw [named] at loaded
    obtain ⟨_, -, loaded⟩ := Token.bind_eq_ok_iff.mp loaded
    obtain ⟨base, -, loaded⟩ := Token.bind_eq_ok_iff.mp loaded
    exact ⟨base, finish base loaded⟩

theorem sound_of_load {files : Files} {environment : Environment}
    (loaded : load files environment = .ok settings) : settings.Sound := by
  obtain ⟨_, -, passed⟩ := exists_base_of_load loaded
  exact validate_eq_ok_iff.mp passed

/-- The time that a secret stays is a whole number of milliseconds. -/
theorem secretTtlSpan_eq_ofMillis :
    settings.secretTtlSpan = Span.ofMillis (settings.secretTtl.toNat * 1000) := by
  rw [Span.ofMillis, Nat.mul_assoc]
  rfl

end Signet.Settings
