import Signet.Proofs.Authority.Verdict
import Signet.Proofs.Gateway.Privilege

/-! Requirements by name. Verification looks at what is required only once it trusts a token, and then
compares permissions; so a client is let through just if it has what each name stands for. -/

namespace Signet

namespace Authority

variable {σ : Type} [SecretStore σ] {authority : Authority} {token : String}
  (facilities : Deployment.Facilities σ) (deployment : Deployment σ)

/-- The claims of a token, if it is to be trusted: all of a verification but what is required. -/
def trusted (authority : Authority) (token : String) : Attempt Claims := do
  let hint ← Attempt.ofResult (Token.peek token)
  match ← authority.currentSecret hint.subject with
  | none => reject hint.subject .unknownSubject
  | some secret => rejecting hint.subject (authority.accept token hint secret)

private theorem attempt_reject_fst {α : Type} (subject : String) (error : AuthError) :
    (deployment.attempt facilities (reject subject error : Attempt α)).1 = .error error := by
  unfold reject
  dsimp only
  split <;> rfl

/-- What is required is compared with the permissions that are trusted, and nothing else comes of it. -/
theorem attempt_verify_eq_trusted (required : Permission) :
    (deployment.attempt facilities (authority.verify token required)).1 =
      (deployment.attempt facilities (authority.trusted token)).1.map
        (·.permissions.hasAll required) := by
  rw [verify, trusted, Deployment.attempt_bind, Deployment.attempt_bind,
    Deployment.attempt_ofResult]
  cases Token.peek token with
  | error error => rfl
  | ok hint =>
    dsimp only
    rw [Deployment.attempt_bind, Deployment.attempt_bind]
    rcases deployment.attempt facilities (authority.currentSecret hint.subject) with
      ⟨error | _ | secret, after⟩
    · rfl
    · dsimp only
      rw [attempt_reject_fst, attempt_reject_fst]
      rfl
    · dsimp only
      rw [Deployment.attempt_bind]
      rcases after.attempt facilities (rejecting hint.subject (authority.accept token hint secret))
        with ⟨error | claims, last⟩
      · rfl
      · rfl

end Authority

namespace Gateway

variable {σ : Type} [SecretStore σ] {gateway : Gateway} {headers : List Http.Header}
  {names : List String} {first second : List String}

section

variable (facilities : Deployment.Facilities σ) (deployment : Deployment σ)

/-- The permissions of whoever presents these fields, if a token in them is to be trusted. -/
def granted (gateway : Gateway) (headers : List Http.Header) : Option Permission :=
  (gateway.bearerToken headers).bind fun token =>
    (deployment.attempt facilities (gateway.authority.trusted token)).1.toOption.map (·.permissions)

theorem allowed_authorize (required : Permission) :
    (deployment.run facilities (gateway.authorize headers required)).1.allowed =
      (gateway.granted facilities deployment headers).any (·.hasAll required) := by
  rw [authorize, granted]
  cases gateway.bearerToken headers with
  | none => rfl
  | some token =>
    have verified : ((gateway.authority.verify token required).run.run
        (Deployment.answer facilities) deployment).1 = _ :=
      Authority.attempt_verify_eq_trusted facilities deployment required
    simp only [Deployment.run, Operation.run_bind, verified, Option.bind_some]
    cases (deployment.attempt facilities (gateway.authority.trusted token)).1 with
    | error error => exact (Decision.Refuses.ofError error).denied
    | ok claims =>
      simp only [Except.map, Except.toOption, Option.map_some, Option.any_some]
      cases claims.permissions.hasAll required <;> rfl

/-- A client is let through just if it is trusted with what each of the names stands for. -/
theorem allowed_authorizeNames_iff :
    (deployment.run facilities (gateway.authorizeNames headers names)).1.allowed = true ↔
      ∃ permissions, gateway.granted facilities deployment headers = some permissions ∧
        ∀ name ∈ names, ∃ found, gateway.table.Stands true name found ∧
          permissions.hasAll found = true := by
  have resolves := gateway.table.resolves names true
  rw [authorizeNames]
  cases resolved : gateway.table.resolve names true with
  | ok required =>
    rw [resolved] at resolves
    dsimp only
    rw [allowed_authorize, Option.any_eq_true]
    simp only [resolves.hasAll_iff]
  | error error =>
    rw [resolved] at resolves
    refine iff_of_false ?_ ?_
    · intro allowed
      have refused : (Decision.ofError error).allowed = true := allowed
      rw [(Decision.Refuses.ofError error).denied] at refused
      cases refused
    · rintro ⟨permissions, -, each⟩
      cases resolves with
      | @unknown front back name split _ stranger =>
        have member : name ∈ names := split ▸ List.mem_append_right _ (List.mem_cons_self ..)
        obtain ⟨found, stands, -⟩ := each name member
        exact stranger (Permission.Table.known_iff.mpr ⟨found, stands⟩)

end

/-- Lists of the same names are the same requirement, in whatever order and however often. -/
theorem authorizeNames_congr (same : ∀ name, name ∈ first ↔ name ∈ second) :
    gateway.authorizeNames headers first = gateway.authorizeNames headers second := by
  have one := gateway.table.resolves first true
  have other := gateway.table.resolves second true
  rw [authorizeNames, authorizeNames]
  cases resolved : gateway.table.resolve first true with
  | ok required =>
    rw [resolved] at one
    rw [(one.of_mem_iff fun name => (same name).symm).eq]
  | error error =>
    cases also : gateway.table.resolve second true with
    | ok required =>
      rw [also] at other
      rw [(other.of_mem_iff same).eq] at resolved
      cases resolved
    | error failure =>
      -- Which name is not known may differ, but clients are not told.
      obtain ⟨_, rfl⟩ := Permission.Table.resolve_eq_error resolved
      obtain ⟨_, rfl⟩ := Permission.Table.resolve_eq_error also
      rfl

/-- In one and the same state, whatever it is, names that are required together let a client through
just if those of either list do. Only which names there are counts, and with fewer of them nobody is
denied who was let through; permissions are compared in the same way. -/
theorem authorizeNames_conjunctive (gateway : Gateway) (headers : List Http.Header)
    (facilities : Deployment.Facilities σ) (deployment : Deployment σ) :
    let allowed := fun names =>
      (deployment.run facilities (gateway.authorizeNames headers names)).1.allowed
    (∀ first second,
      allowed (first ++ second) = true ↔ allowed first = true ∧ allowed second = true) ∧
    (∀ first second, (∀ name, name ∈ first ↔ name ∈ second) →
      gateway.authorizeNames headers first = gateway.authorizeNames headers second) ∧
    (∀ fewer names, fewer ⊆ names → allowed names = true → allowed fewer = true) ∧
    ∀ granted first second : Permission, granted.hasAll (first ||| second) = true ↔
      granted.hasAll first = true ∧ granted.hasAll second = true := by
  intro allowed
  have allowed_iff : ∀ names, allowed names = true ↔ _ := fun names =>
    allowed_authorizeNames_iff facilities deployment
  refine ⟨fun first second => ?_, fun first second => authorizeNames_congr, ?_,
    fun granted first second => Permission.hasAll_or⟩
  · rw [allowed_iff, allowed_iff, allowed_iff]
    constructor
    · rintro ⟨permissions, trusted, each⟩
      rw [List.forall_mem_append] at each
      exact ⟨⟨permissions, trusted, each.1⟩, permissions, trusted, each.2⟩
    · rintro ⟨⟨permissions, trusted, one⟩, others, also, other⟩
      obtain rfl : permissions = others := Option.some.inj (trusted.symm.trans also)
      exact ⟨permissions, trusted, List.forall_mem_append.mpr ⟨one, other⟩⟩
  · intro fewer names among
    rw [allowed_iff, allowed_iff]
    rintro ⟨permissions, trusted, each⟩
    exact ⟨permissions, trusted, fun name member => each name (among member)⟩

/-- Whether the names let the subject of the sample through. -/
def sampleAllowed (names : List String) : Bool :=
  (sampleSession.2.run (sampleOccasion 8).facilities
    (sample.authorizeNames sampleHeaders names)).1.allowed

/-- The subject of the sample is let through where its permission is required, once or twice, and is
not where a privilege is required as well, in whatever order. -/
theorem sampleAllowed_conjunctive :
    sampleAllowed (["read_account"] ++ ["read_account"]) = true ∧
    sampleAllowed ["read_account"] = true ∧
    sampleAllowed (["read_account"] ++ ["revoke_session"]) = false ∧
    sample.authorizeNames sampleHeaders ["revoke_session", "read_account", "read_account"] =
      sample.authorizeNames sampleHeaders ["read_account", "revoke_session"] := by
  obtain ⟨together, same, fewer, -⟩ :=
    authorizeNames_conjunctive sample sampleHeaders (sampleOccasion 8).facilities sampleSession.2
  obtain ⟨once, privilege⟩ : sampleAllowed ["read_account"] = true ∧
      sampleAllowed ["revoke_session"] = false := by decide +kernel
  have twice := (together ["read_account"] ["read_account"]).mpr ⟨once, once⟩
  refine ⟨twice, fewer _ _ (by simp) twice, ?_, same _ _ (by simp [or_comm])⟩
  refine Bool.eq_false_iff.mpr fun both => ?_
  have opened := ((together ["read_account"] ["revoke_session"]).mp both).2
  exact Bool.false_ne_true (privilege.symm.trans opened)

end Gateway
end Signet
