import Signet.Proofs.Json.Record
import Signet.Token

/-! The header and the payload of a token, as they are written and read back. The header is read
twice, and so is the payload; no reader objects to what is written. -/

namespace Signet

open Json (Fills Reads Scalar)

namespace Permission

theorem toNat_lt (permission : Permission) : permission.toNat < Json.wholeBound :=
  Nat.lt_trans permission.bits.isLt (by decide)

/-- The bits of a set, as a whole number of 64 bits, are all usable. -/
theorem ofNumber_toNat (permission : Permission) :
    ofNumber (.unsigned (UInt64.ofNat permission.toNat)) = .ok permission := by
  have small : permission.toNat < 2 ^ 53 := permission.bits.isLt
  have fits : (UInt64.ofNat permission.toNat).toNat = permission.toNat := by
    rw [UInt64.toNat_ofNat']
    omega
  have usable : (UInt64.ofNat permission.toNat).toNat ≤ mask := by
    rw [fits, mask]
    omega
  have same : ofBits (UInt64.ofNat permission.toNat) = permission := by
    cases permission with
    | mk bits =>
      simp only [ofBits, mk.injEq]
      apply BitVec.eq_of_toNat_eq
      rw [BitVec.toNat_setWidth]
      show (UInt64.ofNat _).toNat % 2 ^ 53 = _
      rw [fits]
      exact Nat.mod_eq_of_lt small
  rw [ofNumber, ofUnsigned, if_pos usable, same]

theorem reads_json (permission : Permission) : Reads read permission.json permission :=
  Json.reads_numeric permission.toNat_lt permission.ofNumber_toNat

end Permission

namespace Claims

theorem check_eq_ok_iff {claims : Claims} : claims.check = .ok () ↔
    claims.subject ≠ "" ∧ claims.issuedAt ≤ claims.notBefore ∧
      claims.notBefore ≤ claims.expiresAt := by
  unfold check
  by_cases empty : claims.subject = ""
  · simp [empty]
  · by_cases disordered :
        claims.notBefore < claims.issuedAt ∨ claims.expiresAt < claims.notBefore
    · simp only [empty, disordered, ↓reduceIte, reduceCtorEq, false_iff, not_and]
      intro _ start
      rcases disordered with early | late
      · exact absurd early (UInt64.not_lt.mpr start)
      · exact UInt64.not_le.mpr late
    · simp only [empty, disordered, ↓reduceIte, true_iff]
      rw [not_or] at disordered
      exact ⟨empty, UInt64.not_lt.mp disordered.1, UInt64.not_lt.mp disordered.2⟩

theorem issue_eq_ok {subject issuer : String} {permissions : Permission}
    {moment lifetime : Timestamp} {claims : Claims}
    (issued : issue subject permissions moment lifetime issuer = .ok claims) :
    claims = ⟨subject, permissions, moment, moment, saturatingAdd moment lifetime, issuer⟩ := by
  simp only [issue] at issued
  split at issued
  · exact (Except.ok.inj issued).symm
  · cases issued

section

variable {subject issuer : String} {permissions : Permission} {moment lifetime : Timestamp}

/-- The times of new claims are in order, since the last of them never wraps around. -/
theorem check_of_named (named : subject ≠ "") : check ⟨subject, permissions, moment, moment,
    saturatingAdd moment lifetime, issuer⟩ = .ok () := by
  have ordered : moment ≤ saturatingAdd moment lifetime := by
    rw [UInt64.le_iff_toNat_le, toNat_saturatingAdd]
    have small := moment.toNat_lt
    simp only [UInt64.size]
    omega
  exact check_eq_ok_iff.mpr ⟨named, UInt64.le_refl _, ordered⟩

theorem issue_of_named (named : subject ≠ "") : issue subject permissions moment lifetime issuer =
    .ok ⟨subject, permissions, moment, moment, saturatingAdd moment lifetime, issuer⟩ := by
  simp only [issue, check_of_named named]

end

/-- The members of claims, as they are written. -/
def items (claims : Claims) : List (String × Bytes) := [
  ("sub", Json.Print.text claims.subject),
  ("perm", claims.permissions.json),
  ("iat", Json.Print.natural claims.issuedAt.toNat),
  ("nbf", Json.Print.natural claims.notBefore.toNat),
  ("exp", Json.Print.natural claims.expiresAt.toNat),
  ("iss", Json.Print.text claims.issuer)]

/-- The draft of claims of which every member has been read. -/
private def whole (claims : Claims) : Draft where
  subject := some claims.subject
  permissions := some claims.permissions
  issuedAt := some claims.issuedAt
  notBefore := some claims.notBefore
  expiresAt := some claims.expiresAt
  issuer := some claims.issuer

private theorem fills_items (claims : Claims) : Fills members {} claims.items claims.whole := by
  refine .asked _ rfl rfl ((Json.reads_text claims.subject).bind fun _ => rfl) ?_
  refine .asked _ rfl rfl (claims.permissions.reads_json.bind fun _ => rfl) ?_
  refine .asked _ rfl rfl ((Json.reads_unsigned "u64" claims.issuedAt).bind fun _ => rfl) ?_
  refine .asked _ rfl rfl ((Json.reads_unsigned "u64" claims.notBefore).bind fun _ => rfl) ?_
  refine .asked _ rfl rfl ((Json.reads_unsigned "u64" claims.expiresAt).bind fun _ => rfl) ?_
  refine .asked _ rfl rfl ((Json.reads_text claims.issuer).bind fun _ => rfl) ?_
  exact .none _

theorem stated_json (claims : Claims) : stated claims.json = .ok ⟨claims, true⟩ :=
  Json.decode_of_reads (Json.reads_record "struct Claims" claims.fills_items rfl)

theorem scalar_items (claims : Claims) : ∀ item ∈ claims.items, Scalar item.2 := by
  intro item member
  simp only [items, List.mem_cons, List.not_mem_nil, or_false] at member
  rcases member with rfl | rfl | rfl | rfl | rfl | rfl
  · exact .text _
  · exact .natural _ claims.permissions.toNat_lt
  · exact .natural _ claims.issuedAt.toNat_lt
  · exact .natural _ claims.notBefore.toNat_lt
  · exact .natural _ claims.expiresAt.toNat_lt
  · exact .text _

end Claims

namespace Token

theorem reads_nullable_text (value : String) :
    Reads (Json.nullable Json.text) (Json.Print.text value) (some value) := by
  intro rest ends
  have noNull : some Json.quote ≠ some (ascii 'n') := by decide
  have read := Json.reads_text value rest ends
  rw [Json.text_eq, List.cons_append] at read ⊢
  rw [Json.nullable, Reader.bind_of_ok (Json.peekWord_cons _ (by decide))]
  simp only [noNull, ↓reduceIte]
  rw [Reader.bind_of_ok read]
  rfl

/-- A member that may hold anything is read from any text or number. -/
theorem reads_looseMember (name : String) {text : Bytes} (scalar : Scalar text)
    (seen : List String) : Reads ((Json.looseMember name).fill seen) text (name :: seen) := by
  have deep : Json.deepest - 2 + 1 = Json.deepest - 1 := by decide
  obtain ⟨value, reads⟩ := Json.anyValue_scalar scalar (Json.deepest - 2)
  rw [deep] at reads
  have lenient : Reads (Reader.lenient (Json.anyValue (Json.deepest - 1))) text (some value) := by
    intro rest ends
    simp only [Reader.lenient, reads rest ends]
  exact lenient.bind fun _ => rfl

/-- A member whose value is no matter is remembered as seen. -/
private theorem reads_seen {reader : Reader Json.Fault Unit} {text : Bytes}
    (reads : Reads reader text ()) (name : String) (seen : List String) :
    Reads (do reader; return name :: seen) text (name :: seen) :=
  reads.bind fun _ => rfl

/-- The name of the algorithm is read from a header. -/
theorem decode_readAlgorithmName (algorithm : Algorithm) :
    Json.decode readAlgorithmName (headerJson algorithm) = .ok algorithm.name := by
  have named : Reads (do return some (← Json.text) : Reader Json.Fault (Option String))
      (Json.Print.text algorithm.name) (some algorithm.name) :=
    (Json.reads_text algorithm.name).bind fun _ => rfl
  apply Json.decode_of_reads
  apply Json.reads_record
  case fills =>
    apply Fills.passed rfl (.text "JWT")
    apply Fills.asked _ rfl rfl named
    exact .none _
  case finished => rfl

theorem decode_readHeader (algorithm : Algorithm) :
    Json.decode readHeader (headerJson algorithm) = .ok () := by
  have kind : Reads (do let _ ← Json.nullable Json.text : Reader Json.Fault Unit)
      (Json.Print.text "JWT") () := (reads_nullable_text "JWT").bind fun _ => rfl
  have named : Reads (do let _ ← Json.text : Reader Json.Fault Unit)
      (Json.Print.text algorithm.name) () := (Json.reads_text algorithm.name).bind fun _ => rfl
  apply Json.decode_of_reads
  apply Json.reads_record
  case fills =>
    apply Fills.asked _ rfl rfl (reads_seen kind "typ" [])
    apply Fills.asked _ rfl rfl (reads_seen named "alg" ["typ"])
    exact .none _
  case finished => rfl

theorem decode_readRegistered (claims : Claims) :
    Json.decode Parts.readRegistered claims.json = .ok () := by
  have scalar := claims.scalar_items
  simp only [Claims.items, List.mem_cons, List.not_mem_nil, or_false, forall_eq_or_imp,
    forall_eq] at scalar
  obtain ⟨subject, permissions, issuedAt, notBefore, expiresAt, issuer⟩ := scalar
  apply Json.decode_of_reads
  apply Json.reads_record
  case fills =>
    apply Fills.asked _ rfl rfl (reads_looseMember "sub" subject _)
    apply Fills.passed rfl permissions
    apply Fills.passed rfl issuedAt
    apply Fills.asked _ rfl rfl (reads_looseMember "nbf" notBefore _)
    apply Fills.asked _ rfl rfl (reads_looseMember "exp" expiresAt _)
    apply Fills.asked _ rfl rfl (reads_looseMember "iss" issuer _)
    exact .none _
  case finished => rfl

end Token
end Signet
