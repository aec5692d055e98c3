import Signet.Proofs.Gateway.Wire
import Signet.Proofs.Store.Portability
import Signet.Store.Service

/-! Bodies that services send each other come back as they were sent. In packed form that fails for
long lists of items of one length and for times of more than seven bytes, and for nothing else. -/

namespace Signet

theorem Json.reads_boolean (value : Bool) :
    Json.Reads Json.boolean (Json.Print.boolean value) value := by
  intro rest _
  cases value
  · have spelled : Json.Print.boolean false = ascii 'f' :: Text.utf8 "alse" := by decide +kernel
    have word : Text.utf8 "alse" = [97, 108, 115, 101] := by decide +kernel
    rw [spelled, List.cons_append, Json.boolean,
      Reader.bind_of_ok (Json.peekWord_cons _ (by decide))]
    rw [word]
    rfl
  · have spelled : Json.Print.boolean true = ascii 't' :: Text.utf8 "rue" := by decide +kernel
    have word : Text.utf8 "rue" = [114, 117, 101] := by decide +kernel
    rw [spelled, List.cons_append, Json.boolean,
      Reader.bind_of_ok (Json.peekWord_cons _ (by decide))]
    rw [word]
    rfl

theorem Verification.reads_json (verification : Verification) :
    Json.Reads read verification.json verification := by
  have fills : Json.Fills members {}
      [("subject", Json.Print.text verification.subject),
        ("ok", Json.Print.boolean verification.ok),
        ("privileged", Json.Print.boolean verification.privileged)]
      ⟨some verification.subject, some verification.ok, some verification.privileged⟩ := by
    refine .asked _ rfl rfl ((Json.reads_text _).bind fun _ => rfl) ?_
    refine .asked _ rfl rfl ((Json.reads_boolean _).bind fun _ => rfl) ?_
    exact .asked _ rfl rfl ((Json.reads_boolean _).bind fun _ => rfl) (.none _)
  exact Json.reads_record "a verification" fills rfl

/-- Written and read again, a body is what it was. -/
def Encoding.Returns {α : Type} [Message α] (encoding : Encoding) (body : α) : Prop :=
  encoding.decode (encoding.encode body) = .ok body

theorem Encoding.returns_of_json {α : Type} [Message α] {body : α}
    (read : Json.decode Message.readJson (Message.json body) = .ok body) :
    Encoding.json.Returns body := by
  simp only [Returns, decode, encode, read]

/-- A body that services send each other: packed on its way to a store and back, and in JSON on its
way to the verifier of credentials and back, or to the gateway. -/
inductive Body where
  | lookup (body : Store.Lookup)
  | findings (body : Store.Findings)
  | writing (body : Store.Writing)
  | claiming (body : Store.Claiming)
  | erasure (body : Store.Erasure)
  | secret (body : Secret)
  | credential (body : Credential)
  | verification (body : Verification)
  | signIn (body : SignIn)
  | authorization (body : Authorization)

namespace Body

open Pack (capacity)

/-- A body as it is sent. -/
def written : Body → Bytes
  | lookup body => Encoding.packed.encode body
  | findings body => Encoding.packed.encode body
  | writing body => Encoding.packed.encode body
  | claiming body => Encoding.packed.encode body
  | erasure body => Encoding.packed.encode body
  | secret body => Encoding.packed.encode body
  | credential body => Encoding.json.encode body
  | verification body => Encoding.json.encode body
  | signIn body => Encoding.json.encode body
  | authorization body => Encoding.json.encode body

/-- Whoever reads a body that is sent reads the body that was written. -/
def Returns : Body → Prop
  | lookup body => Encoding.packed.Returns body
  | findings body => Encoding.packed.Returns body
  | writing body => Encoding.packed.Returns body
  | claiming body => Encoding.packed.Returns body
  | erasure body => Encoding.packed.Returns body
  | secret body => Encoding.packed.Returns body
  | credential body => Encoding.json.Returns body
  | verification body => Encoding.json.Returns body
  | signIn body => Encoding.json.Returns body
  | authorization body => Encoding.json.Returns body

/-- In packed form, no list of items of one length takes 65533 bytes, and no time takes eight. -/
def Portable : Body → Prop
  | lookup body => PortableNames body.keys
  | findings body => ∀ entry ∈ body.secrets.entries, entry.2.Portable
  | writing body =>
    (∀ entry ∈ body.entries.entries, entry.2.Portable) ∧ body.ttlMillis.toNat < capacity 7
  | claiming body => body.secret.Portable ∧ body.ttlMillis.toNat < capacity 7
  | erasure body => PortableNames body.keys
  | secret body => body.Portable
  | credential _ | verification _ | signIn _ | authorization _ => True

theorem returns_of_portable (body : Body) (short : body.written.length < capacity 8)
    (portable : body.Portable) : body.Returns := by
  cases body with
  | lookup body => exact Message.decode_lookup portable short
  | findings body => exact Message.decode_findings portable short
  | writing body =>
    have whole := Pack.kept_of_lt portable.2
    have read := Message.decode_writing portable.1 (Pack.written_of_lt portable.2) short
    rwa [whole, UInt64.ofNat_toNat] at read
  | claiming body =>
    have whole := Pack.kept_of_lt portable.2
    have read := Message.decode_claiming portable.1 (Pack.written_of_lt portable.2) short
    rwa [whole, UInt64.ofNat_toNat] at read
  | erasure body => exact Message.decode_erasure portable short
  | secret body => exact Message.decode_secret portable short
  | credential body => exact Encoding.returns_of_json (Json.decode_of_reads body.reads_json)
  | verification body => exact Encoding.returns_of_json (Json.decode_of_reads body.reads_json)
  | signIn body => exact Encoding.returns_of_json body.decode_json
  | authorization body => exact Encoding.returns_of_json body.decode_json

theorem portable_of_returns (body : Body) (short : body.written.length < capacity 4)
    (returns : body.Returns) : body.Portable := by
  cases body with
  | lookup body => exact Message.portable_of_lookup short returns
  | findings body => exact Message.portable_of_findings short returns
  | writing body => exact Message.portable_of_writing short returns
  | claiming body => exact Message.portable_of_claiming short returns
  | erasure body => exact Message.portable_of_erasure short returns
  | secret body => exact Message.portable_of_secret short returns
  | credential _ | verification _ | signIn _ | authorization _ => exact True.intro

/-- A body comes back as it was written if and only if it is portable. -/
theorem returns_iff_portable (body : Body) (short : body.written.length < capacity 8) :
    (body.Portable → body.Returns) ∧
      (body.written.length < capacity 4 → body.Returns → body.Portable) :=
  ⟨body.returns_of_portable short, body.portable_of_returns⟩

/-- A claim of a secret of 8191 bytes comes back, for the longest time of seven bytes. -/
theorem returns_longest_time :
    (claiming ⟨"b", ⟨List.replicate 8191 7⟩, 72057594037927935⟩).written.length < capacity 8 ∧
      (claiming ⟨"b", ⟨List.replicate 8191 7⟩, 72057594037927935⟩).Returns := by
  have named : PortableNames ["b"] := portableNames_of_length_le (by decide)
  have keepable : (Secret.mk (List.replicate 8191 7)).Keepable :=
    Secret.keepable_of_length_le (Nat.le_of_eq List.length_replicate)
  have narrow : (72057594037927935 : UInt64).toNat < capacity 7 := by decide
  have short := Message.short_claiming named keepable (Pack.written_of_lt narrow)
  exact ⟨short, (returns_iff_portable (claiming _) short).1 ⟨keepable.1, narrow⟩⟩

/-- A request to delete a single key that is so long is not read on, and gets no reply. -/
theorem erasure_of_long_key {key : String} (long : 65533 ≤ (Pack.Print.text key).length)
    (fits : (Pack.Print.text key).length + 4 < capacity 4) :
    (erasure ⟨[key]⟩).written.length < capacity 8 ∧ ¬ (erasure ⟨[key]⟩).Returns ∧
      ∀ (store : Store) now, store.handle now
        ⟨"DELETE", "/secrets", [], some (erasure ⟨[key]⟩).written⟩ = ⟨none, [], store⟩ := by
  have broken : Encoding.packed.decode (erasure ⟨[key]⟩).written =
      (.error .abort : Except Pack.Fault Store.Erasure) := (Message.decode_of_long_key long fits).2
  refine ⟨Message.short_key (Nat.lt_of_le_of_lt (Nat.le_add_right ..) fits), fun returns => ?_,
    fun store now => ?_⟩
  · cases broken.symm.trans returns
  · have path : Http.pathOf "/secrets" = "/secrets" := by decide
    simp [Store.handle, Http.Request.path, path, Store.withBody, broken]

theorem length_text_ofAscii {bytes : Bytes} (ascii : ∀ byte ∈ bytes, byte < 128)
    (long : 126 < bytes.length) :
    (Pack.Print.text (Text.ofAscii bytes)).length = bytes.length + 9 := by
  simp only [Pack.Print.text, Text.utf8_ofAscii ascii, if_neg (Nat.not_le.mpr long),
    List.length_append, List.length_cons, Pack.length_littleEndian]
  omega

/-- A time of 2⁵⁶ + 5 milliseconds comes back as five milliseconds, a secret of 65533 equal bytes
does not come back, and neither does a request to delete one key of 65524 bytes: whoever reads it
breaks off, so that it gets no reply. -/
theorem overlong_bodies_lost :
    ((claiming ⟨"b", ⟨[2]⟩, 72057594037927941⟩).written.length < capacity 8 ∧
      Encoding.packed.decode (claiming ⟨"b", ⟨[2]⟩, 72057594037927941⟩).written =
        .ok (⟨"b", ⟨[2]⟩, 5⟩ : Store.Claiming) ∧
      ¬ (claiming ⟨"b", ⟨[2]⟩, 72057594037927941⟩).Returns) ∧
    ((secret ⟨List.replicate 65533 1⟩).written.length < capacity 8 ∧
      ¬ (secret ⟨List.replicate 65533 1⟩).Returns) ∧
    ((erasure ⟨[Text.ofAscii (List.replicate 65524 120)]⟩).written.length < capacity 8 ∧
      ¬ (erasure ⟨[Text.ofAscii (List.replicate 65524 120)]⟩).Returns ∧
      (Store.empty.handle 0 ⟨"DELETE", "/secrets", [],
        some (erasure ⟨[Text.ofAscii (List.replicate 65524 120)]⟩).written⟩).reply = none) := by
  have named : PortableNames ["b"] := portableNames_of_length_le (by decide)
  have keepable : (Secret.mk [2]).Keepable := Secret.keepable_of_length_le (by decide)
  have written : Pack.kept 72057594037927941 = 0 → (72057594037927941 : UInt64) = 0 :=
    fun none => by cases none
  have short := Message.short_claiming named keepable written
  have read := Message.decode_claiming keepable.1 written short
  have few : ∀ body : Secret, body.length = 65533 → (secret body).written.length < capacity 4 := by
    intro body length
    have most := body.length_packed_le
    rw [length] at most
    exact Nat.lt_of_le_of_lt most (by decide)
  have bytes := few ⟨List.replicate 65533 1⟩ List.length_replicate
  have long : (Pack.Print.text (Text.ofAscii (List.replicate 65524 120))).length = _ :=
    length_text_ofAscii (fun byte member => List.eq_of_mem_replicate member ▸ by decide)
      (by rw [List.length_replicate]; decide)
  rw [List.length_replicate] at long
  obtain ⟨small, lost, unheard⟩ :=
    erasure_of_long_key (Nat.le_of_eq long.symm) (by rw [long]; decide)
  refine ⟨⟨short, read, fun returns => ?_⟩, ⟨Nat.lt_trans bytes (by decide), fun returns => ?_⟩,
    small, lost, congrArg Store.Served.reply (unheard .empty 0)⟩
  · have same := Except.ok.inj (read.symm.trans returns)
    exact absurd (congrArg Store.Claiming.ttlMillis same) (by decide)
  · exact Secret.not_portable_replicate 1 (Nat.le_refl _) (portable_of_returns _ bytes returns)

end Body
end Signet
