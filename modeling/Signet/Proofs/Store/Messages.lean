import Signet.Message
import Signet.Proofs.Pack.Structure
import Signet.Proofs.Store.Effect

/-! What callers of a served store send to it, and what it answers, is read back as it was meant. -/

namespace Signet

namespace Dict

variable {α : Type}

private theorem erase_of_absent {dict : Dict α} {name : String}
    (absent : name ∉ dict.entries.map Prod.fst) : (dict.erase name).entries = dict.entries := by
  refine List.filter_eq_self.mpr fun entry member => ?_
  rw [bne_iff_ne]
  rintro rfl
  exact absent (List.mem_map_of_mem member)

private theorem foldl_insert (dict : Dict α) (items : List (String × α))
    (distinct : ((dict.entries ++ items).map Prod.fst).Nodup) :
    (items.foldl (fun dict entry => dict.insert entry.1 entry.2) dict).entries =
      dict.entries ++ items := by
  induction items generalizing dict with
  | nil => simp
  | cons item items ih =>
    have absent : item.1 ∉ dict.entries.map Prod.fst := by
      rw [List.map_append, List.nodup_append] at distinct
      intro member
      exact distinct.2.2 _ member _ (List.mem_cons_self ..) rfl
    have inserted : (dict.insert item.1 item.2).entries = dict.entries ++ [item] := by
      show (dict.erase item.1).entries ++ [item] = _
      rw [erase_of_absent absent]
    rw [List.foldl_cons, ih _ (by rw [inserted]; simpa using distinct), inserted, List.append_assoc]
    rfl

theorem ofList_toList (dict : Dict α) : ofList dict.toList = dict := by
  obtain ⟨entries, distinct⟩ := dict
  have same := foldl_insert empty entries distinct
  rw [ofList, toList]
  generalize entries.foldl (fun dict entry => dict.insert entry.1 entry.2) empty = made at same
  obtain ⟨others, _⟩ := made
  obtain rfl : others = entries := same
  rfl

end Dict

/-- A key that is read back from packed form. -/
def Secret.Portable (secret : Secret) : Prop :=
  Pack.Tame (secret.bytes.map fun byte => Pack.Print.unsigned byte.toUInt64)

/-- A body whose length can be told in packed form. -/
def Message.Short {α : Type} [Message α] (body : α) : Prop :=
  (Message.packed body).length < Pack.capacity 8

/-- A secret that messages about its subject can carry. -/
def Secret.Keepable (secret : Secret) : Prop :=
  secret.Portable ∧ (Message.packed secret).length < Pack.capacity 7

private theorem Secret.length_items_le (secret : Secret) :
    (secret.bytes.map fun byte => Pack.Print.unsigned byte.toUInt64).flatten.length ≤
      8 * secret.length := by
  have each : ∀ item ∈ secret.bytes.map fun byte => Pack.Print.unsigned byte.toUInt64,
      item.length ≤ 8 := by
    intro item member
    obtain ⟨byte, -, rfl⟩ := List.mem_map.mp member
    exact Pack.length_unsigned_le Pack.written_byte
  have body := Pack.length_flatten_le each
  rwa [List.length_map] at body

theorem Secret.length_packed_le (secret : Secret) :
    (Message.packed secret).length ≤ 17 + 16 * secret.length := by
  have body := secret.length_items_le
  have whole : (Message.packed secret).length ≤ _ := Pack.length_list_le _
  have count : secret.bytes.length = secret.length := rfl
  rw [List.length_map, count] at whole
  omega

/-- Secrets of this length, and far longer ones, can be carried. -/
theorem Secret.keepable_of_length_le {secret : Secret} (few : secret.length ≤ 8191) :
    secret.Keepable := by
  have body := secret.length_items_le
  have whole := secret.length_packed_le
  refine ⟨fun _ => by omega, ?_⟩
  show (Message.packed secret).length < 72057594037927936
  omega

/-- A secret of as many equal bytes cannot be carried. -/
theorem Secret.not_portable_replicate (byte : UInt8) {count : Nat} (long : 65533 ≤ count) :
    ¬ (Secret.mk (List.replicate count byte)).Portable := by
  intro portable
  have items : (List.replicate count byte).map (fun byte => Pack.Print.unsigned byte.toUInt64) =
      List.replicate count (Pack.Print.unsigned byte.toUInt64) := List.map_replicate
  rw [Portable, items] at portable
  have small := portable fun item member other another => by
    rw [List.eq_of_mem_replicate member, List.eq_of_mem_replicate another]
  rw [List.length_flatten, List.map_replicate, List.sum_replicate_nat] at small
  have positive : 0 < (Pack.Print.unsigned byte.toUInt64).length :=
    (Pack.solid_unsigned Pack.written_byte).length_pos
  have many := Nat.le_mul_of_pos_right count positive
  omega

theorem Secret.Keepable.short {secret : Secret} (keepable : secret.Keepable) : Message.Short secret :=
  Nat.lt_trans keepable.2 (by decide)

/-- Names that are read back from packed form. -/
def PortableNames (names : List String) : Prop := Pack.Tame (names.map Pack.Print.text)

theorem portableNames_of_length_le {name : String} (few : (Text.utf8 name).length ≤ 65523) :
    PortableNames [name] := by
  have whole := Pack.length_text_le name
  intro _
  rw [List.map_singleton, List.flatten_singleton]
  omega

namespace Message

open Pack (Reads Tame capacity)

theorem reads_texts {texts : List String} (portable : PortableNames texts)
    (short : (textsPacked texts).length < capacity 8) :
    Reads (Pack.list Pack.text) (textsPacked texts) texts := by
  refine Pack.reads_list (fun text _ => Pack.solid_text text) (fun text member => ?_) portable short
  have inside : Pack.Print.text text ∈ texts.map Pack.Print.text := List.mem_map_of_mem member
  exact Pack.reads_text (Nat.lt_of_le_of_lt (Pack.length_item_le inside) short)

theorem reads_secret {secret : Secret} (portable : secret.Portable)
    (short : (secretPacked secret).length < capacity 8) :
    Reads unpackSecret (secretPacked secret) secret := by
  have read := Pack.reads_list (fun byte _ => Pack.solid_unsigned Pack.written_byte)
    (fun byte _ => Pack.reads_byte byte) portable short
  exact read.bind fun _ => rfl

theorem reads_secrets {secrets : Dict Secret}
    (portable : ∀ entry ∈ secrets.entries, entry.2.Portable)
    (short : (secretsPacked secrets).length < capacity 8) :
    Reads unpackSecrets (secretsPacked secrets) secrets := by
  have read : Reads (Pack.map unpackSecret) (secretsPacked secrets) secrets.toList := by
    refine Pack.reads_map (fun entry member => ?_) short
    have belongs : (entry.1, secretPacked entry.2) ∈
        secrets.toList.map fun entry => (entry.1, secretPacked entry.2) :=
      List.mem_map_of_mem member
    exact reads_secret (portable entry member) (Pack.short_member _ belongs short).2
  refine read.bind fun rest => ?_
  rw [Dict.ofList_toList]
  rfl

theorem reads_member {α σ : Type} {name : String} {value : Reader Pack.Fault α}
    {filled : σ → Bool} {set : σ → α → σ} {draft : σ} {bytes : Bytes} {found : α}
    (reads : Reads value bytes found) :
    Reads ((member name value filled set).fill draft) bytes (set draft found) :=
  reads.bind fun _ => rfl

theorem decode_of_reads {α : Type} [Message α] {body read : α}
    (reads : Reads unpack (packed body) read) : Encoding.packed.decode (packed body) = .ok read :=
  Pack.decode_of_reads reads

theorem decode_secret {secret : Secret} (portable : secret.Portable)
    (short : Short secret) :
    Encoding.packed.decode (packed secret) = .ok secret :=
  decode_of_reads (reads_secret portable short)

theorem decode_lookup {keys : List String} (portable : PortableNames keys)
    (short : Short (Store.Lookup.mk keys)) :
    Encoding.packed.decode (packed (Store.Lookup.mk keys)) = .ok (Store.Lookup.mk keys) := by
  have bounds := Pack.short_member ("keys", textsPacked keys) (by simp) short
  refine decode_of_reads (Pack.reads_record (some keys) ?_ rfl short)
  exact .next rfl rfl (reads_member (reads_texts portable bounds.2)) (.done _)

theorem decode_erasure {keys : List String} (portable : PortableNames keys)
    (short : Short (Store.Erasure.mk keys)) :
    Encoding.packed.decode (packed (Store.Erasure.mk keys)) = .ok (Store.Erasure.mk keys) := by
  have bounds := Pack.short_member ("keys", textsPacked keys) (by simp) short
  refine decode_of_reads (Pack.reads_record (some keys) ?_ rfl short)
  exact .next rfl rfl (reads_member (reads_texts portable bounds.2)) (.done _)

theorem decode_findings {secrets : Dict Secret}
    (portable : ∀ entry ∈ secrets.entries, entry.2.Portable)
    (short : Short (Store.Findings.mk secrets)) :
    Encoding.packed.decode (packed (Store.Findings.mk secrets)) =
      .ok (Store.Findings.mk secrets) := by
  have bounds := Pack.short_member ("secrets", secretsPacked secrets) (by simp) short
  refine decode_of_reads (Pack.reads_record (some secrets) ?_ rfl short)
  exact .next rfl rfl (reads_member (reads_secrets portable bounds.2)) (.done _)

/-- A time arrives without its top byte. -/
theorem decode_writing {secrets : Dict Secret} {millis : UInt64}
    (portable : ∀ entry ∈ secrets.entries, entry.2.Portable)
    (written : Pack.kept millis = 0 → millis = 0)
    (short : Short (Store.Writing.mk secrets millis)) :
    Encoding.packed.decode (packed (Store.Writing.mk secrets millis)) =
      .ok (Store.Writing.mk secrets (UInt64.ofNat (Pack.kept millis))) := by
  have bounds := Pack.short_member ("entries", secretsPacked secrets) (by simp) short
  refine decode_of_reads (Pack.reads_record
    ⟨some secrets, some (UInt64.ofNat (Pack.kept millis))⟩ ?_ rfl short)
  refine .next rfl rfl (reads_member (reads_secrets portable bounds.2)) ?_
  exact .next rfl rfl (reads_member (Pack.reads_unsigned written)) (.done _)

theorem decode_claiming {key : String} {secret : Secret} {millis : UInt64}
    (portable : secret.Portable) (written : Pack.kept millis = 0 → millis = 0)
    (short : Short (Store.Claiming.mk key secret millis)) :
    Encoding.packed.decode (packed (Store.Claiming.mk key secret millis)) =
      .ok (Store.Claiming.mk key secret (UInt64.ofNat (Pack.kept millis))) := by
  have named := Pack.short_member ("key", Pack.Print.text key) (by simp) short
  have bounds := Pack.short_member ("secret", secretPacked secret) (by simp) short
  refine decode_of_reads (Pack.reads_record
    ⟨some key, some secret, some (UInt64.ofNat (Pack.kept millis))⟩ ?_ rfl short)
  refine .next rfl rfl (reads_member (Pack.reads_text named.2)) ?_
  refine .next rfl rfl (reads_member (reads_secret portable bounds.2)) ?_
  exact .next rfl rfl (reads_member (Pack.reads_unsigned written)) (.done _)

/-- A request about one key has few bytes more than the key. -/
theorem short_key {key : String} (few : (Pack.Print.text key).length < capacity 4) :
    (Pack.Print.object [("keys", textsPacked [key])]).length < capacity 8 := by
  have label : (Pack.Print.text "keys").length = 5 := rfl
  have inner := Pack.length_list_le [Pack.Print.text key]
  have outer := Pack.length_single_le "keys" (Pack.Print.list [Pack.Print.text key])
  simp only [List.flatten_cons, List.flatten_nil, List.append_nil, List.length_singleton] at inner
  simp only [textsPacked, List.map_singleton, capacity] at few outer ⊢
  omega

section

variable {key : String} (named : PortableNames [key])
include named

theorem length_text_of_portable : (Pack.Print.text key).length < 65533 := by
  have alone := named (by simp)
  simpa using alone

theorem short_keys : (Pack.Print.object [("keys", textsPacked [key])]).length < capacity 8 :=
  short_key (Nat.lt_trans (length_text_of_portable named) (by decide))

variable {secret : Secret} (keepable : secret.Keepable)
include keepable

theorem short_claiming {millis : UInt64} (written : Pack.kept millis = 0 → millis = 0) :
    Short (Store.Claiming.mk key secret millis) := by
  have name := length_text_of_portable named
  have number := Pack.length_unsigned_le written
  have small : (secretPacked secret).length < 72057594037927936 := keepable.2
  have first : (Pack.Print.text "key").length = 4 := rfl
  have second : (Pack.Print.text "secret").length = 7 := rfl
  have third : (Pack.Print.text "ttl_millis").length = 11 := rfl
  have outer := Pack.length_object_le [("key", Pack.Print.text key),
    ("secret", secretPacked secret), ("ttl_millis", Pack.Print.unsigned millis)]
  simp only [List.map_cons, List.map_nil, List.flatten_cons, List.flatten_nil, List.append_nil,
    Pack.part, List.length_append, List.length_cons, List.length_nil, first, second, third] at outer
  show (Pack.Print.object [("key", Pack.Print.text key),
    ("secret", secretPacked secret), ("ttl_millis", Pack.Print.unsigned millis)]).length <
    18446744073709551616
  omega

theorem short_findings {secrets : Dict Secret} (one : secrets.entries = [(key, secret)]) :
    Short (Store.Findings.mk secrets) := by
  have name := length_text_of_portable named
  have small : (secretPacked secret).length < 72057594037927936 := keepable.2
  have label : (Pack.Print.text "secrets").length = 8 := rfl
  have same : secretsPacked secrets = Pack.Print.object [(key, secretPacked secret)] := by
    rw [secretsPacked, Dict.toList, one]
    rfl
  have inner := Pack.length_single_le key (secretPacked secret)
  have outer := Pack.length_single_le "secrets" (secretsPacked secrets)
  rw [same] at outer
  show (Pack.Print.object [("secrets", secretsPacked secrets)]).length < 18446744073709551616
  rw [same]
  omega

end

theorem short_findings_empty : Short (Store.Findings.mk Dict.empty) := by
  show (Pack.Print.object [("secrets", Pack.Print.object [])]).length < 18446744073709551616
  have outer := Pack.length_single_le "secrets" (Pack.Print.object [])
  have label : (Pack.Print.text "secrets").length = 8 := rfl
  have inner : (Pack.Print.object []).length = 1 := rfl
  omega

end Message
end Signet
