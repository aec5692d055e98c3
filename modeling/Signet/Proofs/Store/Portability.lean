import Signet.Proofs.Pack.Loss
import Signet.Proofs.Store.Messages

/-! What is sent to a store or answered by it comes back only if every list in it is tame, and its
time has no more than seven bytes. A value that was not read where it was written stays wrong,
whatever is read after it; and of a request about one key that is too long, reading breaks off. -/

namespace Signet

namespace Dict

variable {α : Type}

private theorem size_insert (dict : Dict α) (name : String) (value : α) :
    (dict.insert name value).size = (dict.erase name).size + 1 := by
  simp [insert, size]

private theorem size_foldl_insert_le (dict : Dict α) (items : List (String × α)) :
    (items.foldl (fun dict entry => dict.insert entry.1 entry.2) dict).size ≤
      dict.size + items.length := by
  induction items generalizing dict with
  | nil => exact Nat.le_refl _
  | cons item items ih =>
    have rest := ih (dict.insert item.1 item.2)
    have less := size_erase_le dict item.1
    rw [size_insert] at rest
    rw [List.foldl_cons, List.length_cons]
    omega

private theorem foldl_insert_of_size {dict : Dict α} {items : List (String × α)}
    (whole : (items.foldl (fun dict entry => dict.insert entry.1 entry.2) dict).size =
      dict.size + items.length) :
    (items.foldl (fun dict entry => dict.insert entry.1 entry.2) dict).entries =
      dict.entries ++ items := by
  induction items generalizing dict with
  | nil => simp
  | cons item items ih =>
    rw [List.foldl_cons, List.length_cons] at whole
    have rest := size_foldl_insert_le (dict.insert item.1 item.2) items
    have less := size_erase_le dict item.1
    rw [size_insert] at rest
    have same : (dict.erase item.1).entries = dict.entries := by
      have long : (dict.erase item.1).entries.length = dict.entries.length := by
        show (dict.erase item.1).size = dict.size
        omega
      exact List.filter_eq_self.mpr (List.length_filter_eq_length_iff.mp long)
    have inserted : (dict.insert item.1 item.2).entries = dict.entries ++ [item] := by
      show (dict.erase item.1).entries ++ [item] = _
      rw [same]
    rw [List.foldl_cons, ih (by rw [size_insert]; omega), inserted, List.append_assoc]
    rfl

/-- A dictionary of as many names as it was made of holds just these. -/
theorem toList_ofList {items : List (String × α)} (whole : (ofList items).size = items.length) :
    (ofList items).toList = items := by
  refine foldl_insert_of_size ?_
  rw [show (empty : Dict α).size = 0 from rfl, Nat.zero_add]
  exact whole

end Dict

namespace Message

open Pack (Reads Tame Tells capacity)

theorem tells_texts {texts : List String} (short : (textsPacked texts).length < capacity 4) :
    Tells (Pack.list Pack.text) (textsPacked texts) texts (PortableNames texts) := by
  refine Pack.tells_list (fun text _ => Pack.solid_text text) (fun text member => ?_) short
  have inside : Pack.Print.text text ∈ texts.map Pack.Print.text := List.mem_map_of_mem member
  have small := Nat.lt_of_le_of_lt (Pack.length_item_le inside) short
  exact Pack.reads_text (Nat.lt_trans small (by decide))

theorem tells_secret {secret : Secret} (short : (secretPacked secret).length < capacity 4) :
    Tells unpackSecret (secretPacked secret) secret secret.Portable := by
  have tells := Pack.tells_list (fun byte _ => Pack.solid_unsigned Pack.written_byte)
    (fun byte _ => Pack.reads_byte byte) short
  refine tells.bind fun found rest after same => ?_
  exact congrArg Secret.bytes (Reader.pure_eq_ok_iff.mp same).1

theorem tells_secrets {secrets : Dict Secret}
    (short : (secretsPacked secrets).length < capacity 4) :
    Tells unpackSecrets (secretsPacked secrets) secrets
      (∀ entry ∈ secrets.entries, entry.2.Portable) := by
  have wide : (secretsPacked secrets).length < capacity 8 := Nat.lt_trans short (by decide)
  have bounds : ∀ entry ∈ secrets.toList, (secretPacked entry.2).length < capacity 4 := by
    intro entry inside
    have belongs : (entry.1, secretPacked entry.2) ∈
        secrets.toList.map fun entry => (entry.1, secretPacked entry.2) :=
      List.mem_map_of_mem inside
    have whole := Nat.lt_of_le_of_lt (Pack.length_part_le belongs) short
    rw [Pack.part, List.length_append] at whole
    exact Nat.lt_of_le_of_lt (Nat.le_add_left ..) whole
  have tells : Tells (Pack.map unpackSecret) (secretsPacked secrets) secrets.toList
      (∀ entry ∈ secrets.toList, entry.2.Portable) := by
    refine Pack.tells_map wide (fun entry inside => tells_secret (bounds entry inside)) ?_
    intro entry inside portable
    exact reads_secret portable (Nat.lt_trans (bounds entry inside) (by decide))
  intro rest after read
  obtain ⟨found, behind, first, last⟩ := Reader.bind_eq_ok_iff.mp read
  obtain ⟨same, rfl⟩ := Reader.pure_eq_ok_iff.mp last
  have count := Pack.length_of_map wide first
  have all : found = secrets.toList := by
    rw [← same]
    exact (Dict.toList_ofList (by rw [same]; exact count.symm)).symm
  subst all
  exact tells _ _ first

/-- What is read into an empty place of a draft. -/
theorem of_fill {α σ : Type} {name : String} {value : Reader Pack.Fault α} {filled : σ → Bool}
    {set : σ → α → σ} {draft middle : σ} {input behind : Bytes}
    (read : (member name value filled set).fill draft input = .ok middle behind) :
    ∃ found, value input = .ok found behind ∧ middle = set draft found := by
  obtain ⟨found, left, first, last⟩ := Reader.bind_eq_ok_iff.mp read
  obtain ⟨rfl, rfl⟩ := Reader.pure_eq_ok_iff.mp last
  exact ⟨found, first, rfl⟩

/-- A record of one member comes back only if that does. -/
theorem of_decode_single {α β : Type} {name : String} {value : Reader Pack.Fault α} {bytes : Bytes}
    {build : α → β} (injective : Function.Injective build) {found : α} {holds : Prop}
    (short : (Pack.Print.object [(name, bytes)]).length < capacity 8)
    (tells : Tells value bytes found holds)
    (read : Pack.decode (Pack.record [member name value Option.isSome fun _ found => some found]
      none fun draft => draft.map build) (Pack.Print.object [(name, bytes)]) = .ok (build found)) :
    holds := by
  obtain ⟨table, last, behind, filled, -, done⟩ := Pack.of_decode_record short read
  have named := Pack.short_member (name, bytes) (List.mem_singleton_self _) short
  rw [List.map_singleton, List.flatten_singleton] at filled
  obtain ⟨middle, left, fill, rest⟩ := Pack.of_recordMembers named.1
    (List.find?_cons_of_pos (decide_eq_true rfl)) rfl filled
  obtain ⟨other, first, rfl⟩ := of_fill fill
  obtain ⟨rfl, -⟩ := Reader.pure_eq_ok_iff.mp rest
  obtain rfl := injective (Option.some.inj done)
  exact tells _ _ first

theorem portable_of_lookup {keys : List String}
    (short : (packed (Store.Lookup.mk keys)).length < capacity 4)
    (read : Encoding.packed.decode (packed (Store.Lookup.mk keys)) = .ok (Store.Lookup.mk keys)) :
    PortableNames keys := by
  have bounds := Pack.short_member ("keys", textsPacked keys) (List.mem_singleton_self _) short
  exact of_decode_single (fun _ _ same => congrArg Store.Lookup.keys same)
    (Nat.lt_trans short (by decide)) (tells_texts bounds.2) read

theorem portable_of_erasure {keys : List String}
    (short : (packed (Store.Erasure.mk keys)).length < capacity 4)
    (read : Encoding.packed.decode (packed (Store.Erasure.mk keys)) = .ok (Store.Erasure.mk keys)) :
    PortableNames keys := by
  have bounds := Pack.short_member ("keys", textsPacked keys) (List.mem_singleton_self _) short
  exact of_decode_single (fun _ _ same => congrArg Store.Erasure.keys same)
    (Nat.lt_trans short (by decide)) (tells_texts bounds.2) read

theorem portable_of_findings {secrets : Dict Secret}
    (short : (packed (Store.Findings.mk secrets)).length < capacity 4)
    (read : Encoding.packed.decode (packed (Store.Findings.mk secrets)) =
      .ok (Store.Findings.mk secrets)) : ∀ entry ∈ secrets.entries, entry.2.Portable := by
  have bounds := Pack.short_member ("secrets", secretsPacked secrets) (List.mem_singleton_self _)
    short
  exact of_decode_single (fun _ _ same => congrArg Store.Findings.secrets same)
    (Nat.lt_trans short (by decide)) (tells_secrets bounds.2) read

theorem portable_of_secret {secret : Secret} (short : (packed secret).length < capacity 4)
    (read : Encoding.packed.decode (packed secret) = .ok secret) : secret.Portable :=
  Pack.decode_of_tells (tells_secret short) read

/-- There is no reading on a request about a single key that is so long. -/
theorem decode_of_long_key {key : String} (long : 65533 ≤ (Pack.Print.text key).length)
    (fits : (Pack.Print.text key).length + 4 < capacity 4) :
    Encoding.packed.decode (packed (Store.Lookup.mk [key])) =
        (.error .abort : Except Pack.Fault Store.Lookup) ∧
      Encoding.packed.decode (packed (Store.Erasure.mk [key])) =
        (.error .abort : Except Pack.Fault Store.Erasure) := by
  have few : (Pack.Print.text key).length < capacity 4 := Nat.lt_of_le_of_lt (Nat.le_add_right ..) fits
  have reads := Pack.reads_text (Nat.lt_trans few (by decide : capacity 4 < capacity 8))
  have breaks := Pack.breaks_list reads (Pack.solid_text key) long fits
  exact ⟨Pack.decode_of_breaks (Pack.breaks_record (short_key few) rfl rfl breaks.bind),
    Pack.decode_of_breaks (Pack.breaks_record (short_key few) rfl rfl breaks.bind)⟩

/-- A member keeps what none of its values touches. -/
theorem ensures_fill {α σ : Type} {name : String} {value : Reader Pack.Fault α}
    {filled : σ → Bool} {set : σ → α → σ} {draft : σ} {keeps : σ → Prop}
    (each : ∀ found, keeps (set draft found)) :
    Reader.Ensures ((member name value filled set).fill draft) keeps :=
  Reader.ensures_bind fun found => Reader.ensures_pure (each found)

section

variable {α σ : Type} {members : List (Pack.Member σ)} {name : String} {value : Reader Pack.Fault α}
  {filled : σ → Bool} {set : σ → α → σ} {draft last : σ} {bytes rest after : Bytes} {count : Nat}
  {expected : α} {tame : Prop} (get : σ → Option α)
  (asked : members.find? (·.name = name) = some (member name value filled set))
  (empty : filled draft = false) (short : (Pack.Print.text name).length < capacity 8)
include asked empty short

/-- Where a member comes back whatever follows it, the others are read from behind it. -/
theorem behind_member (reads : Reads value bytes expected)
    (read : Pack.recordMembers members (count + 1) draft (Pack.part (name, bytes) ++ rest) =
      .ok last after) :
    Pack.recordMembers members count (set draft expected) rest = .ok last after := by
  obtain ⟨middle, behind, fill, others⟩ := Pack.of_recordMembers short asked empty read
  obtain ⟨found, first, rfl⟩ := of_fill fill
  rw [reads] at first
  injection first with same place
  subst same place
  exact others

/-- If the last draft holds the value that was written for a member, then that has been read from
where it was written, and the others from behind it. -/
theorem of_member (sets : ∀ found, get (set draft found) = some found)
    (stays : ∀ found, ∀ each ∈ members, ∀ draft, each.filled draft = false →
      get draft = some found → Reader.Ensures (each.fill draft) fun later => get later = some found)
    (tells : Tells value bytes expected tame) (reads : tame → Reads value bytes expected)
    (given : get last = some expected)
    (read : Pack.recordMembers members (count + 1) draft (Pack.part (name, bytes) ++ rest) =
      .ok last after) :
    tame ∧ Pack.recordMembers members count (set draft expected) rest = .ok last after := by
  obtain ⟨middle, behind, fill, others⟩ := Pack.of_recordMembers short asked empty read
  obtain ⟨found, first, rfl⟩ := of_fill fill
  have kept := Pack.ensures_recordMembers (fun draft => get draft = some found) (stays found) count
    (sets found) _ _ _ others
  obtain rfl := Option.some.inj (given.symm.trans kept)
  have good := tells _ _ first
  exact ⟨good, behind_member asked empty short (reads good) read⟩

end

/-- If the last draft holds the time that was written for the last member, then it has no more than
seven bytes, as nothing of the table behind it has been read. -/
theorem lt_of_last_member {σ : Type} {members : List (Pack.Member σ)} {name : String}
    {filled : σ → Bool} {set : σ → UInt64 → σ} {draft last : σ} {table after : Bytes}
    {millis : UInt64} (get : σ → Option UInt64)
    (asked : members.find? (·.name = name) = some (member name Pack.unsigned filled set))
    (empty : filled draft = false) (short : (Pack.Print.text name).length < capacity 8)
    (sets : ∀ found, get (set draft found) = some found) (given : get last = some millis)
    (read : Pack.recordMembers members 1 draft
      (Pack.part (name, Pack.Print.unsigned millis) ++ table) = .ok last after)
    (whole : table.length ≤ after.length) : millis.toNat < capacity 7 := by
  obtain ⟨middle, behind, fill, others⟩ := Pack.of_recordMembers short asked empty read
  obtain ⟨number, first, rfl⟩ := of_fill fill
  obtain ⟨rfl, rfl⟩ := Reader.pure_eq_ok_iff.mp others
  obtain rfl := Option.some.inj ((sets number).symm.trans given)
  exact Pack.lt_of_read_unsigned first whole

theorem portable_of_writing {secrets : Dict Secret} {millis : UInt64}
    (short : (packed (Store.Writing.mk secrets millis)).length < capacity 4)
    (read : Encoding.packed.decode (packed (Store.Writing.mk secrets millis)) =
      .ok (Store.Writing.mk secrets millis)) :
    (∀ entry ∈ secrets.entries, entry.2.Portable) ∧ millis.toNat < capacity 7 := by
  have wide := Nat.lt_trans short (by decide : capacity 4 < capacity 8)
  have bounds := Pack.short_member ("entries", secretsPacked secrets) (by simp) short
  have entriesName : (Pack.Print.text "entries").length < capacity 8 := by decide +kernel
  have millisName : (Pack.Print.text "ttl_millis").length < capacity 8 := by decide +kernel
  obtain ⟨table, last, behind, filled, whole, done⟩ := Pack.of_decode_record wide read
  simp only [List.map_cons, List.map_nil, List.flatten_cons, List.flatten_nil, List.append_nil,
    List.append_assoc, List.length_cons, List.length_nil] at filled
  obtain ⟨_, given, _, told, same⟩ : ∃ entries, last.entries = some entries ∧
      ∃ found, last.ttlMillis = some found ∧
        Store.Writing.mk entries found = ⟨secrets, millis⟩ := by
    simpa [Option.bind_eq_some_iff] using done
  obtain ⟨rfl, rfl⟩ := Store.Writing.mk.inj same
  obtain ⟨portable, others⟩ := of_member Store.Writing.Draft.entries rfl rfl entriesName
    (fun _ => rfl) (by
      intro found each inside draft empty held
      rcases List.mem_cons.mp inside with rfl | second
      · cases (congrArg Option.isSome held).symm.trans empty
      · obtain rfl := List.mem_singleton.mp second
        exact ensures_fill fun _ => held) (tells_secrets bounds.2)
    (fun portable => reads_secrets portable (Nat.lt_trans bounds.2 (by decide))) given filled
  exact ⟨portable, lt_of_last_member Store.Writing.Draft.ttlMillis rfl rfl millisName
    (fun _ => rfl) told others whole⟩

theorem portable_of_claiming {key : String} {secret : Secret} {millis : UInt64}
    (short : (packed (Store.Claiming.mk key secret millis)).length < capacity 4)
    (read : Encoding.packed.decode (packed (Store.Claiming.mk key secret millis)) =
      .ok (Store.Claiming.mk key secret millis)) :
    secret.Portable ∧ millis.toNat < capacity 7 := by
  have wide := Nat.lt_trans short (by decide : capacity 4 < capacity 8)
  have named := Pack.short_member ("key", Pack.Print.text key) (by simp) wide
  have bounds := Pack.short_member ("secret", secretPacked secret) (by simp) short
  have secretName : (Pack.Print.text "secret").length < capacity 8 := by decide +kernel
  have millisName : (Pack.Print.text "ttl_millis").length < capacity 8 := by decide +kernel
  obtain ⟨table, last, behind, filled, whole, done⟩ := Pack.of_decode_record wide read
  simp only [List.map_cons, List.map_nil, List.flatten_cons, List.flatten_nil, List.append_nil,
    List.append_assoc, List.length_cons, List.length_nil] at filled
  obtain ⟨_, -, _, given, _, told, same⟩ : ∃ name, last.key = some name ∧
      ∃ given, last.secret = some given ∧ ∃ found, last.ttlMillis = some found ∧
        Store.Claiming.mk name given found = ⟨key, secret, millis⟩ := by
    simpa [Option.bind_eq_some_iff] using done
  obtain ⟨-, rfl, rfl⟩ := Store.Claiming.mk.inj same
  have others := behind_member rfl rfl named.1 (Pack.reads_text named.2) filled
  obtain ⟨portable, others⟩ := of_member Store.Claiming.Draft.secret rfl rfl secretName
    (fun _ => rfl) (by
      intro found each inside draft empty held
      rcases List.mem_cons.mp inside with rfl | inside
      · exact ensures_fill fun _ => held
      rcases List.mem_cons.mp inside with rfl | inside
      · cases (congrArg Option.isSome held).symm.trans empty
      · obtain rfl := List.mem_singleton.mp inside
        exact ensures_fill fun _ => held) (tells_secret bounds.2)
    (fun portable => reads_secret portable (Nat.lt_trans bounds.2 (by decide))) given others
  exact ⟨portable, lt_of_last_member Store.Claiming.Draft.ttlMillis rfl rfl millisName
    (fun _ => rfl) told others whole⟩

end Message
end Signet
