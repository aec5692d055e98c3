import Signet.Proofs.Json.Skip

/-! Written objects and the records that are read from them. A written object is read if each of its
members is either asked for, and then read into a place that is still empty, or passed over. Whatever
text a record is read from, its draft has been finished. -/

namespace Signet

namespace Json

open Reader (Ensures ensures_bind ensures_closing ensures_ofExcept ensures_pure ensures_throw)

variable {α σ : Type}

/-- The written members of an object take a draft of a record to another draft. -/
inductive Fills (members : List (Member σ)) : σ → List (String × Bytes) → σ → Prop where
  | none (draft : σ) : Fills members draft [] draft
  | asked {name : String} {text : Bytes} {items : List (String × Bytes)} {draft next last : σ}
      (member : Member σ) (found : members.find? (·.name = name) = some member)
      (empty : member.filled draft = false) (reads : Reads (member.fill draft) text next)
      (others : Fills members next items last) : Fills members draft ((name, text) :: items) last
  | passed {name : String} {text : Bytes} {items : List (String × Bytes)} {draft last : σ}
      (absent : members.find? (·.name = name) = none) (scalar : Scalar text)
      (others : Fills members draft items last) : Fills members draft ((name, text) :: items) last

/-- What stands behind a member: the others, each after a comma, and the end of the object. -/
def remaining (items : List (String × Bytes)) (rest : Bytes) : Bytes :=
  items.flatMap (fun item => ascii ',' :: Print.member item.1 item.2) ++ ascii '\x7d' :: rest

theorem ends_remaining (items : List (String × Bytes)) (rest : Bytes) :
    Ends (remaining items rest) := by
  cases items with
  | nil => exact ends_brace rest
  | cons item items => exact ends_comma _

theorem separated_cons (item : Bytes) (items : List Bytes) :
    Print.separated (item :: items) = item ++ items.flatMap (ascii ',' :: ·) := by
  induction items generalizing item with
  | nil => simp [Print.separated]
  | cons next items ih =>
    rw [Print.separated, ih next, List.flatMap_cons, List.cons_append]
    simp

theorem moreMembers_brace (start : Bool) (rest : Bytes) :
    moreMembers start (ascii '\x7d' :: rest) = .ok false (ascii '\x7d' :: rest) := by
  rw [moreMembers, Reader.bind_of_ok (peekWord_cons _ (by decide))]
  rfl

theorem moreMembers_start (rest : Bytes) :
    moreMembers true (quote :: rest) = .ok true (quote :: rest) := by
  rw [moreMembers, Reader.bind_of_ok (peekWord_cons _ (by decide))]
  rfl

theorem moreMembers_comma (rest : Bytes) :
    moreMembers false (ascii ',' :: quote :: rest) = .ok true (quote :: rest) := by
  have noBrace : ascii ',' ≠ ascii '\x7d' := by decide
  rw [moreMembers, Reader.bind_of_ok (peekWord_cons _ (by decide))]
  simp only [noBrace, Bool.false_eq_true, ↓reduceIte]
  rw [Reader.bind_of_ok (Reader.skip_cons _ _), Reader.bind_of_ok (peekWord_cons _ (by decide))]
  rfl

theorem colon_cons (rest : Bytes) : colon (ascii ':' :: rest) = .ok () rest := by
  rw [colon, Reader.bind_of_ok (peekWord_cons _ (by decide))]
  rfl

/-- The name of a member is read, and the colon and the value come next. -/
private theorem stringText_name (name : String) (text rest : Bytes) :
    ∃ others, Print.member name text ++ rest = quote :: others ∧
      stringText others = .ok name (ascii ':' :: (text ++ rest)) := by
  refine ⟨(Text.utf8 name).flatMap Print.escaped ++ quote :: ascii ':' :: (text ++ rest), ?_,
    stringText_text name _⟩
  simp [Print.member, text_eq]

variable {members : List (Member σ)} {draft next last : σ} {name : String} {text input : Bytes}
  {items : List (String × Bytes)} {start : Bool} {fuel : Nat}

private theorem objectMembers_asked {member : Member σ} {rest : Bytes}
    (more : moreMembers start input = .ok true (Print.member name text ++ rest))
    (found : members.find? (·.name = name) = some member) (empty : member.filled draft = false)
    (reads : Reads (member.fill draft) text next) (ends : Ends rest) :
    objectMembers members (fuel + 1) start draft input =
      objectMembers members fuel false next rest := by
  obtain ⟨others, written, named⟩ := stringText_name name text rest
  rw [written] at more
  rw [objectMembers, Reader.bind_of_ok more]
  simp only [↓reduceIte]
  rw [Reader.bind_of_ok (Reader.skip_cons _ _), Reader.bind_of_ok named]
  simp only [found, empty, Bool.false_eq_true, ↓reduceIte]
  rw [Reader.bind_of_ok (colon_cons _), Reader.bind_of_ok (reads rest ends)]

private theorem objectMembers_passed {rest : Bytes}
    (more : moreMembers start input = .ok true (Print.member name text ++ rest))
    (absent : members.find? (·.name = name) = none) (scalar : Scalar text) (ends : Ends rest) :
    objectMembers members (fuel + 1) start draft input =
      objectMembers members fuel false draft rest := by
  obtain ⟨others, written, named⟩ := stringText_name name text rest
  rw [written] at more
  rw [objectMembers, Reader.bind_of_ok more]
  simp only [↓reduceIte]
  rw [Reader.bind_of_ok (Reader.skip_cons _ _), Reader.bind_of_ok named]
  simp only [absent]
  rw [Reader.bind_of_ok (colon_cons _), Reader.bind_of_ok (skipValue_scalar scalar rest ends)]

private theorem objectMembers_end (draft : σ) (rest : Bytes) :
    objectMembers members (fuel + 1) start draft (ascii '\x7d' :: rest) =
      .ok draft (ascii '\x7d' :: rest) := by
  rw [objectMembers, Reader.bind_of_ok (moreMembers_brace start rest)]
  rfl

private theorem moreMembers_remaining (item : String × Bytes) (items : List (String × Bytes))
    (rest : Bytes) : moreMembers false (remaining (item :: items) rest) =
      .ok true (Print.member item.1 item.2 ++ remaining items rest) := by
  obtain ⟨others, written, -⟩ := stringText_name item.1 item.2 (remaining items rest)
  have whole : remaining (item :: items) rest =
      ascii ',' :: (Print.member item.1 item.2 ++ remaining items rest) := by
    simp [remaining]
  rw [whole, written]
  exact moreMembers_comma others

/-- Behind a member, the others take the draft to the last one. -/
private theorem objectMembers_remaining (fills : Fills members draft items last) (rest : Bytes)
    (enough : items.length < fuel) :
    objectMembers members fuel false draft (remaining items rest) =
      .ok last (ascii '\x7d' :: rest) := by
  -- Fuel is left for as many members as there are, and for the brace behind them.
  induction fills generalizing fuel with
  | none draft =>
    cases fuel with
    | zero => simp at enough
    | succ fuel => exact objectMembers_end draft rest
  | @asked name text items draft next last member found empty reads others ih =>
    cases fuel with
    | zero => simp at enough
    | succ fuel =>
      rw [objectMembers_asked (moreMembers_remaining (name, text) items rest) found empty reads
        (ends_remaining items rest)]
      exact ih (by simpa using enough)
  | @passed name text items draft last absent scalar others ih =>
    cases fuel with
    | zero => simp at enough
    | succ fuel =>
      rw [objectMembers_passed (moreMembers_remaining (name, text) items rest) absent scalar
        (ends_remaining items rest)]
      exact ih (by simpa using enough)

private theorem moreMembers_first (item : String × Bytes) (items : List (String × Bytes))
    (rest : Bytes) :
    moreMembers true (Print.separated
      ((item :: items).map fun each => Print.member each.1 each.2) ++ ascii '\x7d' :: rest) =
      .ok true (Print.member item.1 item.2 ++ remaining items rest) := by
  obtain ⟨others, written, -⟩ := stringText_name item.1 item.2 (remaining items rest)
  rw [List.map_cons, separated_cons, List.append_assoc, List.flatMap_map]
  show moreMembers true (Print.member item.1 item.2 ++ remaining items rest) = _
  rw [written]
  exact moreMembers_start others

private theorem objectMembers_object (fills : Fills members draft items last) (rest : Bytes)
    (enough : items.length < fuel) :
    objectMembers members fuel true draft
      (Print.separated (items.map fun each => Print.member each.1 each.2) ++ ascii '\x7d' :: rest) =
      .ok last (ascii '\x7d' :: rest) := by
  cases fuel with
  | zero => simp at enough
  | succ fuel =>
    cases fills with
    | none => exact objectMembers_end draft rest
    | @asked name text items _ next _ member found empty reads others =>
      rw [objectMembers_asked (moreMembers_first (name, text) items rest) found empty reads
        (ends_remaining items rest)]
      exact objectMembers_remaining others rest (by simpa using enough)
    | @passed name text items _ _ absent scalar others =>
      rw [objectMembers_passed (moreMembers_first (name, text) items rest) absent scalar
        (ends_remaining items rest)]
      exact objectMembers_remaining others rest (by simpa using enough)

theorem length_le_separated (items : List Bytes) (full : ∀ item ∈ items, item ≠ []) :
    items.length ≤ (Print.separated items).length := by
  have behind : ∀ others : List Bytes,
      others.length ≤ (others.flatMap (ascii ',' :: ·)).length := by
    intro others
    induction others with
    | nil => simp
    | cons next others ih =>
      simp only [List.flatMap_cons, List.length_cons, List.length_append]
      omega
  cases items with
  | nil => simp
  | cons item items =>
    have first := List.length_pos_iff.mpr (full item (List.mem_cons_self ..))
    have others := behind items
    rw [separated_cons, List.length_append, List.length_cons]
    omega

theorem endObject_brace (rest : Bytes) : endObject (ascii '\x7d' :: rest) = .ok () rest := by
  rw [endObject, Reader.bind_of_ok (peekWord_cons _ (by decide))]
  rfl

/-- A written object is read as a record if its members fill the draft of one. -/
theorem reads_record (kind : String) {finish : σ → Except Fault α} {value : α}
    (fills : Fills members draft items last) (finished : finish last = .ok value) :
    Reads (record kind members draft finish) (Print.object items) value := by
  intro rest _
  have noList : ascii '\x7b' ≠ ascii '[' := by decide
  have long : items.length ≤
      (Print.separated (items.map fun each => Print.member each.1 each.2)).length := by
    have full : ∀ item ∈ items.map fun each => Print.member each.1 each.2, item ≠ [] := by
      intro item member
      obtain ⟨each, -, rfl⟩ := List.mem_map.mp member
      simp [Print.member, text_eq]
    have separated := length_le_separated _ full
    rwa [List.length_map] at separated
  have whole : Print.object items ++ rest = ascii '\x7b' ::
      (Print.separated (items.map fun each => Print.member each.1 each.2) ++
        ascii '\x7d' :: rest) := by
    simp [Print.object]
  rw [whole, record, Reader.bind_of_ok (peekWord_cons _ (by decide))]
  simp only [noList, ↓reduceIte]
  rw [Reader.bind_of_ok (Reader.skip_cons _ _)]
  refine Reader.closing_of_ok ?_ (endObject_brace rest)
  rw [Reader.bind_of_ok (Reader.left_eq _), Reader.bind_of_ok (objectMembers_object fills rest
    (by rw [List.length_append]; omega)), finished]
  rfl

theorem decode_of_reads {reader : Reader Fault α} {value : α} (reads : Reads reader text value) :
    decode reader text = .ok value := by
  have whole := reads [] (fun byte found => by cases found)
  rw [List.append_nil] at whole
  simp [decode, Reader.run, finished, bind, EStateM.bind, whole, peekWord, Reader.skipWhile,
    Reader.peek, pure, EStateM.pure]

/-- A value of another kind is never answered. -/
theorem ensures_wrong {holds : α → Prop} (wanted : String) (byte : UInt8) :
    Ensures (wrong wanted byte : Reader Fault α) holds := by
  unfold wrong
  repeat' split
  all_goals
    repeat first
      | exact ensures_throw _
      | refine ensures_bind fun _ => ?_

/-- A record is answered only if its draft has been finished. -/
theorem ensures_record {holds : α → Prop} {kind : String} {members : List (Member σ)} {draft : σ}
    {finish : σ → Except Fault α}
    (each : ∀ last value, finish last = .ok value → holds value) :
    Ensures (record kind members draft finish) holds := by
  refine ensures_bind fun next => ?_
  cases next with
  | none => exact ensures_throw _
  | some byte =>
    dsimp only
    split
    · refine ensures_bind fun _ => ensures_closing (ensures_bind fun last => ?_) _
      exact ensures_ofExcept (each last)
    · split
      · refine ensures_bind fun _ => ensures_closing (ensures_bind fun _ => ?_) _
        exact ensures_bind fun last => ensures_ofExcept (each last)
      · exact ensures_wrong kind byte

/-- A text holds only what its reader ensures. -/
theorem of_decode_eq_ok {holds : α → Prop} {reader : Reader Fault α}
    (ensures : Ensures reader holds) {text : Bytes} {value : α}
    (decoded : decode reader text = .ok value) : holds value := by
  have whole : Ensures (finished reader) holds := by
    refine ensures.bind fun found held => ensures_bind fun next => ?_
    cases next with
    | none => exact ensures_pure held
    | some byte => exact ensures_throw _
  unfold decode Reader.run at decoded
  split at decoded
  case h_1 rest read =>
    cases decoded
    exact whole text value rest read
  case h_2 => cases decoded

end Json
end Signet
