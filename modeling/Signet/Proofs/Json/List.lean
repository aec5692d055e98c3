import Signet.Proofs.Json.Record

/-! Written lists. If each item is read where it stands, and none can be taken for the end, the whole
list is. -/

namespace Signet

namespace Json

variable {α : Type} {item : Reader Fault α} {write : α → Bytes}

theorem ends_bracket (rest : Bytes) : Ends (ascii ']' :: rest) := by
  intro byte found
  exact .inr (.inl (Option.some.inj found).symm)

/-- It begins with a byte that is no blank and does not end a list. -/
def Begins (text : Bytes) : Prop :=
  ∃ lead others, text = lead :: others ∧ isBlank lead = false ∧ lead ≠ ascii ']'

theorem Begins.ne_nil {text : Bytes} (begins : Begins text) : text ≠ [] := by
  obtain ⟨lead, others, rfl, -⟩ := begins
  exact List.cons_ne_nil _ _

theorem begins_text (value : String) : Begins (Print.text value) :=
  ⟨quote, _, text_eq value, by decide, by decide⟩

/-- What stands behind an item: the others, each after a comma, and the end of the list. -/
def behind (write : α → Bytes) (values : List α) (rest : Bytes) : Bytes :=
  (values.map write).flatMap (ascii ',' :: ·) ++ ascii ']' :: rest

theorem ends_behind (values : List α) (rest : Bytes) : Ends (behind write values rest) := by
  cases values with
  | nil => exact ends_bracket rest
  | cons value values => exact ends_comma _

theorem moreItems_bracket (start : Bool) (rest : Bytes) :
    moreItems start (ascii ']' :: rest) = .ok false (ascii ']' :: rest) := by
  rw [moreItems, Reader.bind_of_ok (peekWord_cons _ (by decide))]
  rfl

theorem moreItems_start {text : Bytes} (begins : Begins text) (rest : Bytes) :
    moreItems true (text ++ rest) = .ok true (text ++ rest) := by
  obtain ⟨lead, others, rfl, dark, noEnd⟩ := begins
  rw [moreItems, List.cons_append, Reader.bind_of_ok (peekWord_cons _ dark)]
  simp only [noEnd, ↓reduceIte]
  rfl

theorem moreItems_comma {text : Bytes} (begins : Begins text) (rest : Bytes) :
    moreItems false (ascii ',' :: (text ++ rest)) = .ok true (text ++ rest) := by
  obtain ⟨lead, others, rfl, dark, noEnd⟩ := begins
  have goesOn : ascii ',' ≠ ascii ']' := by decide
  rw [moreItems, Reader.bind_of_ok (peekWord_cons _ (by decide))]
  simp only [goesOn, Bool.false_eq_true, ↓reduceIte]
  rw [Reader.bind_of_ok (Reader.skip_cons _ _), List.cons_append,
    Reader.bind_of_ok (peekWord_cons _ dark)]
  simp only [noEnd, ↓reduceIte]
  rfl

section

variable (begins : ∀ value, Begins (write value)) (reads : ∀ value, Reads item (write value) value)
include begins reads

/-- Behind an item, the others are read up to the end of the list. -/
private theorem items_behind (values taken : List α) {fuel : Nat} (enough : values.length < fuel)
    (rest : Bytes) : items item fuel false taken (behind write values rest) =
      .ok (taken.reverse ++ values) (ascii ']' :: rest) := by
  induction values generalizing taken fuel with
  | nil =>
    cases fuel with
    | zero => simp at enough
    | succ fuel =>
      have last : behind write ([] : List α) rest = ascii ']' :: rest := rfl
      rw [last, items, Reader.bind_of_ok (moreItems_bracket false rest), List.append_nil]
      rfl
  | cons value values ih =>
    cases fuel with
    | zero => simp at enough
    | succ fuel =>
      have next : behind write (value :: values) rest =
          ascii ',' :: (write value ++ behind write values rest) := by
        simp [behind]
      rw [next, items, Reader.bind_of_ok (moreItems_comma (begins value) _)]
      simp only [↓reduceIte]
      rw [Reader.bind_of_ok (reads value _ (ends_behind values rest)),
        ih (value :: taken) (by simpa using enough), List.reverse_cons, List.append_assoc]
      rfl

private theorem items_list (values : List α) {fuel : Nat} (enough : values.length < fuel)
    (rest : Bytes) : items item fuel true []
      (Print.separated (values.map write) ++ ascii ']' :: rest) =
        .ok values (ascii ']' :: rest) := by
  cases fuel with
  | zero => simp at enough
  | succ fuel =>
    cases values with
    | nil =>
      show items item (fuel + 1) true [] (ascii ']' :: rest) = _
      rw [items, Reader.bind_of_ok (moreItems_bracket true rest)]
      rfl
    | cons value values =>
      have first : Print.separated ((value :: values).map write) ++ ascii ']' :: rest =
          write value ++ behind write values rest := by
        rw [List.map_cons, separated_cons, List.append_assoc, behind]
      rw [first, items, Reader.bind_of_ok (moreItems_start (begins value) _)]
      simp only [↓reduceIte]
      rw [Reader.bind_of_ok (reads value _ (ends_behind values rest)),
        items_behind begins reads values [value] (by simpa using enough)]
      rfl

theorem reads_list (values : List α) :
    Reads (list item) (Print.list (values.map write)) values := by
  intro rest _
  have full : ∀ text ∈ values.map write, text ≠ [] := by
    intro text member
    obtain ⟨value, -, rfl⟩ := List.mem_map.mp member
    exact (begins value).ne_nil
  have long := length_le_separated _ full
  rw [List.length_map] at long
  have whole : Print.list (values.map write) ++ rest =
      ascii '[' :: (Print.separated (values.map write) ++ ascii ']' :: rest) := by
    simp [Print.list]
  rw [whole, list, Reader.bind_of_ok (peekWord_cons _ (by decide))]
  simp only [↓reduceIte]
  rw [Reader.bind_of_ok (Reader.skip_cons _ _), Reader.bind_of_ok (Reader.left_eq _)]
  have closes : endList (ascii ']' :: rest) = .ok () rest := by
    rw [endList, Reader.bind_of_ok (peekWord_cons _ (by decide))]
    rfl
  refine Reader.closing_of_ok ?_ closes
  exact items_list begins reads values (by rw [List.length_append]; omega) rest

end

/-- A list of texts is read back. -/
theorem reads_texts (values : List String) :
    Reads (list text) (Print.list (values.map Print.text)) values :=
  reads_list begins_text reads_text values

end Json
end Signet
