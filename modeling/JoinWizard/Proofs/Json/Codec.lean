/-
# Encoded values are decoded to what they were

A codec is *lawful* if it decodes every encoded value to that value, and encodes none as `null`
(`LawfulJsonCodec`).  The second half is what lets an optional field be left out, or written as
`null`, without being mistaken for one that is set.

A record is lawful if its fields are: each is found under its name again
(`Json.record?_ofFields`).  A lawful value survives its text too (`ofJsonText_toJsonText`).
-/

import JoinWizard.Proofs.Json.RoundTrip
import JoinWizard.Proofs.NameMap
import JoinWizard.SavedConfig

namespace JoinWizard
namespace Json

/-! ## Records -/

/-- The members of the object with the given fields. -/
def fieldMembers (fields : List (String × Option Json)) : List (Option String × Json) :=
  fields.filterMap fun (key, value) => value.map fun v => (some key, v)

/-- The names of the fields that have a value. -/
def fieldKeys (fields : List (String × Option Json)) : List String :=
  (fields.filter fun f => f.2.isSome).map Prod.fst

/-- The member of a field is its value, if it has one. -/
theorem lookup_fieldMembers {fields : List (String × Option Json)}
    (h : (fields.map Prod.fst).Nodup) (name : String) :
    (fieldMembers fields).lookup (some name) = (fields.lookup name).join := by
  induction fields with
  | nil => rfl
  | cons f fields ih =>
    obtain ⟨key, value⟩ := f
    obtain ⟨hkey, hfields⟩ := List.nodup_cons.1 h
    rw [List.lookup_cons]
    cases value with
    | none =>
      show (fieldMembers fields).lookup (some name) = _
      rw [ih hfields]
      by_cases hname : name = key
      · subst hname
        have hnone : fields.lookup name = none := by
          rw [List.lookup_eq_none_iff]
          intro f hf
          rw [bne_iff_ne]
          rintro rfl
          exact hkey (List.mem_map.2 ⟨f, hf, rfl⟩)
        simp [hnone]
      · simp [beq_eq_false_iff_ne.2 hname]
    | some v =>
      show List.lookup (some name) ((some key, v) :: fieldMembers fields) = _
      rw [List.lookup_cons, ih hfields]
      by_cases hname : name = key
      · simp [hname]
      · simp [beq_eq_false_iff_ne.2 hname]

/-- The keys of a record's members are the names of its fields that have a value. -/
theorem mapM_fst_fieldMembers (fields : List (String × Option Json)) :
    (fieldMembers fields).mapM Prod.fst = some (fieldKeys fields) := by
  induction fields with
  | nil => rfl
  | cons f fields ih =>
    obtain ⟨key, value⟩ := f
    cases value with
    | none => exact ih
    | some v =>
      show ((some key, v) :: fieldMembers fields).mapM Prod.fst = _
      rw [List.mapM_cons, ih]
      rfl

/-- **A record's fields are found again**, whatever names are asked for, if no two of them have
one name. -/
theorem record?_ofFields {fields : List (String × Option Json)}
    (h : (fields.map Prod.fst).Nodup) (names : List String) :
    (ofFields fields).record? names = some fun name => (fields.lookup name).join := by
  have hkeys : keys? names (fieldMembers fields) = some (fieldKeys fields) := by
    have hnodup : (fieldKeys fields).Nodup := h.sublist (List.filter_sublist.map _)
    rw [keys?, mapM_fst_fieldMembers]
    refine if_pos (List.all_eq_true.2 fun name _ => decide_eq_true ?_)
    exact List.nodup_iff_count.1 hnodup name
  show (do
    let _ ← keys? names (fieldMembers fields)
    return fun name => (fieldMembers fields).lookup (some name)) = _
  rw [hkeys]
  exact congrArg some (funext fun name => lookup_fieldMembers h name)

/-- A reader of a record reads the fields it was built of. -/
theorem record?_ofFields_bind {α : Type} {fields : List (String × Option Json)}
    (h : (fields.map Prod.fst).Nodup) {names : List String}
    (read : (String → Option Json) → Option α) :
    ((ofFields fields).record? names >>= read) = read fun name => (fields.lookup name).join := by
  rw [record?_ofFields h]
  rfl

theorem ofFields_ne_null {fields : List (String × Option Json)} : ofFields fields ≠ .null :=
  Json.noConfusion

end Json

/-! ## Lawful codecs -/

/-- Codecs that decode what they encode, and encode nothing as `null`. -/
class LawfulJsonCodec (α : Type) [JsonCodec α] : Prop where
  decode_encode (x : α) : decode (encode x) = some x
  encode_ne_null (x : α) : encode x ≠ Json.null

export LawfulJsonCodec (decode_encode encode_ne_null)

namespace JsonCodec

variable {α : Type} [JsonCodec α] [LawfulJsonCodec α]

@[simp] theorem required_encode (x : α) : required (some (encode x)) = some x :=
  decode_encode x

@[simp] theorem orDefault_encode (default x : α) :
    orDefault default (some (encode x)) = some x :=
  decode_encode x

/-- An optional field is read as it was, be it left out or set. -/
@[simp] theorem optional_map_encode (x : Option α) : optional (x.map encode) = some x := by
  cases x with
  | none => rfl
  | some x =>
    show optional (some (encode x)) = _
    rw [optional]
    · rw [decode_encode]
      rfl
    · exact encode_ne_null x

instance : LawfulJsonCodec String where
  decode_encode _ := rfl
  encode_ne_null _ := Json.noConfusion

/-- A list whose items are read back one by one is read back. -/
theorem mapM_map {β γ : Type} {f : β → γ} {g : γ → Option β} (h : ∀ x, g (f x) = some x)
    (xs : List β) : (xs.map f).mapM g = some xs := by
  induction xs with
  | nil => rfl
  | cons x xs ih =>
    rw [List.map_cons, List.mapM_cons, h, ih]
    rfl

instance : LawfulJsonCodec (List α) where
  decode_encode := mapM_map decode_encode
  encode_ne_null _ := Json.noConfusion

end JsonCodec

instance : LawfulJsonCodec Endpoint where
  decode_encode e := (Json.record?_ofFields_bind (by simp) _).trans (by simp [List.lookup_cons])
  encode_ne_null _ := Json.ofFields_ne_null

instance : LawfulJsonCodec Join where
  decode_encode j := (Json.record?_ofFields_bind (by simp) _).trans (by simp [List.lookup_cons])
  encode_ne_null _ := Json.ofFields_ne_null

instance : LawfulJsonCodec SavedConfig where
  decode_encode c := (Json.record?_ofFields_bind (by simp) _).trans (by simp [List.lookup_cons])
  encode_ne_null _ := Json.ofFields_ne_null

/-! ## Maps and texts -/

section

variable {α : Type} [JsonCodec α] [LawfulJsonCodec α]

instance : LawfulJsonCodec (NameMap α) where
  decode_encode m := by
    show (List.mapM _ (m.entries.map _) >>= fun entries => some (NameMap.ofList entries)) = _
    rw [JsonCodec.mapM_map]
    · exact congrArg some (NameMap.ofList_entries m)
    · rintro ⟨name, value⟩
      simp [decode_encode]
  encode_ne_null _ := Json.noConfusion

/-- **A value is read back from its text.** -/
theorem ofJsonText_toJsonText (x : α) : ofJsonText (toJsonText x) = .ok x := by
  simp only [ofJsonText, toJsonText, Json.parse_render, decode_encode]

end

end JoinWizard
