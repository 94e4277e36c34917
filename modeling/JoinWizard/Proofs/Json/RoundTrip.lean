/-
# Written JSON is read back

`Json.parse` reads every written value as itself, in either layout (`Json.parse_render`).  The value
is written with the blanks of its layout between its parts and with nothing after it; the readers
leave out the blanks and stop where the written part ends.

The writer and the readers descend together: a value inside an array is written before the rest of
the array, so what is proved of it is proved in front of any characters that end a number.  The
fuel that a reader needs is three for each written character.
-/

import JoinWizard.Proofs.Json.Literals

namespace JoinWizard
namespace Json

/-! ## What the written parts begin with -/

/-- A string literal begins with a quote. -/
theorem head_writeString (s : Option String) : ∃ cs, writeString s = '"' :: cs := by
  obtain ⟨cs, h, -⟩ := readString_writeString s []
  exact ⟨cs, (List.append_nil _).symm.trans h⟩

/-- A number begins with no blank, and with nothing any other part begins with. -/
theorem not_blank_of_number {c : Char} (h : c = '-' ∨ c.isDigit = true) :
    isBlank c = false ∧ c ≠ ']' := by
  constructor
  · rw [Bool.eq_false_iff]
    intro hb
    simp only [isBlank, Bool.or_eq_true, decide_eq_true_eq] at hb
    rcases hb with ((rfl | rfl) | rfl) | rfl <;> exact absurd h (by decide)
  · rintro rfl
    exact absurd h (by decide)

/-- A value begins with no blank, and with no bracket that closes an array. -/
theorem head_write (layout : Layout) (depth : Nat) (v : Json) :
    ∃ c cs, write layout depth v = c :: cs ∧ isBlank c = false ∧ c ≠ ']' := by
  cases v with
  | null => exact ⟨'n', _, rfl, by decide⟩
  | bool b => cases b <;> exact ⟨_, _, rfl, by decide⟩
  | number n =>
    obtain ⟨c, cs, h, hc⟩ := head_writeNumber n
    exact ⟨c, cs, by rw [write, h], not_blank_of_number hc⟩
  | string s =>
    obtain ⟨cs, h⟩ := head_writeString s
    exact ⟨'"', cs, by rw [write, h], by decide⟩
  | array items => cases items <;> exact ⟨'[', _, rfl, by decide⟩
  | object members => cases members <;> exact ⟨'{', _, rfl, by decide⟩

/-! ## The readers, step by step -/

variable {fuel : Nat} {cs cs' rest : List Char}

/-- A reader of values leaves out the blanks in front. -/
theorem readValue_congr (h : skipBlanks cs = skipBlanks cs') :
    readValue fuel cs = readValue fuel cs' := by
  cases fuel with
  | zero => rfl
  | succ fuel => rw [readValue, readValue, h]

theorem readItems_congr (h : skipBlanks cs = skipBlanks cs') :
    readItems fuel cs = readItems fuel cs' := by
  cases fuel with
  | zero => rfl
  | succ fuel => rw [readItems, readItems, readValue_congr h]

theorem readMember_congr (h : skipBlanks cs = skipBlanks cs') :
    readMember fuel cs = readMember fuel cs' := by
  cases fuel with
  | zero => rfl
  | succ fuel => rw [readMember, readMember, h]

theorem readMembers_congr (h : skipBlanks cs = skipBlanks cs') :
    readMembers fuel cs = readMembers fuel cs' := by
  cases fuel with
  | zero => rfl
  | succ fuel => rw [readMembers, readMembers, readMember_congr h]

theorem readValue_number {c : Char} (hc : c = '-' ∨ c.isDigit = true) :
    readValue (fuel + 1) (c :: cs) =
      (readNumber (c :: cs)).map fun (n, rest) => (.number n, rest) := by
  rw [readValue, skipBlanks_of_not_blank (not_blank_of_number hc).1]
  split
  all_goals first
    | rfl
    | next h => rw [(List.cons.inj h).1] at hc; exact absurd hc (by decide)

theorem readValue_string :
    readValue (fuel + 1) ('"' :: cs) =
      (readString cs).map fun (s, rest) => (.string s, rest) := rfl

/-- An array that is not closed at once is read item by item. -/
theorem readValue_array (h : ∀ r, skipBlanks cs ≠ ']' :: r) :
    readValue (fuel + 1) ('[' :: cs) =
      (readItems fuel (skipBlanks cs)).map fun (items, rest) => (.array items, rest) := by
  rw [readValue, skipBlanks_of_not_blank (by decide)]
  -- The bracket picks the case, and `h` the one in it that reads on.
  simp only

/-- An object that is not closed at once is read member by member. -/
theorem readValue_object (h : ∀ r, skipBlanks cs ≠ '}' :: r) :
    readValue (fuel + 1) ('{' :: cs) =
      (readMembers fuel (skipBlanks cs)).map fun (members, rest) => (.object members, rest) := by
  rw [readValue, skipBlanks_of_not_blank (by decide)]
  simp only

/-- What follows an item of an array: more items, or the closing bracket. -/
def readMoreItems (fuel : Nat) (item : Json) (cs : List Char) : Option (List Json × List Char) :=
  match skipBlanks cs with
  | ',' :: r => (readItems fuel r).map fun (items, rest) => (item :: items, rest)
  | ']' :: rest => some ([item], rest)
  | _ => none

theorem readItems_of_value {item : Json} (h : readValue fuel cs = some (item, rest)) :
    readItems (fuel + 1) cs = readMoreItems fuel item rest := by
  rw [readItems, h]
  rfl

/-- What follows a member of an object: more members, or the closing brace. -/
def readMoreMembers (fuel : Nat) (member : Option String × Json) (cs : List Char) :
    Option (List (Option String × Json) × List Char) :=
  match skipBlanks cs with
  | ',' :: r => (readMembers fuel r).map fun (members, rest) => (member :: members, rest)
  | '}' :: rest => some ([member], rest)
  | _ => none

theorem readMembers_of_member {member : Option String × Json}
    (h : readMember fuel cs = some (member, rest)) :
    readMembers (fuel + 1) cs = readMoreMembers fuel member rest := by
  rw [readMembers, h]
  rfl

/-! ## The written parts, read -/

theorem endsNumber_lineBreak {layout : Layout} {depth : Nat} (h : EndsNumber cs) :
    EndsNumber (layout.lineBreak depth ++ cs) := by
  cases layout with
  | compact => exact h
  | indented => exact endsNumber_cons (by decide)

/-- No number goes on into the items that follow it. -/
theorem endsNumber_writeItems {layout : Layout} {depth : Nat} (items : List Json) :
    EndsNumber (writeItems layout depth items ++ rest) := by
  cases items with
  | nil =>
    rw [writeItems, List.append_assoc]
    exact endsNumber_lineBreak (endsNumber_cons (by decide))
  | cons item items =>
    rw [writeItems]
    exact endsNumber_cons (by decide)

/-- No number goes on into the members that follow it. -/
theorem endsNumber_writeMembers {layout : Layout} {depth : Nat}
    (members : List (Option String × Json)) :
    EndsNumber (writeMembers layout depth members ++ rest) := by
  cases members with
  | nil =>
    rw [writeMembers, List.append_assoc]
    exact endsNumber_lineBreak (endsNumber_cons (by decide))
  | cons member members =>
    rw [writeMembers]
    exact endsNumber_cons (by decide)

/-- The blanks before a value go. -/
theorem skipBlanks_write (layout : Layout) (depth : Nat) (v : Json) :
    skipBlanks (write layout depth v ++ cs) = write layout depth v ++ cs := by
  obtain ⟨c, cs', h, hc, -⟩ := head_write layout depth v
  rw [h]
  exact skipBlanks_of_not_blank hc

/-- Fuel for a written value is fuel for a step. -/
theorem fuel_of_write {layout : Layout} {depth : Nat} {v : Json}
    (hf : 3 * (write layout depth v).length ≤ fuel) : ∃ g, fuel = g + 1 := by
  obtain ⟨c, cs, h, -⟩ := head_write layout depth v
  rw [h, List.length_cons] at hf
  exact ⟨fuel - 1, by omega⟩

/-- A colon is read, and the blank after it goes with the value. -/
theorem skipBlanks_colon (layout : Layout) (cs : List Char) :
    ∃ cs', skipBlanks (layout.colon ++ cs) = ':' :: cs' ∧ skipBlanks cs' = skipBlanks cs := by
  cases layout with
  | compact => exact ⟨cs, rfl, rfl⟩
  | indented => exact ⟨' ' :: cs, rfl, rfl⟩

/-- The blanks before a member go, and what is left begins with a quote. -/
theorem skipBlanks_writeMember (layout : Layout) (depth : Nat) (member : Option String × Json)
    (cs : List Char) :
    ∃ cs', skipBlanks (writeMember layout depth member ++ cs) = '"' :: cs' ∧
      writeMember layout depth member ++ cs = '"' :: cs' := by
  obtain ⟨key, value⟩ := member
  obtain ⟨cs', h⟩ := head_writeString key
  rw [writeMember, h]
  exact ⟨_, skipBlanks_of_not_blank (by decide), rfl⟩

mutual

/-- **A written value is read back** where a number would end. -/
theorem readValue_write (layout : Layout) : ∀ (v : Json) (depth fuel : Nat) (rest : List Char),
    EndsNumber rest → 3 * (write layout depth v).length ≤ fuel →
      readValue fuel (write layout depth v ++ rest) = some (v, rest)
  | .null, depth, fuel, rest, _, hf => by
    obtain ⟨fuel, rfl⟩ := fuel_of_write hf
    rfl
  | .bool true, depth, fuel, rest, _, hf => by
    obtain ⟨fuel, rfl⟩ := fuel_of_write hf
    rfl
  | .bool false, depth, fuel, rest, _, hf => by
    obtain ⟨fuel, rfl⟩ := fuel_of_write hf
    rfl
  | .number n, depth, fuel, rest, hr, hf => by
    obtain ⟨fuel, rfl⟩ := fuel_of_write hf
    obtain ⟨c, cs, h, hc⟩ := head_writeNumber n
    rw [write, h, List.cons_append, readValue_number hc, ← List.cons_append, ← h,
      readNumber_writeNumber n hr]
    rfl
  | .string s, depth, fuel, rest, _, hf => by
    obtain ⟨fuel, rfl⟩ := fuel_of_write hf
    obtain ⟨cs, h, hs⟩ := readString_writeString s rest
    rw [write, h, readValue_string, hs]
    rfl
  | .array [], depth, fuel, rest, _, hf => by
    obtain ⟨fuel, rfl⟩ := fuel_of_write hf
    rfl
  | .array (item :: items), depth, fuel, rest, _, hf => by
    simp only [write, List.length_append, List.length_cons] at hf
    obtain ⟨fuel, rfl⟩ : ∃ g, fuel = g + 2 := ⟨fuel - 2, by omega⟩
    obtain ⟨c, cs, h, -, hc⟩ := head_write layout (depth + 1) item
    have hitem := readValue_write layout item (depth + 1) fuel
      (writeItems layout depth items ++ rest) (endsNumber_writeItems items) (by omega)
    rw [write, List.append_assoc, List.append_assoc, List.cons_append, readValue_array,
      skipBlanks_lineBreak, skipBlanks_write, readItems_of_value hitem,
      readMoreItems_writeItems layout items item depth fuel rest (by omega)]
    · rfl
    · intro r hclosed
      rw [skipBlanks_lineBreak, skipBlanks_write, h] at hclosed
      exact hc (List.cons.inj hclosed).1
  | .object [], depth, fuel, rest, _, hf => by
    obtain ⟨fuel, rfl⟩ := fuel_of_write hf
    rfl
  | .object (member :: members), depth, fuel, rest, _, hf => by
    simp only [write, List.length_append, List.length_cons] at hf
    obtain ⟨fuel, rfl⟩ : ∃ g, fuel = g + 2 := ⟨fuel - 2, by omega⟩
    obtain ⟨cs, h, hcs⟩ := skipBlanks_writeMember layout depth member
      (writeMembers layout depth members ++ rest)
    have hmember := readMember_writeMember layout member depth fuel
      (writeMembers layout depth members ++ rest) (endsNumber_writeMembers members) (by omega)
    rw [write, List.append_assoc, List.append_assoc, List.cons_append, readValue_object,
      skipBlanks_lineBreak, h, ← hcs, readMembers_of_member hmember,
      readMoreMembers_writeMembers layout members member depth fuel rest (by omega)]
    · rfl
    · intro r hclosed
      rw [skipBlanks_lineBreak, h] at hclosed
      exact absurd (List.cons.inj hclosed).1 (by decide)

/-- A written member is read back where a number would end. -/
theorem readMember_writeMember (layout : Layout) :
    ∀ (member : Option String × Json) (depth fuel : Nat) (rest : List Char), EndsNumber rest →
      3 * (writeMember layout depth member).length ≤ fuel →
        readMember fuel (writeMember layout depth member ++ rest) = some (member, rest)
  | (key, value), depth, fuel, rest, hr, hf => by
    simp only [writeMember, List.length_append] at hf
    obtain ⟨cs, h, hs⟩ := readString_writeString key
      (layout.colon ++ (write layout (depth + 1) value ++ rest))
    obtain ⟨cs', h'⟩ := head_writeString key
    obtain ⟨fuel, rfl⟩ : ∃ g, fuel = g + 1 := ⟨fuel - 1, by simp [h'] at hf; omega⟩
    have hvalue := readValue_write layout value (depth + 1) fuel rest hr (by simp [h'] at hf; omega)
    rw [writeMember, List.append_assoc, List.append_assoc, h, readMember,
      skipBlanks_of_not_blank (by decide)]
    obtain ⟨cs'', hcolon, hskip⟩ := skipBlanks_colon layout (write layout (depth + 1) value ++ rest)
    simp only [hs, hcolon]
    rw [readValue_congr hskip, hvalue]
    rfl

/-- The items that follow an item are read back. -/
theorem readMoreItems_writeItems (layout : Layout) :
    ∀ (items : List Json) (item : Json) (depth fuel : Nat) (rest : List Char),
      3 * (writeItems layout depth items).length ≤ fuel →
        readMoreItems fuel item (writeItems layout depth items ++ rest) =
          some (item :: items, rest)
  | [], item, depth, fuel, rest, _ => by
    rw [writeItems, List.append_assoc, readMoreItems, skipBlanks_lineBreak]
    rfl
  | next :: items, item, depth, fuel, rest, hf => by
    simp only [writeItems, List.length_append, List.length_cons] at hf
    obtain ⟨fuel, rfl⟩ : ∃ g, fuel = g + 1 := ⟨fuel - 1, by omega⟩
    have hnext := readValue_write layout next (depth + 1) fuel
      (writeItems layout depth items ++ rest) (endsNumber_writeItems items) (by omega)
    have hitems := readMoreItems_writeItems layout items next depth fuel rest (by omega)
    rw [writeItems, List.append_assoc, List.append_assoc, List.cons_append, readMoreItems,
      skipBlanks_of_not_blank (by decide)]
    show (readItems (fuel + 1) _).map _ = _
    rw [readItems_congr (skipBlanks_lineBreak.trans rfl), readItems_of_value hnext, hitems]
    rfl

/-- The members that follow a member are read back. -/
theorem readMoreMembers_writeMembers (layout : Layout) :
    ∀ (members : List (Option String × Json)) (member : Option String × Json) (depth fuel : Nat)
      (rest : List Char), 3 * (writeMembers layout depth members).length ≤ fuel →
        readMoreMembers fuel member (writeMembers layout depth members ++ rest) =
          some (member :: members, rest)
  | [], member, depth, fuel, rest, _ => by
    rw [writeMembers, List.append_assoc, readMoreMembers, skipBlanks_lineBreak]
    rfl
  | next :: members, member, depth, fuel, rest, hf => by
    simp only [writeMembers, List.length_append, List.length_cons] at hf
    obtain ⟨fuel, rfl⟩ : ∃ g, fuel = g + 1 := ⟨fuel - 1, by omega⟩
    have hnext := readMember_writeMember layout next depth fuel
      (writeMembers layout depth members ++ rest) (endsNumber_writeMembers members) (by omega)
    have hmembers := readMoreMembers_writeMembers layout members next depth fuel rest (by omega)
    rw [writeMembers, List.append_assoc, List.append_assoc, List.cons_append, readMoreMembers,
      skipBlanks_of_not_blank (by decide)]
    show (readMembers (fuel + 1) _).map _ = _
    rw [readMembers_congr (skipBlanks_lineBreak.trans rfl), readMembers_of_member hnext, hmembers]
    rfl

end

/-- **Every value is read back from its text**, in either layout. -/
theorem parse_render (layout : Layout) (v : Json) : parse (v.render layout) = some v := by
  have h := readValue_write layout v 0 (3 * (write layout 0 v).length + 3) [] endsNumber_nil
    (by omega)
  rw [List.append_nil] at h
  rw [parse, render, String.toList_ofList, h]
  rfl

end Json
end JoinWizard
