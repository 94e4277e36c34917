/-
# Literals are read back as they were written

A string literal ends at its closing quote, whatever stands behind it.  A number literal ends where
no digit, point or exponent follows (`Json.EndsNumber`), which is so before a comma, a bracket, a
line break and at the end of a text.

| literal | written | read back as |
| --- | --- | --- |
| the text `s` | `s` between quotes, escaped character by character | `some s` |
| no text | an unpaired surrogate escape | `none` |
| the integer `n` | its decimal digits, after a minus sign if it is negative | `some n` |
| no integer | a minus zero | `none` |
-/

import JoinWizard.Json.Parser
import JoinWizard.Json.Printer
import JoinWizard.Proofs.Text.Runs

namespace JoinWizard
namespace Json

/-! ## Blanks -/

theorem skipBlanks_of_not_blank {c : Char} {cs : List Char} (h : isBlank c = false) :
    skipBlanks (c :: cs) = c :: cs := by
  rw [skipBlanks, List.dropWhile_cons_of_neg (by rw [h]; decide)]

theorem skipBlanks_append {blanks cs : List Char} (h : ∀ c ∈ blanks, isBlank c = true) :
    skipBlanks (blanks ++ cs) = skipBlanks cs := by
  induction blanks with
  | nil => rfl
  | cons c blanks ih =>
    obtain ⟨hc, hblanks⟩ := List.forall_mem_cons.1 h
    rw [List.cons_append, skipBlanks, List.dropWhile_cons_of_pos hc]
    exact ih hblanks

theorem isBlank_of_mem_lineBreak {layout : Layout} {depth : Nat} {c : Char}
    (h : c ∈ layout.lineBreak depth) : isBlank c = true := by
  cases layout with
  | compact => simp [Layout.lineBreak] at h
  | indented =>
    rcases List.mem_cons.1 h with rfl | h
    · decide
    · rw [List.eq_of_mem_replicate h]
      decide

/-- A line break is skipped. -/
@[simp] theorem skipBlanks_lineBreak {layout : Layout} {depth : Nat} {cs : List Char} :
    skipBlanks (layout.lineBreak depth ++ cs) = skipBlanks cs :=
  skipBlanks_append fun _ => isBlank_of_mem_lineBreak

/-! ## Strings -/

/-- The hexadecimal digits of a control character give its number. -/
theorem hex4?_hexDigit :
    ∀ n < 0x20, hex4? '0' '0' (hexDigit (n / 16)) (hexDigit (n % 16)) = some n := by
  decide

theorem codeUnit_ofNat_toNat {c : Char} (h : c.toNat < 0x20) :
    CodeUnit.ofNat c.toNat = .char c := by
  rw [CodeUnit.ofNat, if_neg (by omega), Char.ofNat_toNat]

/-- A character that needs no escape is read as itself. -/
theorem readUnits_plain {c : Char} {cs : List Char} (hq : c ≠ '"') (hb : c ≠ '\\')
    (hc : ¬ c.toNat < 0x20) :
    readUnits (c :: cs) = (readUnits cs).map fun (units, rest) => (.char c :: units, rest) := by
  rw [readUnits]
  · rw [if_neg (by simp [hc, hb])]
    cases readUnits cs <;> rfl
  · exact hq
  · rintro a b c d r rfl
    exact absurd rfl hb
  · rintro c r rfl
    exact absurd rfl hb

/-- A character after a backslash is read as what it stands for. -/
theorem readUnits_shortEscape {e c : Char} {cs : List Char} (he : shortEscape? e = some c)
    (hu : e ≠ 'u') :
    readUnits ('\\' :: e :: cs) =
      (readUnits cs).map fun (units, rest) => (.char c :: units, rest) := by
  rw [readUnits]
  · rw [he]
    cases readUnits cs <;> rfl
  · rintro a b c d r rfl
    exact absurd rfl hu

/-- A control character is read from the digits of its number. -/
theorem readUnits_control {c : Char} {cs : List Char} (h : c.toNat < 0x20) :
    readUnits ('\\' :: 'u' :: '0' :: '0' ::
        hexDigit (c.toNat / 16) :: hexDigit (c.toNat % 16) :: cs) =
      (readUnits cs).map fun (units, rest) => (.char c :: units, rest) := by
  rw [readUnits, hex4?_hexDigit c.toNat h]
  cases readUnits cs <;> simp [codeUnit_ofNat_toNat h]

/-- **The written form of a character is read as the character.** -/
theorem readUnits_escape {c : Char} {cs : List Char} :
    readUnits (escape c ++ cs) =
      (readUnits cs).map fun (units, rest) => (.char c :: units, rest) := by
  rw [escape]
  split
  · next h =>
    subst h
    exact readUnits_shortEscape rfl (by decide)
  split
  · next h =>
    subst h
    exact readUnits_shortEscape rfl (by decide)
  split
  · next h =>
    subst h
    exact readUnits_shortEscape rfl (by decide)
  split
  · next h =>
    subst h
    exact readUnits_shortEscape rfl (by decide)
  split
  · next h =>
    subst h
    exact readUnits_shortEscape rfl (by decide)
  split
  · next h =>
    subst h
    exact readUnits_shortEscape rfl (by decide)
  split
  · next h =>
    subst h
    exact readUnits_shortEscape rfl (by decide)
  split
  · next h => exact readUnits_control h
  · next hq hb _ _ _ _ _ h => exact readUnits_plain hq hb h

theorem readUnits_flatMap_escape {cs rest : List Char} :
    readUnits (cs.flatMap escape ++ '"' :: rest) = some (cs.map .char, rest) := by
  induction cs with
  | nil => rfl
  | cons c cs ih =>
    rw [List.flatMap_cons, List.append_assoc, readUnits_escape, ih]
    rfl

theorem joinUnits_map_char {cs : List Char} : joinUnits (cs.map .char) = some cs := by
  induction cs with
  | nil => rfl
  | cons c cs ih =>
    rw [List.map_cons, joinUnits, ih]
    rfl

/-- The literal that denotes no text is read as none. -/
theorem readString_surrogate {rest : List Char} :
    readString ('\\' :: 'u' :: 'd' :: '8' :: '0' :: '0' :: '"' :: rest) = some (none, rest) := by
  have h : hex4? 'd' '8' '0' '0' = some 0xD800 := by decide
  simp [readString, readUnits, h, CodeUnit.ofNat, joinUnits]

theorem writeString_none :
    writeString none = ['"', '\\', 'u', 'd', '8', '0', '0', '"'] := by
  decide

/-- **A string literal is read back**, whatever stands behind it. -/
theorem readString_writeString (s : Option String) (rest : List Char) :
    ∃ cs, writeString s ++ rest = '"' :: cs ∧ readString cs = some (s, rest) := by
  cases s with
  | none =>
    refine ⟨'\\' :: 'u' :: 'd' :: '8' :: '0' :: '0' :: '"' :: rest, ?_, readString_surrogate⟩
    rw [writeString_none]
    rfl
  | some s =>
    refine ⟨s.toList.flatMap escape ++ '"' :: rest, ?_, ?_⟩
    · show ('"' :: s.toList.flatMap escape ++ ['"']) ++ rest = _
      rw [List.append_assoc, List.cons_append, List.singleton_append]
    · simp only [readString, readUnits_flatMap_escape, Option.bind_eq_bind, Option.bind_some,
        joinUnits_map_char, Option.map_some, String.ofList_toList, Option.pure_def]

/-! ## Numbers -/

/-- Whether a number literal ends before the given characters: none of them continues it. -/
def EndsNumber (cs : List Char) : Prop :=
  ∀ c ∈ cs.head?, c.isDigit = false ∧ c ≠ '.' ∧ c ≠ 'e' ∧ c ≠ 'E'

theorem endsNumber_nil : EndsNumber [] := by
  intro c h
  cases h

theorem endsNumber_cons {c : Char} {cs : List Char}
    (h : c.isDigit = false ∧ c ≠ '.' ∧ c ≠ 'e' ∧ c ≠ 'E') : EndsNumber (c :: cs) := by
  intro d hd
  rw [List.head?_cons, Option.mem_some_iff] at hd
  exact hd ▸ h

theorem isDigit_of_mem_toDigits {n : Nat} {c : Char} (h : c ∈ Nat.toDigits 10 n) :
    c.isDigit = true :=
  Nat.isDigit_of_mem_toDigits (by decide) (by decide) h

/-- The decimal digits of a number that is not zero do not begin with a zero. -/
theorem head?_toDigits_ne_zero {n : Nat} (hn : 0 < n) : (Nat.toDigits 10 n).head? ≠ some '0' := by
  induction n using Nat.base_induction 10 (by decide) with
  | single m hm =>
    rw [Nat.toDigits_of_lt_base hm]
    revert m
    decide
  | digit m k hk hm ih =>
    obtain ⟨c, digits, h⟩ := List.exists_cons_of_ne_nil (Nat.toDigits_ne_nil (n := m) (b := 10))
    rw [← Nat.toDigits_append_toDigits (by decide) hm hk, h]
    rw [h] at ih
    exact ih hm

variable {rest : List Char}

theorem takeWhile_digits {digits : List Char} (h : ∀ c ∈ digits, c.isDigit = true)
    (hr : EndsNumber rest) : (digits ++ rest).takeWhile Char.isDigit = digits :=
  takeWhile_append_of_stop h fun c hc => (hr c hc).1

theorem dropWhile_digits {digits : List Char} (h : ∀ c ∈ digits, c.isDigit = true)
    (hr : EndsNumber rest) : (digits ++ rest).dropWhile Char.isDigit = rest :=
  dropWhile_append_of_stop h fun c hc => (hr c hc).1

/-- The decimal digits of a number are read to their end. -/
theorem readDigits_toDigits (n : Nat) (hr : EndsNumber rest) :
    readDigits (Nat.toDigits 10 n ++ rest) = some (Nat.toDigits 10 n, rest) := by
  have hdigits : ∀ c ∈ Nat.toDigits 10 n, c.isDigit = true := fun _ => isDigit_of_mem_toDigits
  rcases Nat.eq_zero_or_pos n with rfl | hn
  · rw [Nat.toDigits_zero]
    rfl
  · obtain ⟨c, digits, hcons⟩ := List.exists_cons_of_ne_nil (Nat.toDigits_ne_nil (n := n) (b := 10))
    have hc : c ≠ '0' := by
      rintro rfl
      exact head?_toDigits_ne_zero hn (by rw [hcons]; rfl)
    rw [readDigits]
    · rw [takeWhile_digits hdigits hr, dropWhile_digits hdigits hr, hcons]
    · intro r h
      rw [hcons, List.cons_append] at h
      exact hc (List.cons.inj h).1

theorem decimal_toDigits (n : Nat) : decimal (Nat.toDigits 10 n) = n :=
  Nat.ofDigitChars_ten_toDigits

theorem readFraction_of_endsNumber (hr : EndsNumber rest) :
    readFraction rest = some (false, rest) := by
  rw [readFraction]
  rintro r rfl
  exact (hr '.' rfl).2.1 rfl

theorem readExponent_of_endsNumber (hr : EndsNumber rest) :
    readExponent rest = some (false, rest) := by
  rw [readExponent]
  · rintro r rfl
    exact (hr 'e' rfl).2.2.1 rfl
  · rintro r rfl
    exact (hr 'E' rfl).2.2.2 rfl

theorem writeNumber_natCast (n : Nat) : writeNumber (some n) = Nat.toDigits 10 n := by
  rw [writeNumber, Int.toString_eq_repr, Int.repr_eq_if, if_pos (Int.natCast_nonneg n),
    Int.toNat_natCast, Nat.toList_repr]

theorem writeNumber_negSucc (n : Nat) :
    writeNumber (some (Int.negSucc n)) = '-' :: Nat.toDigits 10 (n + 1) := by
  rw [writeNumber, Int.toString_eq_repr, Int.repr_eq_if, if_neg (by omega), String.toList_append,
    Nat.toList_repr]
  rfl

theorem writeNumber_none : writeNumber none = ['-', '0'] := by
  decide

/-- A number literal begins with a minus sign or a digit. -/
theorem head_writeNumber (n : Option Int) :
    ∃ c cs, writeNumber n = c :: cs ∧ (c = '-' ∨ c.isDigit = true) := by
  cases n with
  | none => exact ⟨_, _, writeNumber_none, .inl rfl⟩
  | some n =>
    cases n with
    | ofNat n =>
      obtain ⟨c, digits, h⟩ := List.exists_cons_of_ne_nil (Nat.toDigits_ne_nil (n := n) (b := 10))
      refine ⟨c, digits, (writeNumber_natCast n).trans h, .inr ?_⟩
      exact isDigit_of_mem_toDigits (n := n) (by simp [h])
    | negSucc n => exact ⟨_, _, writeNumber_negSucc n, .inl rfl⟩

/-- **A number literal is read back** where it ends. -/
theorem readNumber_writeNumber (n : Option Int) (hr : EndsNumber rest) :
    readNumber (writeNumber n ++ rest) = some (n, rest) := by
  have hplain := readFraction_of_endsNumber hr
  have hwhole := readExponent_of_endsNumber hr
  cases n with
  | none =>
    rw [writeNumber_none]
    simp [readNumber, readDigits, hplain, hwhole, decimal]
  | some n =>
    cases n with
    | ofNat n =>
      obtain ⟨c, digits, hcons⟩ :=
        List.exists_cons_of_ne_nil (Nat.toDigits_ne_nil (n := n) (b := 10))
      have hminus : c ≠ '-' := by
        rintro rfl
        exact absurd (isDigit_of_mem_toDigits (n := n) (c := '-') (by simp [hcons])) (by decide)
      have hdigits : readDigits (c :: (digits ++ rest)) = some (c :: digits, rest) := by
        rw [← List.cons_append, ← hcons]
        exact readDigits_toDigits n hr
      have hvalue : decimal (c :: digits) = n := by
        rw [← hcons]
        exact decimal_toDigits n
      rw [show Int.ofNat n = (n : Int) from rfl, writeNumber_natCast, hcons, List.cons_append]
      simp [readNumber, hminus, hdigits, hplain, hwhole, hvalue]
    | negSucc n =>
      rw [writeNumber_negSucc]
      simp [readNumber, readDigits_toDigits _ hr, hplain, hwhole, decimal_toDigits,
        Int.negSucc_eq]

end Json
end JoinWizard
