/-
# Which sources a context tells apart

A saved configuration is given out in its own context, so a context has to stand for one source: a
driver and a connection string.  It is the digest of the two texts with a zero byte between them.
The zero is neither escaped in the texts nor is a length written, so the bytes say where the driver
ends only if the texts hold no zeros of their own:

| driver | connection string | bytes |
| --- | --- | --- |
| `js` | `on./shop` | `js`, 0, `on./shop` |
| `json` | `./shop` | `json`, 0, `./shop` |
| `js`, 0, `on` | `./shop` | `js`, 0, `on`, 0, `./shop` |
| `js` | `on`, 0, `./shop` | `js`, 0, `on`, 0, `./shop` |

Two connections have the same bytes if and only if they have one source or one is the other
*shifted*, with the zero that ends the driver taken for one within it (`contextBytes_eq_iff`).  A
shift needs a zero in the longer driver and a zero in the other connection string.  Everywhere else
contexts tell sources apart, unless two byte strings with one digest turn up.
-/

import JoinWizard.Proofs.Session.Commit
import JoinWizard.Proofs.Store.History

namespace JoinWizard

/-! ## Bytes -/

theorem toList_loop_eq (bytes : ByteArray) (i : Nat) (read : List UInt8) :
    ByteArray.toList.loop bytes i read = read.reverse ++ bytes.data.toList.drop i := by
  fun_induction ByteArray.toList.loop bytes i read with
  | case1 i read hi ih =>
    have hlt : i < bytes.data.toList.length := hi
    have hget : bytes.get! i = bytes.data.toList[i] := getElem!_pos bytes.data i hi
    rw [ih, List.drop_eq_getElem_cons hlt, hget, List.reverse_cons, List.append_assoc]
    rfl
  | case2 i read hi =>
    have hle : bytes.data.toList.length ≤ i := Nat.le_of_not_lt hi
    rw [List.drop_eq_nil_of_le hle, List.append_nil]

theorem toList_byteArray (bytes : ByteArray) : bytes.toList = bytes.data.toList :=
  toList_loop_eq bytes 0 []

/-- Texts with the same bytes are the same. -/
theorem toList_toUTF8_inj {s t : String} : s.toUTF8.toList = t.toUTF8.toList ↔ s = t := by
  rw [toList_byteArray, toList_byteArray, Array.toList_inj, ← ByteArray.ext_iff]
  exact String.toByteArray_inj

theorem toList_toUTF8_append (s t : String) :
    (s ++ t).toUTF8.toList = s.toUTF8.toList ++ t.toUTF8.toList := by
  simp only [toList_byteArray]
  show (s ++ t).toByteArray.data.toList = _
  rw [String.toByteArray_append, ByteArray.toList_data_append]
  rfl

/-- **Two texts with a separator between them are cut at one place, or each is cut where the other
has a separator within a part.** -/
theorem append_cons_eq_append_cons {α : Type} {a : α} {xs ys us vs : List α} :
    xs ++ a :: ys = us ++ a :: vs ↔
      (xs = us ∧ ys = vs) ∨ (∃ ws, xs = us ++ a :: ws ∧ vs = ws ++ a :: ys) ∨
        ∃ ws, us = xs ++ a :: ws ∧ ys = ws ++ a :: vs := by
  rw [List.append_eq_append_iff]
  constructor
  · rintro (⟨ws, hus, hrest⟩ | ⟨ws, hxs, hrest⟩)
    · cases ws with
      | nil => exact .inl ⟨by simpa using hus.symm, (List.cons.inj hrest).2⟩
      | cons w ws =>
        obtain ⟨rfl, hys⟩ := List.cons.inj hrest
        exact .inr (.inr ⟨ws, hus, hys⟩)
    · cases ws with
      | nil => exact .inl ⟨by simpa using hxs, (List.cons.inj hrest).2.symm⟩
      | cons w ws =>
        obtain ⟨rfl, hvs⟩ := List.cons.inj hrest
        exact .inr (.inl ⟨ws, hxs, hvs⟩)
  · rintro (⟨rfl, rfl⟩ | ⟨ws, rfl, rfl⟩ | ⟨ws, rfl, rfl⟩)
    · exact .inl ⟨[], (List.append_nil _).symm, rfl⟩
    · exact .inr ⟨a :: ws, rfl, rfl⟩
    · exact .inl ⟨a :: ws, rfl, rfl⟩

namespace Sha256

/-- Two byte strings with one digest. -/
def Collide (a b : List UInt8) : Prop := a ≠ b ∧ digest a = digest b

theorem digitChar_inj : ∀ m < 16, ∀ n < 16, Nat.digitChar m = Nat.digitChar n → m = n := by
  decide

/-- The digits of bytes tell the bytes. -/
theorem flatMap_hexByte_inj : ∀ {xs ys : List UInt8},
    xs.flatMap hexByte = ys.flatMap hexByte → xs = ys
  | [], [], _ => rfl
  | [], _ :: _, h => by simp [hexByte] at h
  | _ :: _, [], h => by simp [hexByte] at h
  | x :: xs, y :: ys, h => by
    simp only [List.flatMap_cons, hexByte, List.cons_append, List.nil_append,
      List.cons.injEq] at h
    obtain ⟨hhigh, hlow, hrest⟩ := h
    have hx := x.toNat_lt
    have hy := y.toNat_lt
    have hdiv := digitChar_inj _ (by omega) _ (by omega) hhigh
    have hmod := digitChar_inj _ (by omega) _ (by omega) hlow
    have hxy : x = y := UInt8.toNat_inj.1 (by omega)
    rw [hxy, flatMap_hexByte_inj hrest]

theorem hexDigest_eq_iff {a b : List UInt8} : hexDigest a = hexDigest b ↔ digest a = digest b := by
  constructor
  · intro h
    exact flatMap_hexByte_inj (String.ofList_injective h)
  · intro h
    rw [hexDigest, hexDigest, h]

end Sha256

namespace Connection

variable {c d : Connection}

/-- Whether two connections reach one source. -/
def SameSource (c d : Connection) : Prop :=
  c.driver = d.driver ∧ c.connectionString = d.connectionString

/-- Whether a connection is another one shifted: its driver is the other's driver, a zero and a
text; the other's connection string is that text, a zero and its own connection string. -/
def Shifts (c d : Connection) : Prop :=
  ∃ text, c.driver = d.driver ++ "\x00" ++ text ∧
    d.connectionString = text ++ "\x00" ++ c.connectionString

/-- The bytes of a context are those of one text. -/
theorem contextBytes_eq (c : Connection) :
    c.contextBytes = (c.driver ++ "\x00" ++ c.connectionString).toUTF8.toList := by
  have hzero : "\x00".toUTF8.toList = [0] := by
    rw [toList_byteArray]
    rfl
  rw [toList_toUTF8_append, toList_toUTF8_append, hzero, List.append_assoc]
  rfl

theorem shifts_iff :
    c.Shifts d ↔ ∃ text, c.driver.toList = d.driver.toList ++ '\x00' :: text ∧
      d.connectionString.toList = text ++ '\x00' :: c.connectionString.toList := by
  constructor
  · rintro ⟨text, hdriver, hstring⟩
    exact ⟨text.toList, by simp [hdriver], by simp [hstring]⟩
  · rintro ⟨text, hdriver, hstring⟩
    exact ⟨.ofList text, String.toList_inj.1 (by simp [hdriver]),
      String.toList_inj.1 (by simp [hstring])⟩

/-- **Contexts are taken of the same bytes if and only if the connections have one source or one is
the other shifted.** -/
theorem contextBytes_eq_iff :
    c.contextBytes = d.contextBytes ↔ c.SameSource d ∨ c.Shifts d ∨ d.Shifts c := by
  have hzero : "\x00".toList = ['\x00'] := rfl
  rw [contextBytes_eq, contextBytes_eq, toList_toUTF8_inj, ← String.toList_inj]
  simp only [String.toList_append, hzero, List.append_assoc, List.singleton_append]
  rw [append_cons_eq_append_cons, String.toList_inj, String.toList_inj, shifts_iff, shifts_iff,
    SameSource]

/-- A shift is of another source: it has a longer driver. -/
theorem Shifts.not_sameSource (h : c.Shifts d) : ¬c.SameSource d := by
  obtain ⟨text, hdriver, -⟩ := shifts_iff.1 h
  intro hsame
  have hlength := congrArg List.length hdriver
  rw [hsame.1, List.length_append, List.length_cons] at hlength
  omega

/-- A shift takes a zero in the longer driver and one in the longer connection string. -/
theorem Shifts.zero_mem (h : c.Shifts d) :
    '\x00' ∈ c.driver.toList ∧ '\x00' ∈ d.connectionString.toList := by
  obtain ⟨text, hdriver, hstring⟩ := shifts_iff.1 h
  rw [hdriver, hstring]
  simp

theorem SameSource.symm (h : c.SameSource d) : d.SameSource c := ⟨h.1.symm, h.2.symm⟩

/-- The bytes tell the sources apart just where there is no shift. -/
theorem contextBytes_iff_sameSource_iff :
    (c.contextBytes = d.contextBytes ↔ c.SameSource d) ↔ ¬c.Shifts d ∧ ¬d.Shifts c := by
  rw [contextBytes_eq_iff]
  constructor
  · intro hiff
    exact ⟨fun h => h.not_sameSource (hiff.1 (.inr (.inl h))),
      fun h => h.not_sameSource (hiff.1 (.inr (.inr h))).symm⟩
  · rintro ⟨hc, hd⟩
    simp [hc, hd]

/-- Contexts of different bytes are the same only in a collision. -/
theorem context_eq_iff :
    c.context = d.context ↔
      c.contextBytes = d.contextBytes ∨ Sha256.Collide c.contextBytes d.contextBytes := by
  rw [context, context, Sha256.hexDigest_eq_iff, Sha256.Collide]
  by_cases hbytes : c.contextBytes = d.contextBytes <;> simp [hbytes]

/-! ## What is loaded -/

/-- **Contexts tell sources apart just where no connection is another one shifted.**  What was last
saved under a name for one connection is loaded for a second one if they have one source, and is
loaded as well if one is the other shifted; for any other connection it is not, unless the two byte
strings collide. -/
theorem separates_sources_iff (c d : Connection) :
    ((c.contextBytes = d.contextBytes ↔ c.SameSource d) ↔ ¬c.Shifts d ∧ ¬d.Shifts c) ∧
    (('\x00' ∈ c.driver.toList → '\x00' ∉ d.connectionString.toList) →
      ('\x00' ∈ d.driver.toList → '\x00' ∉ c.connectionString.toList) →
        ¬c.Shifts d ∧ ¬d.Shifts c) ∧
    (c.SameSource d → c.context = d.context) ∧
    ∀ (s : Store) (history : List Store.Event) (name : String) (r : DatasourceRecord),
      s.prepare.lastWritten history name = some (.ok r) → r.context = c.context →
        let loaded := (s.prepare.after history).loadConfig name d.context
        (c.SameSource d ∨ c.Shifts d ∨ d.Shifts c → loaded = .ok (some r.config)) ∧
        (¬c.SameSource d → ¬c.Shifts d → ¬d.Shifts c →
          loaded = .ok none ∨ Sha256.Collide c.contextBytes d.contextBytes) := by
  refine ⟨contextBytes_iff_sameSource_iff, ?_, fun h => context_congr h.1 h.2, ?_⟩
  · intro hc hd
    exact ⟨fun h => hc h.zero_mem.1 h.zero_mem.2, fun h => hd h.zero_mem.1 h.zero_mem.2⟩
  intro s history name r hlast hcontext loaded
  have hread : (s.prepare.after history).read name = some (.ok r) :=
    (Store.read_after (Store.ready_prepare s) history name).trans hlast
  have hloaded : loaded = .ok (if c.context = d.context then some r.config else none) := by
    rw [← hcontext]
    exact Store.loadConfig_of_read hread d.context
  constructor
  · intro h
    rw [hloaded, if_pos (context_eq_iff.2 (.inl (contextBytes_eq_iff.2 h)))]
  · intro hsource hc hd
    by_cases hcollide : Sha256.Collide c.contextBytes d.contextBytes
    · exact .inr hcollide
    · have hbytes : c.contextBytes ≠ d.contextBytes := by
        simp [contextBytes_eq_iff, hsource, hc, hd]
      have hne : c.context ≠ d.context := by
        simp [context_eq_iff, hbytes, hcollide]
      rw [hloaded, if_neg hne]
      exact .inl rfl

/-- The shop's configuration is loaded for the same source under another name, and for no other
shop. -/
theorem separates_sources_iff_shop :
    let c := Session.shop
    let d := Session.shopElsewhere
    let other : Connection := { c with connectionString := "other" }
    let store := Store.fresh.prepare.after [.commit Session.shopSession 0 "sales"]
    (c.contextBytes = d.contextBytes ↔ c.SameSource d) ∧ c.context = d.context ∧
      store.loadConfig "sales" d.context =
        .ok (some (Session.shopSession.snapshot "sales").toConfig) ∧
      (c.contextBytes = other.contextBytes ↔ c.SameSource other) ∧
      store.loadConfig "sales" other.context = .ok none := by
  intro c d other store
  have hlast : Store.fresh.prepare.lastWritten [.commit Session.shopSession 0 "sales"] "sales" =
      some (.ok (.ofSnapshot (Session.shopSession.snapshot "sales") 0)) :=
    Store.lastWritten_commit (by decide) [] (by simp)
  have hsame : c.SameSource d := ⟨rfl, rfl⟩
  have hother : ¬c.SameSource other := fun h => absurd h.2 (by decide)
  have hcollide : ¬Sha256.Collide c.contextBytes other.contextBytes := by
    rintro ⟨-, h⟩
    rw [contextBytes_eq, contextBytes_eq, toList_byteArray, toList_byteArray] at h
    exact absurd h (by decide +kernel)
  obtain ⟨hd, hdzero, hdcontext, hdload⟩ := separates_sources_iff c d
  obtain ⟨ho, hozero, -, holoads⟩ := separates_sources_iff c other
  have hdshift := hdzero (by decide) (by decide)
  have hoshift := hozero (by decide) (by decide)
  refine ⟨hd.2 hdshift, hdcontext hsame, ?_, ho.2 hoshift, ?_⟩
  · exact (hdload Store.fresh _ "sales" _ hlast rfl).1 (.inl hsame)
  · exact ((holoads Store.fresh _ "sales" _ hlast rfl).2 hother hoshift.1 hoshift.2).resolve_right
      hcollide

/-- **A configuration is loaded for another source**: a zero that belongs to the driver it was saved
under is taken for the one that ends it. -/
theorem loaded_across_sources :
    let c : Connection := ⟨"local", "js\x00on", "./shop", none⟩
    let d : Connection := ⟨"other", "js", "on\x00./shop", none⟩
    let session := (Session.start "first" c .flat none).after Session.shopHistory
    c.contextBytes = d.contextBytes ∧ ¬c.SameSource d ∧ session.connection = c ∧
      (Store.fresh.prepare.after [.commit session 0 "sales"]).loadConfig "sales" d.context =
        .ok (some (session.snapshot "sales").toConfig) := by
  intro c d session
  have hshifts : c.Shifts d := ⟨"on", rfl, rfl⟩
  have hbytes : c.contextBytes = d.contextBytes := contextBytes_eq_iff.2 (.inr (.inl hshifts))
  have hlast : Store.fresh.prepare.lastWritten [.commit session 0 "sales"] "sales" =
      some (.ok (.ofSnapshot (session.snapshot "sales") 0)) :=
    Store.lastWritten_commit (by decide) [] (by simp)
  have hread := (Store.read_after (Store.ready_prepare .fresh) _ "sales").trans hlast
  refine ⟨hbytes, hshifts.not_sameSource, rfl, ?_⟩
  rw [Store.loadConfig_of_read hread d.context]
  exact congrArg _ (if_pos (context_eq_iff.2 (.inl hbytes)))

end Connection
end JoinWizard
