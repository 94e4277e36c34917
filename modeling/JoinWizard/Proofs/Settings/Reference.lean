/-
# References are read as they are written

A text with references is the written form of a row of tokens:

| token | has | and may not stand before |
| --- | --- | --- |
| literal | a text that is not empty, without `$` | |
| braced reference | a name that is not empty, without a closing brace | |
| bare reference | a name that is not empty, of letters, numbers and `_` | one of these |
| dollar | | one of these, or an opening brace |

Such a row is read back from its written form, with literals that stand side by side joined
(`scan_render`).  It may also have something after it that no row of tokens is written as: a `$` and
an opening brace with no name or no closing brace behind them.  Every text is one of the two
(`exists_splits`), so what a text is expanded to need only be said of rows of tokens
(`expand_reads_tokens`).
-/

import JoinWizard.Proofs.Text.Runs
import JoinWizard.Proofs.Workspace
import JoinWizard.Settings.Reference
import Mathlib.Data.List.Chain

namespace JoinWizard
namespace Reference

/-! ## Rows of tokens -/

namespace Token

/-- Whether a token has a text or a name of its kind. -/
def IsFormed : Token → Prop
  | literal text => text ≠ [] ∧ '$' ∉ text
  | braced name => name ≠ [] ∧ '}' ∉ name
  | bare name => name ≠ [] ∧ name.all isNameChar = true
  | dollar => True

/-- Whether a token may stand before a character, which is then not read as a part of it. -/
def MayPrecede : Token → Char → Prop
  | literal _, _ => True
  | braced _, _ => True
  | bare _, c => isNameChar c = false
  | dollar, c => c ≠ '{' ∧ isNameChar c = false

instance : DecidablePred IsFormed
  | literal text => inferInstanceAs (Decidable (text ≠ [] ∧ '$' ∉ text))
  | braced name => inferInstanceAs (Decidable (name ≠ [] ∧ '}' ∉ name))
  | bare name => inferInstanceAs (Decidable (name ≠ [] ∧ name.all isNameChar = true))
  | dollar => inferInstanceAs (Decidable True)

instance : ∀ (t : Token) (c : Char), Decidable (t.MayPrecede c)
  | literal _, _ => inferInstanceAs (Decidable True)
  | braced _, _ => inferInstanceAs (Decidable True)
  | bare _, c => inferInstanceAs (Decidable (isNameChar c = false))
  | dollar, c => inferInstanceAs (Decidable (c ≠ '{' ∧ isNameChar c = false))

/-- Whether a token does not take up the beginning of another one. -/
def MayStandBefore (t u : Token) : Prop := ∀ c ∈ u.render.head?, t.MayPrecede c

instance (t u : Token) : Decidable (t.MayStandBefore u) :=
  Option.decidableForallMem u.render.head?

/-- What a token stands for in an environment. -/
def value (env : String → Option String) (t : Token) : List Char :=
  match t.variableName? with
  | none => t.render
  | some name => ((env name).getD "").toList

theorem mayPrecede_dollar (t : Token) : t.MayPrecede '$' := by
  cases t with
  | literal text => exact trivial
  | braced name => exact trivial
  | bare name => exact (by decide : isNameChar '$' = false)
  | dollar => exact ⟨by decide, by decide⟩

theorem render_ne_nil {t : Token} (h : t.IsFormed) : t.render ≠ [] := by
  cases t with
  | literal text => exact h.1
  | braced name => exact List.cons_ne_nil _ _
  | bare name => exact List.cons_ne_nil _ _
  | dollar => exact List.cons_ne_nil _ _

end Token

/-- The written form of a row of tokens. -/
def render (tokens : List Token) : List Char := tokens.flatMap Token.render

/-- A token before a row of tokens: a literal before a literal is one with it. -/
def Token.joinTo : Token → List Token → List Token
  | literal text, literal next :: tokens => literal (text ++ next) :: tokens
  | t, tokens => t :: tokens

/-- A row of tokens, with literals that stand side by side joined. -/
def joined (tokens : List Token) : List Token := tokens.foldr Token.joinTo []

/-- The variables that tokens refer to, from left to right. -/
def references (tokens : List Token) : List String := tokens.filterMap Token.variableName?

/-- The leftmost variable that is referred to and has no value. -/
def unset? (env : String → Option String) (tokens : List Token) : Option String :=
  (references tokens).find? fun name => (env name).isNone

/-- The literal texts and the values of the variables, one after the other. -/
def expansion (env : String → Option String) (tokens : List Token) : String :=
  String.ofList (tokens.flatMap (Token.value env))

/-- Whether a row of tokens can be read back from its written form. -/
structure WellFormed (tokens : List Token) : Prop where
  formed : ∀ t ∈ tokens, t.IsFormed
  separate : tokens.IsChain Token.MayStandBefore

instance (tokens : List Token) : Decidable (WellFormed tokens) :=
  decidable_of_iff ((∀ t ∈ tokens, t.IsFormed) ∧ tokens.IsChain Token.MayStandBefore)
    ⟨fun h => ⟨h.1, h.2⟩, fun h => ⟨h.1, h.2⟩⟩

/-- A text that starts with a reference that cannot be read. -/
inductive Unreadable : List Char → Prop where
  | unnamed (rest : List Char) : Unreadable ('$' :: '{' :: '}' :: rest)
  | unclosed {rest : List Char} (h : '}' ∉ rest) : Unreadable ('$' :: '{' :: rest)

section

variable {env : String → Option String} {tokens : List Token} {t : Token}
  {cs rest unread : List Char}

@[simp] theorem render_cons : render (t :: tokens) = t.render ++ render tokens :=
  List.flatMap_cons

/-- A row of tokens starts with what its first token starts with. -/
theorem head?_render_cons (h : t.IsFormed) :
    (render (t :: tokens)).head? = t.render.head? := by
  rw [render_cons, List.head?_append_of_ne_nil _ (Token.render_ne_nil h)]

/-- A row is well-formed token by token. -/
theorem wellFormed_cons :
    WellFormed (t :: tokens) ↔
      t.IsFormed ∧ (∀ c ∈ (render tokens).head?, t.MayPrecede c) ∧ WellFormed tokens := by
  have hnext (h : ∀ u ∈ tokens, u.IsFormed) :
      (∀ u ∈ tokens.head?, t.MayStandBefore u) ↔
        ∀ c ∈ (render tokens).head?, t.MayPrecede c := by
    cases tokens with
    | nil => exact iff_of_true nofun nofun
    | cons u us =>
      rw [head?_render_cons (h u List.mem_cons_self)]
      exact ⟨fun h => h u rfl, fun h v hv => Option.some.inj hv ▸ h⟩
  constructor
  · rintro ⟨hformed, hseparate⟩
    obtain ⟨ht, hformed⟩ := List.forall_mem_cons.1 hformed
    obtain ⟨hfirst, hseparate⟩ := List.isChain_cons.1 hseparate
    exact ⟨ht, (hnext hformed).1 hfirst, hformed, hseparate⟩
  · rintro ⟨ht, hfirst, hformed, hseparate⟩
    exact ⟨List.forall_mem_cons.2 ⟨ht, hformed⟩,
      List.isChain_cons.2 ⟨(hnext hformed).2 hfirst, hseparate⟩⟩

/-! ## Scanning what was written -/

theorem scan_nil : scan [] = ([], []) := by
  rw [scan]

theorem scan_braced {name : List Char} (hne : name ≠ []) (hname : '}' ∉ name) :
    scan ((Token.braced name).render ++ rest) = (.braced name :: (scan rest).1, (scan rest).2) := by
  have hopen := decide_ne_of_notMem hname
  have hclose : ∀ c ∈ ('}' :: rest).head?, decide (c ≠ '}') = false := by
    rintro c ⟨⟩
    decide
  have htext : (Token.braced name).render ++ rest = '$' :: '{' :: (name ++ '}' :: rest) := by
    simp [Token.render]
  rw [htext, scan]
  split
  next h => rw [dropWhile_append_of_stop hopen hclose] at h; cases h
  next h =>
    rw [dropWhile_append_of_stop hopen hclose] at h
    obtain ⟨rfl, rfl⟩ := List.cons.inj h
    rw [takeWhile_append_of_stop hopen hclose]
    split
    next => exact absurd rfl hne
    next => rfl

theorem scan_bare {name : List Char} (hne : name ≠ []) (hname : ∀ c ∈ name, isNameChar c = true)
    (hrest : ∀ c ∈ rest.head?, isNameChar c = false) :
    scan ((Token.bare name).render ++ rest) = (.bare name :: (scan rest).1, (scan rest).2) := by
  have hbrace : ∀ r, name ++ rest = '{' :: r → False := by
    intro r hr
    cases name with
    | nil => exact hne rfl
    | cons c name =>
      obtain ⟨rfl, -⟩ := List.cons.inj hr
      exact absurd (hname '{' List.mem_cons_self) (by decide)
  rw [Token.render, List.cons_append, scan.eq_3 _ hbrace, takeWhile_append_of_stop hname hrest,
    dropWhile_append_of_stop hname hrest]
  split
  next => exact absurd rfl hne
  next => rfl

theorem scan_dollar (hrest : ∀ c ∈ rest.head?, c ≠ '{' ∧ isNameChar c = false) :
    scan (Token.dollar.render ++ rest) = (.dollar :: (scan rest).1, (scan rest).2) := by
  have hbrace : ∀ r, rest = '{' :: r → False := by
    rintro r rfl
    exact (hrest '{' rfl).1 rfl
  have htake : ([] ++ rest).takeWhile isNameChar = [] :=
    takeWhile_append_of_stop nofun fun c hc => (hrest c hc).2
  rw [List.nil_append] at htake
  rw [Token.render, List.cons_append, List.nil_append, scan.eq_3 _ hbrace, htake]

theorem scan_unreadable (h : Unreadable unread) : scan unread = ([], unread) := by
  cases h with
  | unnamed rest =>
    rw [scan]
    split
    next => rfl
    next => rw [List.takeWhile_cons_of_neg (by decide)]
  | @unclosed rest hopen =>
    have hdrop := List.dropWhile_eq_nil_iff.2 (decide_ne_of_notMem hopen)
    rw [scan]
    split
    next => rfl
    next h => rw [hdrop] at h; cases h

/-- A literal before what starts with `$` stays a token of its own. -/
theorem joinTo_scan_dollar {text : List Char} :
    (Token.literal text).joinTo (scan ('$' :: rest)).1 =
      .literal text :: (scan ('$' :: rest)).1 := by
  by_cases hbrace : ∃ r, rest = '{' :: r
  · obtain ⟨r, rfl⟩ := hbrace
    rw [scan]
    split
    next => rfl
    next => split <;> rfl
  · rw [scan.eq_3 _ fun r hr => hbrace ⟨r, hr⟩]
    split <;> rfl

/-- A character other than `$` is read up to the next `$`. -/
theorem scan_plain {c : Char} (hc : c ≠ '$') :
    scan (c :: cs) =
      (.literal (c :: cs.takeWhile (· ≠ '$')) :: (scan (cs.dropWhile (· ≠ '$'))).1,
        (scan (cs.dropWhile (· ≠ '$'))).2) := by
  rw [scan.eq_4 _ _ (fun _ h _ => hc h) hc]

/-- A literal takes up the literal behind it. -/
theorem scan_literal {text : List Char} (hne : text ≠ []) (htext : '$' ∉ text) :
    scan (text ++ rest) = ((Token.literal text).joinTo (scan rest).1, (scan rest).2) := by
  obtain ⟨c, text, rfl⟩ := List.exists_cons_of_ne_nil hne
  obtain ⟨hc, htext⟩ := not_or.1 (mt List.mem_cons.2 htext)
  have hplain := decide_ne_of_notMem htext
  rw [List.cons_append, scan_plain (Ne.symm hc), List.takeWhile_append_of_pos hplain,
    List.dropWhile_append_of_pos hplain]
  cases rest with
  | nil => simp [scan_nil, Token.joinTo]
  | cons d rest =>
    by_cases hd : d = '$'
    · subst hd
      rw [joinTo_scan_dollar, List.takeWhile_cons_of_neg (by decide),
        List.dropWhile_cons_of_neg (by decide), List.append_nil]
    · have hplain : decide (d ≠ '$') = true := decide_eq_true hd
      rw [scan_plain hd, List.takeWhile_cons_of_pos (p := (· ≠ '$')) hplain,
        List.dropWhile_cons_of_pos (p := (· ≠ '$')) hplain]
      rfl

/-- A token is read back from its written form, if what comes next is no part of it. -/
theorem scan_token (ht : t.IsFormed) (hrest : ∀ c ∈ rest.head?, t.MayPrecede c) :
    scan (t.render ++ rest) = (t.joinTo (scan rest).1, (scan rest).2) := by
  cases t with
  | literal text => exact scan_literal ht.1 ht.2
  | braced name => exact scan_braced ht.1 ht.2
  | bare name => exact scan_bare ht.1 (List.all_eq_true.1 ht.2) hrest
  | dollar => exact scan_dollar hrest

/-- What cannot be read is no part of the token before it. -/
theorem mayPrecede_unread (hunread : unread = [] ∨ Unreadable unread)
    (h : ∀ c ∈ (render tokens).head?, t.MayPrecede c) :
    ∀ c ∈ (render tokens ++ unread).head?, t.MayPrecede c := by
  cases hrender : render tokens with
  | cons d cs =>
    rw [hrender] at h
    exact h
  | nil =>
    rcases hunread with rfl | ⟨_⟩ | _
    · exact nofun
    all_goals
      rintro _ ⟨⟩
      exact t.mayPrecede_dollar

/-- **A well-formed row of tokens is read back from its written form**, literals that stand side by
side joined, and what cannot be read is left. -/
theorem scan_render (h : WellFormed tokens) (hunread : unread = [] ∨ Unreadable unread) :
    scan (render tokens ++ unread) = (joined tokens, unread) := by
  induction tokens with
  | nil =>
    rcases hunread with rfl | hunread
    · exact scan_nil
    · exact scan_unreadable hunread
  | cons t tokens ih =>
    obtain ⟨ht, hnext, h⟩ := wellFormed_cons.1 h
    rw [render_cons, List.append_assoc, scan_token ht (mayPrecede_unread hunread hnext), ih h]
    rfl

/-! ## Every text is written so -/

/-- Whether a text is the written form of a row of tokens, up to a reference that cannot be read. -/
structure Splits (cs : List Char) (tokens : List Token) (unread : List Char) : Prop where
  wellFormed : WellFormed tokens
  unreadable : unread = [] ∨ Unreadable unread
  text_eq : cs = render tokens ++ unread

theorem splits_nil (h : unread = [] ∨ Unreadable unread) : Splits unread [] unread :=
  ⟨⟨nofun, .nil⟩, h, rfl⟩

theorem Splits.cons (h : Splits rest tokens unread) (ht : t.IsFormed)
    (hrest : ∀ c ∈ rest.head?, t.MayPrecede c) :
    Splits (t.render ++ rest) (t :: tokens) unread where
  wellFormed := by
    refine wellFormed_cons.2 ⟨ht, fun c hc => hrest c ?_, h.wellFormed⟩
    rw [h.text_eq, List.head?_append, Option.mem_def.1 hc]
    rfl
  unreadable := h.unreadable
  text_eq := by rw [render_cons, List.append_assoc, ← h.text_eq]

/-- **Every text is the written form of a well-formed row of tokens**, or of one with a reference
behind it that cannot be read. -/
theorem exists_splits (cs : List Char) : ∃ tokens unread, Splits cs tokens unread := by
  -- The text is cut where the scanner cuts it.
  induction cs using scan.induct with
  | case1 => exact ⟨[], [], splits_nil (.inl rfl)⟩
  | case2 r hopen =>
    have hbrace : '}' ∉ r := fun h => by
      have := List.dropWhile_eq_nil_iff.1 hopen '}' h
      cases this
    exact ⟨[], _, splits_nil (.inr (.unclosed hbrace))⟩
  | case3 r c rest hclose hname =>
    have hr := takeWhile_append_stop hclose
    rw [hname, List.nil_append] at hr
    exact ⟨[], _, splits_nil (.inr (hr ▸ .unnamed rest))⟩
  | case4 r c rest hclose tokens tail hscan hname ih =>
    obtain ⟨tokens, unread, h⟩ := ih
    have hsplits := h.cons (t := .braced (r.takeWhile (· ≠ '}')))
      ⟨hname, notMem_takeWhile_ne⟩ fun _ _ => trivial
    have htext : (Token.braced (r.takeWhile (· ≠ '}'))).render ++ rest = '$' :: '{' :: r := by
      rw [Token.render, List.cons_append, List.cons_append, List.append_assoc]
      exact congrArg ('$' :: '{' :: ·) (takeWhile_append_stop hclose)
    exact ⟨_, _, htext ▸ hsplits⟩
  | case5 r hbrace hname tokens tail hscan ih =>
    obtain ⟨tokens, unread, h⟩ := ih
    have hrest : r.dropWhile isNameChar = r := by
      have hr := List.takeWhile_append_dropWhile (p := isNameChar) (l := r)
      rwa [hname] at hr
    refine ⟨_, _, h.cons (t := .dollar) trivial fun c hc => ⟨?_, ?_⟩⟩
    · rintro rfl
      obtain ⟨r, rfl⟩ := List.head?_eq_some_iff.1 hc
      exact hbrace r rfl
    · rw [← hrest] at hc
      exact eq_false_of_mem_head?_dropWhile hc
  | case6 r hbrace tokens tail hscan hname ih =>
    obtain ⟨tokens, unread, h⟩ := ih
    have hsplits := h.cons (t := .bare (r.takeWhile isNameChar))
      ⟨hname, List.all_takeWhile⟩
      fun c hc => eq_false_of_mem_head?_dropWhile hc
    rw [Token.render, List.cons_append, List.takeWhile_append_dropWhile] at hsplits
    exact ⟨_, _, hsplits⟩
  | case7 c r _ hc tokens tail hscan ih =>
    obtain ⟨tokens, unread, h⟩ := ih
    have hsplits := h.cons (t := .literal (c :: r.takeWhile (· ≠ '$')))
      ⟨List.cons_ne_nil _ _, fun h =>
        (List.mem_cons.1 h).elim (fun h => hc h.symm) notMem_takeWhile_ne⟩
      fun _ _ => trivial
    rw [Token.render, List.cons_append, List.takeWhile_append_dropWhile] at hsplits
    exact ⟨_, _, hsplits⟩

/-! ## Expansion -/

theorem references_cons :
    references (t :: tokens) = t.variableName?.toList ++ references tokens := by
  rw [references, List.filterMap_cons]
  cases t.variableName? <;> rfl

theorem references_joinTo : references (t.joinTo tokens) = references (t :: tokens) := by
  unfold Token.joinTo
  split <;> rfl

theorem flatMap_value_joinTo :
    (t.joinTo tokens).flatMap (Token.value env) = (t :: tokens).flatMap (Token.value env) := by
  unfold Token.joinTo
  split
  · exact List.append_assoc _ _ _
  · rfl

/-- Joining literals does not change what is referred to. -/
theorem references_joined : references (joined tokens) = references tokens := by
  induction tokens with
  | nil => rfl
  | cons t tokens ih =>
    rw [references_cons, ← ih, ← references_cons, ← references_joinTo]
    rfl

/-- Joining literals does not change what tokens stand for. -/
theorem flatMap_value_joined :
    (joined tokens).flatMap (Token.value env) = tokens.flatMap (Token.value env) := by
  induction tokens with
  | nil => rfl
  | cons t tokens ih =>
    rw [List.flatMap_cons, ← ih, ← List.flatMap_cons, ← flatMap_value_joinTo]
    rfl

/-- The first token decides, and the tokens after it if it has what it needs. -/
theorem unset?_cons :
    unset? env (t :: tokens) =
      (t.variableName?.filter fun name => (env name).isNone).or (unset? env tokens) := by
  rw [unset?, references_cons, List.find?_append]
  cases t.variableName? with
  | none => rfl
  | some name =>
    rw [Option.toList_some, List.find?_singleton, Option.filter_some]
    rfl

end

section

variable {σ : Type} {value? : String → StateM σ (Option String)} {env : String → Option String}
  {w : σ} {tokens : List Token} {unread : List Char}

theorem run_expand_token (hreads : ∀ name, (value? name).run w = (env name, w)) (t : Token) :
    (t.expand value?).run.run w =
      (match t.variableName?.filter fun name => (env name).isNone with
        | some name => .error (.unset name)
        | none => .ok (t.value env), w) := by
  have hread (name : String) :
      (liftM (value? name) : ExceptT ReferenceError (StateM σ) _).run.run w =
        (.ok (env name), w) := by
    show (Except.ok ((value? name).run w).1, ((value? name).run w).2) = _
    rw [hreads]
  unfold Token.expand Token.value
  cases t.variableName? with
  | none => rfl
  | some name =>
    rw [Option.filter_some]
    dsimp only
    rw [run_bind_ok (hread name)]
    cases env name <;> rfl

/-- **Tokens are expanded from left to right**, up to the first that is not set. -/
theorem run_mapM_expand (hreads : ∀ name, (value? name).run w = (env name, w))
    (tokens : List Token) :
    (tokens.mapM (Token.expand value?)).run.run w =
      (match unset? env tokens with
        | some name => .error (.unset name)
        | none => .ok (tokens.map (Token.value env)), w) := by
  induction tokens with
  | nil => rfl
  | cons t tokens ih =>
    have htoken := run_expand_token hreads t
    rw [List.mapM_cons, unset?_cons]
    cases hfirst : t.variableName?.filter fun name => (env name).isNone with
    | some name =>
      rw [hfirst] at htoken
      exact run_bind_error htoken
    | none =>
      rw [hfirst] at htoken
      rw [run_bind_ok htoken, Option.none_or]
      cases hrest : unset? env tokens with
      | some name =>
        rw [hrest] at ih
        exact run_bind_error ih
      | none =>
        rw [hrest] at ih
        exact run_bind_ok ih

/-- **What a text is expanded to is a matter of the row of tokens it is written from.** -/
theorem run_expand (hreads : ∀ name, (value? name).run w = (env name, w)) {text : String}
    (h : Splits text.toList tokens unread) :
    (expand value? text).run.run w =
      (match unset? env tokens with
        | some name => .error (.unset name)
        | none => if unread = [] then .ok (expansion env tokens) else .error (.malformed text),
        w) := by
  have hscan : scan text.toList = (joined tokens, unread) := by
    rw [h.text_eq, scan_render h.wellFormed h.unreadable]
  have htokens := run_mapM_expand hreads (joined tokens)
  have hunset : unset? env (joined tokens) = unset? env tokens := by
    rw [unset?, references_joined, unset?]
  rw [hunset] at htokens
  unfold expand
  rw [hscan]
  dsimp only
  cases hfirst : unset? env tokens with
  | some name =>
    rw [hfirst] at htokens
    exact run_bind_error htokens
  | none =>
    rw [hfirst] at htokens
    rw [run_bind_ok htokens]
    cases unread with
    | nil =>
      rw [expansion, ← flatMap_value_joined]
      rfl
    | cons c unread => rfl

/-- **References are read as they are written.**  A well-formed row of tokens is expanded to its
literal texts and the values of its variables, which are taken as they are; if a variable is not
set, the leftmost one is reported.  A row with a reference behind it that cannot be read is reported
as malformed, with the whole text, unless a variable before that reference is not set.  Every text
is one of the two and not the other. -/
theorem expand_reads_tokens (hreads : ∀ name, (value? name).run w = (env name, w)) :
    (∀ tokens, WellFormed tokens →
      (expand value? (String.ofList (render tokens))).run.run w =
        (match unset? env tokens with
          | some name => .error (.unset name)
          | none => .ok (expansion env tokens), w)) ∧
    (∀ tokens unread, WellFormed tokens → Unreadable unread →
      let text := String.ofList (render tokens ++ unread)
      (expand value? text).run.run w =
        (.error (match unset? env tokens with
          | some name => .unset name
          | none => .malformed text), w)) ∧
    ∀ text, ∃! unread, (unread = [] ∨ Unreadable unread) ∧
      ∃ tokens, WellFormed tokens ∧ text = String.ofList (render tokens ++ unread) := by
  refine ⟨fun tokens h => ?_, fun tokens unread h hunread => ?_, fun text => ?_⟩
  · rw [run_expand hreads ⟨h, .inl rfl, by rw [String.toList_ofList, List.append_nil]⟩]
    rfl
  · intro text
    have hne : unread ≠ [] := by
      rintro rfl
      cases hunread
    rw [run_expand hreads ⟨h, .inr hunread, String.toList_ofList⟩]
    cases unset? env tokens with
    | some name => rfl
    | none => rw [if_neg hne]
  · obtain ⟨tokens, unread, h⟩ := exists_splits text.toList
    refine ⟨unread, ⟨h.unreadable, tokens, h.wellFormed, ?_⟩, ?_⟩
    · rw [← h.text_eq, String.ofList_toList]
    · rintro rest ⟨hrest, others, hothers, rfl⟩
      have hscan := scan_render hothers hrest
      rw [String.toList_ofList] at h
      rw [h.text_eq, scan_render h.wellFormed h.unreadable] at hscan
      exact (Prod.mk.inj hscan).2.symm

/-- A value that looks like a reference stays, and a dollar before a colon stands for itself.  A
reference without its closing brace is reported, unless a user before it is not set. -/
theorem expand_reads_tokens_of_workspace :
    let w : Workspace := { environment := [("HOST", "db$PORT"), ("PORT", "54")] }
    let value? : String → StateM Workspace (Option String) := Machine.getVariable
    let tokens : List Token :=
      [.braced ['H', 'O', 'S', 'T'], .dollar, .literal [':'], .bare ['P', 'O', 'R', 'T']]
    let user : List Token := [.bare ['U', 'S', 'E', 'R'], .literal ['@']]
    (∀ name, (value? name).run w = (w.getVariable name, w)) ∧
      WellFormed tokens ∧ WellFormed (user ++ tokens) ∧ Unreadable ['$', '{', 'T', 'L', 'S'] ∧
      (expand value? "$\x7bHOST\x7d$:$PORT").run.run w = (.ok "db$PORT$:54", w) ∧
      (expand value? "$\x7bHOST\x7d$:$PORT$\x7bTLS").run.run w =
        (.error (.malformed "$\x7bHOST\x7d$:$PORT$\x7bTLS"), w) ∧
      (expand value? "$USER@$\x7bHOST\x7d$:$PORT$\x7bTLS").run.run w =
        (.error (.unset "USER"), w) := by
  intro w value? tokens user
  have hreads (name : String) : (value? name).run w = (w.getVariable name, w) := rfl
  have htokens : WellFormed tokens := by decide
  have huser : WellFormed (user ++ tokens) := by decide
  have htls : Unreadable ['$', '{', 'T', 'L', 'S'] := .unclosed (by decide)
  have hset : unset? w.getVariable tokens = none := by decide
  have hunset : unset? w.getVariable (user ++ tokens) = some "USER" := by decide
  have hexpansion : expansion w.getVariable tokens = "db$PORT$:54" := by decide
  obtain ⟨hread, hunread, -⟩ := expand_reads_tokens hreads
  have hhost := hread tokens htokens
  rw [hset, hexpansion] at hhost
  have hclosed := hunread tokens _ htokens htls
  rw [hset] at hclosed
  have hfirst := hunread (user ++ tokens) _ huser htls
  rw [hunset] at hfirst
  exact ⟨hreads, htokens, huser, htls, hhost, hclosed, hfirst⟩

end
end Reference
end JoinWizard
