import QuestCheck.Token

/-!
# Writing tokens

Any text can be written as a token, in quotes; a text without blanks and quotes can also be
written as it stands, and tokens written without a blank between them are one token.

* `Token.quote`: a text in quotes;
* `Token.Written`: a text is one way to write a token;
* `Written.quote`, `Written.word`, `Written.append`: the ways to write one;
* **`find_separated`**: tokens written with a space in front of each are found again.
-/

namespace QuestCheck.Token

/-- A character between quotes. -/
def protectChar (c : Char) : List Char := if c = '"' ∨ c = '\\' then ['\\', c] else [c]

/-- A text in quotes, with a backslash in front of its quotes and backslashes. -/
def quote (text : List Char) : List Char := '"' :: (text.flatMap protectChar ++ ['"'])

theorem getLast?_quote (text : List Char) : (quote text).getLast? = some '"' := by
  rw [quote, ← List.cons_append, List.getLast?_append]
  rfl

/-- Two tokens without a blank between them. -/
def append (t u : Token) : Token :=
  ⟨t.text ++ u.text, t.openedAt.or (u.openedAt.map (· + t.text.length))⟩

instance : Append Token := ⟨append⟩

theorem append_def (t u : Token) :
    t ++ u = ⟨t.text ++ u.text, t.openedAt.or (u.openedAt.map (· + t.text.length))⟩ := rfl

theorem push_eq (c : Char) (t : Token) : push c t = ⟨[c], none⟩ ++ t := rfl

@[simp] theorem append_empty (t : Token) : t ++ empty = t := by
  simp [append_def, empty]

theorem append_assoc (t u v : Token) : t ++ u ++ v = t ++ (u ++ v) := by
  obtain ⟨a, i⟩ := t
  obtain ⟨b, j⟩ := u
  obtain ⟨c, k⟩ := v
  cases i <;> cases j <;> cases k <;> simp [append_def, Nat.add_comm, Nat.add_left_comm]

theorem push_append (c : Char) (t u : Token) : push c (t ++ u) = push c t ++ u := by
  rw [push_eq, push_eq, append_assoc]

theorem map_modify_modify (f g : Token → Token) (x : Except Defect Found) :
    (x.map (Found.modify g)).map (Found.modify f) = x.map (Found.modify (f ∘ g)) := by
  cases x <;> rfl

/-- The text is one way to write the token: in front of any text, it puts the token in front of
what is found there. -/
def Written (w : List Char) (t : Token) : Prop :=
  ∀ rest, find .plain (w ++ rest) = (find .plain rest).map (.modify (t ++ ·))

theorem find_protectChar (c : Char) (rest : List Char) :
    find .quoted (protectChar c ++ rest) = (find .quoted rest).map (.modify (push c)) := by
  by_cases h : c = '"' ∨ c = '\\'
  · simp only [protectChar, if_pos h, List.cons_append, List.nil_append, find_backslash, find,
      escaped]
    rfl
  · rw [not_or] at h
    simp only [protectChar, h.1, h.2, or_self, if_false]
    exact find_quoted rest h.1 h.2

theorem find_protected (text rest : List Char) :
    find .quoted (text.flatMap protectChar ++ '"' :: rest) =
      (find .plain rest).map (.modify (⟨text, none⟩ ++ ·)) := by
  induction text with
  | nil =>
    have h : (fun t : Token => (⟨[], none⟩ : Token) ++ t) = id := by
      funext t
      simp [append_def]
    rw [List.flatMap_nil, List.nil_append, find_closeQuote, h]
  | cons c r ih =>
    rw [List.flatMap_cons, List.append_assoc, find_protectChar, ih, map_modify_modify]
    congr 2
    funext x
    exact push_append c _ x

namespace Written

/-- Any text can be written in quotes. -/
theorem quote (text : List Char) : Written (quote text) ⟨text, some 0⟩ := by
  intro rest
  rw [Token.quote, List.cons_append, find_openQuote, List.append_assoc, List.singleton_append,
    find_protected, map_modify_modify]
  rfl

/-- A text without blanks and quotes can be written as it stands. -/
theorem word {w : List Char} (hne : w ≠ []) (h : ∀ c ∈ w, Text.isBlank c = false ∧ c ≠ '"') :
    Written w ⟨w, none⟩ := by
  induction w with
  | nil => exact absurd rfl hne
  | cons c r ih =>
    intro rest
    obtain ⟨hb, hq⟩ := h c List.mem_cons_self
    rw [List.cons_append, find_plain _ hb hq]
    by_cases hr : r = []
    · subst hr
      rfl
    · rw [ih hr (fun x hx => h x (List.mem_cons_of_mem c hx)), map_modify_modify]
      congr 2
      funext x
      exact push_append c _ x

/-- Tokens without a blank between them are one token. -/
theorem append {v w : List Char} {t u : Token} (hv : Written v t) (hw : Written w u) :
    Written (v ++ w) (t ++ u) := by
  intro rest
  rw [List.append_assoc, hv, hw, map_modify_modify]
  congr 2
  funext x
  exact (append_assoc t u x).symm

/-- Where no token begins behind it, the token is found as it is. -/
theorem find_append {w rest : List Char} {t : Token} {later : List Token} (h : Written w t)
    (hr : find .plain rest = .ok ⟨none, later⟩) :
    find .plain (w ++ rest) = .ok ⟨some t, later⟩ := by
  rw [h, hr]
  change Except.ok (Found.mk (some (t ++ empty)) later) = _
  rw [append_empty]

/-- What is written is one token. -/
theorem scan_eq {w : List Char} {t : Token} (h : Written w t) : scan w = .ok [t] := by
  have hfind : find .plain (w ++ []) = .ok ⟨some t, []⟩ := h.find_append rfl
  rw [List.append_nil] at hfind
  rw [scan, hfind]
  rfl

end Written

/-- **Tokens written with a space in front of each are found again.** -/
theorem find_separated {l : List (List Char × Token)} (h : ∀ p ∈ l, Written p.1 p.2) :
    find .plain (l.flatMap fun p => ' ' :: p.1) = .ok ⟨none, l.map Prod.snd⟩ := by
  induction l with
  | nil => rfl
  | cons p r ih =>
    have hr := ih fun q hq => h q (List.mem_cons_of_mem p hq)
    rw [List.flatMap_cons, List.cons_append, find_blank _ (by decide),
      (h p List.mem_cons_self).find_append hr]
    rfl

end QuestCheck.Token
