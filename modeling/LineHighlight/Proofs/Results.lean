import Mathlib.Tactic.Lemma

/-!
# Results that may be failures

What the result of an operation says about the results it was made from: of a function applied to a
result, of results for all members of a list, and of lookups.
-/

namespace LineHighlight

variable {ε ε' α β : Type}

/-! ## One result -/

/-- What there is as an option is there. -/
lemma eq_ok_of_toOption {x : Except ε α} {a : α} (h : x.toOption = some a) : x = .ok a := by
  cases x with
  | ok b => exact congrArg Except.ok (Option.some.inj h)
  | error e => exact absurd h.symm (Option.some_ne_none a)

/-- What is mapped to a value is a value. -/
lemma exists_of_map_eq_ok {f : α → β} {x : Except ε α} {b : β} (h : x.map f = .ok b) :
    ∃ a, x = .ok a ∧ f a = b := by
  cases x with
  | ok a => exact ⟨a, rfl, Except.ok.inj h⟩
  | error e => exact nomatch h

/-- What is mapped to a failure is that failure. -/
lemma eq_error_of_map {f : α → β} {x : Except ε α} {e : ε} (h : x.map f = .error e) :
    x = .error e := by
  cases x with
  | ok a => exact nomatch h
  | error e' => exact congrArg Except.error (Except.error.inj h)

/-- What is a value with its failures reworded is that value. -/
lemma eq_ok_of_mapError {f : ε → ε'} {x : Except ε α} {a : α} (h : x.mapError f = .ok a) :
    x = .ok a := by
  cases x with
  | ok b => exact congrArg Except.ok (Except.ok.inj h)
  | error e => exact nomatch h

/-- What is a failure with its failures reworded is a failure. -/
lemma exists_of_mapError_eq_error {f : ε → ε'} {x : Except ε α} {e' : ε'}
    (h : x.mapError f = .error e') : ∃ e, x = .error e ∧ f e = e' := by
  cases x with
  | ok b => exact nomatch h
  | error e => exact ⟨e, rfl, Except.error.inj h⟩

/-! ## Results for all members of a list -/

/-- What fails for a list fails for one of its members. -/
lemma exists_of_mapM_eq_error {f : α → Except ε β} {l : List α} {e : ε}
    (h : l.mapM f = .error e) : ∃ a ∈ l, f a = .error e := by
  induction l with
  | nil =>
    rw [List.mapM_nil] at h
    exact nomatch h
  | cons a rest ih =>
    rw [List.mapM_cons] at h
    cases ha : f a with
    | error e' =>
      rw [ha] at h
      have he : e' = e := Except.error.inj h
      exact ⟨a, List.mem_cons_self, he ▸ ha⟩
    | ok b =>
      cases hrest : rest.mapM f with
      | error e' =>
        rw [ha, hrest] at h
        have he : e' = e := Except.error.inj h
        obtain ⟨a', ha', hfa'⟩ := ih (he ▸ hrest)
        exact ⟨a', List.mem_cons_of_mem a ha', hfa'⟩
      | ok bs =>
        rw [ha, hrest] at h
        exact nomatch h

/-- What is found for each member of a list is found for the list. -/
lemma exists_mapM_eq_ok {f : α → Except ε β} {l : List α} (h : ∀ a ∈ l, ∃ b, f a = .ok b) :
    ∃ bs, l.mapM f = .ok bs := by
  cases hl : l.mapM f with
  | ok bs => exact ⟨bs, rfl⟩
  | error e =>
    obtain ⟨a, ha, hfa⟩ := exists_of_mapM_eq_error hl
    obtain ⟨b, hb⟩ := h a ha
    exact nomatch hfa.symm.trans hb

/-- What is found for a list is found for its members. -/
lemma exists_of_mem_mapM {f : α → Except ε β} {l : List α} {bs : List β} (h : l.mapM f = .ok bs)
    {b : β} (hb : b ∈ bs) : ∃ a ∈ l, f a = .ok b := by
  induction l generalizing bs with
  | nil =>
    rw [List.mapM_nil] at h
    rw [← Except.ok.inj h] at hb
    exact absurd hb List.not_mem_nil
  | cons a rest ih =>
    rw [List.mapM_cons] at h
    cases ha : f a with
    | error e =>
      rw [ha] at h
      exact nomatch h
    | ok b' =>
      cases hrest : rest.mapM f with
      | error e =>
        rw [ha, hrest] at h
        exact nomatch h
      | ok bs' =>
        rw [ha, hrest] at h
        have hbs : b' :: bs' = bs := Except.ok.inj h
        rw [← hbs] at hb
        rcases List.mem_cons.1 hb with rfl | hb
        · exact ⟨a, List.mem_cons_self, ha⟩
        · obtain ⟨a', ha', hfa'⟩ := ih hrest hb
          exact ⟨a', List.mem_cons_of_mem a ha', hfa'⟩

/-- What is found for a list is found for each of its members. -/
lemma exists_of_mapM_eq_ok {f : α → Except ε β} {l : List α} {bs : List β} (h : l.mapM f = .ok bs)
    {a : α} (ha : a ∈ l) : ∃ b, f a = .ok b := by
  induction l generalizing bs with
  | nil => exact absurd ha List.not_mem_nil
  | cons first rest ih =>
    rw [List.mapM_cons] at h
    cases hfirst : f first with
    | error e =>
      rw [hfirst] at h
      exact nomatch h
    | ok b =>
      cases hrest : rest.mapM f with
      | error e =>
        rw [hfirst, hrest] at h
        exact nomatch h
      | ok bs' =>
        rcases List.mem_cons.1 ha with rfl | ha
        · exact ⟨b, hfirst⟩
        · exact ih hrest ha

/-! ## Lookups -/

/-- What is found under a key is an entry. -/
lemma mem_of_lookup_eq_some [BEq α] [LawfulBEq α] {l : List (α × β)} {key : α} {b : β}
    (h : l.lookup key = some b) : (key, b) ∈ l := by
  obtain ⟨l₁, l₂, rfl, -⟩ := List.lookup_eq_some_iff.1 h
  exact List.mem_append_right l₁ List.mem_cons_self

end LineHighlight
