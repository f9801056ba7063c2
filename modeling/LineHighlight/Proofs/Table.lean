import LineHighlight.Table
import Mathlib.Tactic.Lemma

/-!
# Tables that many entries were stored in

What a table holds after entries were stored in it one after another. A key has the value of the last
entry under it (`get?_putAll`), and stands where it first came (`keys_putAll`). So of several keys that
are looked at together, the one that came last as a new one stands last, whichever of them was stored
last (`lastValue_entries_putAll`).
-/

namespace LineHighlight

/-! ## Members in the order of their first arrival -/

section Arrivals

variable {α : Type} [BEq α] [LawfulBEq α]

lemma nodup_eraseDups (l : List α) : l.eraseDups.Nodup := by
  match l with
  | [] => exact List.nodup_nil
  | a :: rest =>
    rw [List.eraseDups_cons, List.nodup_cons, List.mem_eraseDups]
    refine ⟨fun hmem => ?_, nodup_eraseDups _⟩
    have hne := (List.mem_filter.1 hmem).2
    rw [beq_self_eq_true] at hne
    exact nomatch hne
termination_by l.length
decreasing_by exact Nat.lt_succ_of_le (List.length_filter_le _ rest)

lemma eraseDups_of_nodup {l : List α} (h : l.Nodup) : l.eraseDups = l := by
  induction l with
  | nil => rfl
  | cons a rest ih =>
    obtain ⟨ha, hrest⟩ := List.nodup_cons.1 h
    have hkept : rest.filter (fun b => !b == a) = rest := by
      rw [List.filter_eq_self]
      intro b hb
      have hne : b ≠ a := fun he => ha (he ▸ hb)
      rw [beq_false_of_ne hne]
      rfl
    rw [List.eraseDups_cons, hkept, ih hrest]

/-- To choose members and to drop repeated ones can be done in either order. -/
lemma filter_eraseDups (p : α → Bool) (l : List α) :
    l.eraseDups.filter p = (l.filter p).eraseDups := by
  match l with
  | [] => rfl
  | a :: rest =>
    have hswap : (rest.filter fun b => !b == a).filter p =
        (rest.filter p).filter fun b => !b == a := by
      rw [List.filter_filter, List.filter_filter]
      exact List.filter_congr fun b _ => Bool.and_comm _ _
    have ih := filter_eraseDups p (rest.filter fun b => !b == a)
    rw [hswap] at ih
    rw [List.eraseDups_cons]
    by_cases ha : p a = true
    · rw [List.filter_cons_of_pos ha, List.filter_cons_of_pos ha, List.eraseDups_cons, ih]
    · -- The member that is not chosen is not among the chosen ones, repeated or not.
      have hkept : (rest.filter p).filter (fun b => !b == a) = rest.filter p := by
        rw [List.filter_eq_self]
        intro b hb
        have hne : b ≠ a := fun he => ha (he ▸ (List.mem_filter.1 hb).2)
        rw [beq_false_of_ne hne]
        rfl
      rw [List.filter_cons_of_neg ha, List.filter_cons_of_neg ha, ih, hkept]
termination_by l.length
decreasing_by exact Nat.lt_succ_of_le (List.length_filter_le _ rest)

/-- Repeated members may be dropped from the second of two lists beforehand. -/
lemma eraseDups_append_eraseDups (l m : List α) :
    (l ++ m.eraseDups).eraseDups = (l ++ m).eraseDups := by
  rw [List.eraseDups_append, List.eraseDups_append]
  unfold List.removeAll
  rw [filter_eraseDups, eraseDups_of_nodup (nodup_eraseDups _)]

/-- A member that was there before is no arrival. -/
lemma eraseDups_append_cons_of_mem {l : List α} {a : α} (h : a ∈ l) (m : List α) :
    (l ++ a :: m).eraseDups = (l ++ m).eraseDups := by
  have hold : (a :: m).removeAll l = m.removeAll l := by
    unfold List.removeAll
    refine List.filter_cons_of_neg ?_
    rw [List.elem_eq_true_of_mem h]
    exact Bool.false_ne_true
  rw [List.eraseDups_append, List.eraseDups_append, hold]

end Arrivals

namespace Table

/-! ## The last entry of its kind -/

/-- The value of the last entry whose key is of a kind. -/
def lastValue (kind : Text → Bool) (es : List (Text × Text)) : Option Text :=
  (es.reverse.find? fun e => kind e.1).map Prod.snd

lemma lastValue_cons (kind : Text → Bool) (e : Text × Text) (es : List (Text × Text)) :
    lastValue kind (e :: es) = (lastValue kind es).or (if kind e.1 then some e.2 else none) := by
  unfold lastValue
  rw [List.reverse_cons, List.find?_append, Option.map_or, List.find?_singleton]
  congr 1
  split <;> rfl

/-- There is no last entry of a kind if there is none at all. -/
lemma lastValue_eq_none_iff {kind : Text → Bool} {es : List (Text × Text)} :
    lastValue kind es = none ↔ ∀ e ∈ es, ¬ kind e.1 = true := by
  unfold lastValue
  rw [Option.map_eq_none_iff, List.find?_eq_none]
  simp only [List.mem_reverse]

/-- The last value of a kind is that of an entry of the kind. -/
lemma exists_of_lastValue {kind : Text → Bool} {es : List (Text × Text)} {value : Text}
    (h : lastValue kind es = some value) : ∃ e ∈ es, kind e.1 = true ∧ e.2 = value := by
  obtain ⟨e, he, hvalue⟩ := Option.map_eq_some_iff.1 h
  have hkind := List.find?_some he
  exact ⟨e, List.mem_reverse.1 (List.mem_of_find?_eq_some he), hkind, hvalue⟩

/-- Kinds that the keys of some entries are of alike have the same last value. -/
lemma lastValue_congr {kind kind' : Text → Bool} {es : List (Text × Text)}
    (h : ∀ e ∈ es, kind e.1 = kind' e.1) : lastValue kind es = lastValue kind' es := by
  induction es with
  | nil => rfl
  | cons e rest ih =>
    rw [lastValue_cons, lastValue_cons, h e List.mem_cons_self,
      ih fun e' he' => h e' (List.mem_cons_of_mem e he')]

/-! ## Tables after entries -/

/-- A key has the value of the last entry under it, or the one that it had before. -/
theorem get?_putAll (t : Table) (es : List (Text × Text)) (key : Text) :
    (t.putAll es).get? key = (lastValue (· = key) es).or (t.get? key) := by
  induction es generalizing t with
  | nil => rfl
  | cons e rest ih =>
    rw [putAll, List.foldl_cons]
    refine (ih (t.put e.1 e.2)).trans ?_
    rw [lastValue_cons, Option.or_assoc]
    congr 1
    by_cases he : e.1 = key
    · rw [← he, get?_put_self, if_pos (decide_eq_true rfl)]
      rfl
    · rw [get?_put_of_ne t e.2 fun h => he h.symm, if_neg fun h => he (of_decide_eq_true h)]
      rfl

/-- The keys of a table and of some entries in the order of their first arrival. -/
def arrivals (t : Table) (es : List (Text × Text)) : List Text :=
  (t.keys ++ es.map Prod.fst).eraseDups

/-- Each key stands where it first came. -/
theorem keys_putAll (t : Table) (es : List (Text × Text)) :
    (t.putAll es).keys = t.arrivals es := by
  induction es generalizing t with
  | nil =>
    rw [arrivals, List.map_nil, List.append_nil]
    exact (eraseDups_of_nodup t.nodup).symm
  | cons e rest ih =>
    rw [putAll, List.foldl_cons]
    refine (ih (t.put e.1 e.2)).trans ?_
    unfold arrivals
    rw [keys_put, List.map_cons]
    split
    · rename_i hold
      rw [eraseDups_append_cons_of_mem hold]
    · rw [List.append_assoc]
      rfl

/-- A key has a value if it is in the table. -/
lemma get?_eq_none_iff {t : Table} {key : Text} : t.get? key = none ↔ key ∉ t.keys := by
  have hentries : ∀ es, lookupEntry key es = none ↔ key ∉ es.map Prod.fst := by
    intro es
    induction es with
    | nil => exact ⟨fun _ => List.not_mem_nil, fun _ => rfl⟩
    | cons e rest ih =>
      rw [lookupEntry, List.map_cons, List.mem_cons, not_or, ← ih]
      by_cases he : e.1 = key
      · rw [if_pos he]
        exact ⟨fun h => absurd h (Option.some_ne_none e.2), fun h => absurd he.symm h.1⟩
      · rw [if_neg he]
        exact ⟨fun h => ⟨fun hkey => he hkey.symm, h⟩, fun h => h.2⟩
  exact hentries t.entries

/-- Each entry is found under its key. -/
lemma get?_of_mem {t : Table} {e : Text × Text} (h : e ∈ t.entries) : t.get? e.1 = some e.2 := by
  have hentries : ∀ es : List (Text × Text), (es.map Prod.fst).Nodup → e ∈ es →
      lookupEntry e.1 es = some e.2 := by
    intro es
    induction es with
    | nil => exact fun _ hmem => absurd hmem List.not_mem_nil
    | cons first rest ih =>
      intro hnodup hmem
      obtain ⟨hfirst, hrest⟩ := List.nodup_cons.1 hnodup
      rw [lookupEntry]
      rcases List.mem_cons.1 hmem with rfl | hmem
      · rw [if_pos rfl]
      · have hne : first.1 ≠ e.1 := fun he => hfirst (he ▸ List.mem_map_of_mem hmem)
        rw [if_neg hne, ih hrest hmem]
  exact hentries t.entries t.nodup h

/-- The last entry of a kind in a table is found under the last key of the kind. -/
lemma lastValue_entries (t : Table) (kind : Text → Bool) :
    lastValue kind t.entries = (t.keys.reverse.find? kind).bind t.get? := by
  have hkeys : t.keys.reverse.find? kind =
      (t.entries.reverse.find? fun e => kind e.1).map Prod.fst := by
    unfold keys
    rw [← List.map_reverse, List.find?_map]
    rfl
  rw [hkeys]
  unfold lastValue
  cases hlast : t.entries.reverse.find? fun e => kind e.1 with
  | none => rfl
  | some e => exact (get?_of_mem (List.mem_reverse.1 (List.mem_of_find?_eq_some hlast))).symm

/-- A table finds the last entry under a key, which is the only one. -/
lemma lastValue_entries_eq (t : Table) (key : Text) :
    lastValue (· = key) t.entries = t.get? key := by
  rw [lastValue_entries]
  cases hfind : t.keys.reverse.find? (· = key) with
  | none =>
    refine (get?_eq_none_iff.2 fun hmem => ?_).symm
    exact List.find?_eq_none.1 hfind key (List.mem_reverse.2 hmem) (decide_eq_true rfl)
  | some found =>
    have hfound := List.find?_some hfind
    rw [of_decide_eq_true hfound]
    rfl

/-- Of the keys of a kind, the newest one: that which came last as a new one. -/
def newest (t : Table) (es : List (Text × Text)) (kind : Text → Bool) : Option Text :=
  (t.arrivals es).reverse.find? kind

/-- The last entry of a kind, after entries were stored, is that under the newest key of the kind. -/
theorem lastValue_entries_putAll (t : Table) (es : List (Text × Text)) (kind : Text → Bool) :
    lastValue kind (t.putAll es).entries =
      (t.newest es kind).bind fun key => (lastValue (· = key) es).or (t.get? key) := by
  rw [lastValue_entries, keys_putAll]
  exact congrArg _ (funext (get?_putAll t es))

/-! ## Tables of entries -/

/-- A table of entries has the last value under each key. -/
lemma lastValue_ofList (es : List (Text × Text)) (key : Text) :
    lastValue (· = key) (ofList es).entries = lastValue (· = key) es := by
  rw [lastValue_entries_eq, ofList, get?_putAll, get?_empty, Option.or_none]

/-- A table of entries has the keys of the entries, in the order of their first arrival. -/
lemma arrivals_ofList (t : Table) (es : List (Text × Text)) :
    t.arrivals (ofList es).entries = t.arrivals es := by
  have hkeys : (ofList es).entries.map Prod.fst = (es.map Prod.fst).eraseDups := keys_putAll empty es
  unfold arrivals
  rw [hkeys, eraseDups_append_eraseDups]

/-- The table with other keys has the last value of all keys that become one. -/
lemma get?_mapKeys (f : Text → Text) (t : Table) (key : Text) :
    (t.mapKeys f).get? key = lastValue (fun k => f k = key) t.entries := by
  rw [mapKeys, ofList, get?_putAll, get?_empty, Option.or_none]
  unfold lastValue
  rw [← List.map_reverse, List.find?_map, Option.map_map]
  rfl

end Table
end LineHighlight
