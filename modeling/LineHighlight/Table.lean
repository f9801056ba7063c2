import LineHighlight.Text.Basic

/-!
# Tables

Finite maps from texts to texts that remember the order in which their keys first came. Storing
under a known key replaces its value where it stands; storing under a new key puts it last.

Main statements: `get?_put_self`, `get?_put_of_ne` and `keys_put` say what storing does to a table.
-/

namespace LineHighlight

/-- The value under `key` in a list of entries. -/
def lookupEntry (key : Text) : List (Text × Text) → Option Text
  | [] => none
  | e :: rest => if e.1 = key then some e.2 else lookupEntry key rest

/-- The entries with `value` under `key`, at its old place or else at the end. -/
def putEntry (key value : Text) : List (Text × Text) → List (Text × Text)
  | [] => [(key, value)]
  | e :: rest => if e.1 = key then (key, value) :: rest else e :: putEntry key value rest

theorem map_fst_putEntry (key value : Text) (es : List (Text × Text)) :
    (putEntry key value es).map Prod.fst =
      if key ∈ es.map Prod.fst then es.map Prod.fst else es.map Prod.fst ++ [key] := by
  induction es with
  | nil => simp [putEntry]
  | cons e rest ih =>
    by_cases h : e.1 = key
    · simp [putEntry, h]
    · have h' : ¬ key = e.1 := fun c => h c.symm
      simp only [putEntry, h, if_false, List.map_cons, ih, List.mem_cons, h', false_or]
      split <;> simp

theorem nodup_putEntry (key value : Text) {es : List (Text × Text)}
    (h : (es.map Prod.fst).Nodup) : ((putEntry key value es).map Prod.fst).Nodup := by
  rw [map_fst_putEntry]
  split
  · exact h
  · rename_i hkey
    refine List.nodup_append.2 ⟨h, by simp, fun a ha b hb => ?_⟩
    rw [List.mem_singleton.1 hb]
    exact fun hab => hkey (hab ▸ ha)

/-- A map from texts to texts in the order of its keys' arrival. -/
structure Table where
  entries : List (Text × Text)
  nodup : (entries.map Prod.fst).Nodup
  deriving DecidableEq

namespace Table

/-- The table without entries. -/
def empty : Table := ⟨[], by simp⟩

/-- The keys in the order of their arrival. -/
def keys (t : Table) : List Text := t.entries.map Prod.fst

/-- The value under a key. -/
def get? (t : Table) (key : Text) : Option Text := lookupEntry key t.entries

/-- The table with `value` under `key`. -/
def put (t : Table) (key value : Text) : Table :=
  ⟨putEntry key value t.entries, nodup_putEntry key value t.nodup⟩

/-- The table with the given entries stored one after another. -/
def putAll (t : Table) (es : List (Text × Text)) : Table := es.foldl (fun t e => t.put e.1 e.2) t

/-- The table of the given entries, of which the last one under each key counts. -/
def ofList (es : List (Text × Text)) : Table := empty.putAll es

/-- The table with `f` applied to its keys; of keys that become equal the last one's value
counts. -/
def mapKeys (f : Text → Text) (t : Table) : Table := ofList (t.entries.map fun e => (f e.1, e.2))

/-- The two tables hold the same values under the same keys, whatever their order. -/
def agrees (s t : Table) : Bool :=
  s.entries.length == t.entries.length && s.keys.all fun k => s.get? k == t.get? k

@[simp] theorem get?_empty (key : Text) : empty.get? key = none := rfl

@[simp] theorem get?_put_self (t : Table) (key value : Text) :
    (t.put key value).get? key = some value := by
  have h : ∀ es, lookupEntry key (putEntry key value es) = some value := by
    intro es
    induction es with
    | nil => simp [putEntry, lookupEntry]
    | cons e rest ih => by_cases h : e.1 = key <;> simp [putEntry, lookupEntry, h, ih]
  exact h t.entries

theorem get?_put_of_ne (t : Table) {key other : Text} (value : Text) (h : other ≠ key) :
    (t.put key value).get? other = t.get? other := by
  have hes : ∀ es, lookupEntry other (putEntry key value es) = lookupEntry other es := by
    intro es
    induction es with
    | nil => simp [putEntry, lookupEntry, h.symm]
    | cons e rest ih =>
      by_cases he : e.1 = key
      · simp [putEntry, lookupEntry, he, h.symm]
      · simp [putEntry, lookupEntry, he, ih]
  exact hes t.entries

theorem keys_put (t : Table) (key value : Text) :
    (t.put key value).keys = if key ∈ t.keys then t.keys else t.keys ++ [key] :=
  map_fst_putEntry key value t.entries

end Table
end LineHighlight
