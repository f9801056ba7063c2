import LineHighlight.Text.Basic

/-!
# Escapes

Characters of source text that stand as entities in markup. Every formatter writes `&`, `<` and `>` as
entities; which other characters it writes so is its own affair, and releases of one formatter differ in
whether the two quotes are among them. `Escapes` says which these are, and that all entities can be told
apart, so that whatever is proved holds for each of these formatters.
-/

namespace LineHighlight.Markup

/-- A character and the name of the entity that stands for it. -/
structure Entity where
  char : Char
  name : Text
  deriving DecidableEq, Repr

/-- The entity as it stands in markup. -/
def Entity.text (e : Entity) : Text := '&' :: e.name ++ [';']

/-- How a character of source text is written in markup, given the entities. -/
def escapeChar (es : List Entity) (c : Char) : Text :=
  (es.find? (·.char = c)).elim [c] Entity.text

/-- Source text as it stands in markup, given the entities. -/
def escape (es : List Entity) (t : Text) : Text := t.flatMap (escapeChar es)

/-- The entities for the characters that markup gives a meaning to. -/
def basicEntities : List Entity :=
  [⟨'&', "amp".toList⟩, ⟨'<', "lt".toList⟩, ⟨'>', "gt".toList⟩]

/-- No line break is written as an entity, no name has a character that ends a line, an entity or a
stretch of text, and neither two characters nor two names are the same. -/
structure Distinct (es : List Entity) : Prop where
  chars : ∀ e ∈ es, e.char ≠ '\n' ∧ e.char ≠ '\r'
  names : ∀ e ∈ es, ∀ c ∈ e.name, c ∉ "&<>;\n\r".toList
  nodup_chars : (es.map Entity.char).Nodup
  nodup_names : (es.map Entity.name).Nodup

instance (es : List Entity) : Decidable (Distinct es) :=
  -- The names are gone through character by character; there are too many characters to try all.
  have names_iff : (es.all fun e => e.name.all (· ∉ "&<>;\n\r".toList)) = true ↔
      ∀ e ∈ es, ∀ c ∈ e.name, c ∉ "&<>;\n\r".toList := by
    simp only [List.all_eq_true, decide_eq_true_eq]
  decidable_of_decidable_of_iff
    (p := (∀ e ∈ es, e.char ≠ '\n' ∧ e.char ≠ '\r') ∧
      (es.all fun e => e.name.all (· ∉ "&<>;\n\r".toList)) = true ∧
      (es.map Entity.char).Nodup ∧ (es.map Entity.name).Nodup)
    ⟨fun h => ⟨h.1, names_iff.1 h.2.1, h.2.2.1, h.2.2.2⟩, fun h => ⟨h.1, names_iff.2 h.2, h.3, h.4⟩⟩

/-- The entities that a formatter writes: the basic ones and further ones. -/
structure Escapes where
  further : List Entity
  distinct : Distinct (basicEntities ++ further) := by decide

namespace Escapes

/-- All entities that are written. -/
def entities (E : Escapes) : List Entity := basicEntities ++ E.further

theorem distinct_entities (E : Escapes) : Distinct E.entities := E.distinct

/-- The escapes of a formatter that writes only the basic entities and leaves quotes as they are, as
current releases do. -/
def basic : Escapes where
  further := []

/-- The escapes of a formatter that also writes both quotes as entities, as earlier releases do. -/
def quoting : Escapes where
  further := [⟨'"', "quot".toList⟩, ⟨'\'', "#39".toList⟩]

end Escapes
end LineHighlight.Markup
