import LineHighlight.Config.Alias

/-!
# Settings of a server

`Draft` is what a caller asks for and `Config` what was found valid: markers of one line, a
terminator that is not empty, a known engine, alias keys in their looked-up form.
-/

namespace LineHighlight

/-- The engines to choose from. -/
inductive EngineKind where
  /-- The catalogue of lexers. -/
  | catalogue
  /-- The outside service. -/
  | service
  deriving DecidableEq, Repr

namespace EngineKind

/-- The name by which an engine is chosen. -/
def name : EngineKind → Text
  | catalogue => "pygments".toList
  | service => "rosettes".toList

/-- The engine with a given name. -/
def ofName? (n : Text) : Option EngineKind :=
  if n = name catalogue then some catalogue
  else if n = name service then some service
  else none

theorem ofName?_name (k : EngineKind) : ofName? k.name = some k := by cases k <;> decide

end EngineKind

/-- The settings of a server. -/
structure Config where
  /-- The line written once the grammars are loaded. -/
  ready : Text
  /-- The line written after each block. -/
  terminator : Text
  /-- Other names to look flags up by. -/
  aliases : Table
  /-- What every class name begins with. -/
  cssPrefix : Text
  /-- The engine that highlights. -/
  engine : EngineKind
  ready_oneLine : '\n' ∉ ready
  terminator_oneLine : '\n' ∉ terminator
  terminator_ne_nil : terminator ≠ []
  deriving DecidableEq

/-- Settings as a caller gives them, with the default for what is not given. -/
structure Draft where
  ready : Text := "ready".toList
  terminator : Text := ['\x04']
  aliases : Table := defaultAliases
  cssPrefix : Text := []
  engine : Text := EngineKind.name .catalogue
  deriving DecidableEq

/-- The settings that a draft asks for. Of several faults the engine's name is reported first, then
a marker that is not one line, then an empty terminator. -/
def Draft.check (d : Draft) : Except ConfigFailure Config :=
  match EngineKind.ofName? d.engine with
  | none => .error (.unknownEngine d.engine)
  | some engine =>
    if h : '\n' ∈ d.ready ∨ '\n' ∈ d.terminator then .error .markerNotOneLine
    else if ht : d.terminator = [] then .error .emptyTerminator
    else
      .ok
        { ready := d.ready
          terminator := d.terminator
          aliases := d.aliases.normalized
          cssPrefix := d.cssPrefix
          engine := engine
          ready_oneLine := fun c => h (.inl c)
          terminator_oneLine := fun c => h (.inr c)
          terminator_ne_nil := ht }

namespace Config

/-- The settings used when none are given. -/
def default : Config where
  ready := "ready".toList
  terminator := ['\x04']
  aliases := defaultAliases
  cssPrefix := []
  engine := .catalogue
  ready_oneLine := by decide
  terminator_oneLine := by decide
  terminator_ne_nil := by decide

theorem normalized_defaultAliases : defaultAliases.normalized = defaultAliases := by
  decide +kernel

/-- The default settings are those of the empty draft. -/
theorem check_default : Draft.check {} = .ok default := by
  have he : EngineKind.ofName? (EngineKind.name .catalogue) = some .catalogue := by decide
  have hr : ¬ ('\n' ∈ "ready".toList ∨ '\n' ∈ ['\x04']) := by decide
  simp only [Draft.check, he, hr, dif_neg, not_false_eq_true, normalized_defaultAliases, default,
    List.cons_ne_nil]

/-- The settings with more aliases, which win over those of the same spelling. Keys that differ in
spelling only are told apart until all are in the table. -/
def withAliases (c : Config) (extra : Table) : Config :=
  { c with aliases := (c.aliases.putAll extra.entries).normalized }

/-- The two settings are the same, the order of aliases aside. -/
def agrees (c d : Config) : Bool :=
  c.ready == d.ready && c.terminator == d.terminator && c.aliases.agrees d.aliases
    && c.cssPrefix == d.cssPrefix && c.engine == d.engine

end Config
end LineHighlight
