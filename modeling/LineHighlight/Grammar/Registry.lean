import LineHighlight.Config.Basic
import LineHighlight.Grammar.Catalogue
import LineHighlight.Grammar.Scope
import LineHighlight.Log.Note

/-!
# Registries

A registry resolves flags and may remember what it resolved before. `Registry σ` is any rule of this
kind with memory `σ`. The two rules used here are the catalogue, which remembers every answer under
the looked-up form of the flag, and the outside service, which remembers nothing. To resolve a flag
may fail, which is not the same as to find no scope for it; a failure is never remembered.
-/

namespace LineHighlight

/-- The answer to a flag and what is logged about it. -/
structure Lookup where
  scope : Except EngineFailure (Option Scope)
  notes : List Note

/-- A rule for resolving flags that may depend on its memory. -/
structure Registry (σ : Type) where
  resolve : σ → Text → Lookup × σ

namespace Registry

variable {σ : Type}

/-- Tells whether a flag has a scope. -/
def supports (r : Registry σ) (memory : σ) (flag : Text) : Except EngineFailure Bool :=
  (r.resolve memory flag).1.scope.map Option.isSome

/-- The memory after some flags. -/
def remember (r : Registry σ) (memory : σ) : List Text → σ
  | [] => memory
  | flag :: rest => r.remember (r.resolve memory flag).2 rest

/-- What preloading found and logged. -/
structure Preloaded (σ : Type) where
  found : Except EngineFailure Nat
  notes : List Note
  memory : σ

/-- Resolves some flags ahead of their use, up to the first failure, and counts those that have a
scope. -/
def preload (r : Registry σ) (memory : σ) : List Text → Preloaded σ
  | [] => ⟨.ok 0, [], memory⟩
  | flag :: rest =>
    let (answer, after) := r.resolve memory flag
    match answer.scope with
    | .error cause => ⟨.error cause, answer.notes, after⟩
    | .ok scope =>
      let more := r.preload after rest
      ⟨more.found.map ((if scope.isSome then 1 else 0) + ·), answer.notes ++ more.notes,
        more.memory⟩

end Registry

/-! ## The catalogue -/

/-- The name that a flag is looked up by, given the flag in its looked-up form. -/
def Table.rename (aliases : Table) (key : Text) : Text := (aliases.get? key).getD key

namespace Catalogue

/-- The entry for a flag: by name, else by the flag as the name of a file, else by the name as the
extension of a file name. -/
def entryOf (c : Catalogue) (aliases : Table) (flag : Text) : Except EngineFailure (Option Lexer) :=
  let key := normalizeFlag flag
  if key = [] then .ok none
  else
    let name := aliases.rename key
    let extension := name.dropWhile (· = '.')
    match c.byName? name with
    | some l => .ok (some l)
    | none =>
      match c.byFile (Text.strip flag) with
      | .ok none => if extension = [] then .ok none else c.byFile ("file.".toList ++ extension)
      | found => found

/-- The scope of a flag that was never asked for. -/
def scopeOf (c : Catalogue) (aliases : Table) (flag : Text) : Except EngineFailure (Option Scope) :=
  (c.entryOf aliases flag).map fun found => found.map fun l => ⟨l.name, flag, .lexer l⟩

end Catalogue

/-- Answers by the looked-up form of the flag. -/
abbrev Cache := List (Text × Option Scope)

/-- What is logged about a flag that was looked up. -/
def Note.ofLookup (flag : Text) : Option Scope → Note
  | some scope => .resolved flag scope.name
  | none => .unresolved flag

namespace Registry

/-- The registry of a catalogue. An answer once given for a looked-up form is given again. -/
def ofCatalogue (c : Catalogue) (aliases : Table) : Registry Cache :=
  let table := aliases.normalized
  { resolve := fun cache flag =>
      let key := normalizeFlag flag
      match cache.lookup key with
      | some scope => (⟨.ok scope, []⟩, cache)
      | none =>
        match c.scopeOf table flag with
        | .ok scope => (⟨.ok scope, [.ofLookup flag scope]⟩, (key, scope) :: cache)
        | .error cause => (⟨.error cause, []⟩, cache) }

/-! ## The outside service -/

/-- The answer of a service to a flag. The empty flag is never passed on, and a service that fails
to answer counts as one that does not know the name. -/
def askService (s : Service) (aliases : Table) (flag : Text) : Lookup :=
  let key := normalizeFlag flag
  if key = [] then ⟨.ok none, []⟩
  else
    let name := aliases.rename key
    match s.supports name with
    | none => ⟨.ok none, [.rejected flag]⟩
    | some false => ⟨.ok none, []⟩
    | some true => ⟨.ok (some ⟨name, flag, .named name⟩), []⟩

/-- The registry of a service. -/
def ofService (s : Service) (aliases : Table) : Registry Cache :=
  let table := aliases.normalized
  { resolve := fun cache flag => (askService s table flag, cache) }

end Registry
end LineHighlight
