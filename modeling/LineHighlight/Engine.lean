import LineHighlight.Grammar.Registry
import LineHighlight.Grammar.Standard
import LineHighlight.Markup.Spans

/-!
# Engines

An engine is a registry that resolves flags and a highlighter that understands the scopes found
there.
-/

namespace LineHighlight

/-! ## Highlighters -/

/-- Turns source text of a scope into markup, or fails. -/
abbrev Highlighter := Text → Scope → Except EngineFailure Text

namespace Highlighter

/-- Cuts the source with the lexer of the scope and marks the tokens with classes. -/
def spans (E : Markup.Escapes) (cssPrefix : Text) : Highlighter := fun source scope =>
  match scope.grammar with
  | .lexer l => ((l.tokens source).map (Markup.render E cssPrefix)).mapError .raised
  | .named _ => .error .noLexer

/-- Leaves the work to the service that knows the scope's name. -/
def ofService (s : Service) : Highlighter := fun source scope =>
  match scope.grammar with
  | .lexer _ => .error .noName
  | .named name => (s.highlight source name).mapError .raised

/-- Shows what it was called with. -/
def echo : Highlighter := fun source scope =>
  .ok (Text.join ['|'] [scope.name, scope.flag, source])

/-- Fails on every source with the same message. -/
def failing (message : Text) : Highlighter := fun _ _ => .error (.raised message)

end Highlighter

/-! ## Engines -/

/-- What is there to build engines from. -/
structure Installation where
  catalogue : Catalogue := Catalogue.standard
  /-- How the formatter for the catalogue's tokens escapes text. -/
  escapes : Markup.Escapes := .basic
  service : Option Service := none

/-- A registry with memory `σ` and the highlighter for its scopes. -/
structure Engine (σ : Type) where
  name : Text
  registry : Registry σ
  highlight : Highlighter

namespace Engine

variable {σ : Type}

/-- The engine on the catalogue that is installed. -/
def ofCatalogue (there : Installation) (config : Config) : Engine Cache where
  name := EngineKind.name .catalogue
  registry := Registry.ofCatalogue there.catalogue config.aliases
  highlight := Highlighter.spans there.escapes config.cssPrefix

/-- The engine on an outside service. -/
def ofService (s : Service) (config : Config) : Engine Cache where
  name := EngineKind.name .service
  registry := Registry.ofService s config.aliases
  highlight := Highlighter.ofService s

/-- The engine of a kind, if what it needs is installed. -/
def ofKind (there : Installation) (config : Config) :
    EngineKind → Except ConfigFailure (Engine Cache)
  | .catalogue => .ok (ofCatalogue there config)
  | .service =>
    match there.service with
    | some s => .ok (ofService s config)
    | none => .error .serviceMissing

/-- The engine that the settings choose. -/
def configured (there : Installation) (config : Config) : Except ConfigFailure (Engine Cache) :=
  ofKind there config config.engine

/-- The engine of a given name, or the one that the settings choose. -/
def load (there : Installation) (name : Option Text) (config : Config) :
    Except ConfigFailure (Engine Cache) :=
  match name with
  | none => configured there config
  | some n =>
    match EngineKind.ofName? n with
    | some kind => ofKind there config kind
    | none => .error (.unknownEngine n)

/-- The markup of a source text in the language of a flag. -/
def markup (e : Engine σ) (memory : σ) (flag source : Text) : Except AnswerFailure Text :=
  match (e.registry.resolve memory flag).1.scope with
  | .error cause => .error (.engine cause)
  | .ok none => .error (.unknownLanguage flag)
  | .ok (some scope) => (e.highlight source scope).mapError .engine

end Engine

/-- The markup of a source text in the language of a flag, by a fresh engine that the settings
choose. -/
def highlight (there : Installation) (config : Config) (flag source : Text) :
    Except Failure Text :=
  match Engine.configured there config with
  | .error cause => .error (.config cause)
  | .ok engine => (engine.markup [] flag source).mapError .answer

/-- What `highlight` logs: the engine and what became of the flag. Nothing is logged of an engine that
cannot be built. -/
def highlightNotes (there : Installation) (config : Config) (flag : Text) : List Note :=
  match Engine.configured there config with
  | .error _ => []
  | .ok engine => .engineLoaded engine.name :: (engine.registry.resolve [] flag).1.notes

end LineHighlight
