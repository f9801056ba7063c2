import LineHighlight.Config.Basic

/-!
# The current settings

Settings can be made current for a while. Entering a block saves the settings that were current,
leaving it makes them current again, whatever was set in between.
-/

namespace LineHighlight

/-- The current settings and those saved by the blocks entered and not left, innermost first. -/
structure Context where
  current : Config := Config.default
  saved : List Config := []
  deriving DecidableEq

namespace Context

/-- Makes settings current. -/
def set (c : Context) (config : Config) : Context := { c with current := config }

/-- Makes the default settings current. -/
def reset (c : Context) : Context := c.set Config.default

/-- Enters a block in which `config` is current at first. -/
def enter (c : Context) (config : Config) : Context := ⟨config, c.current :: c.saved⟩

/-- Leaves the innermost block. -/
def leave (c : Context) : Context :=
  match c.saved with
  | [] => c
  | config :: saved => ⟨config, saved⟩

/-- Runs `body` in a block in which `config` is current at first. -/
def within {α : Type} (c : Context) (config : Config) (body : Context → α × Context) :
    α × Context :=
  let done := body (c.enter config)
  (done.1, done.2.leave)

end Context
end LineHighlight
