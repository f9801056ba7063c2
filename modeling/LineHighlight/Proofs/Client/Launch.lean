import LineHighlight.Proofs.Client.Exchange
import LineHighlight.Proofs.Config.NormalForm
import LineHighlight.Proofs.Grammar.History
import LineHighlight.Proofs.Server.Session

/-!
# Sessions of a client with the program

The program is started with some words, a client is connected to it and makes calls one after
another. `config_of_plan` says what all settings of a command line have in common, `inStep_launched`
that the client and the program are in step at the start, whatever the settings.
-/

namespace LineHighlight

/-! ## Settings of a command line -/

namespace CommandLine

/-- A session is planned with the settings of some arguments. -/
lemma exists_arguments_of_plan {words : List Text} {config : Config} {logging : Logging}
    (h : plan words = .ok (.serve config logging)) : ∃ a : Arguments, a.config = .ok config := by
  unfold plan at h
  split at h
  · exact absurd h (by simp)
  · exact absurd h (by simp)
  · exact absurd h (by simp)
  · rename_i a _
    refine ⟨a, ?_⟩
    unfold Arguments.plan at h
    -- Every other plan is not to serve a session.
    split at h
    · exact absurd h (by simp)
    · split at h
      · exact absurd h (by simp)
      · split at h
        · exact absurd h (by simp)
        · rename_i settings hsettings
          rw [Except.ok.injEq] at h
          split at h
          · exact absurd h (by simp)
          · split at h
            · exact absurd h (by simp)
            · rw [hsettings, (Plan.serve.inj h).1]

/-- The words of a command line choose neither the ready line nor the terminator, and the aliases
they lead to are stored by normal forms. -/
theorem config_of_plan {words : List Text} {config : Config} {logging : Logging}
    (h : plan words = .ok (.serve config logging)) :
    config.ready = Config.default.ready ∧ config.terminator = Config.default.terminator ∧
      ∃ aliases : Table, config.aliases = aliases.normalized := by
  obtain ⟨a, ha⟩ := exists_arguments_of_plan h
  unfold Arguments.config at ha
  split at ha
  · exact absurd ha (by simp)
  · rename_i engine _
    obtain ⟨extra, -, hextra⟩ := exists_of_map_eq_ok ha
    rw [← hextra]
    exact ⟨rfl, rfl, _, rfl⟩

/-- Without words a session with the default settings is served. -/
lemma plan_nil : plan [] = .ok (.serve .default ⟨[.own], 30⟩) :=
  eq_ok_of_toOption (by decide +kernel)

end CommandLine

/-! ## Servers on a catalogue -/

/-- The server on the catalogue that is installed. -/
def Server.ofCatalogue (there : Installation) (config : Config) : Server Cache :=
  ⟨config, .ofCatalogue there config⟩

lemma Server.configured_eq {there : Installation} {config : Config}
    (h : config.engine = .catalogue) :
    configured there config = .ok (ofCatalogue there config) := by
  unfold configured Engine.configured
  rw [h]
  rfl

/-- The catalogue does not fail on a grammar behind an alias, so that a session on it is opened. -/
def Installation.Opens (there : Installation) (config : Config) : Prop :=
  ∃ n, ((Registry.ofCatalogue there.catalogue config.aliases).preload [] config.aliases.keys).found =
    .ok n

lemma Server.ending_start_of_opens {there : Installation} {config : Config}
    (h : there.Opens config) : ((ofCatalogue there config).start []).ending = none := by
  obtain ⟨n, hn⟩ := h
  have hfound : ((ofCatalogue there config).engine.registry.preload []
      (ofCatalogue there config).config.aliases.keys).found = .ok n := hn
  rw [ending_start, hfound]

/-- An installation with one entry, which makes one token of everything. -/
def Installation.textOnly : Installation :=
  { catalogue := [Catalogue.entry "TextLexer" "Text only" 0 .text ["text"] ["*.txt"]] }

lemma Installation.rated_textOnly : textOnly.catalogue.Rated := by
  intro l hl
  rw [List.mem_singleton.1 hl]
  exact Option.isSome_iff_exists.1 (by decide +kernel)

lemma Installation.opens_textOnly (config : Config) : textOnly.Opens config :=
  Registry.found_preload (Registry.neverFails_ofCatalogue rated_textOnly) [] config.aliases.keys

/-! ## Calls one after another -/

/-- The requests that calls of a client stand for. -/
def Client.requests (client : Client) (calls : List (Text × Text)) : List Request :=
  calls.map fun call => ⟨client.rename call.1, Text.unlines (Text.splitCode call.2)⟩

namespace Connection

open CommandLine

/-- Has pieces of code highlighted one after another. -/
def highlights {π : Type} [Peer π] (c : Connection π) : List (Text × Text) → List (Called π Text)
  | [] => []
  | (flag, code) :: rest =>
    let done := c.highlight flag code
    done :: done.connection.highlights rest

/-- There is one outcome for each call. -/
lemma length_highlights {π : Type} [Peer π] (d : Connection π) (calls : List (Text × Text)) :
    (d.highlights calls).length = calls.length := by
  induction calls generalizing d with
  | nil => rfl
  | cons call rest ih => exact congrArg (· + 1) (ih (d.highlight call.1 call.2).connection)

/-- What one call keeps and entails holds of all calls of a run. -/
lemma forall_mem_highlights {π : Type} [Peer π] {P : Connection π → Prop}
    {Q : Called π Text → Prop}
    (hcall : ∀ d flag code, P d → P (d.highlight flag code).connection ∧ Q (d.highlight flag code))
    {d : Connection π} (h : P d) (calls : List (Text × Text)) : ∀ done ∈ d.highlights calls, Q done := by
  induction calls generalizing d with
  | nil => exact fun done hdone => absurd hdone List.not_mem_nil
  | cons call rest ih =>
    intro done hdone
    obtain ⟨hafter, hmade⟩ := hcall d call.1 call.2 h
    rcases List.mem_cons.1 hdone with rfl | hdone
    · exact hmade
    · exact ih hafter done hdone

/-- The connection of a client to the program started with some words. -/
def launched (there : Installation) (words : List Text) (client : Client) : Connection Piped :=
  let (peer, opening) := Piped.launch there words
  connect client peer opening

/-- A program that opens a session waits for a declaration and has written the ready line. -/
lemma launch_of_opened {there : Installation} {words : List Text} {logging : Logging}
    {s : Server Cache} (hplan : plan words = .ok (.serve s.config logging))
    (hserver : Server.configured there s.config = .ok s)
    (hopened : (s.start []).ending = none) :
    Piped.launch there words =
      (⟨Piped.serving s logging (s.engine.registry.remember [] s.config.aliases.keys) []⟩,
        s.readyLine) := by
  obtain ⟨hstate, houtput⟩ := Server.start_of_opened hopened
  unfold Piped.launch Process.launch
  rw [hplan]
  dsimp only
  rw [hserver]
  dsimp only
  unfold Process.ofStep
  rw [hopened, hstate, houtput]
  rfl

/-- A client that has read nothing and a server whose session is opened are in step. -/
theorem inStep_of_opened {there : Installation} {words : List Text} {logging : Logging}
    {s : Server Cache} (hplan : plan words = .ok (.serve s.config logging))
    (hserver : Server.configured there s.config = .ok s)
    (hopened : (s.start []).ending = none) {client : Client} (hclient : client.greeted = false) :
    InStep client s logging (s.engine.registry.remember [] s.config.aliases.keys)
      (launched there words client) := by
  have hinbox : received s.readyLine = [s.readyLine] := by
    unfold Server.readyLine
    rw [(config_of_plan hplan).1]
    rfl
  unfold launched
  rw [launch_of_opened hplan hserver hopened]
  unfold connect
  refine ⟨?_, rfl, rfl, rfl, ?_⟩
  · rw [← hclient]
  · show received s.readyLine = if client.greeted = true then [] else [s.readyLine]
    rw [hinbox, hclient]
    rfl

/-- A client that has read nothing and a server on a catalogue that opens its session are in step. -/
theorem inStep_launched {there : Installation} {words : List Text} {config : Config}
    {logging : Logging} (hplan : plan words = .ok (.serve config logging))
    (hengine : config.engine = .catalogue) (hopens : there.Opens config) {client : Client}
    (hclient : client.greeted = false) :
    InStep client (.ofCatalogue there config) logging
      ((Registry.ofCatalogue there.catalogue config.aliases).remember [] config.aliases.keys)
      (launched there words client) :=
  inStep_of_opened (s := .ofCatalogue there config) hplan (Server.configured_eq hengine)
    (Server.ending_start_of_opens hopens) hclient

end Connection
end LineHighlight
