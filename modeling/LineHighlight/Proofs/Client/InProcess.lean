import LineHighlight.Proofs.Client.Launch

/-!
# The two ways to have code highlighted

Code can be highlighted in the same process or by a client that is connected to the program. The two
ways meet at the engine: the client's server has code lines behind markers and a registry that
remembers, the process has the code itself and a fresh registry. `highlights_eq_inProcess` says that
this makes no difference up to the first call that fails, and what becomes of that one.
-/

namespace LineHighlight

/-! ## The same source -/

/-- A highlighter for a catalogue sees a source text in the form that lexers read. -/
lemma Highlighter.spans_congr (E : Markup.Escapes) (cssPrefix : Text) {source other : Text}
    (h : canonicalSource source = canonicalSource other) (scope : Scope) :
    spans E cssPrefix source scope = spans E cssPrefix other scope := by
  unfold spans
  cases scope.grammar with
  | lexer l =>
    dsimp only
    unfold Lexer.tokens
    rw [h]
  | named name => rfl

/-- The engine on a catalogue makes the same of a piece of code and of its lines. -/
lemma Engine.markup_splitCode (there : Installation) (config : Config) (cache : Cache)
    (flag code : Text) :
    (ofCatalogue there config).markup cache flag (Text.unlines (Text.splitCode code)) =
      (ofCatalogue there config).markup cache flag code := by
  have hspans : ∀ scope,
      (ofCatalogue there config).highlight (Text.unlines (Text.splitCode code)) scope =
        (ofCatalogue there config).highlight code scope := fun scope =>
    Highlighter.spans_congr there.escapes config.cssPrefix
      (Text.canonicalSource_unlines_splitCode code) scope
  rw [markup_eq, markup_eq]
  unfold markupOf
  split
  · rfl
  · rfl
  · rw [hspans]

/-! ## Replies -/

namespace Reply

/-- The reply of a client to a call of which this comes in the same process: an unknown language is
reported as such, and an engine that fails makes the server exit with status 3. -/
def ofInProcess : Except Failure Text → Reply Text
  | .ok html => .value html
  | .error (.answer (.engine _)) => .failure (.protocol (.exited 3))
  | .error cause => .failure cause

/-- The replies up to and including the first that is not a value. -/
def uptoFailure : List (Reply Text) → List (Reply Text)
  | [] => []
  | .value html :: rest => .value html :: uptoFailure rest
  | reply :: _ => [reply]

end Reply

/-! ## Runs -/

lemma highlight_eq (there : Installation) {config : Config} (h : config.engine = .catalogue)
    (flag source : Text) :
    highlight there config flag source =
      ((Engine.ofCatalogue there config).markup [] flag source).mapError .answer := by
  unfold highlight Engine.configured
  rw [h]
  rfl

namespace Connection

open CommandLine

/-- The calls of a client in step are replied to as in the same process. The induction is on the
calls; what carries it is that the registry of the server has only seen flags in their looked-up
form. -/
lemma uptoFailure_highlights {there : Installation} {config : Config} {client : Client}
    {logging : Logging} (hengine : config.engine = .catalogue)
    (hready : client.config.ready = config.ready)
    (hterminator : client.config.terminator = config.terminator)
    (hcr : '\r' ∉ config.terminator) {calls : List (Text × Text)}
    (hcalls : ∀ call ∈ calls, client.check call.1 call.2 = .ok () ∧
      IsLookupForm (client.rename call.1) ∧
      ∀ html, LineHighlight.highlight there config (client.rename call.1) call.2 = .ok html →
        '\r' ∉ html ∧ config.terminator ∉ Text.pieces '\n' html)
    {memory : Cache} {c : Connection Piped}
    (hrecalls : Registry.Recalls there.catalogue config.aliases IsLookupForm memory)
    (h : InStep client (.ofCatalogue there config) logging memory c) :
    Reply.uptoFailure ((c.highlights calls).map (·.reply)) =
      Reply.uptoFailure (calls.map fun call =>
        .ofInProcess (LineHighlight.highlight there config (client.rename call.1) call.2)) := by
  induction calls generalizing memory c with
  | nil => rfl
  | cons call rest ih =>
    obtain ⟨flag, code⟩ := call
    obtain ⟨hcheck, hform, hhtml⟩ := hcalls (flag, code) List.mem_cons_self
    have hrest := fun call hcall => hcalls call (List.mem_cons_of_mem (flag, code) hcall)
    have hsame : (Engine.ofCatalogue there config).markup memory (client.rename flag)
          (Text.unlines (Text.splitCode code)) =
        (Engine.ofCatalogue there config).markup [] (client.rename flag) code := by
      rw [Engine.markup_splitCode, Engine.markup_of_recalls hrecalls hform]
    have hinProcess := highlight_eq there hengine (client.rename flag) code
    rw [highlights, List.map_cons, List.map_cons]
    cases hmarkup : (Engine.ofCatalogue there config).markup [] (client.rename flag) code with
    | ok html =>
      -- The whole block is read, so that the connection stays in step.
      rw [hmarkup] at hsame hinProcess
      obtain ⟨hhtmlCr, hframe⟩ := hhtml html hinProcess
      have hread : readAnswer client.config.terminator []
          (received (answerBlock config.terminator html)) = (some html, []) := by
        rw [received_answerBlock config.terminator_oneLine hcr hhtmlCr, hterminator]
        exact (readAnswer_block_iff config.terminator_oneLine html).2 hframe
      obtain ⟨hreply, -, hstep⟩ := highlight_of_ok h hready hcheck hsame hread
      have hmore := ih hrest (Registry.recalls_resolve hrecalls hform) (hstep rfl)
      rw [hreply, hinProcess]
      exact congrArg (Reply.value html :: ·) hmore
    | error cause =>
      -- The server exits, and what the other calls come to is not looked at.
      rw [hmarkup] at hsame hinProcess
      rw [highlight_of_error h hready hcheck hsame, hinProcess]
      cases cause with
      | unknownLanguage other =>
        rw [(Engine.markup_eq_unknownLanguage_iff.1 hmarkup).1]
        rfl
      | engine cause => rfl

/-- A client that is connected to the program comes to what comes of the same calls in one process,
up to and including the first that fails. The client has the default markers and renames what it
likes; the program is started with any words that lead to a session on the catalogue. -/
theorem highlights_eq_inProcess (there : Installation) (words : List Text) (config : Config)
    (logging : Logging) (renames : Table) (calls : List (Text × Text))
    (hplan : plan words = .ok (.serve config logging)) (hengine : config.engine = .catalogue)
    (hopens : there.Opens config)
    (hcalls : ∀ call ∈ calls,
      let client : Client := { config := .default, renames := renames }
      client.check call.1 call.2 = .ok () ∧
      Text.strip (client.rename call.1) = normalizeFlag (client.rename call.1) ∧
      ∀ html, LineHighlight.highlight there config (client.rename call.1) call.2 = .ok html →
        '\r' ∉ html ∧ config.terminator ∉ Text.pieces '\n' html) :
    let client : Client := { config := .default, renames := renames }
    Reply.uptoFailure (((launched there words client).highlights calls).map (·.reply)) =
      Reply.uptoFailure (calls.map fun call =>
        .ofInProcess (LineHighlight.highlight there config (client.rename call.1) call.2)) := by
  intro client
  obtain ⟨hready, hterminator, aliases, haliases⟩ := config_of_plan hplan
  have hkeys : ∀ key ∈ config.aliases.keys, IsLookupForm key := by
    intro key hkey
    rw [haliases] at hkey
    obtain ⟨flag, rfl⟩ := Table.exists_of_mem_keys_normalized hkey
    exact isLookupForm_normalizeFlag flag
  have hcr : '\r' ∉ config.terminator := by
    rw [hterminator]
    decide
  have hstep : InStep client (.ofCatalogue there config) logging
      ((Registry.ofCatalogue there.catalogue config.aliases).remember [] config.aliases.keys)
      (launched there words client) :=
    inStep_launched hplan hengine hopens rfl
  have hrecalls : Registry.Recalls there.catalogue config.aliases IsLookupForm
      ((Registry.ofCatalogue there.catalogue config.aliases).remember [] config.aliases.keys) :=
    Registry.recalls_remember Registry.recalls_nil hkeys
  exact uptoFailure_highlights hengine hready.symm hterminator.symm hcr hcalls hrecalls hstep

/-- A renamed language with line breaks of several kinds in the code, and then one that nobody
knows. -/
theorem highlights_renamed_then_unknown :
    let client : Client :=
      { config := .default, renames := .ofList [("prose".toList, "text".toList)] }
    Reply.uptoFailure (((launched .textOnly [] client).highlights
        [("prose".toList, "a < b\r\nc".toList), ("nope".toList, [])]).map (·.reply)) =
      [.value "a &lt; b\nc\n".toList, .failure (.answer (.unknownLanguage "nope".toList))] := by
  intro client
  have hknown : LineHighlight.highlight .textOnly .default (client.rename "prose".toList)
      "a < b\r\nc".toList = .ok "a &lt; b\nc\n".toList := eq_ok_of_toOption (by decide +kernel)
  have hunknown : (LineHighlight.highlight .textOnly .default (client.rename "nope".toList)
      []).toOption = none := by decide +kernel
  refine (highlights_eq_inProcess .textOnly [] .default ⟨[.own], 30⟩ _ _ plan_nil rfl
    (Installation.opens_textOnly .default) fun call hcall => ?_).trans (by decide +kernel)
  rcases List.mem_cons.1 hcall with rfl | hcall
  · refine ⟨eq_ok_of_toOption (by decide +kernel), by decide +kernel, fun html hhtml => ?_⟩
    rw [← Except.ok.inj (hknown.symm.trans hhtml)]
    decide
  · rw [List.mem_singleton] at hcall
    subst hcall
    refine ⟨eq_ok_of_toOption (by decide +kernel), by decide +kernel, fun html hhtml => ?_⟩
    have hnone := congrArg Except.toOption hhtml
    exact absurd (hunknown.symm.trans hnone) (Option.some_ne_none html).symm

end Connection
end LineHighlight
