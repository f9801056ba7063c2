import LineHighlight.CommandLine.Process
import LineHighlight.Proofs.Grammar.History
import LineHighlight.Proofs.Server.Session

/-!
# Exit statuses

What the exit status of the program tells, for words that ask it to serve a session and lose no
value. Status 2 means that the words are malformed or the engine is not installed, and then nothing
was written. Any other status is that of a session: 0 if no request failed, 1 if the first that
failed had no scope, 3 if the engine failed on it (`run_statuses`). The engine can also fail before
the session is opened, on a grammar behind an alias; that is status 3, too, and nothing was written.
-/

namespace LineHighlight
namespace CommandLine

/-! ## What the words ask for -/

/-- No value that counts was lost: neither an alias nor the value of another option. -/
structure Arguments.Kept (a : Arguments) : Prop where
  engine : a.engine ≠ none
  aliases : none ∉ a.aliases
  cssPrefix : a.cssPrefix ≠ none
  logLevel : a.logLevel ≠ none

/-- Words that are understood ask neither for help, nor for the version, nor for the languages, and
no value that counts is lost. -/
def AskToServe (words : List Text) : Prop :=
  ∀ parsed, parse words = .ok parsed →
    ∃ a : Arguments, parsed = .arguments a ∧ a.listLanguages = false ∧ a.Kept

/-- No log level has the name that is given. -/
def Arguments.LevelUnknown (a : Arguments) : Prop :=
  ∃ level, a.logLevel = some level ∧ Level.ofName? level = none

/-- An alias is not of the form that aliases have. -/
def Arguments.AliasMalformed (a : Arguments) : Prop :=
  ∃ entry cause, some entry ∈ a.aliases ∧ parseAlias entry = .error cause

/-- The words are not understood, or the log level or an alias is refused. -/
def Malformed (words : List Text) : Prop :=
  (∃ cause, parse words = .error cause) ∨
    ∃ a, parse words = .ok (.arguments a) ∧ (a.LevelUnknown ∨ a.AliasMalformed)

/-- The words choose the outside service, which is not installed. -/
def LacksEngine (there : Installation) (words : List Text) : Prop :=
  ∃ a, parse words = .ok (.arguments a) ∧ a.engine = some .service ∧ there.service = none

variable {words : List Text} {a : Arguments} {there : Installation}

/-- The settings are refused over an alias, or they are those with the engine chosen. -/
lemma config_of_kept (h : a.Kept) :
    (a.AliasMalformed ∧ ∃ cause, a.config = .error (.refused cause)) ∨
      (¬ a.AliasMalformed ∧ ∃ config, a.config = .ok config ∧ a.engine = some config.engine) := by
  obtain ⟨engine, hengine⟩ := Option.ne_none_iff_exists'.1 h.engine
  have hrefused : ∀ {entry cause}, parseAlias entry = .error cause →
      readAlias (some entry) = .error (.refused (.config cause)) := by
    intro entry cause hparse
    show (parseAlias entry).mapError _ = _
    rw [hparse]
    rfl
  unfold Arguments.config
  rw [hengine]
  dsimp only
  cases hread : a.aliases.mapM readAlias with
  | error halt =>
    -- The alias that stops the reading was not lost, so that it is malformed.
    obtain ⟨value, hmem, hvalue⟩ := exists_of_mapM_eq_error hread
    have hkept : value ≠ none := fun hnone => h.aliases (hnone ▸ hmem)
    obtain ⟨entry, rfl⟩ := Option.ne_none_iff_exists'.1 hkept
    obtain ⟨cause, hparse, rfl⟩ := exists_of_mapError_eq_error hvalue
    exact .inl ⟨⟨entry, cause, hmem, hparse⟩, .config cause, rfl⟩
  | ok extra =>
    refine .inr ⟨?_, _, rfl, rfl⟩
    rintro ⟨entry, cause, hmem, hparse⟩
    obtain ⟨pair, hpair⟩ := exists_of_mapM_eq_ok hread hmem
    exact nomatch hpair.symm.trans (hrefused hparse)

/-- Words that ask to serve a session are malformed and refused, or they have a session planned with
the engine chosen. -/
theorem plan_of_askToServe (h : AskToServe words) :
    (Malformed words ∧ ∃ cause, plan words = .error (.refused cause)) ∨
      (¬ Malformed words ∧ ∃ a config logging, parse words = .ok (.arguments a) ∧
        a.engine = some config.engine ∧ plan words = .ok (.serve config logging)) := by
  cases hparse : parse words with
  | error cause =>
    refine .inl ⟨.inl ⟨cause, hparse⟩, cause, ?_⟩
    unfold plan
    rw [hparse]
  | ok parsed =>
    obtain ⟨a, rfl, hlist, hkept⟩ := h parsed hparse
    have hplan : plan words = a.plan := by
      unfold plan
      rw [hparse]
    have hmalformed : Malformed words ↔ a.LevelUnknown ∨ a.AliasMalformed := by
      unfold Malformed
      rw [hparse]
      constructor
      · rintro (⟨cause, hcause⟩ | ⟨a', ha', hbad⟩)
        · exact nomatch hcause
        · rw [Parsed.arguments.inj (Except.ok.inj ha')]
          exact hbad
      · exact fun hbad => .inr ⟨a, rfl, hbad⟩
    obtain ⟨level, hlevel⟩ := Option.ne_none_iff_exists'.1 hkept.logLevel
    rw [hplan, hmalformed]
    unfold Arguments.plan
    rw [hlevel]
    cases hseverity : Level.ofName? level with
    | none =>
      have hrefused : Logging.configure {} (.named level) = .error (.unknownLevel level) := by
        unfold Logging.configure LevelChoice.check
        dsimp only
        rw [hseverity]
        rfl
      dsimp only
      rw [hrefused]
      exact .inl ⟨.inl ⟨level, hlevel, hseverity⟩, _, rfl⟩
    | some severity =>
      have hset : Logging.configure {} (.named level) = .ok (Logging.install {} severity) := by
        unfold Logging.configure LevelChoice.check
        dsimp only
        rw [hseverity]
        rfl
      have hknown : ¬ a.LevelUnknown := by
        rintro ⟨level', hlevel', hnone⟩
        rw [hlevel] at hlevel'
        rw [← Option.some.inj hlevel', hseverity] at hnone
        exact nomatch hnone
      dsimp only
      rw [hset]
      rcases config_of_kept hkept with ⟨hbad, cause, hconfig⟩ | ⟨hgood, config, hconfig, hengine⟩
      · rw [hconfig]
        exact .inl ⟨.inr hbad, cause, rfl⟩
      · rw [hconfig]
        dsimp only
        rw [hlist, if_neg Bool.false_ne_true, if_neg fun hlost => hkept.cssPrefix hlost.1]
        exact .inr ⟨not_or.2 ⟨hknown, hgood⟩, a, config, _, rfl, hengine, rfl⟩

/-! ## What the status of a session tells -/

/-- The status of a session that was opened tells whether a request failed and why. -/
lemma exitStatus_ofSession (failure : Option AnswerFailure) (ended : Bool) :
    exitStatus (.ofSession failure ended) =
      match failure with
      | none => 0
      | some (.unknownLanguage _) => 1
      | some (.engine _) => 3 := by
  rcases failure with _ | _ | _
  · cases ended <;> rfl
  · rfl
  · rfl

/-- The first request that fails, if there is one, has no scope, or the engine fails on it; the
status says which. -/
theorem exitStatus_replies {σ : Type} (e : Engine σ) (memory : σ) (requests : List Request)
    (ended : Bool) :
    let replies := e.replies memory requests
    let count := replies.markups.length
    let before := e.registry.remember memory ((requests.take count).map (·.language))
    let status := exitStatus (.ofSession replies.failure ended)
    (status = 0 ∨ status = 1 ∨ status = 3) ∧ (status = 0 ↔ count = requests.length) ∧
      (status = 1 ↔
        ∃ r, requests[count]? = some r ∧ e.registry.answer before r.language = .ok none) ∧
      (status = 3 ↔ ∃ r, requests[count]? = some r ∧ e.Raises before r.language r.source) := by
  intro replies count before status
  have hstatus : status = _ := exitStatus_ofSession replies.failure ended
  cases hfailure : replies.failure with
  | none =>
    rw [hfailure] at hstatus
    -- No request is left that could have failed.
    have hcount : count = requests.length := e.length_markups_of_none hfailure
    have hnone : requests[count]? = none := List.getElem?_eq_none (Nat.le_of_eq hcount.symm)
    have hstatus : status = 0 := hstatus
    rw [hnone]
    exact ⟨.inl hstatus, ⟨fun _ => hcount, fun _ => hstatus⟩,
      ⟨fun h => absurd (hstatus.symm.trans h) (by decide), fun h => nomatch h⟩,
      ⟨fun h => absurd (hstatus.symm.trans h) (by decide), fun h => nomatch h⟩⟩
  | some cause =>
    rw [hfailure] at hstatus
    obtain ⟨r, hr, hmarkup⟩ := e.exists_of_failure hfailure
    have hleft : count ≠ requests.length := by
      intro hcount
      rw [List.getElem?_eq_none (Nat.le_of_eq hcount.symm)] at hr
      exact nomatch hr
    rw [hr]
    cases cause with
    | unknownLanguage flag =>
      have hstatus : status = 1 := hstatus
      have hanswer := (Engine.markup_eq_unknownLanguage_iff.1 hmarkup).2
      refine ⟨.inr (.inl hstatus),
        ⟨fun h => absurd (hstatus.symm.trans h) (by decide), fun h => absurd h hleft⟩,
        ⟨fun _ => ⟨r, rfl, hanswer⟩, fun _ => hstatus⟩,
        ⟨fun h => absurd (hstatus.symm.trans h) (by decide), ?_⟩⟩
      rintro ⟨r', hr', hraises⟩
      rw [← Option.some.inj hr'] at hraises
      exact absurd hraises (Engine.not_raises_of_answer hanswer r.source)
    | engine cause =>
      have hstatus : status = 3 := hstatus
      have hraises := Engine.raises_of_markup hmarkup
      refine ⟨.inr (.inr hstatus),
        ⟨fun h => absurd (hstatus.symm.trans h) (by decide), fun h => absurd h hleft⟩,
        ⟨fun h => absurd (hstatus.symm.trans h) (by decide), ?_⟩,
        ⟨fun _ => ⟨r, rfl, hraises⟩, fun _ => hstatus⟩⟩
      rintro ⟨r', hr', hanswer⟩
      rw [← Option.some.inj hr'] at hanswer
      exact absurd hraises (Engine.not_raises_of_answer hanswer r.source)

/-! ## What the status of the program tells -/

/-- What is seen of a session on some requests: nothing but status 3 if it is not opened, and
otherwise the ready line and the blocks of the requests before the first that fails, with a status
that says whether there is such a request and why it failed. -/
structure Reported (s : Server Cache) (requests : List Request) (report : Report) : Prop where
  notOpened : ∀ cause, (s.engine.registry.preload [] s.config.aliases.keys).found = .error cause →
    report.status = 3 ∧ report.stdout = []
  opened : ∀ n, (s.engine.registry.preload [] s.config.aliases.keys).found = .ok n →
    let warm := s.engine.registry.remember [] s.config.aliases.keys
    let replies := s.engine.replies warm requests
    let count := replies.markups.length
    let before := s.engine.registry.remember warm ((requests.take count).map (·.language))
    report.stdout = s.readyLine ++ replies.markups.flatMap (answerBlock s.config.terminator) ∧
      (report.status = 0 ∨ report.status = 1 ∨ report.status = 3) ∧
      (report.status = 0 ↔ count = requests.length) ∧
      (report.status = 1 ↔
        ∃ r, requests[count]? = some r ∧ s.engine.registry.answer before r.language = .ok none) ∧
      (report.status = 3 ↔
        ∃ r, requests[count]? = some r ∧ s.engine.Raises before r.language r.source)

/-- A session that is served is reported. -/
lemma reported_serveSession {s : Server Cache} (logging : Logging)
    (hserver : Server.configured there s.config = .ok s) (input : Text) :
    Reported s (requestsOf (Text.lines input))
      (serveSession there s.config logging (.ofText input)) := by
  have hstart := s.ending_start []
  unfold serveSession
  rw [hserver]
  constructor
  · intro cause hfound
    rw [hfound] at hstart
    obtain ⟨hout, hend⟩ := Server.run_of_notOpened hstart (.ofText input)
    exact ⟨congrArg exitStatus hend, hout⟩
  · intro n hfound
    rw [hfound] at hstart
    obtain ⟨hout, hend⟩ := Server.run_of_opened hstart input
    have hstatus := exitStatus_replies s.engine
      (s.engine.registry.remember [] s.config.aliases.keys) (requestsOf (Text.lines input))
      (endsSession (Text.lines input))
    dsimp only at hstatus ⊢
    rw [hend]
    exact ⟨hout, hstatus⟩

/-- Only an engine that is not installed cannot be had. -/
lemma configured_eq_error_iff {config : Config} :
    (∃ cause, Server.configured there config = .error cause) ↔
      config.engine = .service ∧ there.service = none := by
  unfold Server.configured Engine.configured Engine.ofKind
  cases config.engine with
  | catalogue => simp [Except.map]
  | service => cases there.service <;> simp [Except.map]

/-- No session ends by the status for words that are refused. -/
lemma exitStatus_ne_two (ending : Ending) : exitStatus ending ≠ 2 := by
  cases ending <;> simp [exitStatus, engineFailedStatus]

/-- The settings that were current before a run are current after it. -/
lemma context_run (there : Installation) (output : Repertoire) (words : List Text) (input : Input)
    (context : Context) : (run there output words input context).2 = context := by
  unfold run
  split <;> rfl

/-- The exit status of a program that is asked to serve a session. It is 2 exactly if the words are
malformed or the engine that they choose is not installed, and then nothing is written; any other
status is that of the session on the requests that stand on its input, whichever line breaks end a line
there. Whatever the words ask for, the settings that were current before the run are current after
it. -/
theorem run_statuses (there : Installation) (output : Repertoire) (words : List Text)
    (ends : Text.LineEnds) (bytes : List UInt8) (context : Context) :
    let done := run there output words (inputOfBytes ends bytes) context
    let requests := requestsOf (Text.lines (ends.read (Text.Utf8.decode bytes)))
    done.2 = context ∧
      (AskToServe words → ∃ report, done.1 = .ok report ∧
        (report.status = 2 ↔ Malformed words ∨ LacksEngine there words) ∧
        (report.status = 2 → report.stdout = []) ∧
        (report.status ≠ 2 → ∃ s logging, plan words = .ok (.serve s.config logging) ∧
          Server.configured there s.config = .ok s ∧ Reported s requests report)) := by
  intro done requests
  refine ⟨context_run there output words (inputOfBytes ends bytes) context, fun hserve => ?_⟩
  rcases plan_of_askToServe hserve with ⟨hbad, cause, hplan⟩ |
    ⟨hgood, a, config, logging, hparse, hengine, hplan⟩
  · -- The words are refused.
    have hdone : done.1 = .ok { status := usageStatus, usage := cause.report } := by
      show (run there output words (inputOfBytes ends bytes) context).1 = _
      unfold run
      rw [hplan]
    exact ⟨_, hdone, iff_of_true rfl (.inl hbad), fun _ => rfl, fun h => absurd rfl h⟩
  · have hdone : done.1 = .ok (serveSession there config logging (inputOfBytes ends bytes)) := by
      show (run there output words (inputOfBytes ends bytes) context).1 = _
      unfold run
      rw [hplan]
      rfl
    refine ⟨_, hdone, ?_⟩
    have hlacks : LacksEngine there words ↔
        ∃ cause, Server.configured there config = .error cause := by
      rw [configured_eq_error_iff]
      unfold LacksEngine
      rw [hparse]
      constructor
      · rintro ⟨a', ha', hservice, hmissing⟩
        rw [← Parsed.arguments.inj (Except.ok.inj ha'), hengine] at hservice
        exact ⟨Option.some.inj hservice, hmissing⟩
      · rintro ⟨hservice, hmissing⟩
        exact ⟨a, rfl, hengine.trans (congrArg some hservice), hmissing⟩
    cases hserver : Server.configured there config with
    | error cause =>
      have hreport : serveSession there config logging (inputOfBytes ends bytes) =
          { status := notStartedStatus, notes := [.notStarted cause].filter logging.passes } := by
        unfold serveSession
        rw [hserver]
      rw [hreport]
      exact ⟨iff_of_true rfl (.inr (hlacks.2 ⟨cause, hserver⟩)), fun _ => rfl,
        fun h => absurd rfl h⟩
    | ok s =>
      obtain rfl := Server.config_of_configured hserver
      have hstatus : (serveSession there s.config logging (inputOfBytes ends bytes)).status ≠ 2 := by
        unfold serveSession
        rw [hserver]
        exact exitStatus_ne_two _
      have hserved : ¬ (Malformed words ∨ LacksEngine there words) := by
        rw [not_or, hlacks]
        exact ⟨hgood, fun ⟨cause, hcause⟩ => nomatch hserver.symm.trans hcause⟩
      exact ⟨iff_of_false hstatus hserved, fun h => absurd h hstatus,
        fun _ => ⟨s, logging, hplan, hserver, reported_serveSession logging hserver _⟩⟩

/-- With an installed service, the request before the one for a language that the service does not
know is answered. A carriage return within a line of its code stays there if only line feeds end
lines. -/
theorem run_statuses_service :
    let there : Installation :=
      { catalogue := []
        service := some ⟨fun name => some (name ≠ "old".toList), fun source _ => .ok source⟩ }
    let words := ["--engine".toList, "rosettes".toList]
    let bytes := "new\n\ta\rb\n\nold\n\nnew\n\n".toUTF8.toList
    AskToServe words ∧ ¬ Malformed words ∧ ¬ LacksEngine there words ∧
      ∃ report, (run there .unicode words (inputOfBytes .lineFeed bytes) {}).1 = .ok report ∧
        report.status = 1 ∧ report.stdout = "ready\na\rb\n\n\x04\n".toList ∧
        ∃ s, Reported s
          [⟨"new".toList, "a\rb\n".toList⟩, ⟨"old".toList, []⟩, ⟨"new".toList, []⟩] report := by
  intro there words bytes
  have hparse : parse words = .ok (.arguments { engine := some .service }) :=
    eq_ok_of_toOption (by decide +kernel)
  have hserve : AskToServe words := by
    intro parsed h
    exact ⟨_, (Except.ok.inj (hparse.symm.trans h)).symm, rfl,
      ⟨Option.some_ne_none _, List.not_mem_nil, Option.some_ne_none _, Option.some_ne_none _⟩⟩
  have hseen : (run there .unicode words (inputOfBytes .lineFeed bytes) {}).1.map
      (fun report => (report.status, report.stdout)) = .ok (1, "ready\na\rb\n\n\x04\n".toList) :=
    eq_ok_of_toOption (by decide +kernel)
  obtain ⟨-, hreport⟩ := run_statuses there .unicode words .lineFeed bytes {}
  obtain ⟨report, hdone, hrefused, -, hsession⟩ := hreport hserve
  obtain ⟨report', hdone', hpair⟩ := exists_of_map_eq_ok hseen
  obtain rfl : report' = report := Except.ok.inj (hdone'.symm.trans hdone)
  obtain ⟨hstatus, hstdout⟩ := Prod.mk.inj hpair
  have hne : report'.status ≠ 2 := by
    rw [hstatus]
    decide
  obtain ⟨hgood, hengine⟩ := not_or.1 (mt hrefused.2 hne)
  obtain ⟨s, -, -, -, hreported⟩ := hsession hne
  have hrequests : requestsOf (Text.lines (Text.LineEnds.lineFeed.read (Text.Utf8.decode bytes))) =
      [⟨"new".toList, "a\rb\n".toList⟩, ⟨"old".toList, []⟩, ⟨"new".toList, []⟩] := by
    decide +kernel
  rw [hrequests] at hreported
  exact ⟨hserve, hgood, hengine, report', hdone, hstatus, hstdout, s, hreported⟩

/-- An entry for one file name whose priority has no room for half a point more. -/
def overrated (file : String) : Lexer where
  className := "A".toList
  name := "A".toList
  aliases := []
  filenames := [file.toList]
  priority := .number Binary64.limit
  scan := Lexer.scanWhole .text

/-- A priority that leaves no room breaks the lookup of the file name: the program exits with status 3
and without the ready line if the name is that of an alias, though nothing was asked of it, and
otherwise at the first request for the name, for which no highlighter is called. And an alias that is
malformed can break the program off. -/
theorem statuses_of_overrated :
    let there (file : String) : Installation := { catalogue := [overrated file] }
    let seen (file : String) (input : Text) :=
      (run (there file) .unicode [] (.ofText input) {}).1.map fun r => (r.status, r.stdout)
    AskToServe [] ∧ ¬ Malformed [] ∧ (∀ file, ¬ LacksEngine (there file) []) ∧
      requestsOf (Text.lines []) = [] ∧ seen "md" [] = .ok (3, []) ∧
      requestsOf (Text.lines "x\n\n".toList) = [⟨"x".toList, []⟩] ∧
      seen "x" "x\n\n".toList = .ok (3, "ready\n".toList) ∧
      (∃ cause, (Engine.ofCatalogue { catalogue := [overrated "x"] } .default).registry.answer [] "x".toList =
        .error cause) ∧
      parseAlias "--".toList = .error (.malformedAlias "--".toList) ∧
      (run {} .unicode ["--alias=--".toList] (.ofText []) {}).1 =
        .error (.lostValue .addAlias) := by
  intro there seen
  have hparse : parse [] = .ok (.arguments {}) := rfl
  refine ⟨?_, ?_, ?_, rfl, ?_, ?_, ?_, ?_, ?_, ?_⟩
  · intro parsed h
    exact ⟨_, (Except.ok.inj (hparse.symm.trans h)).symm, rfl,
      ⟨Option.some_ne_none _, List.not_mem_nil, Option.some_ne_none _, Option.some_ne_none _⟩⟩
  · rintro (⟨cause, hcause⟩ | ⟨a, ha, hbad⟩)
    · exact nomatch hparse.symm.trans hcause
    · obtain rfl := Parsed.arguments.inj (Except.ok.inj (hparse.symm.trans ha))
      rcases hbad with ⟨level, hlevel, hnone⟩ | ⟨entry, cause, hmem, -⟩
      · rw [← Option.some.inj hlevel] at hnone
        exact absurd hnone (by decide)
      · exact absurd hmem List.not_mem_nil
  · rintro file ⟨a, ha, hservice, -⟩
    obtain rfl := Parsed.arguments.inj (Except.ok.inj (hparse.symm.trans ha))
    exact absurd hservice (by decide)
  · exact eq_ok_of_toOption (by decide +kernel)
  · decide +kernel
  · exact eq_ok_of_toOption (by decide +kernel)
  · have hnone : ((Engine.ofCatalogue { catalogue := [overrated "x"] } .default).registry.answer []
        "x".toList).toOption.isNone = true := by decide +kernel
    cases hanswer : (Engine.ofCatalogue { catalogue := [overrated "x"] } .default).registry.answer [] "x".toList with
    | error cause => exact ⟨cause, rfl⟩
    | ok found =>
      rw [hanswer] at hnone
      exact nomatch hnone
  · rfl
  · rfl

end CommandLine
end LineHighlight
