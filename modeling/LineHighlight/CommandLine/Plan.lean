import LineHighlight.CommandLine.Crash
import LineHighlight.CommandLine.Help
import LineHighlight.Config.Context
import LineHighlight.Log.Setup

/-!
# What a command line asks the program to do

A command line either halts the program or leads to one of five things: printing the help page,
printing the version, listing the languages, serving a session with given settings, or failing for
want of a class prefix.
-/

namespace LineHighlight.CommandLine

/-- Reads what is left of an alias. -/
def readAlias : Option Text → Except Halt (Text × Text)
  | none => .error (.crash (.lostValue .addAlias))
  | some entry => (parseAlias entry).mapError fun cause => .refused (.config cause)

/-- The settings that the options ask for. Aliases are read one by one; the last one for each
spelling of a flag counts, and all win over the default ones. -/
def Arguments.config (a : Arguments) : Except Halt Config :=
  match a.engine with
  | none => .error (.crash (.lostValue .engine))
  | some engine =>
    (a.aliases.mapM readAlias).map fun extra =>
      { Config.default with engine := engine, cssPrefix := a.cssPrefix.getD [] }.withAliases
        (Table.ofList extra)

/-- What the program is to do. -/
inductive Plan where
  | help
  | version
  | listLanguages
  | serve (config : Config) (logging : Logging)
  /-- Fail, because the class prefix that the catalogue's engine needs is lost. -/
  | fail (logging : Logging)
  deriving DecidableEq

/-- What the options ask for. Of two faults the log level's is reported before the settings'. -/
def Arguments.plan (a : Arguments) : Except Halt Plan :=
  match a.logLevel with
  | none => .error (.crash (.lostValue .logLevel))
  | some level =>
    match Logging.configure {} (.named level) with
    | .error cause => .error (.refused (.level cause))
    | .ok logging =>
      match a.config with
      | .error halt => .error halt
      | .ok config =>
        .ok (if a.listLanguages then .listLanguages
          else if a.cssPrefix = none ∧ config.engine = .catalogue then .fail logging
          else .serve config logging)

/-- What a command line asks for. -/
def plan (words : List Text) : Except Halt Plan :=
  match parse words with
  | .error cause => .error (.refused cause)
  | .ok .help => .ok .help
  | .ok .version => .ok .version
  | .ok (.arguments a) => a.plan

end LineHighlight.CommandLine
