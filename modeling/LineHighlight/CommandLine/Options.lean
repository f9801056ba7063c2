import LineHighlight.Config.Basic
import LineHighlight.Log.Level
import LineHighlight.Text.Unicode.Digit

/-!
# Command line options

How the words of a command line are understood: which of them are options, which option a shortened
word means, which word is an option's value. Faults are reported in the order in which they are
met, with two exceptions: ambiguous words come first, left-over words last.
-/

namespace LineHighlight.CommandLine

/-! ## The options -/

/-- The options of the program. -/
inductive Switch where
  | help
  | engine
  | addAlias
  | cssPrefix
  | logLevel
  | listLanguages
  | version
  deriving DecidableEq, Repr

/-- Every spelling of an option, in the order in which they are listed. -/
def spellings : List (Text × Switch) :=
  [("-h".toList, .help), ("--help".toList, .help), ("--engine".toList, .engine),
   ("--alias".toList, .addAlias), ("--css-prefix".toList, .cssPrefix),
   ("--log-level".toList, .logLevel), ("--list-languages".toList, .listLanguages),
   ("--version".toList, .version)]

namespace Switch

/-- All spellings of an option, as messages name it. -/
def display (o : Switch) : Text :=
  Text.join ['/'] ((spellings.filter fun e => e.2 = o).map Prod.fst)

/-- The option needs a value. -/
def takesValue : Switch → Bool
  | engine | addAlias | cssPrefix | logLevel => true
  | help | listLanguages | version => false

end Switch

/-! ## Faults -/

/-- Why a command line is not understood. -/
inductive UsageFailure where
  /-- A shortened option could be any of these. -/
  | ambiguous (word : Text) (candidates : List Text)
  /-- No value follows. -/
  | missingValue (o : Switch)
  /-- A value is given to an option that takes none. -/
  | unexpectedValue (o : Switch) (value : Text)
  | invalidEngine (name : Text)
  | unrecognized (words : List Text)
  /-- The log level is refused. -/
  | level (cause : Refusal)
  /-- The settings are refused. -/
  | config (cause : ConfigFailure)
  deriving DecidableEq, Repr

/-- The wording of a fault that belongs to one option. -/
def optionFault (o : Switch) (what : Text) : Text :=
  "argument ".toList ++ o.display ++ ": ".toList ++ what

/-- The wording of a usage failure. -/
def UsageFailure.message : UsageFailure → Text
  | ambiguous word candidates =>
    "ambiguous option: ".toList ++ word ++ " could match ".toList
      ++ Text.join ", ".toList candidates
  | missingValue o => optionFault o "expected one argument".toList
  | unexpectedValue o value =>
    optionFault o ("ignored explicit argument ".toList ++ Text.quoted value)
  | invalidEngine name =>
    optionFault .engine
      ("invalid choice: ".toList ++ Text.quoted name ++ " (choose from ".toList
        ++ Text.join ", ".toList (engineNames.map Text.quoted) ++ [')'])
  | unrecognized words => "unrecognized arguments: ".toList ++ Text.join [' '] words
  | level cause => cause.message
  | config cause => cause.message

/-! ## Words -/

/-- What a word of the command line is taken for. -/
inductive Word where
  /-- A value, or a word that belongs nowhere. -/
  | plain (word : Text)
  /-- The word after which all words are plain. -/
  | separator
  /-- It looks like an option but is none. -/
  | unknown (word : Text)
  /-- An option, in its one-letter form or not, and the value attached to it. -/
  | option (letter : Bool) (o : Switch) (value : Option Text)
  deriving DecidableEq, Repr

/-- The word that spells an option in full. -/
def Word.ofSpelling (spelling : Text) (o : Switch) (value : Option Text) : Word :=
  .option (spelling.length == 2) o value

/-- Digits, or digits after a point that further digits may precede, behind a minus sign. A line
feed at the end does not count. -/
def looksNegative (word : Text) : Bool :=
  let digits := Text.dropLastIf '\n' word.tail
  match Text.cut '.' digits with
  | (_, none) => digits ≠ [] && digits.all Text.isDecimal
  | (whole, some fraction) =>
    whole.all Text.isDecimal && fraction ≠ [] && fraction.all Text.isDecimal

/-- What a word is taken for that begins with a hyphen but spells no option in full. -/
def classifyOther (word : Text) : Word :=
  if looksNegative word || word.contains ' ' then .plain word else .unknown word

/-- What a word is taken for that shortens a long option. -/
def classifyLong (word : Text) : Except UsageFailure Word :=
  let (front, value) := Text.cut '=' word
  match spellings.filter fun e => front <+: e.1 with
  | [] => .ok (classifyOther word)
  | [(_, o)] => .ok (.option false o value)
  | several => .error (.ambiguous word (several.map Prod.fst))

/-- What a word is taken for that begins with one hyphen. -/
def classifyShort (word : Text) : Word :=
  match spellings.lookup (word.take 2) with
  | some o => .option true o (some (word.drop 2))
  | none => classifyOther word

/-- What a word is taken for, before any separator. -/
def classify (word : Text) : Except UsageFailure Word :=
  if word.head? ≠ some '-' ∨ word = ['-'] then .ok (.plain word)
  else
    match spellings.lookup word with
    | some o => .ok (.ofSpelling word o none)
    | none =>
      -- A full spelling before an equals sign wins over everything that the word may shorten.
      let (front, value) := Text.cut '=' word
      match value, spellings.lookup front with
      | some value, some o => .ok (.ofSpelling front o (some value))
      | _, _ => if word.take 2 = ['-', '-'] then classifyLong word else .ok (classifyShort word)

/-- What the words of a command line are taken for. -/
def classifyAll : List Text → Except UsageFailure (List Word)
  | [] => .ok []
  | word :: rest =>
    if word = ['-', '-'] then .ok (.separator :: rest.map .plain)
    else
      match classify word, classifyAll rest with
      | .ok first, .ok more => .ok (first :: more)
      | .error cause, _ => .error cause
      | .ok _, .error cause => .error cause

/-! ## Understanding the words -/

/-- What the options ask for. A value that was given but is lost is `none`. -/
structure Arguments where
  engine : Option EngineKind := some .catalogue
  /-- The aliases as given, the first one first. -/
  aliases : List (Option Text) := []
  cssPrefix : Option Text := some []
  logLevel : Option Text := some (Level.name .warning)
  listLanguages : Bool := false
  deriving DecidableEq, Repr

/-- A command line that was understood. -/
inductive Parsed where
  | arguments (a : Arguments)
  | help
  | version
  deriving DecidableEq, Repr

/-- What is left of a value: two hyphens are dropped, wherever they stand. -/
def leftOf (value : Text) : Option Text := if value = ['-', '-'] then none else some value

/-- The engine of a given name. -/
def chooseEngine (name : Text) : Except UsageFailure EngineKind :=
  match EngineKind.ofName? name with
  | some kind => .ok kind
  | none => .error (.invalidEngine name)

/-- The arguments with what is left of a value for an option that takes one. -/
def Arguments.store (a : Arguments) (o : Switch) (value : Option Text) :
    Except UsageFailure Arguments :=
  match o with
  | .engine => (value.mapM chooseEngine).map fun kind => { a with engine := kind }
  | .addAlias => .ok { a with aliases := a.aliases ++ [value] }
  | .cssPrefix => .ok { a with cssPrefix := value }
  | .logLevel => .ok { a with logLevel := value }
  | .help | .listLanguages | .version => .ok a

/-- What the words ask for, one thing after another. -/
inductive Order where
  /-- Keep a value for an option. -/
  | store (o : Switch) (value : Text)
  /-- Do what an option without a value stands for. -/
  | act (o : Switch)
  /-- Remember a word that belongs nowhere. -/
  | leave (word : Text)
  /-- Stop with a fault. -/
  | fail (cause : UsageFailure)
  deriving DecidableEq, Repr

/-- What is attached to a one-letter option that takes no value is read as further such options. -/
def Order.ofLetters (o : Switch) : Text → Order
  | [] => .fail (.unexpectedValue o [])
  | c :: rest =>
    match spellings.lookup ['-', c] with
    | none => .fail (.unexpectedValue o (c :: rest))
    | some next => if rest = [] then .act o else ofLetters next rest

/-- What an option with a value attached to it asks for. -/
def Order.ofAttached (letter : Bool) (o : Switch) (value : Text) : Order :=
  if o.takesValue then .store o value
  else if letter then .ofLetters o value
  else .fail (.unexpectedValue o value)

/-- Gives each option that needs a value the plain word that follows it. -/
def orders : List Word → List Order
  | [] => []
  | .plain word :: rest => .leave word :: orders rest
  | .separator :: rest => .leave ['-', '-'] :: orders rest
  | .unknown word :: rest => .leave word :: orders rest
  | .option letter o (some value) :: rest => .ofAttached letter o value :: orders rest
  | .option _ o none :: rest =>
    if o.takesValue then
      match rest with
      | .plain value :: rest => .store o value :: orders rest
      | _ => [.fail (.missingValue o)]
    else .act o :: orders rest

/-- Follows orders from first to last. Asking for help or the version ends the reading at once; words
that belong nowhere, collected in `spare`, are reported at the end. -/
def follow (a : Arguments) (spare : List Text) : List Order → Except UsageFailure Parsed
  | [] => if spare = [] then .ok (.arguments a) else .error (.unrecognized spare)
  | .fail cause :: _ => .error cause
  | .leave word :: rest => follow a (spare ++ [word]) rest
  | .act .help :: _ => .ok .help
  | .act .version :: _ => .ok .version
  | .act _ :: rest => follow { a with listLanguages := true } spare rest
  | .store o value :: rest =>
    match a.store o (leftOf value) with
    | .ok a => follow a spare rest
    | .error cause => .error cause

/-- Understands a command line. -/
def parse (words : List Text) : Except UsageFailure Parsed :=
  match classifyAll words with
  | .ok words => follow {} [] (orders words)
  | .error cause => .error cause

end LineHighlight.CommandLine
