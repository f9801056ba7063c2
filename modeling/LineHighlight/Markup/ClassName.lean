import LineHighlight.Grammar.TokenKind

/-!
# Class names

The classes that mark a token of each kind. Standard kinds have a short name; any other kind is
named after its nearest standard ancestor and the rest of its path.
-/

namespace LineHighlight.Markup

/-- The paths and short names of the standard kinds. The root and running text have no name. -/
def standardNames : List (String × String) :=
  [("", ""), ("Text", ""), ("Text.Whitespace", "w"), ("Escape", "esc"), ("Error", "err"),
   ("Other", "x"), ("Keyword", "k"), ("Keyword.Constant", "kc"), ("Keyword.Declaration", "kd"),
   ("Keyword.Namespace", "kn"), ("Keyword.Pseudo", "kp"), ("Keyword.Reserved", "kr"),
   ("Keyword.Type", "kt"), ("Name", "n"), ("Name.Attribute", "na"), ("Name.Builtin", "nb"),
   ("Name.Builtin.Pseudo", "bp"), ("Name.Class", "nc"), ("Name.Constant", "no"),
   ("Name.Decorator", "nd"), ("Name.Entity", "ni"), ("Name.Exception", "ne"),
   ("Name.Function", "nf"), ("Name.Function.Magic", "fm"), ("Name.Property", "py"),
   ("Name.Label", "nl"), ("Name.Namespace", "nn"), ("Name.Other", "nx"), ("Name.Tag", "nt"),
   ("Name.Variable", "nv"), ("Name.Variable.Class", "vc"), ("Name.Variable.Global", "vg"),
   ("Name.Variable.Instance", "vi"), ("Name.Variable.Magic", "vm"), ("Literal", "l"),
   ("Literal.Date", "ld"), ("Literal.String", "s"), ("Literal.String.Affix", "sa"),
   ("Literal.String.Backtick", "sb"), ("Literal.String.Char", "sc"),
   ("Literal.String.Delimiter", "dl"), ("Literal.String.Doc", "sd"),
   ("Literal.String.Double", "s2"), ("Literal.String.Escape", "se"),
   ("Literal.String.Heredoc", "sh"), ("Literal.String.Interpol", "si"),
   ("Literal.String.Other", "sx"), ("Literal.String.Regex", "sr"),
   ("Literal.String.Single", "s1"), ("Literal.String.Symbol", "ss"), ("Literal.Number", "m"),
   ("Literal.Number.Bin", "mb"), ("Literal.Number.Float", "mf"), ("Literal.Number.Hex", "mh"),
   ("Literal.Number.Integer", "mi"), ("Literal.Number.Integer.Long", "il"),
   ("Literal.Number.Oct", "mo"), ("Operator", "o"), ("Operator.Word", "ow"), ("Punctuation", "p"),
   ("Punctuation.Marker", "pm"), ("Comment", "c"), ("Comment.Hashbang", "ch"),
   ("Comment.Multiline", "cm"), ("Comment.Preproc", "cp"), ("Comment.PreprocFile", "cpf"),
   ("Comment.Single", "c1"), ("Comment.Special", "cs"), ("Generic", "g"),
   ("Generic.Deleted", "gd"), ("Generic.Emph", "ge"), ("Generic.Error", "gr"),
   ("Generic.Heading", "gh"), ("Generic.Inserted", "gi"), ("Generic.Output", "go"),
   ("Generic.Prompt", "gp"), ("Generic.Strong", "gs"), ("Generic.Subheading", "gu"),
   ("Generic.EmphStrong", "ges"), ("Generic.Traceback", "gt")]

/-- The standard kinds and their short names. -/
def shortNames : List (TokenKind × Text) :=
  standardNames.map fun e => (TokenKind.ofPath e.1.toList, e.2.toList)

/-- The short name of a kind's nearest standard ancestor, and the path from there to the kind. The
path `extra` is what was already stepped over, and the kind is given backwards. -/
def nearestFrom (extra : List Text) : List Text → Text × List Text
  | [] => ((shortNames.lookup TokenKind.root).getD [], extra)
  | last :: above =>
    match shortNames.lookup (last :: above).reverse with
    | some short => (short, extra)
    | none => nearestFrom (last :: extra) above

/-- The short name of a kind's nearest standard ancestor, and the path from there to the kind. -/
def nearest (k : TokenKind) : Text × List Text := nearestFrom [] k.reverse

/-- The class of a standard kind with the given short name. -/
def standardClass (cssPrefix short : Text) : Text := if short = [] then [] else cssPrefix ++ short

/-- The class of a kind below a standard one, reached by the path `extra`. -/
def derivedClass (cssPrefix short : Text) (extra : List Text) : Text :=
  cssPrefix ++ short ++ extra.flatMap ('-' :: ·)

/-- The paths to the kinds between a standard kind and the end of the path `extra`, that end
included. -/
def steps (extra : List Text) : List (List Text) :=
  (List.range extra.length).map fun n => extra.take (n + 1)

/-- The classes of a token kind, from its nearest standard ancestor down. -/
def classes (cssPrefix : Text) (k : TokenKind) : Text :=
  let (short, extra) := nearest k
  Text.join [' ']
    (standardClass cssPrefix short :: (steps extra).map (derivedClass cssPrefix short))

end LineHighlight.Markup
