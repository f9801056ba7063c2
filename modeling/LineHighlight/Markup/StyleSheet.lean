import LineHighlight.Markup.ClassName

/-!
# Style sheet

The rules that give the classes their looks. They may be kept to the inside of one selector.
-/

namespace LineHighlight.Markup

/-- The rules for line numbers, which belong to no selector. -/
def fixedRules : List String :=
  ["pre \x7b line-height: 125%; \x7d",
   "td.linenos .normal \x7b color: inherit; background-color: transparent; padding-left: 5px; padding-right: 5px; \x7d",
   "span.linenos \x7b color: inherit; background-color: transparent; padding-left: 5px; padding-right: 5px; \x7d",
   "td.linenos .special \x7b color: #000000; background-color: #ffffc0; padding-left: 5px; padding-right: 5px; \x7d",
   "span.linenos.special \x7b color: #000000; background-color: #ffffc0; padding-left: 5px; padding-right: 5px; \x7d"]

/-- The standard kinds that have a look, and their declarations. -/
def looks : List (String × String) :=
  [("Comment", "color: #3D7B7B; font-style: italic"),
   ("Error", "border: 1px solid #F00"),
   ("Keyword", "color: #008000; font-weight: bold"),
   ("Operator", "color: #666"),
   ("Comment.Hashbang", "color: #3D7B7B; font-style: italic"),
   ("Comment.Multiline", "color: #3D7B7B; font-style: italic"),
   ("Comment.Preproc", "color: #9C6500"),
   ("Comment.PreprocFile", "color: #3D7B7B; font-style: italic"),
   ("Comment.Single", "color: #3D7B7B; font-style: italic"),
   ("Comment.Special", "color: #3D7B7B; font-style: italic"),
   ("Generic.Deleted", "color: #A00000"),
   ("Generic.Emph", "font-style: italic"),
   ("Generic.EmphStrong", "font-weight: bold; font-style: italic"),
   ("Generic.Error", "color: #E40000"),
   ("Generic.Heading", "color: #000080; font-weight: bold"),
   ("Generic.Inserted", "color: #008400"),
   ("Generic.Output", "color: #717171"),
   ("Generic.Prompt", "color: #000080; font-weight: bold"),
   ("Generic.Strong", "font-weight: bold"),
   ("Generic.Subheading", "color: #800080; font-weight: bold"),
   ("Generic.Traceback", "color: #04D"),
   ("Keyword.Constant", "color: #008000; font-weight: bold"),
   ("Keyword.Declaration", "color: #008000; font-weight: bold"),
   ("Keyword.Namespace", "color: #008000; font-weight: bold"),
   ("Keyword.Pseudo", "color: #008000"),
   ("Keyword.Reserved", "color: #008000; font-weight: bold"),
   ("Keyword.Type", "color: #B00040"),
   ("Literal.Number", "color: #666"),
   ("Literal.String", "color: #BA2121"),
   ("Name.Attribute", "color: #687822"),
   ("Name.Builtin", "color: #008000"),
   ("Name.Class", "color: #00F; font-weight: bold"),
   ("Name.Constant", "color: #800"),
   ("Name.Decorator", "color: #A2F"),
   ("Name.Entity", "color: #717171; font-weight: bold"),
   ("Name.Exception", "color: #CB3F38; font-weight: bold"),
   ("Name.Function", "color: #00F"),
   ("Name.Label", "color: #767600"),
   ("Name.Namespace", "color: #00F; font-weight: bold"),
   ("Name.Tag", "color: #008000; font-weight: bold"),
   ("Name.Variable", "color: #19177C"),
   ("Operator.Word", "color: #A2F; font-weight: bold"),
   ("Text.Whitespace", "color: #BBB"),
   ("Literal.Number.Bin", "color: #666"),
   ("Literal.Number.Float", "color: #666"),
   ("Literal.Number.Hex", "color: #666"),
   ("Literal.Number.Integer", "color: #666"),
   ("Literal.Number.Oct", "color: #666"),
   ("Literal.String.Affix", "color: #BA2121"),
   ("Literal.String.Backtick", "color: #BA2121"),
   ("Literal.String.Char", "color: #BA2121"),
   ("Literal.String.Delimiter", "color: #BA2121"),
   ("Literal.String.Doc", "color: #BA2121; font-style: italic"),
   ("Literal.String.Double", "color: #BA2121"),
   ("Literal.String.Escape", "color: #AA5D1F; font-weight: bold"),
   ("Literal.String.Heredoc", "color: #BA2121"),
   ("Literal.String.Interpol", "color: #A45A77; font-weight: bold"),
   ("Literal.String.Other", "color: #008000"),
   ("Literal.String.Regex", "color: #A45A77"),
   ("Literal.String.Single", "color: #BA2121"),
   ("Literal.String.Symbol", "color: #19177C"),
   ("Name.Builtin.Pseudo", "color: #008000"),
   ("Name.Function.Magic", "color: #00F"),
   ("Name.Variable.Class", "color: #19177C"),
   ("Name.Variable.Global", "color: #19177C"),
   ("Name.Variable.Instance", "color: #19177C"),
   ("Name.Variable.Magic", "color: #19177C"),
   ("Literal.Number.Integer.Long", "color: #666")]

/-- Declarations in braces. -/
def block (declarations : Text) : Text := ['\x7b', ' '] ++ declarations ++ [' ', '\x7d']

/-- The rule of one kind, inside the selector that the text `inside` ends in. -/
def ruleOf (cssPrefix inside path declarations : Text) : Text :=
  inside ++ '.' :: classes cssPrefix (TokenKind.ofPath path) ++ ' ' :: block declarations
    ++ " /* ".toList ++ path ++ " */".toList

/-- The style sheet for classes with a prefix, kept to the inside of a selector unless that is
empty. -/
def styleSheet (cssPrefix selector : Text) : Text :=
  let inside := if selector = [] then [] else selector ++ [' ']
  Text.join ['\n']
    (fixedRules.map String.toList
      ++ (inside ++ ".hll ".toList ++ block "background-color: #ffffcc".toList)
      :: (if selector = [] then [] else [inside ++ block "background: #f8f8f8;".toList])
      ++ looks.map fun e => ruleOf cssPrefix inside e.1.toList e.2.toList)

end LineHighlight.Markup
