import LineHighlight.Text.Uppercase

/-!
# Kinds of tokens

Token kinds form a tree. A kind is the path that leads to it from the root. Right below the root a
few names are short cuts to kinds elsewhere.
-/

namespace LineHighlight

/-- A kind of token: the names on the way from the root. -/
abbrev TokenKind := List Text

namespace TokenKind

/-- The kind with no path, above all others. -/
def root : TokenKind := []

/-- The name of the root. -/
def rootName : Text := "Token".toList

/-- Names right below the root that stand for kinds elsewhere. -/
def shortCuts : List (Text × TokenKind) :=
  [(rootName, root), ("String".toList, ["Literal".toList, "String".toList]),
   ("Number".toList, ["Literal".toList, "Number".toList])]

/-- The kind of a given name right below a kind. -/
def below (k : TokenKind) (name : Text) : TokenKind :=
  match k, shortCuts.lookup name with
  | [], some other => other
  | _, _ => k ++ [name]

/-- The names of a dotted path; the empty path has none. -/
def namesOf (path : Text) : List Text := if path = [] then [] else Text.pieces '.' path

/-- The kind of a dotted path below the root. -/
def ofPath (path : Text) : TokenKind := (namesOf path).foldl below root

/-- A name of a kind begins with an upper-case letter. -/
def isName (name : Text) : Bool := name.head?.any Text.isUpper

/-- The kind of a dotted path, or the first of its names that no kind has. -/
def ofPath? (path : Text) : Except Text TokenKind :=
  match (namesOf path).find? fun name => !isName name with
  | some name => .error name
  | none => .ok (ofPath path)

/-- The dotted path of a kind, from the root on. -/
def fullName (k : TokenKind) : Text := Text.join ['.'] (rootName :: k)

/-- The kind of running text. -/
def text : TokenKind := ["Text".toList]

/-- The kind of keywords. -/
def keyword : TokenKind := ["Keyword".toList]

/-- The kind of program output. -/
def output : TokenKind := ["Generic".toList, "Output".toList]

end TokenKind

/-- A stretch of source text and its kind. -/
structure Token where
  kind : TokenKind
  value : Text
  deriving DecidableEq, Repr

end LineHighlight
