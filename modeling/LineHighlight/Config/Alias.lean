import LineHighlight.Failure
import LineHighlight.Table
import LineHighlight.Text.Blank
import LineHighlight.Text.Lowercase

/-!
# Language flags and aliases

A flag is what a declaration line says. Flags are compared without surrounding white space and
without regard to letter case; an alias is another name to look a flag up by.
-/

namespace LineHighlight

/-- The form of a flag by which it is looked up: no surrounding white space, lower case. -/
def normalizeFlag (flag : Text) : Text := Text.lower (Text.strip flag)

/-- Reads an alias of the form `FLAG=NAME`, white space around both sides aside. -/
def parseAlias (entry : Text) : Except ConfigFailure (Text × Text) :=
  match Text.cut '=' entry with
  | (flag, some name) =>
    let flag := Text.strip flag
    let name := Text.strip name
    if flag = [] ∨ name = [] then .error (.malformedAlias entry) else .ok (flag, name)
  | (_, none) => .error (.malformedAlias entry)

/-- A table with its keys in the form by which flags are looked up. -/
def Table.normalized (t : Table) : Table := t.mapKeys normalizeFlag

/-- Flags that are often sent but are no language names. -/
def defaultAliases : Table :=
  .ofList [("md".toList, "markdown".toList), ("sh".toList, "bash".toList),
    ("plain".toList, "text".toList), ("plaintext".toList, "text".toList),
    ("txt".toList, "text".toList)]

end LineHighlight
