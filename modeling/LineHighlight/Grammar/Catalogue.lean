import LineHighlight.Failure
import LineHighlight.Grammar.Lexer
import LineHighlight.Text.Glob
import LineHighlight.Text.Lowercase

/-!
# Catalogues of lexers

Finding an entry by one of its names or by the name of a file.
-/

namespace LineHighlight

/-- Lexers in a fixed order. -/
abbrev Catalogue := List Lexer

namespace Catalogue

/-! ## By name -/

/-- The first entry with the given name, letter case aside. -/
def byName? (c : Catalogue) (name : Text) : Option Lexer :=
  if name = [] then none else c.find? fun l => l.aliases.any (· = Text.lower name)

/-! ## By file name -/

/-- An entry that matches a file name, and how well. -/
structure Candidate where
  lexer : Lexer
  rating : Priority

namespace Candidate

/-- A pattern without a star counts half a point more than one with a star. -/
def ofPattern (l : Lexer) (pattern : Text) : Except EngineFailure Candidate :=
  if '*' ∈ pattern then .ok ⟨l, l.priority⟩
  else
    match l.priority.addHalf? with
    | some rating => .ok ⟨l, rating⟩
    | none => .error .priorityTooLarge

/-- `a` is no better than `b`: it has a lower rating, or the same one and a class name that does not
come later in the alphabet. -/
def le (a b : Candidate) : Bool :=
  a.rating.below b.rating
    || (a.rating = b.rating && Text.precedes a.lexer.className b.lexer.className)

end Candidate

/-- The part of a path after its last slash. -/
def baseName (path : Text) : Text := (path.reverse.takeWhile (· ≠ '/')).reverse

/-- The entries with a pattern for the file name, each as often as it has one, and the pattern. -/
def fitting (c : Catalogue) (file : Text) : List (Lexer × Text) :=
  c.flatMap fun l => (l.filenames.filter fun p => (Glob.ofText p).Matches file).map (l, ·)

/-- The entries that fit a file name, rated. All of them are rated before the best is looked for. -/
def candidates (c : Catalogue) (file : Text) : Except EngineFailure (List Candidate) :=
  (c.fitting file).mapM fun (l, pattern) => Candidate.ofPattern l pattern

/-- The best of some candidates, the last one of those that are equally good. -/
def best? : List Candidate → Option Candidate
  | [] => none
  | a :: rest => some (rest.foldl (fun best b => if best.le b then b else best) a)

/-- The best entry for a file of the given path. -/
def byFile (c : Catalogue) (path : Text) : Except EngineFailure (Option Lexer) :=
  (c.candidates (baseName path)).map fun found => (best? found).map (·.lexer)

/-! ## All names -/

/-- The names of the languages in alphabetical order, letter case aside. -/
def languages (c : Catalogue) : List Text := (c.map (·.name)).eraseDups.mergeSort Text.precedesFolded

end Catalogue
end LineHighlight
