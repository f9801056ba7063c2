import LineHighlight.Text.Basic

/-!
# File name patterns

Patterns of the shell: `*` stands for any text, `?` for any character, and a set in brackets for one
of its characters. Letter case matters, and no character is special in a name.
-/

namespace LineHighlight

/-! ## Sets of characters -/

/-- A member of a set in brackets. -/
inductive GlobMember where
  | one (c : Char)
  /-- The characters from `first` to `last`, which are none if `last` comes before `first`. -/
  | range (first last : Char)
  deriving DecidableEq, Repr

namespace GlobMember

/-- The member holds the character `c`. -/
def covers : GlobMember → Char → Bool
  | one d, c => d == c
  | range first last, c => first ≤ c && c ≤ last

/-- The member holds no character at all. -/
def isEmpty : GlobMember → Bool
  | one _ => false
  | range first last => last < first

/-- The members that a text between brackets spells: a hyphen between two characters makes a range
of them, any other character is a member by itself. -/
def listOf : Text → List GlobMember
  | a :: '-' :: b :: rest => range a b :: listOf rest
  | a :: rest => one a :: listOf rest
  | [] => []

end GlobMember

/-! ## Patterns -/

/-- One element of a file name pattern. -/
inductive GlobItem where
  /-- The character itself. -/
  | literal (c : Char)
  /-- Any character. -/
  | any
  /-- Any text, the empty one included. -/
  | star
  /-- A character that one of the members holds or, if `negated`, that none of them holds. -/
  | set (negated : Bool) (members : List GlobMember)
  deriving DecidableEq, Repr

namespace GlobItem

/-- The item may stand for the one character `c`. -/
def accepts : GlobItem → Char → Bool
  | literal d, c => d == c
  | any, _ => true
  | star, _ => true
  | set negated members, c => (members.any fun m => m.covers c) != negated

/-- The set of the given members. Empty ranges are dropped first, and an exclamation mark that comes
to stand in front negates the set. If that mark begins a range, the hyphen and the end of the range
are members by themselves. -/
def ofMembers (negated : Bool) (members : List GlobMember) : GlobItem :=
  let kept := members.filter fun m => !m.isEmpty
  if negated then set true kept
  else
    match kept with
    | .one '!' :: rest => set true rest
    | .range '!' last :: rest => set true (.one '-' :: .one last :: rest)
    | kept => set false kept

/-- Given which ends of a text the later items stand for, which ones they stand for after this item.
The ends of a text are the text itself, the text without its first character, and so on down to the
empty one. -/
def before (item : GlobItem) (t : Text) (later : List Bool) : List Bool :=
  match item with
  | star => (later.scanr (· || ·) false).dropLast
  | item => List.zipWith (fun c matched => item.accepts c && matched) t later.tail ++ [false]

end GlobItem

/-- A parsed file name pattern. -/
abbrev Glob := List GlobItem

namespace Glob

/-- The set that the text after a bracket begins with, and the text after the set. An exclamation
mark negates, a closing bracket right at the start is a member, the next one ends the set. -/
def set? (t : Text) : Option (GlobItem × Text) :=
  let negated := t.head? == some '!'
  let t := if negated then t.tail else t
  -- A bracket in first place cannot end the set, which would be empty.
  let first := t.take (if t.head? == some ']' then 1 else 0)
  match Text.cut ']' (t.drop first.length) with
  | (_, none) => none
  | (members, some rest) => some (.ofMembers negated (GlobMember.listOf (first ++ members)), rest)

theorem length_of_set? {t rest : Text} {item : GlobItem} (h : set? t = some (item, rest)) :
    rest.length < t.length := by
  simp only [set?] at h
  split at h
  · cases h
  · rename_i members back hcut
    have hlt := Text.length_of_cut hcut
    simp only [Option.some.injEq, Prod.mk.injEq] at h
    rw [h.2, List.length_drop] at hlt
    split at hlt
    · rw [List.length_tail] at hlt
      omega
    · omega

/-- The pattern that a text spells. A bracket that is never closed stands for itself. -/
def ofText : Text → Glob
  | [] => []
  | c :: rest =>
    if c = '*' then .star :: ofText rest
    else if c = '?' then .any :: ofText rest
    else if c = '[' then
      match _found : set? rest with
      | some (item, after) => item :: ofText after
      | none => .literal c :: ofText rest
    else .literal c :: ofText rest
termination_by t => t.length
decreasing_by
  · simp
  · simp
  · exact Nat.lt_succ_of_lt (length_of_set? _found)
  · simp
  · simp

/-- For each end of a text, whether the pattern stands for the whole of it. -/
def matchedEnds (g : Glob) (t : Text) : List Bool :=
  g.foldr (fun item later => item.before t later) (t.map (fun _ => false) ++ [true])

/-- The pattern stands for the whole of a text. -/
def Matches (g : Glob) (t : Text) : Bool := (g.matchedEnds t).headD false

end Glob
end LineHighlight
