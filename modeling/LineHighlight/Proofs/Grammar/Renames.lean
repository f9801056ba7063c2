import LineHighlight.Proofs.Config.Extension
import LineHighlight.Proofs.Grammar.History

/-!
# Aliases as renames

An alias takes a flag to another name for the lookup by name and by extension, while the lookup by
file name is about the flag as it came. So a flag and the target of its alias lead to one entry if the
target is a name of an entry, and otherwise exactly if what they lead to by these two routes is the
same (`grammarOf_alias`).
-/

namespace LineHighlight

/-! ## Lookups by name and by file name -/

namespace Catalogue

/-- The entry for the name of a file, or else for a name as the extension of a file name. -/
def byFileOrExtension (c : Catalogue) (file name : Text) : Except EngineFailure (Option Lexer) :=
  match c.byFile file with
  | .ok none =>
    let extension := name.dropWhile (· = '.')
    if extension = [] then .ok none else c.byFile ("file.".toList ++ extension)
  | found => found

lemma byFileOrExtension_of_none {c : Catalogue} {file : Text} (h : c.byFile file = .ok none)
    (name : Text) :
    c.byFileOrExtension file name =
      if name.dropWhile (· = '.') = [] then .ok none
      else c.byFile ("file.".toList ++ name.dropWhile (· = '.')) := by
  unfold byFileOrExtension
  rw [h]

/-- Next to an unknown file name, a name leads to the same entry as next to itself, if it is no known
file name either. -/
lemma byFileOrExtension_congr {c : Catalogue} {file name : Text} (h : c.byFile file = .ok none)
    (h' : c.byFile name = .ok none) :
    c.byFileOrExtension file name =
      if name = [] then .ok none else c.byFileOrExtension name name := by
  rw [byFileOrExtension_of_none h, byFileOrExtension_of_none h']
  split
  · rw [ite_self]
  · rename_i hextension
    rw [if_neg]
    rintro rfl
    exact hextension rfl

/-- A flag that is not blank is looked up by its name, or else as a file name or an extension. -/
lemma entryOf_eq (c : Catalogue) (aliases : Table) {flag : Text} (h : normalizeFlag flag ≠ []) :
    c.entryOf aliases flag =
      match c.byName? (aliases.rename (normalizeFlag flag)) with
      | some l => .ok (some l)
      | none => c.byFileOrExtension (Text.strip flag) (aliases.rename (normalizeFlag flag)) := by
  unfold entryOf byFileOrExtension
  exact if_neg h

lemma entryOf_of_blank (c : Catalogue) (aliases : Table) {flag : Text} (h : normalizeFlag flag = []) :
    c.entryOf aliases flag = .ok none := by
  unfold entryOf
  exact if_pos h

end Catalogue

/-- A text has no lower-case form exactly if it is empty. -/
lemma Text.lower_eq_nil_iff {t : Text} : lower t = [] ↔ t = [] := by
  constructor
  · intro h
    cases t with
    | nil => rfl
    | cons c rest =>
      rw [lower, lowerAfter_cons, List.append_eq_nil_iff] at h
      exact absurd h.1 (lowered_ne_nil _ _)
  · rintro rfl
    rfl

/-- Entries are found by name whatever the letter case. -/
lemma Catalogue.byName?_lower (c : Catalogue) (name : Text) :
    c.byName? (Text.lower name) = c.byName? name := by
  unfold byName?
  simp only [Text.lower_eq_nil_iff, Text.lower_lower]

/-! ## The target of an alias -/

namespace Table

/-- The alias in effect of a flag is the last entry under one of its spellings. -/
lemma rename_normalized {t : Table} {key target : Text}
    (h : lastValue (spells key) t.entries = some target) : t.normalized.rename key = target := by
  rw [rename, get?_normalized, h]
  rfl

/-- A flag without an alias keeps its looked-up form. -/
lemma rename_normalized_of_forall_not {t : Table} {key : Text}
    (h : ∀ e ∈ t.entries, normalizeFlag e.1 ≠ key) : t.normalized.rename key = key := by
  have hnone : lastValue (spells key) t.entries = none :=
    lastValue_eq_none_iff.2 fun e he hspells => h e he (spells_iff.1 hspells)
  rw [rename, get?_normalized, hnone]
  rfl

end Table

namespace Registry

open Table

variable {c : Catalogue} {aliases : Table} {flag target : Text}

/-- The grammar that a flag resolves to on a fresh registry. -/
def grammarOf (c : Catalogue) (aliases : Table) (flag : Text) :
    Except EngineFailure (Option Grammar) :=
  ((ofCatalogue c aliases).answer [] flag).map (Option.map Scope.grammar)

/-- A fresh registry resolves a flag to the grammar of its entry. -/
lemma grammarOf_eq (c : Catalogue) (aliases : Table) (flag : Text) :
    grammarOf c aliases flag =
      (c.entryOf aliases.normalized flag).map (Option.map Grammar.lexer) := by
  rw [grammarOf, answer_nil, Catalogue.scopeOf]
  cases c.entryOf aliases.normalized flag with
  | error cause => rfl
  | ok found => cases found <;> rfl

/-- Grammars are told apart by their entries. -/
lemma map_lexer_inj {found found' : Except EngineFailure (Option Lexer)} :
    found.map (Option.map Grammar.lexer) = found'.map (Option.map Grammar.lexer) ↔
      found = found' := by
  constructor
  · intro h
    cases found with
    | error cause =>
      cases found' with
      | error cause' => exact congrArg Except.error (Except.error.inj h)
      | ok entry' => exact nomatch h
    | ok entry =>
      cases found' with
      | error cause' => exact nomatch h
      | ok entry' =>
        refine congrArg Except.ok (Option.map_injective ?_ (Except.ok.inj h))
        exact fun l l' => Grammar.lexer.inj
  · rintro rfl
    rfl

/-- The entry of a flag with an alias. -/
lemma entryOf_alias (hentry : lastValue (spells (normalizeFlag flag)) aliases.entries = some target)
    (hflag : normalizeFlag flag ≠ []) :
    c.entryOf aliases.normalized flag =
      match c.byName? target with
      | some l => .ok (some l)
      | none => c.byFileOrExtension (Text.strip flag) target := by
  rw [c.entryOf_eq _ hflag, rename_normalized hentry]

/-- The entry of a target that has no alias itself. -/
lemma entryOf_target (htrim : Text.strip target = target)
    (hfree : ∀ e ∈ aliases.entries, normalizeFlag e.1 ≠ normalizeFlag target) :
    c.entryOf aliases.normalized target =
      match c.byName? target with
      | some l => .ok (some l)
      | none => if target = [] then .ok none else c.byFileOrExtension target (Text.lower target) := by
  have hkey : normalizeFlag target = Text.lower target := by rw [normalizeFlag, htrim]
  by_cases hempty : target = []
  · rw [c.entryOf_of_blank _ (hkey.trans (Text.lower_eq_nil_iff.2 hempty)), if_pos hempty, hempty]
    rfl
  · have hflag : normalizeFlag target ≠ [] := by
      rw [hkey]
      exact fun h => hempty (Text.lower_eq_nil_iff.1 h)
    rw [c.entryOf_eq _ hflag, rename_normalized_of_forall_not hfree, htrim, hkey, c.byName?_lower,
      if_neg hempty]

/-- What the alias of a flag does to it, if its target is trimmed and has no alias itself. A blank flag
has no grammar. If the target is a name of an entry, the flag and the target resolve to that entry.
Otherwise the flag resolves as the file name that it is, or else by the target as an extension, and
the target as the file name that it is, or else by its lower-case form as an extension; the two have
one grammar exactly if these routes lead to one entry, as they do if neither is a known file name and
the target is in lower case. -/
theorem grammarOf_alias (c : Catalogue) (aliases : Table) (flag target : Text)
    (hentry : lastValue (spells (normalizeFlag flag)) aliases.entries = some target)
    (htrim : Text.strip target = target)
    (hfree : ∀ e ∈ aliases.entries, normalizeFlag e.1 ≠ normalizeFlag target) :
    let found := grammarOf c aliases
    let route := c.byFileOrExtension (Text.strip flag) target
    let targetRoute :=
      if target = [] then .ok none else c.byFileOrExtension target (Text.lower target)
    (normalizeFlag flag = [] → found flag = .ok none) ∧
      (normalizeFlag flag ≠ [] →
        (∀ l, c.byName? target = some l →
          found flag = .ok (some (.lexer l)) ∧ found target = .ok (some (.lexer l))) ∧
        (c.byName? target = none →
          found flag = route.map (Option.map .lexer) ∧
            found target = targetRoute.map (Option.map .lexer)) ∧
        (found flag = found target ↔ (c.byName? target).isSome ∨ route = targetRoute) ∧
        (c.byFile (Text.strip flag) = .ok none → c.byFile target = .ok none →
          Text.lower target = target → found flag = found target)) := by
  intro found route targetRoute
  have htarget : found target = _ := (grammarOf_eq c aliases target).trans
    (congrArg (Except.map _) (entryOf_target htrim hfree))
  refine ⟨fun hblank => ?_, fun hflag => ?_⟩
  · refine (grammarOf_eq c aliases flag).trans ?_
    rw [c.entryOf_of_blank _ hblank]
    rfl
  · have hfound : found flag = _ := (grammarOf_eq c aliases flag).trans
      (congrArg (Except.map _) (entryOf_alias hentry hflag))
    have hname : ∀ l, c.byName? target = some l →
        found flag = .ok (some (.lexer l)) ∧ found target = .ok (some (.lexer l)) := by
      intro l hl
      rw [hfound, htarget, hl]
      exact ⟨rfl, rfl⟩
    have hroutes : c.byName? target = none →
        found flag = route.map (Option.map .lexer) ∧
          found target = targetRoute.map (Option.map .lexer) := by
      intro hnone
      rw [hfound, htarget, hnone]
      exact ⟨rfl, rfl⟩
    have hiff : found flag = found target ↔ (c.byName? target).isSome ∨ route = targetRoute := by
      cases hnamed : c.byName? target with
      | some l =>
        obtain ⟨hl, hl'⟩ := hname l hnamed
        exact iff_of_true (hl.trans hl'.symm) (.inl rfl)
      | none =>
        obtain ⟨hroute, htargetRoute⟩ := hroutes hnamed
        rw [hroute, htargetRoute, map_lexer_inj]
        exact ⟨.inr, fun h => h.resolve_left Bool.false_ne_true⟩
    refine ⟨hname, hroutes, hiff, fun hfile hfile' hlower => hiff.2 (.inr ?_)⟩
    show c.byFileOrExtension (Text.strip flag) target =
      if target = [] then .ok none else c.byFileOrExtension target (Text.lower target)
    rw [hlower]
    exact Catalogue.byFileOrExtension_congr hfile hfile'

open Catalogue in
/-- A few entries of the standard catalogue, each with some of its names and file names. -/
def shelf : Catalogue :=
  [entry "CMakeLexer" "CMake" 0 .text ["cmake"] ["CMakeLists.txt"],
   entry "CplintLexer" "cplint" 0 .text ["cplint"] ["*.P"],
   entry "MakefileLexer" "Makefile" 0 .text ["make"] ["Makefile"],
   entry "PythonLexer" "Python" 0 .text ["python"] ["*.py"],
   entry "RubyLexer" "Ruby" 0 .text ["ruby"] ["*.rb"],
   entry "TextLexer" "Text only" 0 .text ["text"] ["*.txt"]]

/-- What can be seen of a grammar that was found. -/
def handleOf (found : Except EngineFailure (Option Grammar)) : Option (Option Text) :=
  found.toOption.map (Option.map Grammar.handle)

/-- One of these aliases goes by the name of an entry and the other by a known extension. -/
theorem grammarOf_alias_shelf :
    let aliases := Table.ofList [(" Snek".toList, "Python".toList), ("Notes".toList, "txt".toList)]
    handleOf (grammarOf shelf aliases "SNEK".toList) = some (some "PythonLexer".toList) ∧
      grammarOf shelf aliases "SNEK".toList = grammarOf shelf aliases "Python".toList ∧
      handleOf (grammarOf shelf aliases "notes".toList) = some (some "TextLexer".toList) ∧
      grammarOf shelf aliases "notes".toList = grammarOf shelf aliases "txt".toList := by
  intro aliases
  obtain ⟨-, hsnek⟩ := grammarOf_alias shelf aliases "SNEK".toList "Python".toList
    (by decide +kernel) (by decide +kernel) (by decide +kernel)
  obtain ⟨-, hnotes⟩ := grammarOf_alias shelf aliases "notes".toList "txt".toList
    (by decide +kernel) (by decide +kernel) (by decide +kernel)
  obtain ⟨-, -, hsnek, -⟩ := hsnek (by decide +kernel)
  obtain ⟨-, -, -, hnotes⟩ := hnotes (by decide +kernel)
  have hnone : ∀ found : Except EngineFailure (Option Lexer),
      found.toOption.map Option.isNone = some true → found = .ok none := by
    intro found h
    obtain ⟨entry, hentry, hisNone⟩ := Option.map_eq_some_iff.1 h
    rw [eq_ok_of_toOption hentry, Option.isNone_iff_eq_none.1 hisNone]
  refine ⟨by decide +kernel, hsnek.2 (.inl (by decide +kernel)), by decide +kernel, ?_⟩
  exact hnotes (hnone _ (by decide +kernel)) (hnone _ (by decide +kernel)) (by decide +kernel)

/-- A flag and the target of its alias differ if the flag is the name of a known file, if the target is
one, if the target is an extension in upper case only, if the flag is blank, and if another entry for
the flag comes later. -/
theorem alias_target_ne :
    let aliases := Table.ofList [("Makefile".toList, "rules".toList),
      ("lists".toList, "CMakeLists.txt".toList), ("logic".toList, "P".toList),
      ("".toList, "python".toList), ("A".toList, "python".toList), ("a".toList, "ruby".toList)]
    ∀ e ∈ aliases.entries.take 5,
      Text.strip e.2 = e.2 ∧
        (∀ e' ∈ aliases.entries, normalizeFlag e'.1 ≠ normalizeFlag e.2) ∧
        (handleOf (grammarOf shelf aliases e.1)).isSome ∧
        (handleOf (grammarOf shelf aliases e.2)).isSome ∧
        handleOf (grammarOf shelf aliases e.1) ≠ handleOf (grammarOf shelf aliases e.2) := by
  intro aliases
  decide +kernel

end Registry
end LineHighlight
