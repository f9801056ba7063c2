import LineHighlight.Grammar.Registry
import LineHighlight.Grammar.Standard
import LineHighlight.Proofs.Results

/-!
# Lookups in a catalogue

A lookup rates all entries that fit a file name before it takes the best one, and to rate an entry
may fail. It fails for one reason only (`scopeOf_error`), and not at all in a catalogue whose
priorities are all numbers of the usual size (`exists_scopeOf_eq_ok`).
-/

namespace LineHighlight.Catalogue

/-! ## The reason to fail -/

/-- Only a priority that is too large makes a search for a file name fail. -/
lemma byFile_error {c : Catalogue} {path : Text} {cause : EngineFailure}
    (h : c.byFile path = .error cause) : cause = .priorityTooLarge := by
  unfold byFile candidates at h
  obtain ⟨⟨l, pattern⟩, -, he⟩ := exists_of_mapM_eq_error (eq_error_of_map h)
  unfold Candidate.ofPattern at he
  dsimp only at he
  split at he
  · exact absurd he (by simp)
  · split at he
    · exact absurd he (by simp)
    · exact (Except.error.inj he).symm

/-- Only a priority that is too large makes the lookup of a flag fail. -/
lemma scopeOf_error {c : Catalogue} {aliases : Table} {flag : Text} {cause : EngineFailure}
    (h : c.scopeOf aliases flag = .error cause) : cause = .priorityTooLarge := by
  have hentry : c.entryOf aliases flag = .error cause := eq_error_of_map h
  unfold entryOf at hentry
  dsimp only at hentry
  split at hentry
  · exact absurd hentry (by simp)
  · split at hentry
    · exact absurd hentry (by simp)
    · split at hentry
      · split at hentry
        · exact absurd hentry (by simp)
        · exact byFile_error hentry
      · exact byFile_error hentry

/-! ## Catalogues that do not fail -/

/-- The priorities of all entries are numbers that half a point can be added to. -/
def Rated (c : Catalogue) : Prop := ∀ l ∈ c, ∃ rating, l.priority.addHalf? = some rating

/-- The entries of the standard catalogue have such priorities. -/
theorem rated_standard : standard.Rated := by
  have hall : (standard.all fun l => l.priority.addHalf?.isSome) = true := by decide +kernel
  exact fun l hl => Option.isSome_iff_exists.1 (List.all_eq_true.1 hall l hl)

/-- In a catalogue with such priorities the search for a file name does not fail. -/
lemma exists_byFile_eq_ok {c : Catalogue} (h : c.Rated) (path : Text) :
    ∃ found, c.byFile path = .ok found := by
  have hcandidates : ∃ found, c.candidates (baseName path) = .ok found := by
    refine exists_mapM_eq_ok fun (l, pattern) hmem => ?_
    obtain ⟨l', hl', hmem⟩ := List.mem_flatMap.1 hmem
    obtain ⟨pattern', -, heq⟩ := List.mem_map.1 hmem
    obtain ⟨rating, hrating⟩ := h l ((Prod.mk.inj heq).1 ▸ hl')
    unfold Candidate.ofPattern
    dsimp only
    rw [hrating]
    split
    · exact ⟨_, rfl⟩
    · exact ⟨_, rfl⟩
  obtain ⟨found, hfound⟩ := hcandidates
  refine ⟨(best? found).map (·.lexer), ?_⟩
  rw [byFile, hfound]
  rfl

/-- In a catalogue with such priorities the lookup of a flag does not fail. -/
lemma exists_scopeOf_eq_ok {c : Catalogue} (h : c.Rated) (aliases : Table) (flag : Text) :
    ∃ scope, c.scopeOf aliases flag = .ok scope := by
  have hentry : ∃ found, c.entryOf aliases flag = .ok found := by
    unfold entryOf
    dsimp only
    split
    · exact ⟨none, rfl⟩
    · split
      · exact ⟨_, rfl⟩
      · split
        · split
          · exact ⟨none, rfl⟩
          · exact exists_byFile_eq_ok h _
        · exact exists_byFile_eq_ok h _
  obtain ⟨found, hfound⟩ := hentry
  refine ⟨found.map fun l => ⟨l.name, flag, .lexer l⟩, ?_⟩
  rw [scopeOf, hfound]
  rfl

/-! ## Entries that are found -/

/-- The best of some candidates is one of them. -/
lemma mem_of_best? {found : List Candidate} {a : Candidate} (h : best? found = some a) :
    a ∈ found := by
  have hfoldl : ∀ (rest : List Candidate) (first : Candidate),
      rest.foldl (fun best b => if best.le b then b else best) first ∈ first :: rest := by
    intro rest
    induction rest with
    | nil => exact fun first => List.mem_cons_self
    | cons b rest ih =>
      intro first
      rw [List.foldl_cons]
      split
      · exact List.mem_cons_of_mem first (ih b)
      · rcases List.mem_cons.1 (ih first) with hfirst | hrest
        · rw [hfirst]
          exact List.mem_cons_self
        · exact List.mem_cons_of_mem first (List.mem_cons_of_mem b hrest)
  cases found with
  | nil => exact absurd h.symm (Option.some_ne_none a)
  | cons first rest =>
    rw [← Option.some.inj h]
    exact hfoldl rest first

/-- The entry for a file name is an entry of the catalogue. -/
lemma mem_of_byFile {c : Catalogue} {path : Text} {l : Lexer} (h : c.byFile path = .ok (some l)) :
    l ∈ c := by
  unfold byFile at h
  obtain ⟨found, hfound, hbest⟩ := exists_of_map_eq_ok h
  obtain ⟨a, ha, rfl⟩ := Option.map_eq_some_iff.1 hbest
  obtain ⟨⟨l, pattern⟩, hmem, hcandidate⟩ := exists_of_mem_mapM hfound (mem_of_best? ha)
  obtain ⟨l', hl', hmem⟩ := List.mem_flatMap.1 hmem
  obtain ⟨pattern', -, heq⟩ := List.mem_map.1 hmem
  have hlexer : a.lexer = l := by
    unfold Candidate.ofPattern at hcandidate
    dsimp only at hcandidate
    split at hcandidate
    · rw [← Except.ok.inj hcandidate]
    · split at hcandidate
      · rw [← Except.ok.inj hcandidate]
      · exact absurd hcandidate (by simp)
  rw [hlexer, ← (Prod.mk.inj heq).1]
  exact hl'

/-- The entry for a flag is an entry of the catalogue. -/
lemma mem_of_entryOf {c : Catalogue} {aliases : Table} {flag : Text} {l : Lexer}
    (h : c.entryOf aliases flag = .ok (some l)) : l ∈ c := by
  unfold entryOf at h
  dsimp only at h
  split at h
  · exact absurd (Except.ok.inj h).symm (Option.some_ne_none l)
  · split at h
    · rename_i l' hname
      unfold byName? at hname
      split at hname
      · exact absurd hname.symm (Option.some_ne_none l')
      · rw [← Option.some.inj (Except.ok.inj h)]
        exact List.mem_of_find?_eq_some hname
    · split at h
      · split at h
        · exact absurd (Except.ok.inj h).symm (Option.some_ne_none l)
        · exact mem_of_byFile h
      · exact mem_of_byFile h

/-- The grammar of a scope is an entry of the catalogue. -/
theorem exists_lexer_of_scopeOf {c : Catalogue} {aliases : Table} {flag : Text} {scope : Scope}
    (h : c.scopeOf aliases flag = .ok (some scope)) : ∃ l ∈ c, scope.grammar = .lexer l := by
  unfold scopeOf at h
  obtain ⟨found, hentry, hscope⟩ := exists_of_map_eq_ok h
  obtain ⟨l, rfl, rfl⟩ := Option.map_eq_some_iff.1 hscope
  exact ⟨l, mem_of_entryOf hentry, rfl⟩

end LineHighlight.Catalogue
