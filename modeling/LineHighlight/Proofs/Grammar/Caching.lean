import LineHighlight.Proofs.Grammar.History
import LineHighlight.Proofs.Server.Session

/-!
# What a registry remembers of a history

The registry of a catalogue keeps for each looked-up form the answer to the first flag of this form
that was asked for and has one; a flag whose lookup fails leaves nothing behind. `firstAnswer` reads
that answer off the flags asked for, with a fresh registry, and `Holds.after` says that the cache
holds just that after every history of calls. So an answer once given is given again, and in a session
requests for one language and one source have one markup (`answer_eq_first`).
-/

namespace LineHighlight

namespace Registry

/-! ## The flags that a history asks for -/

section Asked

variable {σ : Type}

/-- The flags that loading flags ahead comes to: all of them, up to the first whose lookup fails. -/
def visited (r : Registry σ) (memory : σ) : List Text → List Text
  | [] => []
  | flag :: rest =>
    match r.answer memory flag with
    | .error _ => [flag]
    | .ok _ => flag :: r.visited (r.resolve memory flag).2 rest

/-- The flags that a call asks for, in their order. -/
def Query.asked (r : Registry σ) (memory : σ) : Query → List Text
  | .resolve flag | .supports flag => [flag]
  | .preload flags => r.visited memory flags

/-- The flags that some calls ask for, in their order. -/
def asked (r : Registry σ) (memory : σ) : List Query → List Text
  | [] => []
  | q :: rest => q.asked r memory ++ r.asked (r.afterQuery memory q) rest

end Asked

/-! ## The first answer -/

/-- The answer to the first of some flags that has the given looked-up form and an answer at all. -/
def firstAnswer (fresh : Text → Except EngineFailure (Option Scope)) (flags : List Text)
    (key : Text) : Option (Option Scope) :=
  flags.findSome? fun flag => if normalizeFlag flag = key then (fresh flag).toOption else none

/-- The answer to a flag that is asked for after others: that to the first of them all with its
looked-up form and an answer, or its own failure. -/
def answerAfter (fresh : Text → Except EngineFailure (Option Scope)) (before : List Text)
    (flag : Text) : Except EngineFailure (Option Scope) :=
  match firstAnswer fresh (before ++ [flag]) (normalizeFlag flag) with
  | some scope => .ok scope
  | none => fresh flag

/-- The number of flags with a scope, if each is asked for after those before it, up to the first
failure. -/
def countAfter (fresh : Text → Except EngineFailure (Option Scope)) (before : List Text) :
    List Text → Except EngineFailure Nat
  | [] => .ok 0
  | flag :: rest =>
    match answerAfter fresh before flag with
    | .error cause => .error cause
    | .ok scope =>
      (countAfter fresh (before ++ [flag]) rest).map ((if scope.isSome then 1 else 0) + ·)

/-- One more flag matters only if there is no answer yet. -/
lemma firstAnswer_append_singleton (fresh : Text → Except EngineFailure (Option Scope))
    (flags : List Text) (flag key : Text) :
    firstAnswer fresh (flags ++ [flag]) key =
      (firstAnswer fresh flags key).or
        (if normalizeFlag flag = key then (fresh flag).toOption else none) := by
  unfold firstAnswer
  rw [List.findSome?_append, List.findSome?_singleton]

/-- A flag is answered as an earlier flag of its looked-up form was, or as if it was the first. -/
lemma answerAfter_eq (fresh : Text → Except EngineFailure (Option Scope)) (before : List Text)
    (flag : Text) :
    answerAfter fresh before flag =
      match firstAnswer fresh before (normalizeFlag flag) with
      | some scope => .ok scope
      | none => fresh flag := by
  unfold answerAfter
  rw [firstAnswer_append_singleton, if_pos rfl]
  cases firstAnswer fresh before (normalizeFlag flag) with
  | some scope => rfl
  | none => cases fresh flag <;> rfl

/-- An answer that was given is given again. -/
lemma firstAnswer_append_of_some {fresh : Text → Except EngineFailure (Option Scope)}
    {flags : List Text} {key : Text} {scope : Option Scope}
    (h : firstAnswer fresh flags key = some scope) (more : List Text) :
    firstAnswer fresh (flags ++ more) key = some scope := by
  unfold firstAnswer at h ⊢
  rw [List.findSome?_append, h]
  rfl

/-- What a flag is answered is the first answer, the flag itself included. -/
lemma answerAfter_eq_ok_iff {fresh : Text → Except EngineFailure (Option Scope)}
    {before : List Text} {flag : Text} {scope : Option Scope} :
    answerAfter fresh before flag = .ok scope ↔
      firstAnswer fresh (before ++ [flag]) (normalizeFlag flag) = some scope := by
  rw [answerAfter_eq, firstAnswer_append_singleton, if_pos rfl]
  cases firstAnswer fresh before (normalizeFlag flag) with
  | some other => exact ⟨fun h => congrArg some (Except.ok.inj h),
      fun h => congrArg Except.ok (Option.some.inj h)⟩
  | none =>
    cases hfresh : fresh flag with
    | error cause => exact ⟨nofun, nofun⟩
    | ok other => exact ⟨fun h => congrArg some (Except.ok.inj h),
        fun h => congrArg Except.ok (Option.some.inj h)⟩

/-! ## What the cache holds -/

section Catalogue

variable {c : Catalogue} {aliases : Table} {cache : Cache} {before : List Text}

/-- The answers of a fresh registry on a catalogue. -/
abbrev fresh (c : Catalogue) (aliases : Table) : Text → Except EngineFailure (Option Scope) :=
  (ofCatalogue c aliases).answer []

/-- Resolving a flag adds its answer under its looked-up form, unless there is one or none is
found. -/
lemma lookup_resolve (c : Catalogue) (aliases : Table) (cache : Cache) (flag key : Text) :
    ((ofCatalogue c aliases).resolve cache flag).2.lookup key =
      (cache.lookup key).or
        (if normalizeFlag flag = key then (fresh c aliases flag).toOption else none) := by
  rw [fresh, answer_nil]
  cases hlookup : cache.lookup (normalizeFlag flag) with
  | some scope =>
    rw [(resolve_of_some hlookup).2]
    split
    · rename_i hkey
      rw [← hkey, hlookup]
      rfl
    · rw [Option.or_none]
  | none =>
    rw [memory_of_none hlookup]
    cases hscope : c.scopeOf aliases.normalized flag with
    | error cause =>
      have hnothing : (if normalizeFlag flag = key then
          (Except.error cause : Except EngineFailure (Option Scope)).toOption else none) = none := by
        split <;> rfl
      rw [hnothing, Option.or_none]
    | ok scope =>
      rw [List.lookup_cons]
      by_cases hkey : normalizeFlag flag = key
      · rw [if_pos hkey, ← hkey, hlookup, beq_self_eq_true]
        rfl
      · rw [if_neg hkey, Option.or_none, beq_false_of_ne fun he => hkey he.symm]

/-- A flag is answered from the cache, or else as on a fresh registry. -/
lemma answer_eq (c : Catalogue) (aliases : Table) (cache : Cache) (flag : Text) :
    (ofCatalogue c aliases).answer cache flag =
      match cache.lookup (normalizeFlag flag) with
      | some scope => .ok scope
      | none => fresh c aliases flag := by
  cases hlookup : cache.lookup (normalizeFlag flag) with
  | some scope => exact (resolve_of_some hlookup).1
  | none => exact (answer_of_none hlookup).trans (answer_nil flag).symm

/-- The cache holds the first answers to the flags asked for before. -/
def Holds (c : Catalogue) (aliases : Table) (before : List Text) (cache : Cache) : Prop :=
  ∀ key, cache.lookup key = firstAnswer (fresh c aliases) before key

lemma holds_nil (c : Catalogue) (aliases : Table) : Holds c aliases [] [] := fun _ => rfl

/-- A flag is answered as the first of its looked-up form. -/
lemma Holds.answer_eq (h : Holds c aliases before cache) (flag : Text) :
    (ofCatalogue c aliases).answer cache flag = answerAfter (fresh c aliases) before flag := by
  rw [Registry.answer_eq, answerAfter_eq, h]

lemma Holds.resolve (h : Holds c aliases before cache) (flag : Text) :
    Holds c aliases (before ++ [flag]) ((ofCatalogue c aliases).resolve cache flag).2 := by
  intro key
  rw [lookup_resolve, firstAnswer_append_singleton, h key]

/-- The induction is on the flags to come; those before a failure were asked for. -/
lemma Holds.preload (h : Holds c aliases before cache) (flags : List Text) :
    Holds c aliases (before ++ (ofCatalogue c aliases).visited cache flags)
        ((ofCatalogue c aliases).preload cache flags).memory ∧
      ((ofCatalogue c aliases).preload cache flags).found =
        countAfter (fresh c aliases) before flags := by
  induction flags generalizing before cache with
  | nil =>
    rw [visited, List.append_nil]
    exact ⟨h, rfl⟩
  | cons flag rest ih =>
    have hanswer := h.answer_eq flag
    obtain ⟨hmemory, hfound⟩ := ih (h.resolve flag)
    rw [found_preload_cons, visited, Registry.preload, countAfter, ← hanswer, supports_eq]
    have hscope : ((ofCatalogue c aliases).resolve cache flag).1.scope =
        (ofCatalogue c aliases).answer cache flag := rfl
    dsimp only
    rw [hscope]
    cases (ofCatalogue c aliases).answer cache flag with
    | error cause => exact ⟨h.resolve flag, rfl⟩
    | ok scope =>
      rw [List.append_assoc] at hmemory
      rw [← hfound]
      exact ⟨hmemory, rfl⟩

lemma Holds.afterQuery (h : Holds c aliases before cache) (q : Query) :
    Holds c aliases (before ++ q.asked (ofCatalogue c aliases) cache)
      ((ofCatalogue c aliases).afterQuery cache q) := by
  cases q with
  | resolve flag => exact h.resolve flag
  | supports flag => exact h.resolve flag
  | preload flags => exact (h.preload flags).1

/-- After every history the cache holds the first answers to the flags that it asked for. -/
theorem Holds.after (h : Holds c aliases before cache) (history : List Query) :
    Holds c aliases (before ++ (ofCatalogue c aliases).asked cache history)
      ((ofCatalogue c aliases).after cache history) := by
  induction history generalizing before cache with
  | nil =>
    rw [asked, List.append_nil]
    exact h
  | cons q rest ih =>
    have hrest := ih (h.afterQuery q)
    rw [List.append_assoc] at hrest
    exact hrest

lemma Holds.remember (h : Holds c aliases before cache) (flags : List Text) :
    Holds c aliases (before ++ flags) ((ofCatalogue c aliases).remember cache flags) := by
  induction flags generalizing before cache with
  | nil =>
    rw [List.append_nil]
    exact h
  | cons flag rest ih =>
    have hrest := ih (h.resolve flag)
    rw [List.append_assoc] at hrest
    exact hrest

/-- A flag with an answer is answered alike when more flags were asked for. -/
lemma Holds.answer_eq_ok (h : Holds c aliases before cache) {earlier : List Text} {flag other : Text}
    {scope : Option Scope}
    (hearlier : answerAfter (fresh c aliases) earlier flag = .ok scope)
    (hbefore : earlier ++ [flag] <+: before) (hform : normalizeFlag other = normalizeFlag flag) :
    (ofCatalogue c aliases).answer cache other = .ok scope := by
  obtain ⟨more, rfl⟩ := hbefore
  have hfirst := firstAnswer_append_of_some (answerAfter_eq_ok_iff.1 hearlier) (more ++ [other])
  rw [← List.append_assoc, ← hform] at hfirst
  rw [h.answer_eq, answerAfter_eq_ok_iff]
  exact hfirst

end Catalogue
end Registry

/-! ## Sessions -/

/-- Each markup is that of the request in its place, with the registry as the requests before it left
it. -/
lemma Engine.exists_of_getElem?_markups {σ : Type} {e : Engine σ} {memory : σ}
    {requests : List Request} {i : Nat} {markup : Text}
    (h : (e.replies memory requests).markups[i]? = some markup) :
    ∃ r, requests[i]? = some r ∧
      e.markup (e.registry.remember memory ((requests.take i).map (·.language))) r.language r.source =
        .ok markup := by
  induction requests generalizing memory i with
  | nil => exact nomatch h
  | cons r rest ih =>
    cases hr : e.markup memory r.language r.source with
    | error cause =>
      rw [replies_cons_of_error hr] at h
      exact nomatch h
    | ok first =>
      rw [replies_cons_of_ok hr] at h
      cases i with
      | zero =>
        have hfirst : first = markup := Option.some.inj h
        exact ⟨r, rfl, hfirst ▸ hr⟩
      | succ i => exact ih h

namespace Registry

variable {c : Catalogue} {aliases : Table} {e : Engine Cache} {before : List Text} {cache : Cache}
  {requests : List Request}

/-- Of two requests for one language and one source, the later one has the markup of the earlier. -/
lemma markup_eq_of_lt (he : e.registry = ofCatalogue c aliases) (h : Holds c aliases before cache)
    {i j : Nat} (hlt : i < j) {r r' : Request} (hr : requests[i]? = some r)
    (hr' : requests[j]? = some r') (hlanguage : normalizeFlag r'.language = normalizeFlag r.language)
    (hsource : r'.source = r.source) {markup markup' : Text}
    (hmarkup : (e.replies cache requests).markups[i]? = some markup)
    (hmarkup' : (e.replies cache requests).markups[j]? = some markup') : markup' = markup := by
  obtain ⟨q, hq, hmade⟩ := Engine.exists_of_getElem?_markups hmarkup
  obtain ⟨q', hq', hmade'⟩ := Engine.exists_of_getElem?_markups hmarkup'
  obtain rfl := Option.some.inj (hr.symm.trans hq)
  obtain rfl := Option.some.inj (hr'.symm.trans hq')
  obtain ⟨scope, hscope, hhighlight⟩ := Engine.exists_scope_of_markup hmade
  obtain ⟨scope', hscope', hhighlight'⟩ := Engine.exists_scope_of_markup hmade'
  have hholds := h.remember ((requests.take i).map (·.language))
  have hholds' := h.remember ((requests.take j).map (·.language))
  rw [he] at hscope hscope'
  rw [hholds.answer_eq] at hscope
  -- The language of the earlier request was asked for before the later one.
  have hbefore : before ++ (requests.take i).map (·.language) ++ [r.language] <+:
      before ++ (requests.take j).map (·.language) := by
    have htake : (requests.take i).map (·.language) ++ [r.language] =
        (requests.take (i + 1)).map (·.language) := by
      rw [List.take_add_one, hr, List.map_append]
      rfl
    rw [List.append_assoc, htake]
    exact (List.prefix_append_right_inj before).2
      ((List.take_prefix_take_left hlt).map Request.language)
  have hsame := hholds'.answer_eq_ok hscope hbefore hlanguage
  obtain rfl := Option.some.inj (Except.ok.inj (hsame.symm.trans hscope'))
  rw [hsource, hhighlight] at hhighlight'
  exact (Except.ok.inj hhighlight').symm

/-- Requests for one language and one source have one markup, whatever requests lie between. -/
lemma markup_eq_of_alike (he : e.registry = ofCatalogue c aliases) (h : Holds c aliases before cache)
    {i j : Nat} {r r' : Request} (hr : requests[i]? = some r) (hr' : requests[j]? = some r')
    (hlanguage : normalizeFlag r'.language = normalizeFlag r.language)
    (hsource : r'.source = r.source) {markup markup' : Text}
    (hmarkup : (e.replies cache requests).markups[i]? = some markup)
    (hmarkup' : (e.replies cache requests).markups[j]? = some markup') : markup' = markup := by
  rcases Nat.lt_trichotomy i j with hlt | rfl | hgt
  · exact markup_eq_of_lt he h hlt hr hr' hlanguage hsource hmarkup hmarkup'
  · exact Option.some.inj (hmarkup'.symm.trans hmarkup)
  · exact (markup_eq_of_lt he h hgt hr' hr hlanguage.symm hsource.symm hmarkup' hmarkup).symm

/-! ## The law of the cache -/

/-- After every history of calls a flag is answered as a fresh registry answers the first flag of its
looked-up form that was asked for and has an answer, itself included; flags ahead are counted in this
way; an answer once given is given again; and in a session of a server on the registry, whatever its
settings and its highlighter, requests for one language and one source are answered by one markup. -/
theorem answer_eq_first (c : Catalogue) (aliases : Table) (history : List Query) (flag : Text) :
    let r := ofCatalogue c aliases
    let fresh := r.answer []
    let memory := r.after [] history
    let before := r.asked [] history
    (r.answer memory flag =
        match firstAnswer fresh (before ++ [flag]) (normalizeFlag flag) with
        | some scope => .ok scope
        | none => fresh flag) ∧
      r.supports memory flag = (r.answer memory flag).map Option.isSome ∧
      (∀ flags, (r.preload memory flags).found = countAfter fresh before flags) ∧
      (∀ scope, r.answer memory flag = .ok scope →
        ∀ more other, normalizeFlag other = normalizeFlag flag →
          r.answer (r.after [] (history ++ .resolve flag :: more)) other = .ok scope) ∧
      ∀ (config : Config) (name : Text) (highlight : Highlighter) (input : Text),
        let s : Server Cache := ⟨config, name, r, highlight⟩
        let requests := requestsOf (Text.lines input)
        let markups := (s.engine.replies (r.remember [] config.aliases.keys) requests).markups
        ((s.start []).ending = none →
          (s.run [] (.ofText input)).trace.output =
            s.readyLine ++ markups.flatMap (answerBlock config.terminator)) ∧
        ((s.start []).ending ≠ none → (s.run [] (.ofText input)).trace.output = []) ∧
        ∀ (i j : Nat) (q q' : Request) (markup markup' : Text),
          requests[i]? = some q → requests[j]? = some q' →
          normalizeFlag q'.language = normalizeFlag q.language → q'.source = q.source →
          markups[i]? = some markup → markups[j]? = some markup' → markup' = markup := by
  intro r fresh memory before
  have hholds : Holds c aliases before memory := (holds_nil c aliases).after history
  refine ⟨hholds.answer_eq flag, rfl, fun flags => (hholds.preload flags).2, ?_, ?_⟩
  · intro scope hscope more other hform
    have hlater := (hholds.resolve flag).after more
    have hafter : r.after [] (history ++ .resolve flag :: more) =
        r.after (r.resolve memory flag).2 more := List.foldl_append
    rw [hholds.answer_eq] at hscope
    rw [hafter]
    exact hlater.answer_eq_ok hscope (List.prefix_append _ _) hform
  · intro config name highlight input s requests markups
    refine ⟨fun hopened => (Server.run_of_opened hopened input).1, fun hclosed => ?_, ?_⟩
    · obtain ⟨ending, hending⟩ := Option.ne_none_iff_exists'.1 hclosed
      exact (Server.run_of_notOpened hending (.ofText input)).1
    · intro i j q q' markup markup' hq hq' hlanguage hsource hmarkup hmarkup'
      have hwarm := (holds_nil c aliases).remember config.aliases.keys
      exact markup_eq_of_alike (e := s.engine) rfl hwarm hq hq' hlanguage hsource hmarkup hmarkup'

/-- A catalogue with an entry for one file name whose priority breaks its lookup, and one for all file
names of its kind. -/
def brittle : Catalogue :=
  [{ Catalogue.entry "Aa" "Aa" 0 .text [] ["X.q"] with priority := .number Binary64.limit },
    Catalogue.entry "Zz" "Zz" 0 .text [] ["*.q"]]

/-- What can be seen of an answer: the name of the language, the flag, and the name of the grammar. -/
def seen (found : Except EngineFailure (Option Scope)) : Option (Option (Text × Text × Text)) :=
  found.toOption.map (Option.map fun scope => (scope.name, scope.flag, scope.grammar.handle))

/-- Loading ahead stops at a flag whose lookup fails. After that a flag in several spellings is
answered as the first of them, and a session answers it alike behind another request. -/
theorem answer_eq_first_brittle :
    let r := ofCatalogue brittle .empty
    let history : List Query := [.preload ["X.q".toList, "A.q".toList], .supports " a.Q".toList]
    let memory := r.after [] history
    let s : Server Cache := ⟨.default, "q".toList, r, .echo⟩
    let input := "a.q\n\tx\n\nb.q\n\tx\n\nA.Q\n\tx\n\n".toList
    seen (r.answer memory "A.Q".toList) = some (some ("Zz".toList, " a.Q".toList, "Zz".toList)) ∧
      (r.preload memory ["a.q".toList, "b".toList, "b.q".toList]).found = .ok 2 ∧
      r.answer (r.after [] (history ++ [.resolve "A.Q".toList, .resolve "X.q".toList])) "a.q".toList =
        r.answer memory "A.Q".toList ∧
      (s.start []).ending = none ∧
      (s.run [] (.ofText input)).trace.output =
        "ready\nZz|a.q|x\n\n\x04\nZz|b.q|x\n\n\x04\nZz|a.q|x\n\n\x04\n".toList ∧
      ∀ markup markup', (s.engine.replies (r.remember [] s.config.aliases.keys)
          (requestsOf (Text.lines input))).markups = [markup, "Zz|b.q|x\n".toList, markup'] →
        markup' = markup := by
  intro r history memory s input
  obtain ⟨hanswer, -, hcount, hagain, hsession⟩ :=
    answer_eq_first brittle .empty history "A.Q".toList
  obtain ⟨hopen, -, halike⟩ := hsession .default "q".toList .echo input
  have hseen : seen (r.answer memory "A.Q".toList) =
      some (some ("Zz".toList, " a.Q".toList, "Zz".toList)) := by
    rw [hanswer]
    decide +kernel
  have hopened : (s.start []).ending = none := by decide +kernel
  refine ⟨hseen, ?_, ?_, hopened, ?_, ?_⟩
  · rw [hcount]
    exact eq_ok_of_toOption (by decide +kernel)
  · cases hfound : r.answer memory "A.Q".toList with
    | error cause =>
      rw [hfound] at hseen
      exact nomatch hseen
    | ok scope => exact hagain scope hfound [.resolve "X.q".toList] "a.q".toList (by decide +kernel)
  · rw [hopen hopened]
    decide +kernel
  · intro markup markup' hmarkups
    refine halike 0 2 ⟨"a.q".toList, "x\n".toList⟩ ⟨"A.Q".toList, "x\n".toList⟩ markup markup'
      (by decide +kernel) (by decide +kernel) (by decide +kernel) rfl ?_ ?_
    · exact (congrArg (·[0]?) hmarkups)
    · exact (congrArg (·[2]?) hmarkups)

/-- A flag is not answered as the first of its looked-up form is answered by a fresh registry if the
lookup of that one failed. -/
theorem answer_after_failure_ne :
    let r := ofCatalogue brittle .empty
    let memory := r.after [] [.resolve "X.q".toList]
    normalizeFlag "x.q".toList = normalizeFlag "X.q".toList ∧
      (∃ cause, r.answer [] "X.q".toList = .error cause) ∧
      ∃ scope, r.answer memory "x.q".toList = .ok (some scope) ∧ scope.name = "Zz".toList := by
  intro r memory
  refine ⟨by decide +kernel, ?_, ?_⟩
  · have hfailed : (r.answer [] "X.q".toList).toOption.isNone = true := by decide +kernel
    cases hfirst : r.answer [] "X.q".toList with
    | error cause => exact ⟨cause, rfl⟩
    | ok found =>
      rw [hfirst] at hfailed
      exact nomatch hfailed
  · have hseen : (seen (r.answer memory "x.q".toList)).map (Option.map Prod.fst) =
        some (some "Zz".toList) := by decide +kernel
    cases hfound : r.answer memory "x.q".toList with
    | error cause =>
      rw [hfound] at hseen
      exact nomatch hseen
    | ok found =>
      rw [hfound] at hseen
      obtain ⟨shown, hshown, hname⟩ := Option.map_eq_some_iff.1 (Option.some.inj hseen)
      obtain ⟨scope, rfl, rfl⟩ := Option.map_eq_some_iff.1 hshown
      exact ⟨scope, rfl, hname⟩

end Registry
end LineHighlight
