import LineHighlight.Engine
import LineHighlight.Proofs.Config.NormalForm
import LineHighlight.Proofs.Grammar.Catalogue
import LineHighlight.Proofs.Server.Replies

/-!
# Flags and the flags before them

The registry of a catalogue answers a flag by what it remembers of flags of the same looked-up form.
`Recalls` is the invariant: every remembered answer is the one that some earlier flag had, looked up
afresh. So a history of calls matters to a flag exactly if a flag of another spelling has an answer
of its own, which is `forall_after_iff` and, for what callers see, `history_free_iff`.
-/

namespace LineHighlight

namespace Registry

/-! ## Histories of calls -/

/-- A call on a registry. -/
inductive Query where
  | resolve (flag : Text)
  | supports (flag : Text)
  | preload (flags : List Text)
  deriving DecidableEq, Repr

/-- The flags that a call is about. -/
def Query.flags : Query → List Text
  | resolve flag | supports flag => [flag]
  | preload flags => flags

variable {σ : Type}

/-- The memory after a call. -/
def afterQuery (r : Registry σ) (memory : σ) : Query → σ
  | .resolve flag | .supports flag => (r.resolve memory flag).2
  | .preload flags => (r.preload memory flags).memory

/-- The memory after some calls. -/
def after (r : Registry σ) (memory : σ) (history : List Query) : σ :=
  history.foldl r.afterQuery memory

/-- The answer to a flag. -/
def answer (r : Registry σ) (memory : σ) (flag : Text) : Except EngineFailure (Option Scope) :=
  (r.resolve memory flag).1.scope

/-- Whether a flag is known is read off its answer. -/
lemma supports_eq (r : Registry σ) (memory : σ) (flag : Text) :
    r.supports memory flag = (r.answer memory flag).map Option.isSome := rfl

/-- A flag that is not known is answered by no scope. -/
lemma answer_of_supports {r : Registry σ} {memory : σ} {flag : Text}
    (h : r.supports memory flag = .ok false) : r.answer memory flag = .ok none := by
  rw [supports_eq] at h
  obtain ⟨scope, hscope, hnone⟩ := exists_of_map_eq_ok h
  rw [hscope, Option.isNone_iff_eq_none.1 (Option.isSome_eq_false_iff.1 hnone)]

/-! ## What the registry of a catalogue remembers -/

section Catalogue

variable {c : Catalogue} {aliases : Table} {S : Text → Prop} {cache : Cache}

/-- Every remembered answer is the one that a flag in `S` has when it is looked up. -/
def Recalls (c : Catalogue) (aliases : Table) (S : Text → Prop) (cache : Cache) : Prop :=
  ∀ e ∈ cache, ∃ flag, S flag ∧ normalizeFlag flag = e.1 ∧
    c.scopeOf aliases.normalized flag = .ok e.2

lemma recalls_nil : Recalls c aliases S [] := fun _ h => absurd h List.not_mem_nil

/-- A flag of a remembered form is answered from memory. -/
lemma resolve_of_some {flag : Text} {scope : Option Scope}
    (h : cache.lookup (normalizeFlag flag) = some scope) :
    (ofCatalogue c aliases).answer cache flag = .ok scope ∧
      ((ofCatalogue c aliases).resolve cache flag).2 = cache := by
  unfold answer ofCatalogue
  dsimp only
  rw [h]
  exact ⟨rfl, rfl⟩

/-- A flag of another form is looked up. -/
lemma answer_of_none {flag : Text} (h : cache.lookup (normalizeFlag flag) = none) :
    (ofCatalogue c aliases).answer cache flag = c.scopeOf aliases.normalized flag := by
  unfold answer ofCatalogue
  dsimp only
  rw [h]
  cases c.scopeOf aliases.normalized flag <;> rfl

/-- What was looked up is remembered, a failure aside. -/
lemma memory_of_none {flag : Text} (h : cache.lookup (normalizeFlag flag) = none) :
    ((ofCatalogue c aliases).resolve cache flag).2 =
      match c.scopeOf aliases.normalized flag with
      | .ok scope => (normalizeFlag flag, scope) :: cache
      | .error _ => cache := by
  unfold ofCatalogue
  dsimp only
  rw [h]
  cases c.scopeOf aliases.normalized flag <;> rfl

/-- A flag is answered as if it was looked up now, or as some flag of its form was before. -/
theorem answer_of_recalls (h : Recalls c aliases S cache) (flag : Text) :
    (ofCatalogue c aliases).answer cache flag = c.scopeOf aliases.normalized flag ∨
      ∃ other scope, S other ∧ normalizeFlag other = normalizeFlag flag ∧
        c.scopeOf aliases.normalized other = .ok scope ∧
        (ofCatalogue c aliases).answer cache flag = .ok scope := by
  cases hlookup : cache.lookup (normalizeFlag flag) with
  | none => exact .inl (answer_of_none hlookup)
  | some scope =>
    right
    obtain ⟨other, hother, hform, hscope⟩ := h _ (mem_of_lookup_eq_some hlookup)
    exact ⟨other, scope, hother, hform, hscope, (resolve_of_some hlookup).1⟩

/-- A flag is answered as if it was looked up now, as far as `F` can tell, if `F` cannot tell what is
remembered of its form from that. -/
theorem apply_answer_of_recalls {α : Type} {F : Except EngineFailure (Option Scope) → α} {flag : Text}
    (hsame : ∀ other, S other → normalizeFlag other = normalizeFlag flag →
      ∀ scope, c.scopeOf aliases.normalized other = .ok scope →
        F (.ok scope) = F (c.scopeOf aliases.normalized flag))
    (h : Recalls c aliases S cache) :
    F ((ofCatalogue c aliases).answer cache flag) = F (c.scopeOf aliases.normalized flag) := by
  rcases answer_of_recalls h flag with hfresh | ⟨other, scope, hother, hform, hscope, hold⟩
  · rw [hfresh]
  · rw [hold]
    exact hsame other hother hform scope hscope

/-- The grammar of an answer is an entry of the catalogue. -/
lemma exists_lexer_of_answer (h : Recalls c aliases S cache) {flag : Text} {scope : Scope}
    (hanswer : (ofCatalogue c aliases).answer cache flag = .ok (some scope)) :
    ∃ l ∈ c, scope.grammar = .lexer l := by
  rcases answer_of_recalls h flag with hfresh | ⟨other, found, -, -, hscope, hold⟩
  · exact Catalogue.exists_lexer_of_scopeOf (hfresh.symm.trans hanswer)
  · rw [Except.ok.inj (hold.symm.trans hanswer)] at hscope
    exact Catalogue.exists_lexer_of_scopeOf hscope

/-- Resolving keeps the invariant. -/
theorem recalls_resolve (h : Recalls c aliases S cache) {flag : Text} (hflag : S flag) :
    Recalls c aliases S ((ofCatalogue c aliases).resolve cache flag).2 := by
  cases hlookup : cache.lookup (normalizeFlag flag) with
  | some scope =>
    rw [(resolve_of_some hlookup).2]
    exact h
  | none =>
    rw [memory_of_none hlookup]
    cases hscope : c.scopeOf aliases.normalized flag with
    | error cause => exact h
    | ok scope =>
      intro e he
      rcases List.mem_cons.1 he with rfl | he
      · exact ⟨flag, hflag, rfl, hscope⟩
      · exact h e he

/-- Resolving flags one after another keeps the invariant. -/
lemma recalls_remember (h : Recalls c aliases S cache) {flags : List Text}
    (hflags : ∀ flag ∈ flags, S flag) :
    Recalls c aliases S ((ofCatalogue c aliases).remember cache flags) := by
  induction flags generalizing cache with
  | nil => exact h
  | cons flag rest ih =>
    have hrest : ∀ flag ∈ rest, S flag := fun f hf => hflags f (List.mem_cons_of_mem _ hf)
    exact ih (recalls_resolve h (hflags flag List.mem_cons_self)) hrest

/-- Loading flags ahead keeps the invariant, whether or not it fails. -/
lemma recalls_preload (h : Recalls c aliases S cache) {flags : List Text}
    (hflags : ∀ flag ∈ flags, S flag) :
    Recalls c aliases S ((ofCatalogue c aliases).preload cache flags).memory := by
  induction flags generalizing cache with
  | nil => exact h
  | cons flag rest ih =>
    have hrest : ∀ flag ∈ rest, S flag := fun f hf => hflags f (List.mem_cons_of_mem _ hf)
    have hflag := recalls_resolve h (hflags flag List.mem_cons_self)
    rw [preload]
    dsimp only
    split
    · exact hflag
    · exact ih hflag hrest

/-- Every history keeps the invariant. -/
theorem recalls_after (h : Recalls c aliases S cache) {history : List Query}
    (hhistory : ∀ q ∈ history, ∀ flag ∈ q.flags, S flag) :
    Recalls c aliases S ((ofCatalogue c aliases).after cache history) := by
  induction history generalizing cache with
  | nil => exact h
  | cons q rest ih =>
    have hq := hhistory q List.mem_cons_self
    have hrest : ∀ q ∈ rest, ∀ flag ∈ q.flags, S flag :=
      fun q' hq' => hhistory q' (List.mem_cons_of_mem _ hq')
    refine ih ?_ hrest
    cases q with
    | resolve flag => exact recalls_resolve h (hq flag List.mem_cons_self)
    | supports flag => exact recalls_resolve h (hq flag List.mem_cons_self)
    | preload flags => exact recalls_preload h hq

/-- A fresh registry looks every flag up. -/
lemma answer_nil (flag : Text) :
    (ofCatalogue c aliases).answer [] flag = c.scopeOf aliases.normalized flag :=
  answer_of_none rfl

/-- The registry of a catalogue with priorities that are numbers never fails. -/
theorem neverFails_ofCatalogue (h : c.Rated) : (ofCatalogue c aliases).NeverFails := by
  intro cache flag
  show ∃ scope, (ofCatalogue c aliases).answer cache flag = .ok scope
  cases hlookup : cache.lookup (normalizeFlag flag) with
  | some scope => exact ⟨scope, (resolve_of_some hlookup).1⟩
  | none =>
    rw [answer_of_none hlookup]
    exact Catalogue.exists_scopeOf_eq_ok h _ flag

/-! ## When history does not matter -/

/-- After every history of calls a flag has the answer that it has on a fresh registry, as far as
`F` can tell, exactly if `F` cannot tell it from the answer to any flag of the same looked-up
form. -/
theorem forall_after_iff {α : Type} (F : Except EngineFailure (Option Scope) → α)
    (c : Catalogue) (aliases : Table) (flag : Text) :
    (∀ history, F ((ofCatalogue c aliases).answer ((ofCatalogue c aliases).after [] history) flag) =
        F ((ofCatalogue c aliases).answer [] flag)) ↔
      ∀ other, normalizeFlag other = normalizeFlag flag →
        ∀ scope, (ofCatalogue c aliases).answer [] other = .ok scope →
          F (.ok scope) = F ((ofCatalogue c aliases).answer [] flag) := by
  constructor
  · intro hall other hform scope hscope
    -- The history that asks for the other spelling alone.
    have hmemory : (ofCatalogue c aliases).after [] [.resolve other] =
        [(normalizeFlag flag, scope)] := by
      show ((ofCatalogue c aliases).resolve [] other).2 = _
      rw [answer_nil] at hscope
      rw [memory_of_none rfl, hscope, hform]
    have hlookup : List.lookup (normalizeFlag flag) [(normalizeFlag flag, scope)] = some scope :=
      List.lookup_cons_self
    rw [← hall [.resolve other], hmemory, (resolve_of_some hlookup).1]
  · intro hsame history
    have hrecalls : Recalls c aliases (fun _ => True) ((ofCatalogue c aliases).after [] history) :=
      recalls_after recalls_nil fun _ _ _ _ => trivial
    rw [answer_nil]
    refine apply_answer_of_recalls (fun other _ hform scope hscope => ?_) hrecalls
    rw [← answer_nil] at hscope ⊢
    exact hsame other hform scope hscope

/-! ## Counting what is loaded ahead -/

/-- Loading a first flag and some more. -/
lemma found_preload_cons (r : Registry σ) (memory : σ) (flag : Text) (rest : List Text) :
    (r.preload memory (flag :: rest)).found =
      match r.supports memory flag with
      | .error cause => .error cause
      | .ok known =>
        (r.preload (r.resolve memory flag).2 rest).found.map ((if known then 1 else 0) + ·) := by
  rw [preload, supports]
  dsimp only
  cases (r.resolve memory flag).1.scope <;> rfl

/-- The number of flags that are known, unless some flag has no answer. -/
def tally (known : Text → Except EngineFailure Bool) : List Text → Except EngineFailure Nat
  | [] => .ok 0
  | flag :: rest =>
    match known flag with
    | .error cause => .error cause
    | .ok known? => (tally known rest).map ((if known? then 1 else 0) + ·)

/-- The order in which flags are counted does not matter if they all fail for one reason. -/
lemma tally_perm {known : Text → Except EngineFailure Bool} {cause : EngineFailure}
    (hcause : ∀ flag other, known flag = .error other → other = cause) {flags flags' : List Text}
    (h : flags.Perm flags') : tally known flags = tally known flags' := by
  induction h with
  | nil => rfl
  | cons flag _ ih => rw [tally, tally, ih]
  | swap f g rest =>
    -- If both flags fail, the first one decides, and the causes are the same.
    rw [tally, tally, tally, tally]
    cases hf : known f with
    | error e =>
      cases hg : known g with
      | error e' => rw [hcause f e hf, hcause g e' hg]
      | ok b => rfl
    | ok b =>
      cases hg : known g with
      | error e' => rfl
      | ok b' =>
        dsimp only
        cases tally known rest with
        | error e => rfl
        | ok n =>
          refine congrArg Except.ok ?_
          dsimp only
          omega
  | trans _ _ ih ih' => exact ih.trans ih'

/-- If flags of the same looked-up form are all known or all unknown, loading flags ahead counts
them as a fresh registry knows them. -/
lemma found_preload_of_recalls
    (hsame : ∀ flag other, normalizeFlag flag = normalizeFlag other →
      (ofCatalogue c aliases).supports [] flag = (ofCatalogue c aliases).supports [] other)
    (h : Recalls c aliases S cache) (flags : List Text) :
    ((ofCatalogue c aliases).preload cache flags).found =
      tally ((ofCatalogue c aliases).supports []) flags := by
  have hforget : Recalls c aliases (fun _ => True) cache := fun e he =>
    let ⟨flag, _, hflag⟩ := h e he
    ⟨flag, trivial, hflag⟩
  clear h
  induction flags generalizing cache with
  | nil => rfl
  | cons flag rest ih =>
    have hknown : (ofCatalogue c aliases).supports cache flag =
        (ofCatalogue c aliases).supports [] flag := by
      rw [supports_eq, supports_eq, answer_nil]
      refine apply_answer_of_recalls (fun other _ hform scope hscope => ?_) hforget
      have hother := hsame other flag hform
      rw [supports_eq, supports_eq, answer_nil, answer_nil, hscope] at hother
      exact hother
    rw [found_preload_cons, tally, hknown, ih (recalls_resolve hforget trivial)]

/-- Two flags of one looked-up form count as the first of them does. -/
lemma found_preload_pair {flag other : Text} (h : normalizeFlag flag = normalizeFlag other) :
    ((ofCatalogue c aliases).preload [] [flag, other]).found =
      ((ofCatalogue c aliases).supports [] flag).map fun known => if known then 2 else 0 := by
  rw [found_preload_cons, found_preload_cons, supports_eq, answer_nil]
  cases hscope : c.scopeOf aliases.normalized flag with
  | error cause => rfl
  | ok scope =>
    -- The second flag is answered from memory.
    have hmemory : ((ofCatalogue c aliases).resolve [] flag).2 = [(normalizeFlag other, scope)] := by
      rw [memory_of_none rfl, hscope, h]
    have hlookup : List.lookup (normalizeFlag other) [(normalizeFlag other, scope)] = some scope :=
      List.lookup_cons_self
    rw [hmemory, supports_eq, (resolve_of_some hlookup).1]
    cases scope <;> rfl

/-- Loading flags ahead counts the same in every order and after every history exactly if flags of
the same looked-up form are all known, all unknown or all without an answer. -/
theorem forall_found_preload_perm_iff (c : Catalogue) (aliases : Table) :
    (∀ history flags flags', flags.Perm flags' →
      ((ofCatalogue c aliases).preload ((ofCatalogue c aliases).after [] history) flags).found =
        ((ofCatalogue c aliases).preload ((ofCatalogue c aliases).after [] history) flags').found) ↔
      ∀ flag other, normalizeFlag flag = normalizeFlag other →
        (ofCatalogue c aliases).supports [] flag = (ofCatalogue c aliases).supports [] other := by
  constructor
  · intro hall flag other hform
    have hpair := hall [] [flag, other] [other, flag] (List.Perm.swap other flag [])
    have hcount : ∀ known known' : Bool,
        (if known then 2 else 0) = (if known' then 2 else 0) → known = known' := by decide
    rw [after, List.foldl_nil, found_preload_pair hform, found_preload_pair hform.symm] at hpair
    cases hf : (ofCatalogue c aliases).supports [] flag with
    | error e =>
      rw [hf] at hpair
      exact (eq_error_of_map hpair.symm).symm
    | ok known =>
      cases hg : (ofCatalogue c aliases).supports [] other with
      | error e =>
        rw [hg] at hpair
        rw [eq_error_of_map hpair] at hf
        exact absurd hf (by simp)
      | ok known' =>
        rw [hf, hg] at hpair
        exact congrArg Except.ok (hcount known known' (Except.ok.inj hpair))
  · intro hsame history flags flags' hperm
    have hrecalls : Recalls c aliases (fun _ => True) ((ofCatalogue c aliases).after [] history) :=
      recalls_after recalls_nil fun _ _ _ _ => trivial
    rw [found_preload_of_recalls hsame hrecalls, found_preload_of_recalls hsame hrecalls]
    have hcause : ∀ flag cause, (ofCatalogue c aliases).supports [] flag = .error cause →
        cause = .priorityTooLarge := by
      intro flag cause h
      rw [supports_eq, answer_nil] at h
      exact Catalogue.scopeOf_error (eq_error_of_map h)
    exact tally_perm hcause hperm

end Catalogue

/-! ## What callers see -/

/-- The name and the grammar that an answer gives, whatever flag it was first given to. -/
def language (found : Except EngineFailure (Option Scope)) :
    Except EngineFailure (Option (Text × Grammar)) :=
  found.map (Option.map fun scope => (scope.name, scope.grammar))

end Registry

/-- The markup of a source text, given the answer to its flag. -/
def Engine.markupOf {σ : Type} (e : Engine σ) (flag source : Text) :
    Except EngineFailure (Option Scope) → Except AnswerFailure Text
  | .error cause => .error (.engine cause)
  | .ok none => .error (.unknownLanguage flag)
  | .ok (some scope) => (e.highlight source scope).mapError .engine

lemma Engine.markup_eq {σ : Type} (e : Engine σ) (memory : σ) (flag source : Text) :
    e.markup memory flag source = e.markupOf flag source (e.registry.answer memory flag) := by
  unfold markup markupOf Registry.answer
  rfl

/-- Markup is made in the scope that answers the flag. -/
lemma Engine.exists_scope_of_markup {σ : Type} {e : Engine σ} {memory : σ} {flag source html : Text}
    (h : e.markup memory flag source = .ok html) :
    ∃ scope, e.registry.answer memory flag = .ok (some scope) ∧
      e.highlight source scope = .ok html := by
  rw [markup_eq] at h
  unfold markupOf at h
  split at h
  · exact absurd h (by simp)
  · exact absurd h (by simp)
  · rename_i scope hscope
    exact ⟨scope, hscope, eq_ok_of_mapError h⟩

/-- A language is reported as unknown exactly if it is the one asked for and has no scope. -/
lemma Engine.markup_eq_unknownLanguage_iff {σ : Type} {e : Engine σ} {memory : σ}
    {flag source other : Text} :
    e.markup memory flag source = .error (.unknownLanguage other) ↔
      other = flag ∧ e.registry.answer memory flag = .ok none := by
  rw [markup_eq]
  constructor
  · intro h
    unfold markupOf at h
    split at h
    · exact absurd h (by simp)
    · rename_i hanswer
      exact ⟨(AnswerFailure.unknownLanguage.inj (Except.error.inj h)).symm, hanswer⟩
    · obtain ⟨cause, -, hcause⟩ := exists_of_mapError_eq_error h
      exact absurd hcause (by simp)
  · rintro ⟨rfl, hanswer⟩
    rw [hanswer]
    rfl

/-- The engine fails on a source text: the flag cannot be looked up, or the source cannot be
highlighted in the scope found. -/
def Engine.Raises {σ : Type} (e : Engine σ) (memory : σ) (flag source : Text) : Prop :=
  (∃ cause, e.registry.answer memory flag = .error cause) ∨
    ∃ scope cause, e.registry.answer memory flag = .ok (some scope) ∧
      e.highlight source scope = .error cause

/-- A failure that is put down to the engine is the engine's. -/
lemma Engine.raises_of_markup {σ : Type} {e : Engine σ} {memory : σ} {flag source : Text}
    {cause : EngineFailure} (h : e.markup memory flag source = .error (.engine cause)) :
    e.Raises memory flag source := by
  rw [markup_eq] at h
  unfold markupOf at h
  split at h
  · rename_i cause' hanswer
    exact .inl ⟨cause', hanswer⟩
  · exact absurd h (by simp)
  · rename_i scope hanswer
    obtain ⟨cause', hhighlight, -⟩ := exists_of_mapError_eq_error h
    exact .inr ⟨scope, cause', hanswer, hhighlight⟩

/-- Of a flag without a scope no source is highlighted. -/
lemma Engine.not_raises_of_answer {σ : Type} {e : Engine σ} {memory : σ} {flag : Text}
    (h : e.registry.answer memory flag = .ok none) (source : Text) : ¬ e.Raises memory flag source := by
  rintro (⟨cause, hanswer⟩ | ⟨scope, cause, hanswer, -⟩)
  · exact nomatch h.symm.trans hanswer
  · exact nomatch h.symm.trans hanswer

/-! ## Flags in their looked-up form -/

/-- The flag is in its looked-up form, white space around it aside. -/
def IsLookupForm (flag : Text) : Prop := Text.strip flag = normalizeFlag flag

/-- A normal form is in its looked-up form. -/
lemma isLookupForm_normalizeFlag (flag : Text) : IsLookupForm (normalizeFlag flag) := by
  unfold IsLookupForm
  rw [strip_normalizeFlag, normalizeFlag_normalizeFlag]

/-- Two flags in their looked-up form that are looked up alike lead to the same entry. -/
lemma Catalogue.entryOf_congr (c : Catalogue) (aliases : Table) {flag other : Text}
    (hflag : IsLookupForm flag) (hother : IsLookupForm other)
    (hform : normalizeFlag other = normalizeFlag flag) :
    c.entryOf aliases other = c.entryOf aliases flag := by
  have hstrip : Text.strip other = Text.strip flag := by
    rw [hother, hform, ← hflag]
  unfold entryOf
  rw [hform, hstrip]

/-- The markup for a flag in its looked-up form does not depend on what other flags in that form left
in the registry. -/
theorem Engine.markup_of_recalls {there : Installation} {config : Config} {cache : Cache}
    {flag : Text} (h : Registry.Recalls there.catalogue config.aliases IsLookupForm cache)
    (hflag : IsLookupForm flag) (source : Text) :
    (ofCatalogue there config).markup cache flag source =
      (ofCatalogue there config).markup [] flag source := by
  rw [markup_eq, markup_eq]
  show _ = (ofCatalogue there config).markupOf flag source
    ((Registry.ofCatalogue there.catalogue config.aliases).answer [] flag)
  rw [Registry.answer_nil]
  refine Registry.apply_answer_of_recalls (fun other hother hform scope hscope => ?_) h
  unfold Catalogue.scopeOf at hscope ⊢
  rw [there.catalogue.entryOf_congr _ hflag hother hform] at hscope
  obtain ⟨found, hentry, rfl⟩ := exists_of_map_eq_ok hscope
  rw [hentry]
  -- The two scopes differ in their flags only, which the highlighter does not look at.
  cases found <;> rfl

namespace Registry

/-- What the calls made before a call are able to change. A flag resolves to the same language after
every history exactly if no flag of the same looked-up form has another one; the markup in its
language is the same after every history exactly if no such flag leads to another one; and loading
flags ahead counts the same in every order exactly if flags of one form are known or not alike. -/
theorem history_free_iff (there : Installation) (config : Config) :
    let e := Engine.ofCatalogue there config
    let r := e.registry
    (∀ flag,
      (∀ history, language (r.answer (r.after [] history) flag) = language (r.answer [] flag)) ↔
        ∀ other, normalizeFlag other = normalizeFlag flag → ∀ scope, r.answer [] other = .ok scope →
          language (.ok scope) = language (r.answer [] flag)) ∧
    (∀ flag source,
      (∀ history, e.markup (r.after [] history) flag source = e.markup [] flag source) ↔
        ∀ other, normalizeFlag other = normalizeFlag flag → ∀ scope, r.answer [] other = .ok scope →
          e.markupOf flag source (.ok scope) = e.markup [] flag source) ∧
    ((∀ history flags flags', flags.Perm flags' →
      (r.preload (r.after [] history) flags).found =
        (r.preload (r.after [] history) flags').found) ↔
        ∀ flag other, normalizeFlag flag = normalizeFlag other →
          r.supports [] flag = r.supports [] other) := by
  intro e r
  refine ⟨fun flag => ?_, fun flag source => ?_, ?_⟩
  · exact forall_after_iff language there.catalogue config.aliases flag
  · have hiff := forall_after_iff (e.markupOf flag source) there.catalogue config.aliases flag
    simp only [Engine.markup_eq]
    exact hiff
  · exact forall_found_preload_perm_iff there.catalogue config.aliases

/-- With the standard catalogue, a file name in lower case that only a general pattern fits hides the
entry for the file name as it is commonly written. -/
theorem language_after_other_spelling_ne :
    let r := (Engine.ofCatalogue {} .default).registry
    language (r.answer (r.after [] [.resolve "cmakelists.txt".toList]) "CMakeLists.txt".toList) ≠
      language (r.answer [] "CMakeLists.txt".toList) := by
  intro r heq
  have hname := congrArg (fun found => found.toOption.map (Option.map Prod.fst)) heq
  exact absurd hname (by decide +kernel)

end Registry
end LineHighlight
