import LineHighlight.CommandLine.Plan
import LineHighlight.Proofs.Config.NormalForm
import LineHighlight.Proofs.Results
import LineHighlight.Proofs.Table

/-!
# Settings with more aliases

Aliases are added to those of some settings under the spellings of their flags, and only then brought
into the looked-up form. So what is added wins over what was there, but of several spellings of one
flag the newest one decides, and not the one that was given last: a spelling is new when it first
comes, and the looked-up form of a flag that had an alias before is never new. `Extends` says what
aliases some entries lead to, and `extends_withAliases` that both the settings and the command line
extend their aliases in this way.
-/

namespace LineHighlight

/-- A text is a spelling of the flag with the given looked-up form. -/
def spells (key spelling : Text) : Bool := normalizeFlag spelling = key

lemma spells_iff {key spelling : Text} : spells key spelling = true ↔ normalizeFlag spelling = key :=
  decide_eq_true_iff

namespace Table

/-- In a table brought into the looked-up form, the last spelling of a flag counts. -/
lemma get?_normalized (t : Table) (key : Text) :
    t.normalized.get? key = lastValue (spells key) t.entries :=
  get?_mapKeys normalizeFlag t key

/-- All keys are in the looked-up form. -/
def IsNormal (t : Table) : Prop := ∀ key ∈ t.keys, normalizeFlag key = key

lemma isNormal_normalized (t : Table) : t.normalized.IsNormal := by
  intro key hkey
  obtain ⟨flag, rfl⟩ := exists_of_mem_keys_normalized hkey
  exact normalizeFlag_normalizeFlag flag

/-- The value that some entries decide on for a flag: the last one under its newest spelling. -/
def decided (t : Table) (es : List (Text × Text)) (key : Text) : Option Text :=
  (t.newest es (spells key)).bind fun spelling => lastValue (· = spelling) es

/-! ## Which spelling is the newest -/

section Normal

variable {t : Table} {es : List (Text × Text)} {key : Text}

/-- A spelling that is among the keys of a table in the looked-up form is the looked-up form. -/
lemma eq_of_mem_keys (h : t.IsNormal) {spelling : Text} (hmem : spelling ∈ t.keys)
    (hspells : spells key spelling = true) : spelling = key := by
  rw [← h spelling hmem]
  exact spells_iff.1 hspells

/-- The newest spelling of a flag is one of those given, if there is any. -/
lemma exists_newest (h : t.IsNormal) {e : Text × Text} (he : e ∈ es)
    (hspells : spells key e.1 = true) :
    ∃ spelling ∈ es.map Prod.fst, t.newest es (spells key) = some spelling := by
  have harrived : e.1 ∈ es.map Prod.fst := List.mem_map_of_mem he
  unfold newest arrivals
  rw [List.eraseDups_append, List.reverse_append, List.find?_append]
  cases hnew : (((es.map Prod.fst).removeAll t.keys).eraseDups.reverse).find? (spells key) with
  | some spelling =>
    -- A spelling arrived that the table did not have.
    have hmem := List.mem_of_find?_eq_some hnew
    rw [List.mem_reverse, List.mem_eraseDups] at hmem
    exact ⟨spelling, (List.mem_filter.1 hmem).1, rfl⟩
  | none =>
    -- The table had the spelling, which is therefore the looked-up form.
    have hold : e.1 ∈ t.keys := by
      by_contra hnot
      refine List.find?_eq_none.1 hnew e.1 ?_ hspells
      rw [List.mem_reverse, List.mem_eraseDups]
      refine List.mem_filter.2 ⟨harrived, ?_⟩
      rw [Bool.not_eq_true', ← Bool.not_eq_true, List.elem_iff]
      exact hnot
    have hfound : (t.keys.eraseDups.reverse.find? (spells key)).isSome = true := by
      refine List.find?_isSome.2 ⟨e.1, ?_, hspells⟩
      rw [List.mem_reverse, List.mem_eraseDups]
      exact hold
    obtain ⟨spelling, hspelling⟩ := Option.isSome_iff_exists.1 hfound
    have hmem := List.mem_of_find?_eq_some hspelling
    rw [List.mem_reverse, List.mem_eraseDups] at hmem
    have hform := List.find?_some hspelling
    have hsame : spelling = e.1 :=
      (eq_of_mem_keys h hmem hform).trans (eq_of_mem_keys h hold hspells).symm
    rw [hspelling]
    exact ⟨spelling, hsame ▸ harrived, rfl⟩

/-- Without spellings among the entries, the newest spelling is the one that the table has. -/
lemma newest_of_forall_not (h : t.IsNormal) (hnone : ∀ e ∈ es, ¬ spells key e.1 = true) :
    t.newest es (spells key) = if key ∈ t.keys then some key else none := by
  have hold : ∀ spelling, t.newest es (spells key) = some spelling →
      spelling = key ∧ key ∈ t.keys := by
    intro spelling hnewest
    have hmem := List.mem_of_find?_eq_some hnewest
    have hform := List.find?_some hnewest
    rw [List.mem_reverse, arrivals, List.mem_eraseDups] at hmem
    rcases List.mem_append.1 hmem with hmem | hmem
    · have hsame := eq_of_mem_keys h hmem hform
      exact ⟨hsame, hsame ▸ hmem⟩
    · obtain ⟨e, he, rfl⟩ := List.mem_map.1 hmem
      exact absurd hform (hnone e he)
  cases hnewest : t.newest es (spells key) with
  | none =>
    rw [if_neg]
    intro hmem
    refine List.find?_eq_none.1 hnewest key ?_ (spells_iff.2 (h key hmem))
    rw [List.mem_reverse, arrivals, List.mem_eraseDups]
    exact List.mem_append_left _ hmem
  | some spelling =>
    obtain ⟨rfl, hmem⟩ := hold spelling hnewest
    rw [if_pos hmem]

/-- Entries decide on a value exactly if there is one for the flag, and it is the value of one of
them. -/
lemma decided_eq_none_iff (h : t.IsNormal) :
    t.decided es key = none ↔ ∀ e ∈ es, ¬ spells key e.1 = true := by
  constructor
  · intro hdecided e he hspells
    obtain ⟨spelling, hmem, hnewest⟩ := exists_newest h he hspells
    unfold decided at hdecided
    rw [hnewest, Option.bind_some] at hdecided
    obtain ⟨e', he', rfl⟩ := List.mem_map.1 hmem
    exact lastValue_eq_none_iff.1 hdecided e' he' (decide_eq_true rfl)
  · intro hnone
    unfold decided
    rw [newest_of_forall_not h hnone]
    split
    · rename_i hmem
      rw [Option.bind_some, lastValue_eq_none_iff]
      intro e he hkey
      refine hnone e he ?_
      rw [of_decide_eq_true hkey]
      exact spells_iff.2 (h key hmem)
    · rfl

/-- The value that entries decide on is that of one of them. -/
lemma exists_of_decided {value : Text} (hdecided : t.decided es key = some value) :
    ∃ e ∈ es, spells key e.1 = true ∧ e.2 = value := by
  obtain ⟨spelling, hnewest, hlast⟩ := Option.bind_eq_some_iff.1 hdecided
  obtain ⟨e, he, hkey, hvalue⟩ := exists_of_lastValue hlast
  have hform := List.find?_some hnewest
  rw [← of_decide_eq_true hkey] at hform
  exact ⟨e, he, hform, hvalue⟩

/-- After entries were stored, a flag has the value that they decide on, or the one it had before. -/
theorem get?_normalized_putAll (h : t.IsNormal) :
    (t.putAll es).normalized.get? key = (t.decided es key).or (t.get? key) := by
  rw [get?_normalized, lastValue_entries_putAll]
  cases hdecided : t.decided es key with
  | none =>
    have hnone := (decided_eq_none_iff h).1 hdecided
    rw [newest_of_forall_not h hnone]
    split
    · rename_i hmem
      have hlast : lastValue (· = key) es = none :=
        lastValue_eq_none_iff.2 fun e he hkey =>
          hnone e he (spells_iff.2 (of_decide_eq_true hkey ▸ h key hmem))
      rw [Option.bind_some, hlast]
    · rename_i hmem
      exact (get?_eq_none_iff.2 hmem).symm
  | some value =>
    obtain ⟨spelling, hnewest, hlast⟩ := Option.bind_eq_some_iff.1 hdecided
    rw [hnewest, Option.bind_some, hlast]
    rfl

/-- If a flag was given in one spelling only, the last entry for it decides. -/
lemma decided_of_alike (h : t.IsNormal)
    (halike : ∀ e ∈ es, ∀ e' ∈ es, spells key e.1 = true → spells key e'.1 = true → e.1 = e'.1) :
    t.decided es key = lastValue (spells key) es := by
  cases hlast : lastValue (spells key) es with
  | none => exact (decided_eq_none_iff h).2 (lastValue_eq_none_iff.1 hlast)
  | some value =>
    obtain ⟨e, he, hspells, -⟩ := exists_of_lastValue hlast
    obtain ⟨spelling, hmem, hnewest⟩ := exists_newest h he hspells
    obtain ⟨e', he', rfl⟩ := List.mem_map.1 hmem
    have hform := List.find?_some hnewest
    have hkinds : ∀ e ∈ es, decide (e.1 = e'.1) = spells key e.1 := by
      intro e he
      rw [Bool.eq_iff_iff, decide_eq_true_iff]
      exact ⟨fun hsame => hsame ▸ hform, fun hother => halike e he e' he' hother hform⟩
    unfold decided
    rw [hnewest, Option.bind_some, lastValue_congr hkinds, hlast]

/-- What entries decide on does not change when they are collected in a table first. -/
lemma decided_ofList (t : Table) (es : List (Text × Text)) (key : Text) :
    t.decided (ofList es).entries key = t.decided es key := by
  unfold decided newest
  rw [arrivals_ofList]
  exact congrArg _ (funext (lastValue_ofList es))

end Normal

/-! ## What more aliases lead to -/

/-- How `found` comes from the aliases of a table and from entries given for more of them, for the
flag with looked-up form `key`. -/
structure Extends (t : Table) (es : List (Text × Text)) (key : Text) (found : Option Text) : Prop where
  /-- The last entry under the newest spelling decides, if there is any entry for the flag. -/
  eq_decided : found = (t.decided es key).or (t.get? key)
  /-- The alias of a flag for which nothing was given is kept. -/
  kept : (∀ e ∈ es, ¬ spells key e.1 = true) → found = t.get? key
  /-- What was given for the flag wins over what was there. -/
  wins : (∃ e ∈ es, spells key e.1 = true) → ∃ e ∈ es, spells key e.1 = true ∧ found = some e.2
  /-- The last entry for the flag decides exactly if its value is also the last one under the newest
  spelling. -/
  eq_last_iff : found = (lastValue (spells key) es).or (t.get? key) ↔
    t.decided es key = lastValue (spells key) es
  /-- It does so if the flag was given in one spelling only. -/
  eq_last_of_alike :
    (∀ e ∈ es, ∀ e' ∈ es, spells key e.1 = true → spells key e'.1 = true → e.1 = e'.1) →
      found = (lastValue (spells key) es).or (t.get? key)

/-- Entries stored in a table in the looked-up form extend its aliases. -/
theorem extends_putAll {t : Table} (h : t.IsNormal) (es : List (Text × Text)) (key : Text) :
    Extends t es key ((t.putAll es).normalized.get? key) := by
  have heq : (t.putAll es).normalized.get? key = (t.decided es key).or (t.get? key) :=
    get?_normalized_putAll h
  refine ⟨heq, fun hnone => ?_, ?_, ⟨fun hlast => ?_, fun hsame => ?_⟩, fun halike => ?_⟩
  · rw [heq, (decided_eq_none_iff h).2 hnone]
    rfl
  · rintro ⟨e, he, hspells⟩
    cases hdecided : t.decided es key with
    | none => exact absurd hspells ((decided_eq_none_iff h).1 hdecided e he)
    | some value =>
      obtain ⟨e', he', hspells', rfl⟩ := exists_of_decided hdecided
      rw [heq, hdecided]
      exact ⟨e', he', hspells', rfl⟩
  · rw [heq] at hlast
    -- Either both values are there or none of them is.
    cases hdecided : t.decided es key with
    | none => exact (lastValue_eq_none_iff.2 ((decided_eq_none_iff h).1 hdecided)).symm
    | some value =>
      cases hvalue : lastValue (spells key) es with
      | none =>
        rw [(decided_eq_none_iff h).2 (lastValue_eq_none_iff.1 hvalue)] at hdecided
        exact nomatch hdecided
      | some value' =>
        rw [hdecided, hvalue] at hlast
        exact hlast
  · rw [heq, hsame]
  · rw [heq, decided_of_alike h halike]

/-- Collecting entries in a table first leads to the same aliases. -/
lemma get?_putAll_ofList {t : Table} (h : t.IsNormal) (es : List (Text × Text)) (key : Text) :
    (t.putAll (ofList es).entries).normalized.get? key = (t.putAll es).normalized.get? key := by
  rw [get?_normalized_putAll h, get?_normalized_putAll h, decided_ofList]

lemma isNormal_defaultAliases : defaultAliases.IsNormal := by
  rw [← Config.normalized_defaultAliases]
  exact isNormal_normalized defaultAliases

end Table

namespace Config

open CommandLine Table

/-- Accepted settings have their aliases in the looked-up form. -/
lemma isNormal_of_check {d : Draft} {c : Config} (h : d.check = .ok c) : c.aliases.IsNormal := by
  unfold Draft.check at h
  split at h
  · cases h
  · split at h
    · cases h
    · split at h
      · cases h
      · rw [← Except.ok.inj h]
        exact isNormal_normalized d.aliases

/-- Well-formed aliases of a command line are read one by one. -/
lemma mapM_readAlias {entries : List Text} {pairs : List (Text × Text)}
    (h : entries.mapM parseAlias = .ok pairs) : (entries.map some).mapM readAlias = .ok pairs := by
  induction entries generalizing pairs with
  | nil =>
    rw [List.mapM_nil] at h
    rw [← Except.ok.inj h]
    rfl
  | cons entry rest ih =>
    rw [List.mapM_cons] at h
    rw [List.map_cons, List.mapM_cons, readAlias]
    cases hentry : parseAlias entry with
    | error cause =>
      rw [hentry] at h
      exact nomatch h
    | ok pair =>
      cases hrest : rest.mapM parseAlias with
      | error cause =>
        rw [hentry, hrest] at h
        exact nomatch h
      | ok more =>
        rw [hentry, hrest] at h
        have hpairs : pair :: more = pairs := Except.ok.inj h
        rw [ih hrest, ← hpairs]
        rfl

/-- Accepted settings are extended by more aliases, and the default settings by those of a command
line: what is given for a flag wins, all other aliases are kept, and of several entries for one flag
the last one under its newest spelling decides. -/
theorem extends_withAliases {d : Draft} {c : Config} (hc : d.check = .ok c) (extra : Table)
    {a : Arguments} {engine : EngineKind} (hengine : a.engine = some engine) {entries : List Text}
    (hentries : a.aliases = entries.map some) {pairs : List (Text × Text)}
    (hpairs : entries.mapM parseAlias = .ok pairs) (flag : Text) :
    let key := normalizeFlag flag
    Extends c.aliases extra.entries key ((c.withAliases extra).aliases.get? key) ∧
      ∃ config, a.config = .ok config ∧
        Extends defaultAliases pairs key (config.aliases.get? key) := by
  intro key
  refine ⟨extends_putAll (isNormal_of_check hc) extra.entries key, ?_⟩
  unfold Arguments.config
  rw [hengine, hentries, mapM_readAlias hpairs]
  refine ⟨_, rfl, ?_⟩
  have hextends := extends_putAll isNormal_defaultAliases pairs key
  rw [← get?_putAll_ofList isNormal_defaultAliases] at hextends
  exact hextends

/-- A flag in two spellings, the newer one of which is also the last: the last entry decides. The
other default aliases are kept. -/
theorem extends_withAliases_snek :
    let extra := Table.ofList [("MD".toList, "text".toList), (" Snek".toList, "ruby".toList),
      ("snek".toList, "python".toList)]
    let entries := ["Snek=ruby".toList, " snek = python".toList]
    let a : Arguments := { aliases := entries.map some }
    Draft.check {} = .ok .default ∧
      (Config.default.withAliases extra).aliases.get? "snek".toList = some "python".toList ∧
      (Config.default.withAliases extra).aliases.get? "md".toList = some "text".toList ∧
      (Config.default.withAliases extra).aliases.get? "sh".toList = some "bash".toList ∧
      ∃ config, a.config = .ok config ∧
        config.aliases.get? "snek".toList = some "python".toList := by
  intro extra entries a
  have hpairs : entries.mapM parseAlias =
      .ok [("Snek".toList, "ruby".toList), ("snek".toList, "python".toList)] :=
    eq_ok_of_toOption (by decide +kernel)
  have hextends := extends_withAliases check_default extra (a := a) rfl rfl hpairs
  obtain ⟨hsnek, config, hconfig, hread⟩ := hextends "snek".toList
  obtain ⟨hmd, -⟩ := hextends "md".toList
  obtain ⟨hsh, -⟩ := hextends "sh".toList
  refine ⟨check_default, ?_, ?_, ?_, config, hconfig, ?_⟩
  · exact hsnek.eq_decided.trans (by decide +kernel)
  · exact hmd.eq_decided.trans (by decide +kernel)
  · exact (hsh.kept (by decide +kernel)).trans (by decide +kernel)
  · exact hread.eq_decided.trans (by decide +kernel)

/-- The last entry for a flag does not decide if the flag had an alias and another spelling was given
before, nor, on the command line, if another spelling came between two entries of one spelling. -/
theorem last_spelling_hidden :
    let extra := Table.ofList [("MD".toList, "text".toList), ("md".toList, "html".toList)]
    let entries := ["Snek=python".toList, "snek=ruby".toList, "Snek=perl".toList]
    let pairs := [("Snek".toList, "python".toList), ("snek".toList, "ruby".toList),
      ("Snek".toList, "perl".toList)]
    let a : Arguments := { aliases := entries.map some }
    (Config.default.withAliases extra).aliases.get? "md".toList = some "text".toList ∧
      lastValue (spells "md".toList) extra.entries = some "html".toList ∧
      entries.mapM parseAlias = .ok pairs ∧
      (a.config.toOption.map fun c => c.aliases.get? "snek".toList) = some (some "ruby".toList) ∧
      lastValue (spells "snek".toList) pairs = some "perl".toList := by
  intro extra entries pairs a
  refine ⟨?_, ?_, eq_ok_of_toOption ?_, ?_, ?_⟩
  · decide +kernel
  · decide +kernel
  · decide +kernel
  · decide +kernel
  · decide +kernel

end Config
end LineHighlight
