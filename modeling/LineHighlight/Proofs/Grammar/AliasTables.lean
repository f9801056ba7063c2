import LineHighlight.Proofs.Grammar.Renames

/-!
# Alias tables of settings and of registries

Settings bring the keys of their aliases into the looked-up form, and so does each registry that is made
from aliases. To do it twice is to do it once: a key in the looked-up form stays as it is, and keys that
differ are not merged (`normalized_normalized`). So it makes no difference whether a registry is made
from aliases as they were given or from those of settings, and settings can be made again from their own
aliases. What counts for a flag is the last alias under one of its spellings, either way.
-/

namespace LineHighlight

namespace Table

/-! ## Tables made again from their entries -/

/-- What is stored under a new key is put at the end. -/
lemma putEntry_of_not_mem {key : Text} (value : Text) {es : List (Text × Text)}
    (h : key ∉ es.map Prod.fst) : putEntry key value es = es ++ [(key, value)] := by
  induction es with
  | nil => rfl
  | cons e rest ih =>
    rw [List.map_cons, List.mem_cons, not_or] at h
    have hne : e.1 ≠ key := fun he => h.1 he.symm
    rw [putEntry, if_neg hne, ih h.2, List.cons_append]

/-- Entries under different keys, all of them new, are put at the end in their order. -/
lemma entries_putAll_of_nodup {t : Table} {es : List (Text × Text)}
    (h : ((t.entries ++ es).map Prod.fst).Nodup) : (t.putAll es).entries = t.entries ++ es := by
  induction es generalizing t with
  | nil => exact (List.append_nil _).symm
  | cons e rest ih =>
    have hnew : e.1 ∉ t.entries.map Prod.fst := by
      rw [List.map_append, List.map_cons] at h
      exact fun hmem => (List.nodup_append.1 h).2.2 _ hmem _ List.mem_cons_self rfl
    have hput : (t.put e.1 e.2).entries = t.entries ++ [e] := putEntry_of_not_mem e.2 hnew
    have hrest : (((t.put e.1 e.2).entries ++ rest).map Prod.fst).Nodup := by
      rw [hput, List.append_assoc]
      exact h
    rw [putAll, List.foldl_cons]
    refine (ih hrest).trans ?_
    rw [hput, List.append_assoc]
    rfl

lemma eq_of_entries_eq {s t : Table} (h : s.entries = t.entries) : s = t := by
  obtain ⟨_, _⟩ := s
  obtain ⟨_, _⟩ := t
  subst h
  rfl

/-- A table is made again by storing its entries one after another. -/
theorem ofList_entries (t : Table) : ofList t.entries = t :=
  eq_of_entries_eq (entries_putAll_of_nodup t.nodup)

/-! ## The looked-up form of a table -/

/-- A table whose keys are in the looked-up form is left as it is. -/
theorem IsNormal.normalized_eq {t : Table} (h : t.IsNormal) : t.normalized = t := by
  have hentries : (t.entries.map fun e => (normalizeFlag e.1, e.2)) = t.entries := by
    refine (List.map_congr_left fun e he => ?_).trans (List.map_id t.entries)
    have hkey : normalizeFlag e.1 = e.1 := h e.1 (List.mem_map_of_mem he)
    rw [hkey]
    rfl
  rw [normalized, mapKeys, hentries, ofList_entries]

/-- To bring a table into the looked-up form twice is to do it once. -/
theorem normalized_normalized (t : Table) : t.normalized.normalized = t.normalized :=
  (isNormal_normalized t).normalized_eq

/-- Two spellings become one key, which stays where the first one was and has the value of the last one. A
capital sigma at the end of a word takes its final form. -/
example :
    (ofList [("ΟΔΟΣ".toList, "a".toList), ("x".toList, "b".toList),
      (" οδος ".toList, "c".toList)]).normalized.entries =
      [("οδος".toList, "c".toList), ("x".toList, "b".toList)] := by
  decide +kernel

end Table

/-! ## Settings made again -/

namespace Config

open Table

/-- What a caller gives who wants these settings. -/
def draft (c : Config) : Draft where
  ready := c.ready
  terminator := c.terminator
  aliases := c.aliases
  cssPrefix := c.cssPrefix
  engine := c.engine.name

/-- Settings made with other aliases differ in nothing else, and have these in the looked-up form. -/
lemma check_draft (c : Config) (aliases : Table) :
    Draft.check { c.draft with aliases := aliases } =
      .ok { c with aliases := aliases.normalized } := by
  have hmarkers : ¬ ('\n' ∈ c.ready ∨ '\n' ∈ c.terminator) :=
    not_or.2 ⟨c.ready_oneLine, c.terminator_oneLine⟩
  unfold Draft.check draft
  dsimp only
  rw [EngineKind.ofName?_name]
  exact (dif_neg hmarkers).trans (dif_neg c.terminator_ne_nil)

/-- To add no aliases changes nothing. -/
lemma withAliases_empty {c : Config} (h : c.aliases.IsNormal) : c.withAliases .empty = c := by
  have haliases : (c.aliases.putAll Table.empty.entries).normalized = c.aliases := h.normalized_eq
  rw [withAliases, haliases]

end Config

/-! ## What registries look up -/

namespace Registry

open Table

/-- The name that a flag is looked up by: the target of the last alias under one of its spellings, or
else its looked-up form. -/
def nameOf (aliases : Table) (flag : Text) : Text :=
  (lastValue (spells (normalizeFlag flag)) aliases.entries).getD (normalizeFlag flag)

lemma rename_normalized_eq (aliases : Table) (flag : Text) :
    aliases.normalized.rename (normalizeFlag flag) = nameOf aliases flag := by
  rw [rename, get?_normalized, nameOf]

/-- A fresh registry of a catalogue looks a flag up by its name, or else as a file name or by its name
as an extension. -/
theorem grammarOf_eq_of_nameOf (c : Catalogue) (aliases : Table) (flag : Text) :
    grammarOf c aliases flag =
      if normalizeFlag flag = [] then .ok none
      else
        match c.byName? (nameOf aliases flag) with
        | some l => .ok (some (.lexer l))
        | none =>
          (c.byFileOrExtension (Text.strip flag) (nameOf aliases flag)).map
            (Option.map Grammar.lexer) := by
  rw [grammarOf_eq]
  split
  · rename_i hblank
    rw [c.entryOf_of_blank _ hblank]
    rfl
  · rename_i hflag
    rw [c.entryOf_eq _ hflag, rename_normalized_eq]
    cases c.byName? (nameOf aliases flag) <;> rfl

/-- The registry of a service asks it for the name of a flag. -/
theorem scope_ofService (s : Service) (aliases : Table) (memory : Cache) (flag : Text) :
    ((ofService s aliases).resolve memory flag).1.scope =
      let name := nameOf aliases flag
      if normalizeFlag flag ≠ [] ∧ s.supports name = some true then
        .ok (some ⟨name, flag, .named name⟩)
      else .ok none := by
  show (askService s aliases.normalized flag).scope = _
  unfold askService
  dsimp only
  rw [rename_normalized_eq]
  by_cases hblank : normalizeFlag flag = []
  · rw [if_pos hblank, if_neg fun h => h.1 hblank]
  · rw [if_neg hblank]
    cases hsupports : s.supports (nameOf aliases flag) with
    | none => rw [if_neg fun h => nomatch h.2]
    | some supported =>
      cases supported with
      | false => rw [if_neg fun h => nomatch h.2]
      | true => rw [if_pos ⟨hblank, rfl⟩]

/-- Aliases come to the same whether a registry is made from them as they were given or from settings.
Any aliases make valid settings, and the registries of a catalogue or of a service that are made from
those are the registries made from what was given, with one table. Other settings made with the aliases
of these have the same ones in the same order, and to add none changes nothing. For each flag, the table
holds the last alias that was given under a key with the same text up to white space around it and letter
case, and that is what a flag is looked up by. -/
theorem aliases_of_settings_eq (base : Config) (raw : Table) :
    ∃ c, Draft.check { base.draft with aliases := raw } = .ok c ∧
      c.aliases.normalized = raw.normalized ∧
      (∀ catalogue, ofCatalogue catalogue c.aliases = ofCatalogue catalogue raw) ∧
      (∀ service, ofService service c.aliases = ofService service raw) ∧
      (∀ other : Config, Draft.check { other.draft with aliases := c.aliases } =
        .ok { other with aliases := c.aliases }) ∧
      c.withAliases .empty = c ∧
      ∀ flag,
        let key := Text.lower (Text.strip flag)
        let target :=
          (raw.entries.reverse.find? fun e => Text.lower (Text.strip e.1) = key).map Prod.snd
        let name := target.getD key
        c.aliases.get? key = target ∧
          (∀ catalogue, grammarOf catalogue raw flag =
            if key = [] then .ok none
            else
              match catalogue.byName? name with
              | some l => .ok (some (.lexer l))
              | none =>
                (catalogue.byFileOrExtension (Text.strip flag) name).map
                  (Option.map Grammar.lexer)) ∧
          ∀ service memory, ((ofService service raw).resolve memory flag).1.scope =
            if key ≠ [] ∧ service.supports name = some true then
              .ok (some ⟨name, flag, .named name⟩)
            else .ok none := by
  have htable : raw.normalized.normalized = raw.normalized := normalized_normalized raw
  refine ⟨{ base with aliases := raw.normalized }, base.check_draft raw, htable, fun catalogue => ?_,
    fun service => ?_, fun other => ?_, Config.withAliases_empty (isNormal_normalized raw),
    fun flag => ⟨get?_normalized raw (normalizeFlag flag), fun catalogue => ?_,
      fun service memory => ?_⟩⟩
  · unfold ofCatalogue
    rw [htable]
  · unfold ofService
    rw [htable]
  · rw [other.check_draft, htable]
  · exact grammarOf_eq_of_nameOf catalogue raw flag
  · exact scope_ofService service raw memory flag

end Registry
end LineHighlight
