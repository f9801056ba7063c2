import LineHighlight.Proofs.Markup.Lossless
import Mathlib.Data.List.Nodup

/-!
# Reading markup back

What a reader of markup sees. A line of markup is flat (`FlatLine`): its spans open and close on it and
none stands in another. Without its tags (`untag`) it is the escaped text of the line, and `unescape`
gives the text itself if it undoes all escapes that the formatter makes; if it undoes the basic ones
only, the further ones are left. So code that was highlighted can be read off its markup line by line
(`Highlighter.spans_readBack`).
-/

namespace LineHighlight

namespace Markup

/-! ## Undoing escapes -/

/-- Markup without tags read as text, behind so many characters of an entity that was read: the entities
of a list stand for their characters. -/
def unescapeFrom (es : List Entity) : Nat → Text → Text
  | _, [] => []
  | skipped + 1, _ :: rest => unescapeFrom es skipped rest
  | 0, c :: rest =>
    match es.find? (·.text.isPrefixOf (c :: rest)) with
    | some e => e.char :: unescapeFrom es (e.name.length + 1) rest
    | none => c :: unescapeFrom es 0 rest

/-- Markup without tags read as text: the entities of a list stand for their characters. -/
def unescape (es : List Entity) (t : Text) : Text := unescapeFrom es 0 t

section

variable {es undone kept : List Entity}

lemma unescapeFrom_append (es : List Entity) (skipped rest : Text) :
    unescapeFrom es skipped.length (skipped ++ rest) = unescape es rest := by
  induction skipped with
  | nil => rfl
  | cons c more ih =>
    rw [List.length_cons, List.cons_append, unescapeFrom]
    exact ih

/-- A character stays where no entity begins. -/
lemma unescape_cons {c : Char} {rest : Text} (h : ∀ e ∈ es, ¬ e.text <+: c :: rest) :
    unescape es (c :: rest) = c :: unescape es rest := by
  have hfind : es.find? (·.text.isPrefixOf (c :: rest)) = none := by
    rw [List.find?_eq_none]
    exact fun e he hprefix => h e he (List.isPrefixOf_iff_prefix.1 hprefix)
  unfold unescape
  rw [unescapeFrom, hfind]

/-- Text without an ampersand stays. -/
lemma unescape_append {t : Text} (h : '&' ∉ t) (rest : Text) :
    unescape es (t ++ rest) = t ++ unescape es rest := by
  induction t with
  | nil => rfl
  | cons c t ih =>
    rw [List.mem_cons, not_or] at h
    rw [List.cons_append, unescape_cons, ih h.2, List.cons_append]
    exact fun e _ hprefix => h.1 (List.cons_prefix_cons.1 hprefix).1

/-- The name of an entity ends where the first semicolon stands. -/
lemma takeWhile_name (hes : Distinct es) {e : Entity} (he : e ∈ es) (rest : Text) :
    (e.name ++ ';' :: rest).takeWhile (· != ';') = e.name := by
  have hname : ∀ c ∈ e.name, (c != ';') = true := by
    rintro c hmem
    rw [bne_iff_ne]
    rintro rfl
    exact hes.names e he ';' hmem (by decide)
  rw [List.takeWhile_append_of_pos hname, List.takeWhile_cons_of_neg (by decide), List.append_nil]

/-- Where an entity stands no other one begins. -/
lemma eq_of_prefix_text (hes : Distinct es) {e other : Entity} (he : e ∈ es) (hother : other ∈ es)
    {rest : Text} (h : other.text <+: e.text ++ rest) : other = e := by
  obtain ⟨more, hmore⟩ := h
  have hnames : other.name ++ ';' :: more = e.name ++ ';' :: rest := by
    simpa [Entity.text] using hmore
  have hname : other.name = e.name := by
    rw [← takeWhile_name hes hother more, hnames, takeWhile_name hes he]
  exact List.inj_on_of_nodup_map hes.nodup_names hother he hname

/-- An entity is read as its character. -/
lemma unescape_text_append (hes : Distinct es) {e : Entity} (he : e ∈ es) (rest : Text) :
    unescape es (e.text ++ rest) = e.char :: unescape es rest := by
  have hfind : es.find? (·.text.isPrefixOf (e.text ++ rest)) = some e := by
    cases hfound : es.find? (·.text.isPrefixOf (e.text ++ rest)) with
    | none =>
      have hprefix := List.prefix_append e.text rest
      exact absurd (List.isPrefixOf_iff_prefix.2 hprefix) (List.find?_eq_none.1 hfound e he)
    | some other =>
      have hprefix := List.find?_some hfound
      rw [eq_of_prefix_text hes he (List.mem_of_find?_eq_some hfound)
        (List.isPrefixOf_iff_prefix.1 hprefix)]
  have hlength : (e.name ++ [';']).length = e.name.length + 1 := List.length_append
  have htext : e.text ++ rest = '&' :: (e.name ++ [';'] ++ rest) := rfl
  unfold unescape
  rw [htext] at hfind ⊢
  rw [unescapeFrom, hfind]
  dsimp only
  rw [← hlength, unescapeFrom_append]
  rfl

lemma Distinct.left (h : Distinct (undone ++ kept)) : Distinct undone where
  chars e he := h.chars e (List.mem_append_left kept he)
  names e he := h.names e (List.mem_append_left kept he)
  nodup_chars := (List.nodup_append.1 (List.map_append ▸ h.nodup_chars)).1
  nodup_names := (List.nodup_append.1 (List.map_append ▸ h.nodup_names)).1

/-- The characters and the names of two parts of a list are different. -/
lemma Distinct.ne (h : Distinct (undone ++ kept)) {e other : Entity} (he : e ∈ undone)
    (hother : other ∈ kept) : e.char ≠ other.char ∧ e ≠ other := by
  have hchars := h.nodup_chars
  rw [List.map_append] at hchars
  have hne : e.char ≠ other.char := (List.nodup_append.1 hchars).2.2 _ (List.mem_map_of_mem he) _
    (List.mem_map_of_mem hother)
  exact ⟨hne, fun heq => hne (congrArg Entity.char heq)⟩

/-- An entity that is not undone stays. -/
lemma unescape_other_append (hes : Distinct (undone ++ kept)) {e : Entity} (he : e ∈ kept)
    (rest : Text) : unescape undone (e.text ++ rest) = e.text ++ unescape undone rest := by
  have hamp : '&' ∉ e.name ++ [';'] := by
    rw [List.mem_append, not_or]
    exact ⟨fun hmem => hes.names e (List.mem_append_right undone he) '&' hmem (by decide), by decide⟩
  have htext : e.text ++ rest = '&' :: (e.name ++ [';'] ++ rest) := rfl
  rw [htext, unescape_cons, unescape_append hamp]
  · rfl
  · intro other hother hprefix
    rw [← htext] at hprefix
    exact (hes.ne hother he).2 (eq_of_prefix_text hes (List.mem_append_right undone he)
      (List.mem_append_left kept hother) hprefix)

lemma escapeChar_of_forall_ne {c : Char} (h : ∀ e ∈ es, e.char ≠ c) : escapeChar es c = [c] := by
  rcases escapeChar_cases es c with ⟨hself, -⟩ | ⟨e, he, hchar, -⟩
  · exact hself
  · exact absurd hchar (h e he)

lemma escapeChar_of_mem (hes : Distinct (undone ++ kept)) {e : Entity} (he : e ∈ kept) :
    escapeChar kept e.char = e.text := by
  rcases escapeChar_cases kept e.char with ⟨-, hne⟩ | ⟨other, hother, hchar, htext⟩
  · exact absurd rfl (hne e he)
  · have hnodup := hes.nodup_chars
    rw [List.map_append] at hnodup
    rw [htext, List.inj_on_of_nodup_map (List.nodup_append.1 hnodup).2.1 hother he hchar]

/-- Some escapes are undone, if ampersands were escaped, and the others stay. -/
theorem unescape_escape (hes : Distinct (undone ++ kept)) (hamp : ∃ e ∈ undone ++ kept, e.char = '&')
    (t : Text) : unescape undone (escape (undone ++ kept) t) = escape kept t := by
  induction t with
  | nil => rfl
  | cons c rest ih =>
    rw [escape_cons, escape_cons]
    rcases escapeChar_cases (undone ++ kept) c with ⟨hself, hne⟩ | ⟨e, he, rfl, htext⟩
    · have hc : c ≠ '&' := by
        rintro rfl
        obtain ⟨e, he, hchar⟩ := hamp
        exact hne e he hchar
      have hkept := escapeChar_of_forall_ne fun e he => hne e (List.mem_append_right undone he)
      rw [hself, hkept, unescape_append fun hmem => hc (List.mem_singleton.1 hmem).symm, ih]
    · rw [htext]
      rcases List.mem_append.1 he with he | he
      · have hkept := escapeChar_of_forall_ne fun other hother => ((hes.ne he hother).1).symm
        rw [unescape_text_append hes.left he, ih, hkept]
        rfl
      · rw [unescape_other_append hes he, escapeChar_of_mem hes he, ih]

end

lemma escape_nil (t : Text) : escape [] t = t := List.flatMap_singleton' t

namespace Escapes

/-- Ampersands are escaped. -/
lemma exists_amp (E : Escapes) : ∃ e ∈ E.entities, e.char = '&' :=
  ⟨_, List.mem_append_left E.further List.mem_cons_self, rfl⟩

/-- Escaping is undone. -/
theorem unescape_entities (E : Escapes) (t : Text) :
    unescape E.entities (escape E.entities t) = t := by
  have hnone := @unescape_escape E.entities []
  rw [List.append_nil] at hnone
  rw [hnone E.distinct_entities E.exists_amp, escape_nil]

/-- If the basic escapes are undone, the further ones are left. -/
theorem unescape_basicEntities (E : Escapes) (t : Text) :
    unescape basicEntities (escape E.entities t) = escape E.further t :=
  unescape_escape E.distinct E.exists_amp t

/-- The further escapes leave a text as it is exactly if it has none of their characters. -/
theorem escape_further_eq_self_iff (E : Escapes) (t : Text) :
    escape E.further t = t ↔ ∀ e ∈ E.further, e.char ∉ t := by
  induction t with
  | nil => exact ⟨fun _ _ _ => List.not_mem_nil, fun _ => rfl⟩
  | cons c rest ih =>
    rw [escape_cons]
    rcases escapeChar_cases E.further c with ⟨hself, hne⟩ | ⟨e, he, rfl, htext⟩
    · rw [hself, List.singleton_append, List.cons_inj_right, ih]
      refine forall₂_congr fun e he => ?_
      rw [List.mem_cons, not_or, and_iff_right (hne e he)]
    · -- What is written begins with an ampersand, and an ampersand has a basic escape.
      have hamp : '&' ≠ e.char :=
        (E.distinct.ne (e := basicEntities[0]) List.mem_cons_self he).1
      refine ⟨fun h => ?_, fun h => absurd List.mem_cons_self (h e he)⟩
      rw [htext] at h
      exact absurd (List.cons_eq_cons.1 h).1 hamp

/-- The further escapes leave lines as they are exactly if none has one of their characters. -/
lemma map_escape_further_eq_self_iff (E : Escapes) (lines : List Text) :
    lines.map (escape E.further) = lines ↔ ∀ e ∈ E.further, ∀ line ∈ lines, e.char ∉ line := by
  have hsame := List.map_inj_left (f := escape E.further) (g := id) (l := lines)
  rw [List.map_id] at hsame
  rw [hsame]
  refine ⟨fun h e he line hline => ?_, fun h line hline => ?_⟩
  · exact (E.escape_further_eq_self_iff line).1 (h line hline) e he
  · exact (E.escape_further_eq_self_iff line).2 fun e he => h e he line hline

end Escapes

/-! ## Taking tags out -/

/-- The text has no angle bracket, so that no tag begins or ends in it. -/
def Plain (t : Text) : Prop := '<' ∉ t ∧ '>' ∉ t

/-- Markup without its tags, given whether it begins inside a tag. -/
def untagFrom (inside : Bool) : Text → Text
  | [] => []
  | c :: rest =>
    if inside then untagFrom (c ≠ '>') rest
    else if c = '<' then untagFrom true rest
    else c :: untagFrom false rest

/-- Markup without its tags. -/
def untag (markup : Text) : Text := untagFrom false markup

/-- Text in which no tag begins stays. -/
lemma untag_append {t : Text} (h : '<' ∉ t) (rest : Text) : untag (t ++ rest) = t ++ untag rest := by
  induction t with
  | nil => rfl
  | cons c t ih =>
    rw [List.mem_cons, not_or] at h
    have hc : c ≠ '<' := fun e => h.1 e.symm
    have hmore := ih h.2
    unfold untag at hmore ⊢
    rw [List.cons_append, untagFrom, if_neg Bool.false_ne_true, if_neg hc, hmore, List.cons_append]

/-- The inside of a tag goes. -/
lemma untagFrom_inside {t : Text} (h : '>' ∉ t) (rest : Text) :
    untagFrom true (t ++ '>' :: rest) = untag rest := by
  induction t with
  | nil =>
    rw [List.nil_append, untagFrom, if_pos rfl, decide_eq_false fun hne => hne rfl]
    rfl
  | cons c t ih =>
    rw [List.mem_cons, not_or] at h
    have hc : c ≠ '>' := fun e => h.1 e.symm
    rw [List.cons_append, untagFrom, if_pos rfl, decide_eq_true hc, ih h.2]

/-- A tag goes. -/
lemma untag_tag {t : Text} (h : '>' ∉ t) (rest : Text) :
    untag ('<' :: t ++ '>' :: rest) = untag rest := by
  show untagFrom false ('<' :: (t ++ '>' :: rest)) = _
  rw [untagFrom, if_neg Bool.false_ne_true, if_pos rfl, untagFrom_inside h]

/-- What stands for a character has no angle bracket. -/
lemma bracket_not_mem_escapeChar (E : Escapes) {bracket : Char} (h : bracket ∈ ['<', '>']) (c : Char) :
    bracket ∉ escapeChar E.entities c := by
  have hbasic : ∃ e ∈ E.entities, e.char = bracket := by
    rcases List.mem_pair.1 h with rfl | rfl
    · exact ⟨basicEntities[1], List.mem_append_left E.further (by decide), rfl⟩
    · exact ⟨basicEntities[2], List.mem_append_left E.further (by decide), rfl⟩
  intro hmem
  rcases escapeChar_cases E.entities c with ⟨hself, hne⟩ | ⟨e, he, -, htext⟩
  · -- The bracket itself is escaped.
    rw [hself, List.mem_singleton] at hmem
    obtain ⟨e, he, hchar⟩ := hbasic
    exact hne e he (hchar.trans hmem)
  · rw [htext, Entity.text, List.mem_append, List.mem_cons, List.mem_singleton] at hmem
    rcases List.mem_pair.1 h with rfl | rfl
    · rcases hmem with (hmem | hmem) | hmem
      · exact absurd hmem (by decide)
      · exact E.distinct_entities.names e he '<' hmem (by decide)
      · exact absurd hmem (by decide)
    · rcases hmem with (hmem | hmem) | hmem
      · exact absurd hmem (by decide)
      · exact E.distinct_entities.names e he '>' hmem (by decide)
      · exact absurd hmem (by decide)

/-- Escaped text has no angle bracket. -/
lemma plain_escape (E : Escapes) (t : Text) : Plain (escape E.entities t) := by
  have hbracket : ∀ bracket ∈ ['<', '>'], bracket ∉ escape E.entities t := by
    intro bracket hbracket hmem
    obtain ⟨c, -, hc⟩ := List.mem_flatMap.1 hmem
    exact bracket_not_mem_escapeChar E hbracket c hc
  exact ⟨hbracket '<' (by decide), hbracket '>' (by decide)⟩

/-- The tags of a run go, and its escaped text stays. -/
lemma untag_markup_append (E : Escapes) {r : Run} (h : Plain r.classes) (rest : Text) :
    untag (r.markup E ++ rest) = escape E.entities r.text ++ untag rest := by
  unfold Run.markup openTag closeTag
  by_cases hc : r.classes = []
  · rw [if_pos hc, if_pos hc, List.nil_append, List.append_nil, untag_append (plain_escape E _).1]
  · rw [if_neg hc, if_neg hc]
    have hopens : '>' ∉ "span class=\"".toList ++ r.classes ++ ['"'] := by
      intro hmem
      rw [List.mem_append, List.mem_append] at hmem
      rcases hmem with (hmem | hmem) | hmem
      · exact absurd hmem (by decide)
      · exact h.2 hmem
      · exact absurd hmem (by decide)
    have hcloses : untag ("</span>".toList ++ rest) = untag rest :=
      untag_tag (t := "/span".toList) (by decide) rest
    have hopened := untag_tag hopens (escape E.entities r.text ++ ("</span>".toList ++ rest))
    rw [untag_append (plain_escape E _).1, hcloses] at hopened
    rw [← hopened]
    simp

/-- The tags of a line go, and its escaped text stays. -/
theorem untag_lineMarkup (E : Escapes) {line : List Run} (h : ∀ r ∈ line, Plain r.classes) :
    untag (lineMarkup E line) = escape E.entities (lineText line) := by
  induction line with
  | nil => rfl
  | cons r rest ih =>
    have hmarkup : lineMarkup E (r :: rest) = r.markup E ++ lineMarkup E rest := List.flatMap_cons
    have htext : lineText (r :: rest) = r.text ++ lineText rest := List.flatMap_cons
    rw [hmarkup, htext, untag_markup_append E (h r List.mem_cons_self), escape_append,
      ih fun r' hr' => h r' (List.mem_cons_of_mem r hr')]

/-! ## Flat lines -/

/-- A line of text and of spans around text. Every span that opens on the line is closed on it, and no
span stands in another one. -/
inductive FlatLine : Text → Prop
  | nil : FlatLine []
  | text {t rest : Text} (ht : Plain t) (hrest : FlatLine rest) : FlatLine (t ++ rest)
  | span {classes t rest : Text} (hclasses : Plain classes) (ht : Plain t) (hrest : FlatLine rest) :
    FlatLine ("<span class=\"".toList ++ classes ++ "\">".toList ++ t ++ "</span>".toList ++ rest)

/-- The markup of a line is flat. -/
theorem flatLine_lineMarkup (E : Escapes) {line : List Run} (h : ∀ r ∈ line, Plain r.classes) :
    FlatLine (lineMarkup E line) := by
  induction line with
  | nil => exact .nil
  | cons r rest ih =>
    have hrest := ih fun r' hr' => h r' (List.mem_cons_of_mem r hr')
    have hmarkup : lineMarkup E (r :: rest) = r.markup E ++ lineMarkup E rest := List.flatMap_cons
    rw [hmarkup]
    unfold Run.markup openTag closeTag
    by_cases hc : r.classes = []
    · rw [if_pos hc, if_pos hc, List.nil_append, List.append_nil]
      exact .text (plain_escape E r.text) hrest
    · rw [if_neg hc, if_neg hc]
      exact .span (h r List.mem_cons_self) (plain_escape E r.text) hrest

end Markup

/-! ## Markup of code -/

/-- Code that a lexer cuts into tokens which make it up is read off its markup line by line, if no class
that is written has an angle bracket or a line feed. There is a line of markup for each line that the
lexer sees; the spans on it are flat, and without its tags it is the escaped line. To undo all escapes
that the formatter makes gives back the lines. To undo those of `&`, `<` and `>` leaves the others, and
gives back the lines exactly if none has a character that the formatter escapes besides these. Lines are
the pieces between line feeds, of which the last one is empty both in the markup and in what the lexer
sees. If no class has a carriage return either, the markup has no other line breaks. -/
theorem Highlighter.spans_readBack (E : Markup.Escapes) {cssPrefix source : Text} {scope : Scope}
    {l : Lexer} {tokens : List Token} (hscope : scope.grammar = .lexer l)
    (hscan : l.tokens source = .ok tokens)
    (hvalues : tokens.flatMap (·.value) = canonicalSource source)
    (hclasses : ∀ written, Markup.Written cssPrefix tokens written →
      Markup.Plain written ∧ '\n' ∉ written) :
    ∃ html, spans E cssPrefix source scope = .ok html ∧
      let lines := Text.pieces '\n' html
      let seen := Text.pieces '\n' (canonicalSource source)
      lines.length = seen.length ∧ lines.getLast? = some [] ∧ seen.getLast? = some [] ∧
        (∀ line ∈ lines, Markup.FlatLine line) ∧
        lines.map Markup.untag = seen.map (Markup.escape E.entities) ∧
        lines.map (Markup.unescape E.entities ∘ Markup.untag) = seen ∧
        lines.map (Markup.unescape Markup.basicEntities ∘ Markup.untag) =
          seen.map (Markup.escape E.further) ∧
        (lines.map (Markup.unescape Markup.basicEntities ∘ Markup.untag) = seen ↔
          ∀ e ∈ E.further, ∀ line ∈ seen, e.char ∉ line) ∧
        ((∀ written, Markup.Written cssPrefix tokens written → '\r' ∉ written) → '\r' ∉ html) := by
  rw [Text.canonicalSource_eq_unlines] at hvalues ⊢
  have hlf : ∀ line ∈ Text.seenLines source, '\n' ∉ line :=
    fun _ hline => (Text.break_not_mem_of_mem_seenLines hline).1
  have hcr : ∀ line ∈ Text.seenLines source, '\r' ∉ line :=
    fun _ hline => (Text.break_not_mem_of_mem_seenLines hline).2
  have hmarkups := Markup.break_not_mem_lines_sheetOf hvalues hlf E cssPrefix (.inl rfl)
    (fun written h => (hclasses written h).2) hlf
  -- The runs on the lines have the texts of the lines and classes that are written.
  obtain ⟨htexts, hruns⟩ := Markup.lines_sheetOf hvalues hlf cssPrefix
  have hplain : ∀ line ∈ (Markup.sheetOf cssPrefix tokens).lines, ∀ r ∈ line,
      Markup.Plain r.classes := fun line hline r hr => (hclasses _ (hruns line hline r hr)).1
  have huntag : ((Markup.sheetOf cssPrefix tokens).lines.map (Markup.lineMarkup E) ++ [[]]).map
      Markup.untag = (Text.seenLines source ++ [[]]).map (Markup.escape E.entities) := by
    have hlines :
        (Markup.sheetOf cssPrefix tokens).lines.map (Markup.untag ∘ Markup.lineMarkup E) =
          (Markup.sheetOf cssPrefix tokens).lines.map
            (Markup.escape E.entities ∘ Markup.lineText) :=
      List.map_congr_left fun line hline => Markup.untag_lineMarkup E (hplain line hline)
    rw [← htexts, List.map_append, List.map_append, List.map_map, List.map_map, hlines]
    rfl
  -- What is read depends on the escaped lines only.
  have hread : ∀ es : List Markup.Entity,
      ((Markup.sheetOf cssPrefix tokens).lines.map (Markup.lineMarkup E) ++ [[]]).map
          (Markup.unescape es ∘ Markup.untag) =
        (Text.seenLines source ++ [[]]).map
          (fun line => Markup.unescape es (Markup.escape E.entities line)) := by
    intro es
    rw [← List.map_map, huntag, List.map_map]
    rfl
  have hall := (hread E.entities).trans
    ((List.map_congr_left fun line _ => E.unescape_entities line).trans (List.map_id' _))
  have hbasic := (hread Markup.basicEntities).trans
    (List.map_congr_left fun line _ => E.unescape_basicEntities line)
  refine ⟨Markup.render E cssPrefix tokens, ?_, ?_⟩
  · unfold spans
    rw [hscope]
    dsimp only
    rw [hscan]
    rfl
  rw [Markup.render_eq, Text.pieces_unlines hmarkups, Text.pieces_unlines hlf]
  refine ⟨?_, List.getLast?_concat, List.getLast?_concat, fun line hline => ?_, huntag, hall, hbasic,
    ?_, fun hwritten => ?_⟩
  · simpa using congrArg List.length huntag
  · rcases List.mem_append.1 hline with hline | hline
    · obtain ⟨runs, hmem, rfl⟩ := List.mem_map.1 hline
      exact Markup.flatLine_lineMarkup E (hplain runs hmem)
    · rw [List.mem_singleton.1 hline]
      exact .nil
  · rw [hbasic, E.map_escape_further_eq_self_iff]
  · exact Text.cr_not_mem_unlines
      (Markup.break_not_mem_lines_sheetOf hvalues hlf E cssPrefix (.inr rfl) hwritten hcr)

/-- A language in which two words are keywords. -/
def Scope.conditionals : Scope :=
  ⟨"Conditionals".toList, "cond".toList, .lexer
    ⟨[], [], [], [], .ofFraction 0, Lexer.scanWords [] ["if".toList, "else".toList]⟩⟩

/-- Code with a byte order mark, with both other kinds of line breaks, with a tag, with a quote and
without a line feed at its end, written by a formatter that leaves quotes as they are and by one that
does not. -/
theorem Highlighter.spans_readBack_tag :
    let source := "\uFEFFif a\r\n\r<b> & \"else".toList
    let seen := ["if a".toList, [], "<b> & \"else".toList, []]
    let html :=
      "<span class=\"hl-k\">if</span> a\n\n&lt;b&gt; &amp; \"<span class=\"hl-k\">else</span>\n"
    let quoted :=
      "<span class=\"hl-k\">if</span> a\n\n&lt;b&gt; &amp; &quot;<span class=\"hl-k\">else</span>\n"
    let E := Markup.Escapes.quoting
    spans .basic "hl-".toList source .conditionals = .ok html.toList ∧
      (Text.pieces '\n' html.toList).map
        (Markup.unescape Markup.basicEntities ∘ Markup.untag) = seen ∧
      spans E "hl-".toList source .conditionals = .ok quoted.toList ∧
      (Text.pieces '\n' quoted.toList).map (Markup.unescape E.entities ∘ Markup.untag) = seen := by
  intro source seen shown shownQuoted E
  have hclasses : ∀ tokens, Lexer.scanWords [] ["if".toList, "else".toList]
      (canonicalSource source) = .ok tokens → ∀ written, Markup.Written "hl-".toList tokens written →
      Markup.Plain written ∧ '\n' ∉ written := by
    rintro tokens htokens - ⟨token, htoken, -, rfl⟩
    obtain rfl := (Except.ok.inj htokens).symm
    revert token
    unfold Markup.Plain
    decide +kernel
  have hseen : Text.pieces '\n' (canonicalSource source) = seen := by decide +kernel
  have hhtml : spans .basic "hl-".toList source .conditionals = .ok shown.toList :=
    eq_ok_of_toOption (by decide +kernel)
  have hquoted : spans E "hl-".toList source .conditionals = .ok shownQuoted.toList :=
    eq_ok_of_toOption (by decide +kernel)
  obtain ⟨html, hspans, -, -, -, -, -, -, -, hbasic, -⟩ := @Highlighter.spans_readBack .basic "hl-".toList
    source .conditionals _ _ rfl rfl (by decide +kernel) (hclasses _ rfl)
  obtain ⟨html', hspans', -, -, -, -, -, hall, -⟩ := @Highlighter.spans_readBack E "hl-".toList
    source .conditionals _ _ rfl rfl (by decide +kernel) (hclasses _ rfl)
  obtain rfl := Except.ok.inj (hspans.symm.trans hhtml)
  obtain rfl := Except.ok.inj (hspans'.symm.trans hquoted)
  have hnone : ∀ e ∈ Markup.Escapes.basic.further, ∀ line ∈ Text.pieces '\n'
      (canonicalSource source), e.char ∉ line := fun e he => absurd he List.not_mem_nil
  exact ⟨hhtml, (hbasic.2 hnone).trans hseen, hquoted, hall.trans hseen⟩

end LineHighlight
