import LineHighlight.Engine
import LineHighlight.Proofs.Markup.Runs
import LineHighlight.Proofs.Results

/-!
# Markup of code

What the highlighter for a catalogue makes of code, line by line, given lexers that lose nothing of
what they read (`Lexer.Lossless`): one line of markup for each line that the lexer sees, with the
text of that line on it.
-/

namespace LineHighlight

/-! ## Class names -/

namespace Markup

/-- A character of joined texts is one of the separator or of a text. -/
lemma mem_join {separator : Text} {ts : List Text} {d : Char} (h : d ∈ Text.join separator ts) :
    d ∈ separator ∨ ∃ t ∈ ts, d ∈ t := by
  induction ts with
  | nil => exact absurd h List.not_mem_nil
  | cons t more ih =>
    cases more with
    | nil => exact .inr ⟨t, List.mem_cons_self, h⟩
    | cons next more =>
      rw [Text.join, List.mem_append, List.mem_append] at h
      · rcases h with (h | h) | h
        · exact .inr ⟨t, List.mem_cons_self, h⟩
        · exact .inl h
        · rcases ih h with h | ⟨t', ht', h⟩
          · exact .inl h
          · exact .inr ⟨t', List.mem_cons_of_mem t ht', h⟩
      · exact List.cons_ne_nil next more

/-- No short name holds a line break. -/
lemma break_not_mem_shortNames : ∀ e ∈ shortNames, '\n' ∉ e.2 ∧ '\r' ∉ e.2 := by
  decide +kernel

/-- The nearest standard ancestor has a short name of the table or none, and the path from there is
a part of the path of the kind. -/
lemma nearestFrom_spec (extra above : List Text) :
    ((nearestFrom extra above).1 = [] ∨
        ∃ e ∈ shortNames, (nearestFrom extra above).1 = e.2) ∧
      ∀ name ∈ (nearestFrom extra above).2, name ∈ extra ∨ name ∈ above := by
  induction above generalizing extra with
  | nil =>
    refine ⟨?_, fun name h => .inl h⟩
    rw [nearestFrom]
    cases hroot : shortNames.lookup TokenKind.root with
    | none => exact .inl rfl
    | some short => exact .inr ⟨(TokenKind.root, short), mem_of_lookup_eq_some hroot, rfl⟩
  | cons last above ih =>
    rw [nearestFrom]
    split
    · rename_i short hshort
      have hmem := mem_of_lookup_eq_some hshort
      exact ⟨.inr ⟨((last :: above).reverse, short), hmem, rfl⟩, fun name h => .inl h⟩
    · obtain ⟨hshort, hextra⟩ := ih (last :: extra)
      refine ⟨hshort, fun name h => ?_⟩
      rcases hextra name h with h | h
      · rcases List.mem_cons.1 h with rfl | h
        · exact .inr List.mem_cons_self
        · exact .inl h
      · exact .inr (List.mem_cons_of_mem last h)

/-- Neither part of what a kind is nearest to holds a line break that no name of the kind holds. -/
lemma break_not_mem_nearest {d : Char} (hd : d = '\n' ∨ d = '\r') {kind : TokenKind}
    (hkind : ∀ name ∈ kind, d ∉ name) :
    d ∉ (nearest kind).1 ∧ ∀ name ∈ (nearest kind).2, d ∉ name := by
  obtain ⟨hshort, hextra⟩ := nearestFrom_spec [] kind.reverse
  constructor
  · unfold nearest
    rcases hshort with h | ⟨e, he, h⟩
    · rw [h]
      exact List.not_mem_nil
    · rw [h]
      obtain ⟨hlf, hcr⟩ := break_not_mem_shortNames e he
      rcases hd with rfl | rfl
      · exact hlf
      · exact hcr
  · intro name hname
    rcases hextra name hname with h | h
    · exact absurd h List.not_mem_nil
    · exact hkind name (List.mem_reverse.1 h)

/-- A class for more than a short name holds no line break if none of its parts does. -/
lemma break_not_mem_derivedClass {d : Char} (hd : d = '\n' ∨ d = '\r') {cssPrefix short : Text}
    {extra : List Text} (hcss : d ∉ cssPrefix) (hshort : d ∉ short)
    (hextra : ∀ name ∈ extra, d ∉ name) : d ∉ derivedClass cssPrefix short extra := by
  intro h
  unfold derivedClass at h
  rw [List.mem_append, List.mem_append] at h
  rcases h with (h | h) | h
  · exact hcss h
  · exact hshort h
  · obtain ⟨name, hname, h⟩ := List.mem_flatMap.1 h
    rcases List.mem_cons.1 h with h | h
    · rcases hd with rfl | rfl <;> exact absurd h (by decide)
    · exact hextra name hname h

/-- The classes of a kind hold no line break if neither the prefix nor a name of the kind does. -/
theorem break_not_mem_classes {d : Char} (hd : d = '\n' ∨ d = '\r') {cssPrefix : Text}
    {kind : TokenKind} (hcss : d ∉ cssPrefix) (hkind : ∀ name ∈ kind, d ∉ name) :
    d ∉ classes cssPrefix kind := by
  obtain ⟨hshort, hextra⟩ := break_not_mem_nearest hd hkind
  intro h
  unfold classes at h
  dsimp only at h
  rcases mem_join h with h | ⟨t, ht, h⟩
  · -- Between two classes there is a space.
    rcases hd with rfl | rfl <;> exact absurd h (by decide)
  · rcases List.mem_cons.1 ht with rfl | ht
    · unfold standardClass at h
      split at h
      · exact List.not_mem_nil h
      · exact (List.mem_append.1 h).elim hcss hshort
    · obtain ⟨extra, hsteps, rfl⟩ := List.mem_map.1 ht
      obtain ⟨n, -, rfl⟩ := List.mem_map.1 hsteps
      have hnames : ∀ name ∈ (nearest kind).2.take (n + 1), d ∉ name := fun name hname =>
        hextra name (List.mem_of_mem_take hname)
      exact break_not_mem_derivedClass hd hcss hshort hnames h

end Markup

/-! ## Lexers that lose nothing -/

/-- The tokens of a text make up the text, and their kinds have names of one line. -/
structure Lexer.Lossless (l : Lexer) : Prop where
  values : ∀ {t : Text} {tokens : List Token}, l.scan t = .ok tokens →
    tokens.flatMap (·.value) = t
  names : ∀ {t : Text} {tokens : List Token}, l.scan t = .ok tokens →
    ∀ token ∈ tokens, ∀ name ∈ token.kind, '\n' ∉ name ∧ '\r' ∉ name

/-- A lexer that makes one token of everything loses nothing. -/
lemma Lexer.lossless_of_scanWhole {l : Lexer} {kind : TokenKind} (h : l.scan = scanWhole kind)
    (hkind : ∀ name ∈ kind, '\n' ∉ name ∧ '\r' ∉ name) : l.Lossless := by
  constructor
  · intro t tokens hscan
    rw [h] at hscan
    rw [← Except.ok.inj hscan]
    exact List.append_nil t
  · intro t tokens hscan token htoken
    rw [h] at hscan
    rw [← Except.ok.inj hscan, List.mem_singleton] at htoken
    rw [htoken]
    exact hkind

/-- Markup is what a lexer's tokens are rendered to. -/
lemma Highlighter.spans_eq_ok {E : Markup.Escapes} {cssPrefix source html : Text} {scope : Scope}
    {l : Lexer} (hscope : scope.grammar = .lexer l) (h : spans E cssPrefix source scope = .ok html) :
    ∃ tokens, l.scan (canonicalSource source) = .ok tokens ∧
      html = Markup.render E cssPrefix tokens := by
  unfold spans at h
  rw [hscope] at h
  dsimp only at h
  obtain ⟨tokens, htokens, hhtml⟩ := exists_of_map_eq_ok (eq_ok_of_mapError h)
  exact ⟨tokens, htokens, hhtml.symm⟩

/-- The markup of code by a lexer that loses nothing: a line for each line that the lexer sees, and
the text of that line on it. -/
theorem Highlighter.spans_lines {E : Markup.Escapes} {cssPrefix code html : Text} {scope : Scope}
    {l : Lexer} (hscope : scope.grammar = .lexer l) (hl : l.Lossless)
    (hcss : '\n' ∉ cssPrefix ∧ '\r' ∉ cssPrefix)
    (h : spans E cssPrefix (Text.unlines (Text.splitCode code)) scope = .ok html) :
    '\r' ∉ html ∧ ∃ lines : List (List Markup.Run),
      lines.map Markup.lineText = Text.seenLines code ∧
        Text.pieces '\n' html = lines.map (Markup.lineMarkup E) ++ [[]] := by
  obtain ⟨tokens, hscan, rfl⟩ := spans_eq_ok hscope h
  have hvalues := hl.values hscan
  rw [Text.canonicalSource_unlines_splitCode, Text.canonicalSource_eq_unlines] at hvalues
  have hseen : ∀ line ∈ Text.seenLines code, '\n' ∉ line ∧ '\r' ∉ line :=
    fun _ hline => Text.break_not_mem_of_mem_seenLines hline
  have hlines : ∀ line ∈ Text.seenLines code, '\n' ∉ line := fun line hline => (hseen line hline).1
  obtain ⟨htexts, -⟩ := Markup.lines_sheetOf hvalues hlines cssPrefix
  have hnames := hl.names hscan
  have hlf := Markup.break_not_mem_lines_sheetOf hvalues hlines E cssPrefix (.inl rfl)
    (fun _ ⟨token, htoken, _, he⟩ => he ▸ Markup.break_not_mem_classes (.inl rfl) hcss.1
      fun name hname => (hnames token htoken name hname).1) hlines
  have hcr := Markup.break_not_mem_lines_sheetOf hvalues hlines E cssPrefix (.inr rfl)
    (fun _ ⟨token, htoken, _, he⟩ => he ▸ Markup.break_not_mem_classes (.inr rfl) hcss.2
      fun name hname => (hnames token htoken name hname).2) fun line hline => (hseen line hline).2
  rw [Markup.render_eq]
  exact ⟨Text.cr_not_mem_unlines hcr, _, htexts, Text.pieces_unlines hlf⟩

end LineHighlight
