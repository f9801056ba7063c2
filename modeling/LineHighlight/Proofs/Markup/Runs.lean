import LineHighlight.Markup.Spans
import LineHighlight.Proofs.Text.Lines

/-!
# Lines of runs

What stands on a line of markup: runs of text, each with the classes that mark it. A `Sheet` holds
the runs themselves where a `Page` holds markup; `shows_write` says that writing a token does the
same to both. So the markup of some tokens can be read run by run (`render_eq`), and the runs of a
line hold the text of that line and no more (`lines_sheetOf`).
-/

namespace LineHighlight.Markup

/-! ## Escaped text -/

section

variable {es : List Entity}

lemma escape_append (es : List Entity) (s t : Text) :
    escape es (s ++ t) = escape es s ++ escape es t := List.flatMap_append

lemma escape_cons (es : List Entity) (c : Char) (t : Text) :
    escape es (c :: t) = escapeChar es c ++ escape es t := List.flatMap_cons

/-- A character is written as itself, if no entity stands for it, or as the entity that does. -/
lemma escapeChar_cases (es : List Entity) (c : Char) :
    (escapeChar es c = [c] ∧ ∀ e ∈ es, e.char ≠ c) ∨
      ∃ e ∈ es, e.char = c ∧ escapeChar es c = e.text := by
  unfold escapeChar
  cases hfind : es.find? (·.char = c) with
  | none =>
    refine .inl ⟨rfl, fun e he heq => ?_⟩
    exact List.find?_eq_none.1 hfind e he (decide_eq_true heq)
  | some e =>
    have hchar := List.find?_some hfind
    exact .inr ⟨e, List.mem_of_find?_eq_some hfind, of_decide_eq_true hchar, rfl⟩

lemma Entity.one_lt_length_text (e : Entity) : 1 < e.text.length := by
  unfold Entity.text
  rw [List.length_append, List.length_cons, List.length_singleton]
  omega

/-- No entity holds a line break. -/
lemma break_not_mem_text (hes : Distinct es) {e : Entity} (he : e ∈ es) {d : Char}
    (hd : d = '\n' ∨ d = '\r') : d ∉ e.text := by
  intro h
  unfold Entity.text at h
  rw [List.mem_append, List.mem_cons, List.mem_singleton] at h
  rcases h with (h | h) | h
  · rcases hd with rfl | rfl <;> exact absurd h (by decide)
  · refine hes.names e he d h ?_
    rcases hd with rfl | rfl <;> decide
  · rcases hd with rfl | rfl <;> exact absurd h (by decide)

/-- A line feed is written as itself. -/
lemma escapeChar_lf (hes : Distinct es) : escapeChar es '\n' = ['\n'] := by
  rcases escapeChar_cases es '\n' with ⟨h, -⟩ | ⟨e, he, hchar, -⟩
  · exact h
  · exact absurd hchar (hes.chars e he).1

/-- Escaping makes no line feed and no carriage return. -/
lemma break_not_mem_escapeChar (hes : Distinct es) {c d : Char} (hd : d = '\n' ∨ d = '\r')
    (h : c ≠ d) : d ∉ escapeChar es c := by
  rcases escapeChar_cases es c with ⟨hself, -⟩ | ⟨e, he, -, hentity⟩
  · rw [hself, List.mem_singleton]
    exact h.symm
  · rw [hentity]
    exact break_not_mem_text hes he hd

/-- A character of escaped text that is a line break is a character of the text. -/
lemma mem_of_break_mem_escape (hes : Distinct es) {d : Char} {t : Text}
    (hd : d = '\n' ∨ d = '\r') (h : d ∈ escape es t) : d ∈ t := by
  obtain ⟨c, hc, hmem⟩ := List.mem_flatMap.1 h
  by_cases he : c = d
  · exact he ▸ hc
  · exact absurd hmem (break_not_mem_escapeChar hes hd he)

/-- Every character is written as something. -/
lemma escapeChar_ne_nil (es : List Entity) (c : Char) : escapeChar es c ≠ [] := by
  rcases escapeChar_cases es c with ⟨hself, -⟩ | ⟨e, -, -, hentity⟩
  · rw [hself]
    exact List.cons_ne_nil c []
  · rw [hentity]
    exact List.cons_ne_nil _ _

lemma escape_eq_nil_iff {t : Text} : escape es t = [] ↔ t = [] := by
  constructor
  · intro h
    cases t with
    | nil => rfl
    | cons c rest =>
      rw [escape_cons, List.append_eq_nil_iff] at h
      exact absurd h.1 (escapeChar_ne_nil es c)
  · rintro rfl
    rfl

/-- The pieces of escaped text are the escaped pieces of the text. -/
theorem pieces_escape (hes : Distinct es) (t : Text) :
    Text.pieces '\n' (escape es t) = (Text.pieces '\n' t).map (escape es) := by
  induction t with
  | nil => rfl
  | cons c rest ih =>
    rw [escape_cons]
    by_cases hc : c = '\n'
    · rw [hc, escapeChar_lf hes, Text.pieces, if_pos rfl, List.singleton_append, Text.pieces,
        if_pos rfl, ih]
      rfl
    · obtain ⟨piece, more, hp⟩ := List.exists_cons_of_ne_nil (Text.pieces_ne_nil '\n' rest)
      rw [hp, List.map_cons] at ih
      have hone := Text.pieces_of_not_mem (break_not_mem_escapeChar hes (.inl rfl) hc)
      rw [← List.nil_append [escapeChar es c]] at hone
      rw [Text.pieces_append hone ih, Text.pieces, if_neg hc, hp, List.map_cons, escape_cons]
      rfl

end

/-! ## Runs -/

/-- A stretch of text on a line and the classes that mark it. -/
structure Run where
  classes : Text
  text : Text
  deriving DecidableEq, Repr

/-- The markup of a run. -/
def Run.markup (E : Escapes) (r : Run) : Text :=
  openTag r.classes ++ escape E.entities r.text ++ closeTag r.classes

/-- The markup of the runs of a line. -/
def lineMarkup (E : Escapes) (line : List Run) : Text := line.flatMap (Run.markup E)

/-- The text of the runs of a line. -/
def lineText (line : List Run) : Text := line.flatMap Run.text

variable {E : Escapes}

lemma lineMarkup_append (line more : List Run) :
    lineMarkup E (line ++ more) = lineMarkup E line ++ lineMarkup E more := List.flatMap_append

lemma lineText_append (line more : List Run) :
    lineText (line ++ more) = lineText line ++ lineText more := List.flatMap_append

lemma lineMarkup_singleton (r : Run) : lineMarkup E [r] = r.markup E := List.flatMap_singleton _ _

lemma lineText_singleton (r : Run) : lineText [r] = r.text := List.flatMap_singleton _ _

/-- The line with some text at its end, which continues the last run if it has the same classes. -/
def addRun (line : List Run) (classes text : Text) : List Run :=
  if text = [] then line
  else
    match line.getLast? with
    | none => [⟨classes, text⟩]
    | some last =>
      if last.classes = classes then line.dropLast ++ [⟨classes, last.text ++ text⟩]
      else line ++ [⟨classes, text⟩]

lemma addRun_nil (line : List Run) (classes : Text) : addRun line classes [] = line := if_pos rfl

lemma nil_addRun {classes text : Text} (h : text ≠ []) :
    addRun [] classes text = [⟨classes, text⟩] := if_neg h

lemma concat_addRun_of_eq {line : List Run} {classes before text : Text} (h : text ≠ []) :
    addRun (line ++ [⟨classes, before⟩]) classes text = line ++ [⟨classes, before ++ text⟩] := by
  unfold addRun
  rw [if_neg h, List.getLast?_concat]
  dsimp only
  rw [if_pos rfl, List.dropLast_concat]

lemma concat_addRun_of_ne {line : List Run} {last : Run} {classes text : Text} (h : text ≠ [])
    (hne : last.classes ≠ classes) :
    addRun (line ++ [last]) classes text = line ++ [last] ++ [⟨classes, text⟩] := by
  unfold addRun
  rw [if_neg h, List.getLast?_concat]
  dsimp only
  rw [if_neg hne]

/-- Adding text to a line adds it to the text of the line. -/
lemma lineText_addRun (line : List Run) (classes text : Text) :
    lineText (addRun line classes text) = lineText line ++ text := by
  by_cases h : text = []
  · rw [h, addRun_nil, List.append_nil]
  · rcases List.eq_nil_or_concat line with rfl | ⟨init, last, rfl⟩
    · rw [nil_addRun h, lineText_singleton]
      rfl
    · rw [List.concat_eq_append]
      by_cases hc : last.classes = classes
      · subst hc
        rw [concat_addRun_of_eq h, lineText_append, lineText_append, lineText_singleton,
          lineText_singleton, List.append_assoc]
      · rw [concat_addRun_of_ne h hc, lineText_append, lineText_singleton]

/-! ## Sheets -/

/-- The runs of the finished lines and of the line in the making. -/
structure Sheet where
  finished : List (List Run) := []
  current : List Run := []
  deriving DecidableEq, Repr

namespace Sheet

/-- Writes the parts of a token between its line feeds. -/
def writeParts (s : Sheet) (classes : Text) : List Text → Sheet
  | [] => s
  | [part] => { s with current := addRun s.current classes part }
  | part :: more =>
    writeParts ⟨s.finished ++ [addRun s.current classes part], []⟩ classes more

/-- Writes a token. -/
def write (cssPrefix : Text) (s : Sheet) (token : Token) : Sheet :=
  s.writeParts (Markup.classes cssPrefix token.kind) (Text.pieces '\n' token.value)

/-- The lines of a sheet, the line in the making among them if something stands on it. -/
def lines (s : Sheet) : List (List Run) :=
  if s.current = [] then s.finished else s.finished ++ [s.current]

/-- The text of a sheet, cut at its line feeds. -/
def texts (s : Sheet) : List Text := s.finished.map lineText ++ [lineText s.current]

end Sheet

/-- The sheet of some tokens. -/
def sheetOf (cssPrefix : Text) (tokens : List Token) : Sheet :=
  tokens.foldl (Sheet.write cssPrefix) {}

/-! ## Pages show sheets -/

/-- The page holds the markup of the sheet; the last span of the line in the making is open. -/
structure Shows (E : Escapes) (p : Page) (s : Sheet) : Prop where
  finished : p.finished.reverse = s.finished.map fun line => lineMarkup E line ++ ['\n']
  current : (p.pieces = [] ∧ s.current = []) ∨
    p.pieces ≠ [] ∧ ∃ init text, s.current = init ++ [⟨p.classes, text⟩] ∧
      p.line = lineMarkup E init ++ openTag p.classes ++ escape E.entities text

lemma shows_empty : Shows E {} {} := ⟨rfl, .inl ⟨rfl, rfl⟩⟩

lemma line_grow (p : Page) (piece : Text) : (p.grow piece).line = p.line ++ piece := by
  unfold Page.line Page.grow
  rw [List.reverse_cons, List.flatten_append]
  exact congrArg _ (List.append_nil piece)

lemma line_of_pieces_eq_nil {p : Page} (h : p.pieces = []) : p.line = [] := by
  unfold Page.line
  rw [h]
  rfl

/-- A line is finished with what its markup lacks. -/
lemma shows_finish {p : Page} {s : Sheet} (h : Shows E p s) {last : Text} {line : List Run}
    (hline : p.line ++ last = lineMarkup E line) :
    Shows E (p.finish last) ⟨s.finished ++ [line], []⟩ := by
  refine ⟨?_, .inl ⟨rfl, rfl⟩⟩
  unfold Page.finish
  dsimp only
  rw [List.reverse_cons, h.finished, hline, List.map_append]
  rfl

/-- The markup of the line in the making is what stands on it and the tag that closes the last
span. -/
lemma line_append_closeTag {p : Page} {init : List Run} {text : Text}
    (h : p.line = lineMarkup E init ++ openTag p.classes ++ escape E.entities text) :
    p.line ++ closeTag p.classes = lineMarkup E (init ++ [⟨p.classes, text⟩]) := by
  rw [h, lineMarkup_append, lineMarkup_singleton, Run.markup]
  simp only [List.append_assoc]

/-- Writing a part that ends a line finishes the line with it. -/
lemma shows_endLine {p : Page} {s : Sheet} (h : Shows E p s) (classes part : Text) :
    Shows E (p.endLine classes (escape E.entities part))
      ⟨s.finished ++ [addRun s.current classes part], []⟩ := by
  unfold Page.endLine
  rcases h.current with ⟨hp, hs⟩ | ⟨hp, init, text, hs, hline⟩
  · -- Nothing stands on the line yet, so that it has no open span.
    rw [if_pos hp]
    refine shows_finish h ?_
    rw [line_of_pieces_eq_nil hp, List.nil_append, hs]
    by_cases hpart : part = []
    · rw [if_pos (escape_eq_nil_iff.2 hpart), hpart, addRun_nil]
      rfl
    · rw [if_neg fun he => hpart (escape_eq_nil_iff.1 he), nil_addRun hpart, lineMarkup_singleton]
      rfl
  · rw [if_neg hp]
    by_cases hpart : part = []
    · -- The line feed only ends the line.
      rw [hpart, if_neg fun hc => hc.2 rfl, addRun_nil]
      refine shows_finish h ?_
      rw [hs]
      exact line_append_closeTag hline
    · by_cases hclasses : p.classes = classes
      · -- The part goes into the open span, which is closed after it.
        rw [if_neg fun hc => hc.1 hclasses]
        refine shows_finish h ?_
        rw [hs, ← hclasses, concat_addRun_of_eq hpart, hline, lineMarkup_append,
          lineMarkup_singleton, Run.markup, escape_append]
        simp only [List.append_assoc]
      · -- The open span is closed before the part, which has a span of its own.
        rw [if_pos ⟨hclasses, fun he => hpart (escape_eq_nil_iff.1 he)⟩]
        refine shows_finish h ?_
        rw [hs, concat_addRun_of_ne hpart hclasses, lineMarkup_append, ← line_append_closeTag hline,
          lineMarkup_singleton, Run.markup]
        simp only [List.append_assoc]

/-- Writing a part that leaves its line open adds it to the line. -/
lemma shows_extendLine {p : Page} {s : Sheet} (h : Shows E p s) (classes part : Text) :
    Shows E (p.extendLine classes (escape E.entities part))
      { s with current := addRun s.current classes part } := by
  unfold Page.extendLine
  by_cases hpart : part = []
  · rw [if_pos (escape_eq_nil_iff.2 hpart), hpart, addRun_nil]
    exact h
  · rw [if_neg fun he => hpart (escape_eq_nil_iff.1 he)]
    rcases h.current with ⟨hp, hs⟩ | ⟨hp, init, text, hs, hline⟩
    · rw [if_pos hp, hs, nil_addRun hpart]
      refine ⟨h.finished, .inr ⟨List.cons_ne_nil _ _, [], part, rfl, ?_⟩⟩
      show (p.grow _).line = _
      rw [line_grow, line_of_pieces_eq_nil hp]
      rfl
    · rw [if_neg hp]
      by_cases hclasses : p.classes = classes
      · rw [if_neg fun hc => hc hclasses, hs, ← hclasses, concat_addRun_of_eq hpart]
        refine ⟨h.finished, .inr ⟨List.cons_ne_nil _ _, init, text ++ part, rfl, ?_⟩⟩
        show (p.grow _).line = _
        rw [line_grow, hline, escape_append]
        exact List.append_assoc _ _ _
      · rw [if_pos hclasses, hs, concat_addRun_of_ne hpart hclasses]
        refine ⟨h.finished, .inr ⟨List.cons_ne_nil _ _, init ++ [⟨p.classes, text⟩], part, rfl, ?_⟩⟩
        show (p.grow _).line = _
        rw [line_grow, ← line_append_closeTag hline]
        simp only [List.append_assoc]

/-- Writing the parts of a token. -/
lemma shows_writeParts {p : Page} {s : Sheet} (h : Shows E p s) (classes : Text)
    (parts : List Text) :
    Shows E (p.writeParts classes (parts.map (escape E.entities))) (s.writeParts classes parts) := by
  induction parts generalizing p s with
  | nil => exact h
  | cons part more ih =>
    cases more with
    | nil => exact shows_extendLine h classes part
    | cons next more => exact ih (shows_endLine h classes part)

/-- Writing a token does the same to the page and to the sheet. -/
theorem shows_write {p : Page} {s : Sheet} (h : Shows E p s) (cssPrefix : Text) (token : Token) :
    Shows E (p.write E cssPrefix token) (s.write cssPrefix token) := by
  unfold Page.write Sheet.write
  rw [pieces_escape E.distinct_entities]
  exact shows_writeParts h _ _

/-- Writing tokens one after another does the same to the page and to the sheet. -/
theorem shows_foldl_write {p : Page} {s : Sheet} (h : Shows E p s) (cssPrefix : Text)
    (tokens : List Token) :
    Shows E (tokens.foldl (Page.write E cssPrefix) p) (tokens.foldl (Sheet.write cssPrefix) s) := by
  induction tokens generalizing p s with
  | nil => exact h
  | cons token rest ih => exact ih (shows_write h cssPrefix token)

/-- The lines of a page are those of the sheet that it shows. -/
lemma lines_of_shows {p : Page} {s : Sheet} (h : Shows E p s) :
    p.lines = s.lines.map fun line => lineMarkup E line ++ ['\n'] := by
  unfold Page.lines Sheet.lines
  rcases h.current with ⟨hp, hs⟩ | ⟨hp, init, text, hs, hline⟩
  · rw [if_pos hp, if_pos hs, h.finished]
  · have hne : s.current ≠ [] := by
      rw [hs]
      exact List.append_ne_nil_of_right_ne_nil _ (List.cons_ne_nil _ _)
    have hlast := shows_finish h ((line_append_closeTag hline).trans (congrArg (lineMarkup E) hs.symm))
    rw [if_neg hp, if_neg hne, hlast.finished]

/-- The markup of some tokens is that of the lines of their sheet. -/
theorem render_eq (E : Escapes) (cssPrefix : Text) (tokens : List Token) :
    render E cssPrefix tokens =
      Text.unlines ((sheetOf cssPrefix tokens).lines.map (lineMarkup E)) := by
  unfold render renderLines Text.unlines
  rw [lines_of_shows (shows_foldl_write shows_empty cssPrefix tokens), List.flatMap_def,
    List.map_map]
  rfl

/-! ## The text of a sheet -/

/-- The text of a sheet is continued by the parts that are written. -/
lemma texts_writeParts (s : Sheet) (classes : Text) (part : Text) (more : List Text) :
    (s.writeParts classes (part :: more)).texts =
      s.finished.map lineText ++ (lineText s.current ++ part) :: more := by
  induction more generalizing s part with
  | nil =>
    show s.finished.map lineText ++ [lineText (addRun s.current classes part)] = _
    rw [lineText_addRun]
  | cons next more ih =>
    rw [Sheet.writeParts, ih]
    · dsimp only
      rw [List.map_append, List.map_singleton, lineText_addRun, List.append_assoc]
      rfl
    · exact List.cons_ne_nil next more

/-- Writing a token adds its value to the text of the sheet. -/
lemma texts_write {s : Sheet} {t : Text} (h : s.texts = Text.pieces '\n' t) (cssPrefix : Text)
    (token : Token) :
    (s.write cssPrefix token).texts = Text.pieces '\n' (t ++ token.value) := by
  obtain ⟨part, more, hp⟩ := List.exists_cons_of_ne_nil (Text.pieces_ne_nil '\n' token.value)
  unfold Sheet.write
  rw [hp, texts_writeParts, Text.pieces_append h.symm hp]

/-- The text of a sheet is the values of its tokens. -/
theorem texts_sheetOf (cssPrefix : Text) (tokens : List Token) :
    (sheetOf cssPrefix tokens).texts = Text.pieces '\n' (tokens.flatMap (·.value)) := by
  have hfoldl : ∀ (s : Sheet) (t : Text), s.texts = Text.pieces '\n' t →
      (tokens.foldl (Sheet.write cssPrefix) s).texts =
        Text.pieces '\n' (t ++ tokens.flatMap (·.value)) := by
    induction tokens with
    | nil =>
      intro s t h
      rw [List.flatMap_nil, List.append_nil]
      exact h
    | cons token rest ih =>
      intro s t h
      rw [List.flatMap_cons, ← List.append_assoc]
      exact ih _ _ (texts_write h cssPrefix token)
  exact hfoldl {} [] rfl

/-! ## The runs of a sheet -/

/-- The classes are written for some token: for one that has text on a line. -/
def Written (cssPrefix : Text) (tokens : List Token) (written : Text) : Prop :=
  ∃ token ∈ tokens, (∃ c ∈ token.value, c ≠ '\n') ∧ written = classes cssPrefix token.kind

/-- The run stands on the sheet. -/
def Sheet.Has (s : Sheet) (r : Run) : Prop := r ∈ s.current ∨ ∃ line ∈ s.finished, r ∈ line

/-- A run of a line to which text was added was there before, or has the classes of the text. -/
lemma mem_addRun {line : List Run} {classes text : Text} {r : Run}
    (h : r ∈ addRun line classes text) :
    r ∈ line ∨ r.classes = classes ∧ r.text ≠ [] ∧ text ≠ [] := by
  by_cases ht : text = []
  · rw [ht, addRun_nil] at h
    exact .inl h
  · rcases List.eq_nil_or_concat line with rfl | ⟨init, last, rfl⟩
    · rw [nil_addRun ht, List.mem_singleton] at h
      rw [h]
      exact .inr ⟨rfl, ht, ht⟩
    · rw [List.concat_eq_append] at h ⊢
      by_cases hc : last.classes = classes
      · subst hc
        rw [concat_addRun_of_eq ht, List.mem_append, List.mem_singleton] at h
        rcases h with h | rfl
        · exact .inl (List.mem_append_left _ h)
        · exact .inr ⟨rfl, List.append_ne_nil_of_right_ne_nil _ ht, ht⟩
      · rw [concat_addRun_of_ne ht hc, List.mem_append, List.mem_singleton] at h
        rcases h with h | rfl
        · exact .inl h
        · exact .inr ⟨rfl, ht, ht⟩

/-- A run of a sheet on which parts were written was there before, or has their classes and at least
one of them was not empty. -/
lemma has_writeParts {s : Sheet} {classes : Text} {parts : List Text} {r : Run}
    (h : (s.writeParts classes parts).Has r) :
    s.Has r ∨ r.classes = classes ∧ r.text ≠ [] ∧ ∃ part ∈ parts, part ≠ [] := by
  induction parts generalizing s with
  | nil => exact .inl h
  | cons part more ih =>
    cases more with
    | nil =>
      rcases h with h | h
      · rcases mem_addRun h with h | ⟨hclasses, htext, hpart⟩
        · exact .inl (.inl h)
        · exact .inr ⟨hclasses, htext, part, List.mem_cons_self, hpart⟩
      · exact .inl (.inr h)
    | cons next more =>
      rcases ih h with hs | ⟨hclasses, htext, other, hother, hne⟩
      · rcases hs with hs | ⟨line, hline, hr⟩
        · exact absurd hs List.not_mem_nil
        · rcases List.mem_append.1 hline with hline | hline
          · exact .inl (.inr ⟨line, hline, hr⟩)
          · rw [List.mem_singleton.1 hline] at hr
            rcases mem_addRun hr with hr | ⟨hclasses, htext, hpart⟩
            · exact .inl (.inl hr)
            · exact .inr ⟨hclasses, htext, part, List.mem_cons_self, hpart⟩
      · exact .inr ⟨hclasses, htext, other, List.mem_cons_of_mem part hother, hne⟩

/-- Every run of a sheet holds some text and has classes that are written. -/
theorem has_sheetOf {cssPrefix : Text} {tokens : List Token} {r : Run}
    (h : (sheetOf cssPrefix tokens).Has r) : r.text ≠ [] ∧ Written cssPrefix tokens r.classes := by
  have hfoldl : ∀ s : Sheet, (tokens.foldl (Sheet.write cssPrefix) s).Has r →
      s.Has r ∨ r.text ≠ [] ∧ Written cssPrefix tokens r.classes := by
    clear h
    induction tokens with
    | nil => exact fun s h => .inl h
    | cons token rest ih =>
      intro s h
      rcases ih _ h with hs | ⟨htext, token', htoken', hclasses⟩
      · rcases has_writeParts hs with hs | ⟨hclasses, htext, part, hpart, hne⟩
        · exact .inl hs
        · obtain ⟨c, more, rfl⟩ := List.exists_cons_of_ne_nil hne
          have hc : c ∈ c :: more := List.mem_cons_self
          have hlf : c ≠ '\n' := fun e => Text.not_mem_of_mem_pieces hpart (e ▸ hc)
          exact .inr ⟨htext, token, List.mem_cons_self,
            ⟨c, Text.mem_of_mem_pieces hpart hc, hlf⟩, hclasses⟩
      · exact .inr ⟨htext, token', List.mem_cons_of_mem token htoken', hclasses⟩
  rcases hfoldl {} h with hempty | hr
  · rcases hempty with hempty | ⟨line, hline, -⟩
    · exact absurd hempty List.not_mem_nil
    · exact absurd hline List.not_mem_nil
  · exact hr

/-! ## Line by line -/

/-- A line break in the markup of a run stands in its classes or in its text. -/
lemma mem_of_break_mem_markup {r : Run} {d : Char} (hd : d = '\n' ∨ d = '\r')
    (h : d ∈ r.markup E) : d ∈ r.classes ∨ d ∈ r.text := by
  have htag : ∀ t : Text, d ∈ openTag t → d ∈ t := by
    intro t ht
    unfold openTag at ht
    split at ht
    · exact absurd ht List.not_mem_nil
    · rw [List.mem_append, List.mem_append] at ht
      rcases ht with (ht | ht) | ht
      · rcases hd with rfl | rfl <;> exact absurd ht (by decide)
      · exact ht
      · rcases hd with rfl | rfl <;> exact absurd ht (by decide)
  have hclose : ∀ t : Text, d ∉ closeTag t := by
    intro t
    unfold closeTag
    split
    · exact List.not_mem_nil
    · rcases hd with rfl | rfl <;> decide
  unfold Run.markup at h
  rw [List.mem_append, List.mem_append] at h
  rcases h with (h | h) | h
  · exact .inl (htag _ h)
  · exact .inr (mem_of_break_mem_escape E.distinct_entities hd h)
  · exact absurd h (hclose _)

/-- A line of markup holds no line break that neither its text nor the classes on it hold. -/
lemma break_not_mem_lineMarkup {line : List Run} {d : Char} (hd : d = '\n' ∨ d = '\r')
    (hclasses : ∀ r ∈ line, d ∉ r.classes) (htext : d ∉ lineText line) : d ∉ lineMarkup E line := by
  intro h
  obtain ⟨r, hr, hmem⟩ := List.mem_flatMap.1 h
  rcases mem_of_break_mem_markup hd hmem with hmem | hmem
  · exact hclasses r hr hmem
  · exact htext (List.mem_flatMap.2 ⟨r, hr, hmem⟩)

/-- Tokens whose values make up some lines have one line of runs for each of these, with the text of
the line and with classes that are written. -/
theorem lines_sheetOf {ls : List Text} {tokens : List Token}
    (ht : tokens.flatMap (·.value) = Text.unlines ls) (hls : ∀ l ∈ ls, '\n' ∉ l)
    (cssPrefix : Text) :
    (sheetOf cssPrefix tokens).lines.map lineText = ls ∧
      ∀ line ∈ (sheetOf cssPrefix tokens).lines, ∀ r ∈ line,
        Written cssPrefix tokens r.classes := by
  have htexts := texts_sheetOf cssPrefix tokens
  rw [ht, Text.pieces_unlines hls] at htexts
  obtain ⟨hfinished, hcurrent⟩ := List.append_inj' htexts rfl
  -- A run holds some text, and behind the last line feed there is none.
  have hempty : (sheetOf cssPrefix tokens).current = [] := by
    rw [List.eq_nil_iff_forall_not_mem]
    intro r hr
    have hnil : lineText (sheetOf cssPrefix tokens).current = [] := (List.cons.inj hcurrent).1
    exact (has_sheetOf (.inl hr)).1 (List.flatMap_eq_nil_iff.1 hnil r hr)
  have hlines : (sheetOf cssPrefix tokens).lines = (sheetOf cssPrefix tokens).finished :=
    if_pos hempty
  rw [hlines]
  exact ⟨hfinished, fun line hline r hr => (has_sheetOf (.inr ⟨line, hline, hr⟩)).2⟩

/-- The markup of the lines holds no line break that neither the lines nor the classes that are written
hold. -/
lemma break_not_mem_lines_sheetOf {ls : List Text} {tokens : List Token}
    (ht : tokens.flatMap (·.value) = Text.unlines ls) (hls : ∀ l ∈ ls, '\n' ∉ l) (E : Escapes)
    (cssPrefix : Text) {d : Char} (hd : d = '\n' ∨ d = '\r')
    (hclasses : ∀ written, Written cssPrefix tokens written → d ∉ written) (htext : ∀ l ∈ ls, d ∉ l) :
    ∀ t ∈ (sheetOf cssPrefix tokens).lines.map (lineMarkup E), d ∉ t := by
  obtain ⟨htexts, hruns⟩ := lines_sheetOf ht hls cssPrefix
  intro t hmem
  obtain ⟨line, hline, rfl⟩ := List.mem_map.1 hmem
  have hone : lineText line ∈ ls := htexts ▸ List.mem_map_of_mem hline
  exact break_not_mem_lineMarkup hd (fun r hr => hclasses _ (hruns line hline r hr)) (htext _ hone)

/-! ## Lines without tags -/

/-- A character that is written as one character is that character. -/
lemma eq_of_escapeChar_eq {es : List Entity} {c d : Char} (h : escapeChar es c = [d]) : c = d := by
  rcases escapeChar_cases es c with ⟨hself, -⟩ | ⟨e, -, -, hentity⟩
  · exact (List.cons.inj (hself.symm.trans h)).1
  · have hlength : e.text.length = 1 := congrArg List.length (hentity.symm.trans h)
    have hlonger := e.one_lt_length_text
    omega

/-- A text that is written as one character is that character. -/
lemma eq_of_escape_eq_singleton {es : List Entity} {t : Text} {c : Char} (h : escape es t = [c]) :
    t = [c] := by
  cases t with
  | nil => exact absurd h.symm (List.cons_ne_nil c [])
  | cons d rest =>
    rw [escape_cons] at h
    rcases List.append_eq_singleton_iff.1 h with ⟨hd, -⟩ | ⟨hd, hrest⟩
    · exact absurd hd (escapeChar_ne_nil es d)
    · rw [eq_of_escapeChar_eq hd, escape_eq_nil_iff.1 hrest]

/-- The markup of a run without classes is its escaped text, and any other markup has a tag. -/
lemma markup_eq_escape_or (E : Escapes) (r : Run) :
    r.markup E = escape E.entities r.text ∨ ∃ rest, r.markup E = '<' :: 's' :: rest := by
  unfold Run.markup openTag closeTag
  by_cases hc : r.classes = []
  · rw [if_pos hc, if_pos hc, List.append_nil]
    exact .inl rfl
  · rw [if_neg hc, if_neg hc]
    exact .inr ⟨_, rfl⟩

/-- A line of markup of at most one character shows no tags, only the text of the line. -/
lemma lineMarkup_eq_escape {line : List Run} (h : (lineMarkup E line).length ≤ 1) :
    lineMarkup E line = escape E.entities (lineText line) := by
  induction line with
  | nil => rfl
  | cons r rest ih =>
    have hmarkup : lineMarkup E (r :: rest) = r.markup E ++ lineMarkup E rest := List.flatMap_cons
    have htext : lineText (r :: rest) = r.text ++ lineText rest := List.flatMap_cons
    rw [hmarkup, List.length_append] at h
    rw [hmarkup, htext, escape_append, ih (by omega)]
    rcases markup_eq_escape_or E r with hr | ⟨tag, hr⟩
    · rw [hr]
    · -- A tag alone is longer than one character.
      rw [hr, List.length_cons, List.length_cons] at h
      omega

/-- A line of markup of one character shows that character of the text. -/
theorem lineText_of_lineMarkup_eq_singleton {line : List Run} {c : Char}
    (h : lineMarkup E line = [c]) : lineText line = [c] := by
  have hescape := lineMarkup_eq_escape (Nat.le_of_eq (congrArg List.length h))
  exact eq_of_escape_eq_singleton (hescape.symm.trans h)

end LineHighlight.Markup
