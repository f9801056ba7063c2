import LineHighlight.Proofs.Text.Streams
import LineHighlight.Request.Buffer

/-!
# Kinds of line breaks

A line may be ended by LF, by CR LF or by CR.

* `replaceAll_crLf_cr`, to make all line breaks alike is to replace CR LF and then CR;
* `unifyBreaks_unlinesWith_append` and `unifyBreaks_unlinesWith_map`, what is left of lines that were
  written with several kinds of breaks;
* `splitCode_exact`, the lines of a piece of code are all there is to it but for the kinds of its
  breaks.
-/

namespace LineHighlight
namespace Text

/-! ## Replacing -/

/-- `t` with each occurrence of `old`, which is not empty, replaced by `new`. Occurrences are looked
for from the left and do not overlap. -/
def replaceAll (old new : Text) : Text → Text
  | [] => []
  | c :: rest =>
    if old ≠ [] ∧ old <+: c :: rest then
      new ++ replaceAll old new ((c :: rest).drop old.length)
    else c :: replaceAll old new rest
termination_by t => t.length
decreasing_by
  · rename_i h
    have hold := List.length_pos_iff.2 h.1
    rw [List.length_drop, List.length_cons]
    omega
  · exact Nat.lt_succ_self _

lemma replaceAll_append {old : Text} (h : old ≠ []) (new rest : Text) :
    replaceAll old new (old ++ rest) = new ++ replaceAll old new rest := by
  obtain ⟨c, more, rfl⟩ := List.exists_cons_of_ne_nil h
  have hfound : c :: more ≠ [] ∧ c :: more <+: c :: (more ++ rest) := ⟨h, rest, rfl⟩
  rw [List.cons_append, replaceAll, if_pos hfound, ← List.cons_append, List.drop_left]

lemma replaceAll_cons {old : Text} {c : Char} {rest : Text} (h : ¬ old <+: c :: rest) (new : Text) :
    replaceAll old new (c :: rest) = c :: replaceAll old new rest := by
  rw [replaceAll, if_neg fun hfound => h hfound.2]

/-- A character other than the first one of what is replaced stays. -/
lemma replaceAll_cons_of_ne {a c : Char} (h : a ≠ c) (old new rest : Text) :
    replaceAll (a :: old) new (c :: rest) = c :: replaceAll (a :: old) new rest :=
  replaceAll_cons (fun hfound => h (List.cons_prefix_cons.1 hfound).1) new

/-- To make all line breaks of a text alike is to replace CR LF by LF and after that CR by LF. -/
theorem replaceAll_crLf_cr (t : Text) :
    replaceAll ['\r'] ['\n'] (replaceAll ['\r', '\n'] ['\n'] t) = unifyBreaks t := by
  have hpair := replaceAll_append (List.cons_ne_nil '\r' ['\n']) ['\n']
  have hlone := replaceAll_append (List.cons_ne_nil '\r' []) ['\n']
  have hkept := fun c (h : '\r' ≠ c) => replaceAll_cons_of_ne h [] ['\n']
  fun_induction unifyBreaks t with
  | case1 => rw [replaceAll, replaceAll]
  | case2 rest ih =>
    have hfirst : replaceAll ['\r', '\n'] ['\n'] ('\r' :: '\n' :: rest) =
        '\n' :: replaceAll ['\r', '\n'] ['\n'] rest := hpair rest
    rw [hfirst, hkept '\n' (by decide), ih]
  | case3 rest hrest ih =>
    -- The carriage return is left over by the first step.
    have hfirst : ¬ ['\r', '\n'] <+: '\r' :: rest := by
      rintro ⟨more, hmore⟩
      exact hrest more (List.cons.inj hmore).2.symm
    have hsecond : replaceAll ['\r'] ['\n'] ('\r' :: replaceAll ['\r', '\n'] ['\n'] rest) =
        '\n' :: replaceAll ['\r'] ['\n'] (replaceAll ['\r', '\n'] ['\n'] rest) := hlone _
    rw [replaceAll_cons hfirst, hsecond, ih]
  | case4 c rest _ hcr ih =>
    have hc : '\r' ≠ c := fun h => hcr h.symm
    rw [replaceAll_cons_of_ne hc, hkept c hc, ih]

/-! ## Lines with breaks of their own -/

/-- What can end a line. -/
inductive Break where
  | lf
  | crLf
  | cr
  deriving DecidableEq, Repr

/-- The characters of a line break. -/
def Break.chars : Break → Text
  | lf => ['\n']
  | crLf => ['\r', '\n']
  | cr => ['\r']

/-- Lines written one after another, each with the break that ends it. -/
def unlinesWith (ls : List (Text × Break)) : Text := ls.flatMap fun l => l.1 ++ l.2.chars

lemma unlinesWith_cons (l : Text × Break) (ls : List (Text × Break)) :
    unlinesWith (l :: ls) = l.1 ++ l.2.chars ++ unlinesWith ls := List.flatMap_cons

lemma unlines_cons (l : Text) (ls : List Text) : unlines (l :: ls) = l ++ '\n' :: unlines ls := by
  rw [unlines, List.flatMap_cons, List.append_assoc]
  rfl

/-- Whatever break ends a line, it is read as LF. Only behind CR a line feed would be taken for a part
of the break. -/
lemma unifyBreaks_line {l : Text} (hl : '\r' ∉ l) {b : Break} {rest : Text}
    (h : b = .cr → rest.head? ≠ some '\n') :
    unifyBreaks (l ++ b.chars ++ rest) = l ++ '\n' :: unifyBreaks rest := by
  rw [List.append_assoc, unifyBreaks_append_of_not_mem hl]
  cases b with
  | lf => rw [Break.chars, List.singleton_append, unifyBreaks_cons (by decide)]
  | crLf => exact congrArg (l ++ ·) (unifyBreaks.eq_2 rest)
  | cr =>
    have hrest : ∀ more, rest = '\n' :: more → False := by
      rintro more rfl
      exact h rfl rfl
    exact congrArg (l ++ ·) (unifyBreaks.eq_3 rest hrest)

/-- Lines that end in LF or CR LF, in any mix, are read as the lines that they are, whatever is behind
them. -/
lemma unifyBreaks_unlinesWith_append {ls : List (Text × Break)}
    (h : ∀ l ∈ ls, '\r' ∉ l.1 ∧ l.2 ≠ .cr) (more : Text) :
    unifyBreaks (unlinesWith ls ++ more) = unlines (ls.map Prod.fst) ++ unifyBreaks more := by
  induction ls with
  | nil => rfl
  | cons l ls ih =>
    obtain ⟨hl, hbreak⟩ := h l List.mem_cons_self
    have hmore := ih fun l' hl' => h l' (List.mem_cons_of_mem l hl')
    rw [unlinesWith_cons, List.append_assoc, unifyBreaks_line hl fun hcr => absurd hcr hbreak,
      hmore, List.map_cons, unlines_cons, List.append_assoc]
    rfl

/-- No line feed comes first if all lines end in CR. -/
lemma head?_unlinesWith_cr {ls : List Text} (h : ∀ l ∈ ls, '\n' ∉ l) :
    (unlinesWith (ls.map fun l => (l, .cr))).head? ≠ some '\n' := by
  cases ls with
  | nil => exact nofun
  | cons l ls =>
    rw [List.map_cons, unlinesWith_cons]
    cases l with
    | nil => exact fun hhead => absurd (Option.some.inj hhead) (by decide)
    | cons c l =>
      intro hhead
      have hc : c = '\n' := Option.some.inj hhead
      exact h (c :: l) List.mem_cons_self (hc ▸ List.mem_cons_self)

/-- Lines that all end alike are read as the lines that they are. -/
lemma unifyBreaks_unlinesWith_map {ls : List Text} (h : ∀ l ∈ ls, '\n' ∉ l ∧ '\r' ∉ l) (b : Break) :
    unifyBreaks (unlinesWith (ls.map fun l => (l, b))) = unlines ls := by
  induction ls with
  | nil => rfl
  | cons l ls ih =>
    have hls : ∀ l' ∈ ls, '\n' ∉ l' ∧ '\r' ∉ l' := fun l' hl' => h l' (List.mem_cons_of_mem l hl')
    have hapart : b = .cr → (unlinesWith (ls.map fun l => (l, b))).head? ≠ some '\n' := by
      rintro rfl
      exact head?_unlinesWith_cr fun l' hl' => (hls l' hl').1
    rw [List.map_cons, unlinesWith_cons, unifyBreaks_line (h l List.mem_cons_self).2 hapart, ih hls,
      unlines_cons]

/-! ## Lines of code -/

/-- The lines of a piece of code do not depend on the kinds of its breaks. -/
lemma splitCode_unifyBreaks (code : Text) : splitCode (unifyBreaks code) = splitCode code := by
  have hsame : unifyBreaks (unifyBreaks code) = unifyBreaks code :=
    unifyBreaks_of_not_mem (cr_not_mem_unifyBreaks code)
  unfold splitCode
  simp only [unifyBreaks_eq_nil_iff, hsame]

end Text

/-- Lines that are collected one by one make the source of them all. -/
lemma Buffer.source_foldl_append (b : Buffer) (ls : List Text) :
    (ls.foldl append b).source = b.source ++ Text.unlines ls := by
  induction ls generalizing b with
  | nil => exact (List.append_nil _).symm
  | cons l ls ih =>
    rw [List.foldl_cons, ih, source_append, Text.unlines_cons, List.append_assoc, List.append_assoc,
      List.singleton_append]

namespace Text

/-- The lines of a piece of code are exact. None of them has a line break. Written or collected, each
with a line feed, they are the code with CR LF and then CR replaced by LF, and with a line feed at its
end unless there is nothing to end; only the empty code has no lines. Lines that were written with one
kind of break are found again as they were. -/
theorem splitCode_exact :
    (∀ code : Text,
      let unified := replaceAll ['\r'] ['\n'] (replaceAll ['\r', '\n'] ['\n'] code)
      let whole :=
        if unified = [] ∨ unified.getLast? = some '\n' then unified else unified ++ ['\n']
      (∀ l ∈ splitCode code, '\n' ∉ l ∧ '\r' ∉ l) ∧
        unlines (splitCode code) = whole ∧
        ((splitCode code).foldl Buffer.append {}).source = whole ∧
        (splitCode code = [] ↔ code = [])) ∧
    ∀ ls : List Text, (∀ l ∈ ls, '\n' ∉ l ∧ '\r' ∉ l) →
      ∀ b : Break, splitCode (unlinesWith (ls.map fun l => (l, b))) = ls := by
  constructor
  · intro code unified whole
    have hunified : unified = unifyBreaks code := replaceAll_crLf_cr code
    have hlines : unlines (splitCode code) = whole := by
      by_cases hcode : code = []
      · have hnil : unified = [] := by rw [hunified, hcode, unifyBreaks]
        have hwhole : whole = unified := if_pos (.inl hnil)
        rw [hwhole, hnil, hcode]
        rfl
      · have hne : unified ≠ [] := fun h => hcode (unifyBreaks_eq_nil_iff.1 (hunified ▸ h))
        have hwhole : whole = terminated unified := by
          simp only [whole, terminated, hne, false_or]
        rw [unlines_splitCode hcode, hwhole, hunified]
    have hbuffer : ((splitCode code).foldl Buffer.append {}).source = unlines (splitCode code) :=
      Buffer.source_foldl_append {} (splitCode code)
    refine ⟨break_not_mem_of_mem_splitCode code, hlines, hbuffer.trans hlines, ?_, ?_⟩
    · exact Decidable.not_imp_not.1 splitCode_ne_nil
    · rintro rfl
      rfl
  · intro ls hls b
    rw [← splitCode_unifyBreaks, unifyBreaks_unlinesWith_map hls, splitCode_unlines hls]

/-- Blank lines of three kinds are kept, and the last line is ended. Blank lines that end in CR are not
taken for parts of a break. -/
theorem splitCode_exact_mixed :
    let code := "\r\na\r\r\n\n\rb".toList
    let ls := [[], "a".toList, [], []]
    (∀ l ∈ ls, '\n' ∉ l ∧ '\r' ∉ l) ∧
      unlines (splitCode code) = "\na\n\n\n\nb\n".toList ∧
      splitCode (unlinesWith (ls.map fun l => (l, .cr))) = ls := by
  intro code ls
  have hls : ∀ l ∈ ls, '\n' ∉ l ∧ '\r' ∉ l := by decide
  obtain ⟨hcode, hwritten⟩ := splitCode_exact
  refine ⟨hls, ?_, hwritten ls hls .cr⟩
  rw [(hcode code).2.1, replaceAll_crLf_cr]
  decide

end Text
end LineHighlight
