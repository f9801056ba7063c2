import LineHighlight.Proofs.Client.Launch
import LineHighlight.Proofs.Markup.Lossless

/-!
# What keeps a session in step

The client refuses code with a line that is the terminator, so that no line of the markup is it, and
each call reads the block that answers its own request. One kind of code gets past: a mark in front
of the first line hides a terminator from the client that the lexer, which drops the mark, lets
through. `terminator_mem_iff` says that there is no other kind, and `highlights_inStep_iff` that a
session is in step exactly if no code of it is of this kind.
-/

namespace LineHighlight

/-- The first line of the code is the terminator behind a mark, and the first line of the markup
is the terminator. -/
def EndsEarly (terminator code html : Text) : Prop :=
  (Text.splitCode code).head? = some ('\uFEFF' :: terminator) ∧
    (Text.pieces '\n' html).head? = some terminator

instance (terminator code html : Text) : Decidable (EndsEarly terminator code html) :=
  inferInstanceAs (Decidable (_ ∧ _))

/-- The markup of code without the terminator has it on a line only if the code hides it behind a
mark. A line of markup that is one character shows just that character of the code. -/
theorem terminator_mem_iff {E : Markup.Escapes} {cssPrefix code html : Text} {terminator : Char}
    {scope : Scope} {l : Lexer} (hscope : scope.grammar = .lexer l) (hl : l.Lossless)
    (hcss : '\n' ∉ cssPrefix ∧ '\r' ∉ cssPrefix)
    (h : Highlighter.spans E cssPrefix (Text.unlines (Text.splitCode code)) scope = .ok html)
    (hcode : [terminator] ∉ Text.splitCode code) :
    [terminator] ∈ Text.pieces '\n' html ↔ EndsEarly [terminator] code html := by
  obtain ⟨-, lines, htexts, hpieces⟩ := Highlighter.spans_lines hscope hl hcss h
  constructor
  · intro hmem
    rw [hpieces] at hmem
    rcases List.mem_append.1 hmem with hmem | hmem
    · -- The line shows the terminator, so that a line which the lexer sees is the terminator.
      obtain ⟨i, hi⟩ := List.mem_iff_getElem?.1 hmem
      rw [List.getElem?_map] at hi
      obtain ⟨line, hline, hmarkup⟩ := Option.map_eq_some_iff.1 hi
      have hseen : (Text.seenLines code)[i]? = some [terminator] := by
        rw [← htexts, List.getElem?_map, hline]
        exact congrArg some (Markup.lineText_of_lineMarkup_eq_singleton hmarkup)
      obtain ⟨rfl, hfirst⟩ := Text.eq_head_of_mem_seenLines hseen hcode (List.cons_ne_nil _ _)
      refine ⟨hfirst, ?_⟩
      rw [hpieces, List.head?_append, List.head?_eq_getElem?, List.getElem?_map, hi]
      rfl
    · exact absurd (List.mem_singleton.1 hmem) (List.cons_ne_nil terminator [])
  · intro hearly
    exact List.mem_of_mem_head? hearly.2

namespace Connection

open CommandLine

/-- What is seen of a call: its reply and the lines left unread. -/
def Called.seen {π α : Type} (done : Called π α) : Reply α × List Text :=
  (done.reply, done.connection.inbox)

/-- The block that answers a call is read as a whole exactly if the code does not end it early. -/
lemma readAnswer_iff {there : Installation} {config : Config}
    (hlexers : ∀ l ∈ there.catalogue, l.Lossless)
    (hcss : '\n' ∉ config.cssPrefix ∧ '\r' ∉ config.cssPrefix) {terminator : Char}
    (hterminator : config.terminator = [terminator]) (hcr : terminator ≠ '\r') {memory : Cache}
    (hrecalls : Registry.Recalls there.catalogue config.aliases (fun _ => True) memory)
    {flag code html : Text}
    (hhtml : (Engine.ofCatalogue there config).markup memory flag
      (Text.unlines (Text.splitCode code)) = .ok html)
    (hcode : config.terminator ∉ Text.splitCode code) :
    (¬ EndsEarly config.terminator code html →
        readAnswer config.terminator [] (received (answerBlock config.terminator html)) =
          (some html, [])) ∧
      (EndsEarly config.terminator code html → ∃ shorter rest, rest ≠ [] ∧
        readAnswer config.terminator [] (received (answerBlock config.terminator html)) =
          (some shorter, rest)) := by
  obtain ⟨scope, hanswer, hspans⟩ := Engine.exists_scope_of_markup hhtml
  obtain ⟨l, hl, hscope⟩ := Registry.exists_lexer_of_answer hrecalls hanswer
  obtain ⟨hhtmlCr, -⟩ := Highlighter.spans_lines hscope (hlexers l hl) hcss hspans
  have hterminatorCr : '\r' ∉ config.terminator := by
    rw [hterminator, List.mem_singleton]
    exact hcr.symm
  have hmem : config.terminator ∈ Text.pieces '\n' html ↔
      EndsEarly config.terminator code html := by
    rw [hterminator] at hcode ⊢
    exact terminator_mem_iff hscope (hlexers l hl) hcss hspans hcode
  rw [received_answerBlock config.terminator_oneLine hterminatorCr hhtmlCr, ← hmem]
  exact ⟨(readAnswer_block_iff config.terminator_oneLine html).2,
    readAnswer_block_of_mem config.terminator_oneLine⟩

/-- The calls of a client in step come back with the markup made for them, and with nothing left
unread, exactly if no code ends its answer early. The induction is on the calls; the first code that
ends its answer early leaves a line unread. -/
lemma seen_highlights_iff {there : Installation} {config : Config} {client : Client}
    {logging : Logging} (hlexers : ∀ l ∈ there.catalogue, l.Lossless)
    (hcss : '\n' ∉ config.cssPrefix ∧ '\r' ∉ config.cssPrefix)
    (hready : client.config.ready = config.ready)
    (hmarker : client.config.terminator = config.terminator) {terminator : Char}
    (hterminator : config.terminator = [terminator]) (hcr : terminator ≠ '\r')
    {calls : List (Text × Text)} (hcalls : ∀ call ∈ calls, client.check call.1 call.2 = .ok ())
    {memory : Cache} {conn : Connection Piped}
    (hrecalls : Registry.Recalls there.catalogue config.aliases (fun _ => True) memory)
    (h : InStep client (.ofCatalogue there config) logging memory conn)
    (hreplies : ((Engine.ofCatalogue there config).replies memory (client.requests calls)).failure =
      none) :
    let markups := ((Engine.ofCatalogue there config).replies memory (client.requests calls)).markups
    (conn.highlights calls).map Called.seen = markups.map (fun html => (.value html, [])) ↔
      ∀ p ∈ calls.zip markups, ¬ EndsEarly config.terminator p.1.2 p.2 := by
  dsimp only
  induction calls generalizing memory conn with
  | nil => exact ⟨fun _ p hp => absurd hp List.not_mem_nil, fun _ => rfl⟩
  | cons call rest ih =>
    obtain ⟨flag, code⟩ := call
    have hcheck : client.check flag code = .ok () := hcalls (flag, code) List.mem_cons_self
    have hrest := fun call hcall => hcalls call (List.mem_cons_of_mem (flag, code) hcall)
    have hcode := (Client.check_eq_ok_iff.1 hcheck).2
    rw [hmarker] at hcode
    have hrequests : client.requests ((flag, code) :: rest) =
        ⟨client.rename flag, Text.unlines (Text.splitCode code)⟩ :: client.requests rest := rfl
    rw [hrequests] at hreplies ⊢
    cases hhtml : (Engine.ofCatalogue there config).markup memory (client.rename flag)
        (Text.unlines (Text.splitCode code)) with
    | error cause =>
      rw [Engine.replies_cons_of_error hhtml] at hreplies
      exact absurd hreplies (Option.some_ne_none cause)
    | ok html =>
      rw [Engine.replies_cons_of_ok hhtml] at hreplies ⊢
      obtain ⟨hwhole, hearly⟩ :=
        readAnswer_iff hlexers hcss hterminator hcr hrecalls hhtml hcode
      have hmarked : readAnswer client.config.terminator []
            (received (answerBlock config.terminator html)) =
          readAnswer config.terminator [] (received (answerBlock config.terminator html)) := by
        rw [hmarker]
      rw [highlights, List.map_cons, List.map_cons, List.zip_cons_cons, List.forall_mem_cons,
        List.cons.injEq]
      by_cases hends : EndsEarly config.terminator code html
      · -- The answer is cut off, so that the rest of its block is left unread.
        obtain ⟨shorter, unread, hunread, hread⟩ := hearly hends
        obtain ⟨-, hinbox, -⟩ := highlight_of_ok h hready hcheck hhtml (hmarked.trans hread)
        refine ⟨fun hseen => ?_, fun hall => absurd hends hall.1⟩
        have hnil : (conn.highlight flag code).connection.inbox = [] := congrArg Prod.snd hseen.1
        exact absurd (hinbox.symm.trans hnil) hunread
      · -- The answer is read as a whole, and the connection stays in step.
        have hread := hwhole hends
        obtain ⟨hreply, hinbox, hstep⟩ := highlight_of_ok h hready hcheck hhtml (hmarked.trans hread)
        have hseen : Called.seen (conn.highlight flag code) = (.value html, []) := by
          unfold Called.seen
          rw [hreply, hinbox]
        have hmore := ih hrest (Registry.recalls_resolve hrecalls trivial) (hstep rfl) hreplies
        constructor
        · exact fun hall => ⟨hends, hmore.1 hall.2⟩
        · exact fun hall => ⟨hseen, hmore.2 hall.2⟩

/-- The session of a client with the program, both with the default settings, whose calls pass the
check and whose requests do not fail. Every call comes back with the markup made for its request and
leaves nothing unread exactly if no code begins with a hidden terminator that shows in the markup. -/
theorem highlights_inStep_iff (there : Installation) (renames : Table)
    (calls : List (Text × Text)) (hopens : there.Opens .default)
    (hlexers : ∀ l ∈ there.catalogue, l.Lossless)
    (hcalls : ∀ call ∈ calls,
      Client.check { config := .default, renames := renames } call.1 call.2 = .ok ())
    (hreplies :
      let engine := Engine.ofCatalogue there .default
      let warm := engine.registry.remember [] Config.default.aliases.keys
      (engine.replies warm
        (Client.requests { config := .default, renames := renames } calls)).failure = none) :
    let client : Client := { config := .default, renames := renames }
    let engine := Engine.ofCatalogue there .default
    let warm := engine.registry.remember [] Config.default.aliases.keys
    let markups := (engine.replies warm (client.requests calls)).markups
    ((launched there [] client).highlights calls).map Called.seen =
        markups.map (fun html => (.value html, [])) ↔
      ∀ p ∈ calls.zip markups, ¬ EndsEarly Config.default.terminator p.1.2 p.2 := by
  intro client engine warm markups
  have hstep : InStep client (.ofCatalogue there .default) ⟨[.own], 30⟩ warm
      (launched there [] client) := inStep_launched plan_nil rfl hopens rfl
  have hrecalls : Registry.Recalls there.catalogue Config.default.aliases (fun _ => True) warm :=
    Registry.recalls_remember Registry.recalls_nil fun _ _ => trivial
  exact seen_highlights_iff hlexers ⟨List.not_mem_nil, List.not_mem_nil⟩ rfl rfl rfl (by decide)
    hcalls hrecalls hstep hreplies

lemma lossless_textOnly : ∀ l ∈ Installation.textOnly.catalogue, l.Lossless := by
  intro l hl
  rw [List.mem_singleton.1 hl]
  exact Lexer.lossless_of_scanWhole rfl (by decide)

/-- The terminator within a line, and on a line of its own behind a mark that is not in front of all
code, do no harm. -/
theorem highlights_textOnly_inStep :
    let client : Client := { config := .default }
    ((launched .textOnly [] client).highlights
        [("plain".toList, "a\n\uFEFF\x04".toList), ("text".toList, "\x04b".toList)]).map Called.seen =
      [(.value "a\n\uFEFF\x04\n".toList, []), (.value "\x04b\n".toList, [])] := by
  intro client
  refine ((highlights_inStep_iff .textOnly .empty _ (Installation.opens_textOnly .default)
    lossless_textOnly ?_ ?_).2 ?_).trans ?_
  · intro call hcall
    rcases List.mem_cons.1 hcall with rfl | hcall
    · exact eq_ok_of_toOption (by decide +kernel)
    · rw [List.mem_singleton.1 hcall]
      exact eq_ok_of_toOption (by decide +kernel)
  · decide +kernel
  · decide +kernel
  · decide +kernel

/-- Behind a mark in front of all code the terminator passes the check, and the answers to this call
and to the next one come back empty. -/
theorem highlights_textOnly_hidden_terminator :
    let client : Client := { config := .default }
    let calls := [("plain".toList, "\uFEFF\x04".toList), ("plain".toList, "a".toList)]
    let engine := Engine.ofCatalogue .textOnly .default
    let warm := engine.registry.remember [] Config.default.aliases.keys
    (∀ call ∈ calls, client.check call.1 call.2 = .ok ()) ∧
      engine.replies warm (client.requests calls) = ⟨["\x04\n".toList, "a\n".toList], none⟩ ∧
      ((launched .textOnly [] client).highlights calls).map (·.reply) = [.value [], .value []] := by
  intro client calls engine warm
  refine ⟨fun call hcall => ?_, by decide +kernel, by decide +kernel⟩
  rcases List.mem_cons.1 hcall with rfl | hcall
  · exact eq_ok_of_toOption (by decide +kernel)
  · rw [List.mem_singleton.1 hcall]
    exact eq_ok_of_toOption (by decide +kernel)

end Connection
end LineHighlight
