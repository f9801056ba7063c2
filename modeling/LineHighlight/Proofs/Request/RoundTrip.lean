import LineHighlight.Client.Basic
import LineHighlight.Proofs.Request.Outcomes
import LineHighlight.Proofs.Request.Segments
import LineHighlight.Proofs.Results
import LineHighlight.Proofs.Text.Streams

/-!
# Writing and reading requests

A client writes a request as lines, and an assembler makes requests of lines that come from a stream.
The two are inverse to each other: `receive_requests` reads what was written, for requests one after
another, and `isSendable_of_mem_outcomes` says that whatever is read, from whatever text, can be
written. `Client.requests_inverse` puts the two together and adds that the client refuses no more and
no fewer flags than it has to.
-/

namespace LineHighlight

/-! ## Lines of a request -/

/-- A flag that can be sent is one line that declares it. -/
lemma isSendable_iff {flag : Text} :
    isSendable flag = true ↔
      flag ≠ [] ∧ flag.head? ≠ some codeMarker ∧ '\n' ∉ flag ∧ '\r' ∉ flag := by
  unfold isSendable
  simp only [Bool.and_eq_true, decide_eq_true_eq, Bool.not_eq_true', List.contains_eq_mem,
    decide_eq_false_iff_not, and_assoc]

/-- The lines that a client writes for a request. -/
def requestLines (flag : Text) (code : List Text) : List Text :=
  flag :: code.map (codeMarker :: ·) ++ [[]]

/-- No line of a request has a line break. -/
lemma break_not_mem_of_mem_requestLines {flag : Text} (hflag : isSendable flag = true)
    {code : List Text} (hcode : ∀ l ∈ code, '\n' ∉ l ∧ '\r' ∉ l) :
    ∀ l ∈ requestLines flag code, '\n' ∉ l ∧ '\r' ∉ l := by
  obtain ⟨-, -, hlf, hcr⟩ := isSendable_iff.1 hflag
  intro l hl
  rcases List.mem_append.1 hl with hl | hl
  · rcases List.mem_cons.1 hl with rfl | hl
    · exact ⟨hlf, hcr⟩
    · obtain ⟨line, hline, rfl⟩ := List.mem_map.1 hl
      obtain ⟨hlineLf, hlineCr⟩ := hcode line hline
      rw [List.mem_cons, List.mem_cons, not_or, not_or]
      exact ⟨⟨by decide, hlineLf⟩, ⟨by decide, hlineCr⟩⟩
  · rw [List.mem_singleton.1 hl]
    exact ⟨List.not_mem_nil, List.not_mem_nil⟩

/-- What is sent for a request is read line by line. -/
lemma lines_requestText {flag : Text} (hflag : isSendable flag = true) {code : List Text}
    (hcode : ∀ l ∈ code, '\n' ∉ l ∧ '\r' ∉ l) :
    Text.lines (Text.unifyBreaks (requestText flag code)) = requestLines flag code :=
  Text.lines_unifyBreaks_unlines (break_not_mem_of_mem_requestLines hflag hcode)

/-- What is sent for a request is read as it is, whichever line breaks end a line for the reader. -/
lemma read_requestText (ends : Text.LineEnds) {flag : Text} (hflag : isSendable flag = true)
    {code : List Text} (hcode : ∀ l ∈ code, '\n' ∉ l ∧ '\r' ∉ l) :
    ends.read (requestText flag code) = requestText flag code := by
  cases ends with
  | lineFeed => rfl
  | universal =>
    have hlines := break_not_mem_of_mem_requestLines hflag hcode
    exact Text.unifyBreaks_of_not_mem (Text.cr_not_mem_unlines fun l hl => (hlines l hl).2)

/-- The only blank line of a request is the last one. -/
lemma blank_not_mem {flag : Text} (hflag : isSendable flag = true) (code : List Text) :
    [] ∉ flag :: code.map (codeMarker :: ·) := by
  obtain ⟨hne, -⟩ := isSendable_iff.1 hflag
  intro h
  rcases List.mem_cons.1 h with h | h
  · exact hne h.symm
  · obtain ⟨line, -, hline⟩ := List.mem_map.1 h
    exact List.cons_ne_nil codeMarker line hline

/-! ## Reading what was written -/

namespace Assembler

/-- What an assembler reads from a stream, on which any kind of line break ends a line. -/
def receive (a : Assembler) (t : Text) : Reading := a.takeAll (Text.lines (Text.unifyBreaks t))

/-- Lines that are not blank make the unfinished segment longer and lead to no outcome. -/
lemma outcomes_ofSegment {ls : List Text} (h : [] ∉ ls) (seg : Segment) :
    (ofSegment seg).outcomes ls = [] ∧ (ofSegment seg).feedAll ls = ofSegment (seg ++ ls) := by
  induction ls generalizing seg with
  | nil =>
    rw [List.append_nil]
    exact ⟨rfl, rfl⟩
  | cons l ls ih =>
    have hl : l ≠ [] := fun he => h (he ▸ List.mem_cons_self)
    have hls : [] ∉ ls := fun hmem => h (List.mem_cons_of_mem l hmem)
    obtain ⟨houtcomes, hlast⟩ := ih hls (seg ++ [l])
    rw [outcomes, feedAll, feed_ofSegment seg hl, houtcomes, hlast, List.append_assoc]
    exact ⟨rfl, rfl⟩

/-- The lines of a request lead to this request, and nothing of it stays behind. -/
lemma outcomes_requestLines {flag : Text} (hflag : isSendable flag = true) (code : List Text) :
    fresh.outcomes (requestLines flag code) = [.request ⟨flag, Text.unlines code⟩] ∧
      fresh.feedAll (requestLines flag code) = fresh := by
  obtain ⟨-, hcode, -⟩ := isSendable_iff.1 hflag
  have hopen := outcomes_ofSegment (blank_not_mem hflag code) []
  obtain ⟨houtcomes, hlast⟩ := hopen
  have hblank := feed_ofSegment_blank (Segment.request?_declaration_code hcode code)
  rw [List.nil_append] at hlast
  have hfresh : fresh = ofSegment [] := rfl
  rw [requestLines, outcomes_append, feedAll_append, hfresh, houtcomes, hlast, outcomes, feedAll,
    hblank]
  exact ⟨rfl, rfl⟩

/-- The lines of several requests lead to these requests in their order. -/
lemma outcomes_flatMap_requestLines {sent : List (Text × List Text)}
    (h : ∀ r ∈ sent, isSendable r.1 = true) :
    fresh.outcomes (sent.flatMap fun r => requestLines r.1 r.2) =
        sent.map (fun r => .request ⟨r.1, Text.unlines r.2⟩) ∧
      fresh.feedAll (sent.flatMap fun r => requestLines r.1 r.2) = fresh := by
  induction sent with
  | nil => exact ⟨rfl, rfl⟩
  | cons r sent ih =>
    obtain ⟨hone, hfresh⟩ := outcomes_requestLines (h r List.mem_cons_self) r.2
    obtain ⟨hmore, hlast⟩ := ih fun r' hr' => h r' (List.mem_cons_of_mem r hr')
    rw [List.flatMap_cons, outcomes_append, feedAll_append, hone, hfresh, hmore, hlast]
    exact ⟨rfl, rfl⟩

/-- The written text of several requests is read line by line, whatever lines are behind it. -/
lemma lines_flatMap_requestText {sent : List (Text × List Text)}
    (h : ∀ r ∈ sent, isSendable r.1 = true ∧ ∀ l ∈ r.2, '\n' ∉ l ∧ '\r' ∉ l)
    (more : List Text) (hmore : ∀ l ∈ more, '\n' ∉ l ∧ '\r' ∉ l) :
    Text.lines (Text.unifyBreaks
        ((sent.flatMap fun r => requestText r.1 r.2) ++ Text.unlines more)) =
      (sent.flatMap fun r => requestLines r.1 r.2) ++ more := by
  have htext : (sent.flatMap fun r => requestText r.1 r.2) =
      Text.unlines (sent.flatMap fun r => requestLines r.1 r.2) := by
    rw [Text.unlines_flatMap]
    rfl
  rw [htext, ← Text.unlines_append]
  apply Text.lines_unifyBreaks_unlines
  intro l hl
  rcases List.mem_append.1 hl with hl | hl
  · obtain ⟨r, hr, hl⟩ := List.mem_flatMap.1 hl
    exact break_not_mem_of_mem_requestLines (h r hr).1 (h r hr).2 l hl
  · exact hmore l hl

/-- An assembler reads requests that were written one after another, and is fresh again behind them.
A blank line there ends the session. -/
theorem receive_requests {sent : List (Text × List Text)}
    (h : ∀ r ∈ sent, isSendable r.1 = true ∧ ∀ l ∈ r.2, '\n' ∉ l ∧ '\r' ∉ l) :
    let text := sent.flatMap fun r => requestText r.1 r.2
    let requests := sent.map fun r => Outcome.request ⟨r.1, Text.unlines r.2⟩
    (fresh.receive text).outcomes = requests ∧ (fresh.receive text).assembler = fresh ∧
      (fresh.receive text).unread = [] ∧
      (fresh.receive (text ++ ['\n'])).outcomes = requests ++ [.sessionEnd] := by
  intro text requests
  have hlines : Text.lines (Text.unifyBreaks text) = sent.flatMap fun r => requestLines r.1 r.2 := by
    have hall := lines_flatMap_requestText h [] fun l hl => absurd hl List.not_mem_nil
    rw [List.append_nil] at hall
    rw [← hall]
    exact congrArg (fun t => Text.lines (Text.unifyBreaks t)) (List.append_nil text).symm
  have hclosed : Text.lines (Text.unifyBreaks (text ++ ['\n'])) =
      (sent.flatMap fun r => requestLines r.1 r.2) ++ [[]] := by
    apply lines_flatMap_requestText h [[]]
    intro l hl
    rw [List.mem_singleton.1 hl]
    exact ⟨List.not_mem_nil, List.not_mem_nil⟩
  obtain ⟨houtcomes, hlast⟩ := outcomes_flatMap_requestLines fun r hr => (h r hr).1
  -- No request ends the session, so that nothing is cut off and all lines are read.
  have hend : Outcome.sessionEnd ∉ requests := by
    intro hmem
    obtain ⟨r, -, hr⟩ := List.mem_map.1 hmem
    exact nomatch hr
  have hcut : ∀ rest, Outcome.uptoEnd (requests ++ rest) = requests ++ Outcome.uptoEnd rest :=
    Outcome.uptoEnd_append_of_not_mem hend
  have hnone : .sessionEnd ∉ fresh.outcomes (sent.flatMap fun r => requestLines r.1 r.2) := by
    rw [houtcomes]
    exact hend
  obtain ⟨hunread, hassembler⟩ := takeAll_of_not_mem hnone
  unfold receive
  rw [hlines, hclosed]
  refine ⟨?_, hassembler.trans hlast, hunread, ?_⟩
  · have hall := hcut []
    rw [List.append_nil] at hall
    rw [outcomes_takeAll, houtcomes]
    exact hall.trans (List.append_nil requests)
  · rw [outcomes_takeAll, outcomes_append, houtcomes, hlast]
    exact hcut _

/-! ## Writing what was read -/

/-- The flag that is pending can be sent if the lines have no line breaks. -/
lemma isSendable_pending_feed {a : Assembler} (h : ∀ flag ∈ a.pending, isSendable flag = true)
    {line : Text} (hline : '\n' ∉ line ∧ '\r' ∉ line) :
    ∀ flag ∈ (a.feed line).1.pending, isSendable flag = true := by
  rcases a.feed_cases line with ⟨-, -, hfeed⟩ | ⟨_, -, -, hfeed⟩ | ⟨_, -, hfeed⟩ |
      ⟨hne, hhead, hfeed⟩
  · rw [hfeed]
    exact h
  · rw [hfeed]
    exact fun flag hflag => nomatch hflag
  · rw [hfeed]
    exact h
  · rw [hfeed]
    intro flag hflag
    rw [← Option.some.inj hflag]
    exact isSendable_iff.2 ⟨hne, hhead, hline⟩

/-- The pending flag can be sent after any number of such lines. -/
lemma isSendable_pending_feedAll {a : Assembler} (h : ∀ flag ∈ a.pending, isSendable flag = true)
    {ls : List Text} (hls : ∀ l ∈ ls, '\n' ∉ l ∧ '\r' ∉ l) :
    ∀ flag ∈ (a.feedAll ls).pending, isSendable flag = true := by
  induction ls generalizing a with
  | nil => exact h
  | cons l ls ih =>
    apply ih
    · exact isSendable_pending_feed h (hls l List.mem_cons_self)
    · exact fun l' hl' => hls l' (List.mem_cons_of_mem l hl')

/-- The lines that are collected have no line breaks if the lines that are read have none. -/
lemma break_not_mem_buffer_feed {a : Assembler} (h : ∀ l ∈ a.buffer.lines, '\n' ∉ l ∧ '\r' ∉ l)
    {line : Text} (hline : '\n' ∉ line ∧ '\r' ∉ line) :
    ∀ l ∈ (a.feed line).1.buffer.lines, '\n' ∉ l ∧ '\r' ∉ l := by
  have hempty : ∀ l ∈ ({} : Buffer).lines, '\n' ∉ l ∧ '\r' ∉ l := fun l hl => nomatch hl
  rcases a.feed_cases line with ⟨-, -, hfeed⟩ | ⟨_, -, -, hfeed⟩ | ⟨rest, rfl, hfeed⟩ | ⟨-, -, hfeed⟩
  · rw [hfeed]
    exact h
  · rw [hfeed]
    exact hempty
  · rw [hfeed]
    intro l hl
    rw [Buffer.lines_append, List.mem_append, List.mem_singleton] at hl
    rcases hl with hl | rfl
    · exact h l hl
    · exact ⟨fun hm => hline.1 (List.mem_cons_of_mem _ hm),
        fun hm => hline.2 (List.mem_cons_of_mem _ hm)⟩
  · rw [hfeed]
    exact hempty

/-- A line that leads to a request finishes the one in the making. -/
lemma request_of_feed {a : Assembler} {line : Text} {r : Request}
    (h : (a.feed line).2 = some (.request r)) :
    a.pending = some r.language ∧ r.source = a.buffer.source := by
  rcases a.feed_cases line with ⟨-, -, hfeed⟩ | ⟨flag, -, hpending, hfeed⟩ | ⟨_, -, hfeed⟩ |
      ⟨-, -, hfeed⟩
  · rw [hfeed] at h
    exact nomatch h
  · rw [hfeed] at h
    obtain rfl := Outcome.request.inj (Option.some.inj h)
    exact ⟨hpending, rfl⟩
  · rw [hfeed] at h
    exact nomatch h
  · rw [hfeed] at h
    exact nomatch h

/-- A request that is made of lines without line breaks has a flag that can be sent and a source that
consists of such lines. The induction carries this of the request in the making. -/
theorem isSendable_of_mem_outcomes {a : Assembler} {ls : List Text}
    (hpending : ∀ flag ∈ a.pending, isSendable flag = true)
    (hbuffer : ∀ l ∈ a.buffer.lines, '\n' ∉ l ∧ '\r' ∉ l)
    (hls : ∀ l ∈ ls, '\n' ∉ l ∧ '\r' ∉ l) {r : Request} (hr : .request r ∈ a.outcomes ls) :
    isSendable r.language = true ∧
      ∃ code, r.source = Text.unlines code ∧ ∀ l ∈ code, '\n' ∉ l ∧ '\r' ∉ l := by
  induction ls generalizing a with
  | nil => exact absurd hr List.not_mem_nil
  | cons l ls ih =>
    have hl := hls l List.mem_cons_self
    rw [outcomes, List.mem_append, Option.mem_toList] at hr
    rcases hr with hr | hr
    · -- The line finishes the request in the making.
      obtain ⟨hflag, hsource⟩ := request_of_feed hr
      exact ⟨hpending _ hflag, a.buffer.lines, hsource, hbuffer⟩
    · apply ih (isSendable_pending_feed hpending hl) (break_not_mem_buffer_feed hbuffer hl)
      · exact fun l' hl' => hls l' (List.mem_cons_of_mem l hl')
      · exact hr

/-! ## Flags on a line of their own -/

/-- A flag is pending after it was sent on a line of its own exactly if it can be sent. -/
theorem pending_receive_iff {a : Assembler} (h : a.isIdle = true) (flag : Text) :
    (a.receive (flag ++ ['\n'])).assembler.pending = some flag ↔ isSendable flag = true := by
  have hnone : a.pending = none := Option.isNone_iff_eq_none.1 h
  constructor
  · intro hpending
    -- Whatever lines the stream cuts the flag into, what is pending comes of lines without breaks.
    obtain ⟨front, hlines, hlast⟩ := a.exists_front_of_take _
      (Text.lines (Text.unifyBreaks (flag ++ ['\n'])))
    have hfront : ∀ l ∈ front, '\n' ∉ l ∧ '\r' ∉ l := by
      intro l hl
      have hmem : l ∈ Text.lines (Text.unifyBreaks (flag ++ ['\n'])) := by
        rw [hlines]
        exact List.mem_append_left _ hl
      exact Text.break_not_mem_of_mem_lines hmem
    have hstart : ∀ old ∈ a.pending, isSendable old = true := by
      rw [hnone]
      exact fun old hold => nomatch hold
    unfold receive takeAll at hpending
    rw [hlast] at hpending
    exact isSendable_pending_feedAll hstart hfront flag hpending
  · intro hflag
    obtain ⟨hne, hhead, hbreaks⟩ := isSendable_iff.1 hflag
    have hlines : Text.lines (Text.unifyBreaks (flag ++ ['\n'])) = [flag] := by
      have hone : Text.unlines [flag] = flag ++ ['\n'] := List.flatMap_singleton ..
      rw [← hone]
      apply Text.lines_unifyBreaks_unlines
      intro l hl
      rw [List.mem_singleton.1 hl]
      exact hbreaks
    have hfeed : a.feed flag = (⟨some flag, {}⟩, none) := by
      obtain ⟨c, rest, rfl⟩ := List.exists_cons_of_ne_nil hne
      exact feed_declaration a (fun hc => hhead (congrArg some hc)) rest
    have houtcomes : a.outcomes [flag] = [] := by
      rw [outcomes, hfeed]
      rfl
    have hread := takeAll_of_not_mem (houtcomes ▸ List.not_mem_nil)
    unfold receive
    rw [hlines, hread.2, feedAll, hfeed]
    rfl

end Assembler

/-! ## The client and the assembler -/

namespace Client

/-- A call passes the check if its flag can be sent and no line of its code is the terminator. -/
lemma check_eq_ok_iff {client : Client} {flag code : Text} :
    client.check flag code = .ok () ↔
      isSendable (client.rename flag) = true ∧
        client.config.terminator ∉ Text.splitCode code := by
  unfold check
  cases isSendable (client.rename flag) with
  | false => exact ⟨fun h => (nomatch h), fun h => (nomatch h.1)⟩
  | true =>
    rw [if_neg (by decide)]
    by_cases hmem : client.config.terminator ∈ Text.splitCode code
    · rw [if_pos hmem]
      exact ⟨fun h => (nomatch h), fun h => absurd hmem h.2⟩
    · rw [if_neg hmem]
      exact ⟨fun _ => ⟨rfl, hmem⟩, fun _ => rfl⟩

/-- A call is refused for its flag exactly if the flag cannot be sent. -/
lemma check_eq_invalidFlag_iff (client : Client) (flag code : Text) :
    client.check flag code = .error (.invalidFlag (.ofText (client.rename flag))) ↔
      isSendable (client.rename flag) = false := by
  unfold check
  cases isSendable (client.rename flag) with
  | false => exact ⟨fun _ => rfl, fun _ => rfl⟩
  | true =>
    constructor
    · intro h
      rw [if_neg (by decide)] at h
      split at h
      · exact nomatch h
      · exact nomatch h
    · exact fun h => nomatch h

/-- What a client writes and what an assembler reads are inverse to each other. The requests of calls
that pass the check are read as they are, one for each call, and nothing stays behind, so that the
blank line by which the client says goodbye ends the session. A request that was read from any text
at all can be sent, and is read again. A flag is refused exactly if, sent on a line of its own to an
assembler without a declaration, it would not be the pending one. -/
theorem requests_inverse (client : Client) :
    (∀ calls : List (Text × Text), (∀ call ∈ calls, client.check call.1 call.2 = .ok ()) →
      let sent := calls.flatMap fun call => client.request call.1 call.2
      let requests := calls.map fun call =>
        Outcome.request ⟨client.rename call.1, Text.unlines (Text.splitCode call.2)⟩
      let reading := Assembler.fresh.receive sent
      reading.outcomes = requests ∧ reading.assembler = .fresh ∧ reading.unread = [] ∧
        (Assembler.fresh.receive (sent ++ ['\n'])).outcomes = requests ++ [.sessionEnd]) ∧
    (∀ (input : Text) (r : Request),
      .request r ∈ Assembler.fresh.outcomes (Text.lines (Text.unifyBreaks input)) →
        let again := Assembler.fresh.receive (requestText r.language (Text.splitCode r.source))
        isSendable r.language = true ∧ again.outcomes = [.request r] ∧ again.assembler = .fresh ∧
          again.unread = []) ∧
    ∀ (flag code : Text) (a : Assembler), a.isIdle = true →
      (client.check flag code = .error (.invalidFlag (.ofText (client.rename flag))) ↔
        (a.receive (client.rename flag ++ ['\n'])).assembler.pending ≠ some (client.rename flag)) := by
  refine ⟨?_, ?_, ?_⟩
  · intro calls hcalls sent requests reading
    have hwritten : ∀ r ∈ calls.map fun call => (client.rename call.1, Text.splitCode call.2),
        isSendable r.1 = true ∧ ∀ l ∈ r.2, '\n' ∉ l ∧ '\r' ∉ l := by
      intro r hr
      obtain ⟨call, hcall, rfl⟩ := List.mem_map.1 hr
      refine ⟨(check_eq_ok_iff.1 (hcalls call hcall)).1, fun l hl => ?_⟩
      exact ⟨Text.lf_not_mem_of_mem_splitCode hl, Text.cr_not_mem_of_mem_splitCode hl⟩
    have hread := Assembler.receive_requests hwritten
    rw [List.flatMap_map, List.map_map] at hread
    exact hread
  · intro input r hr again
    have hlines : ∀ l ∈ Text.lines (Text.unifyBreaks input), '\n' ∉ l ∧ '\r' ∉ l :=
      fun l hl => Text.break_not_mem_of_mem_lines hl
    have hrequest := Assembler.isSendable_of_mem_outcomes (a := .fresh)
      (fun _ hflag => nomatch hflag) (fun _ hl => nomatch hl) hlines hr
    obtain ⟨hflag, code, hsource, hcode⟩ := hrequest
    have hsplit : Text.splitCode r.source = code := by
      rw [hsource, Text.splitCode_unlines hcode]
    have hwritten : ∀ s ∈ [(r.language, code)],
        isSendable s.1 = true ∧ ∀ l ∈ s.2, '\n' ∉ l ∧ '\r' ∉ l := by
      intro s hs
      rw [List.mem_singleton.1 hs]
      exact ⟨hflag, hcode⟩
    have hread := Assembler.receive_requests hwritten
    rw [List.flatMap_singleton, List.map_singleton, ← hsource, ← hsplit] at hread
    obtain ⟨houtcomes, hassembler, hunread, -⟩ := hread
    exact ⟨hflag, houtcomes, hassembler, hunread⟩
  · intro flag code a hidle
    have hpending := Assembler.pending_receive_iff hidle (client.rename flag)
    rw [check_eq_invalidFlag_iff, Ne, hpending, Bool.not_eq_true]

/-- A renamed flag with code of several kinds of line breaks and one without code are read as they
were written. The last request of a text is read again, though a session ended before it and it came
with stray code. A carriage return at the end of a flag would be taken for a line break. -/
theorem requests_inverse_renamed :
    let client : Client :=
      { config := .default, renames := .ofList [("prose".toList, "text".toList)] }
    let calls := [("prose".toList, "a\r\tb\r\n\n".toList), ("c".toList, [])]
    let last : Request := ⟨"c".toList, "x y\n".toList⟩
    (Assembler.fresh.receive (calls.flatMap fun call => client.request call.1 call.2)).outcomes =
        [.request ⟨"text".toList, "a\n\tb\n\n".toList⟩, .request ⟨"c".toList, []⟩] ∧
      (Assembler.fresh.receive (requestText last.language (Text.splitCode last.source))).outcomes =
        [.request last] ∧
      client.check "c\r".toList [] = .error (.invalidFlag (.ofText "c\r".toList)) := by
  intro client calls last
  obtain ⟨hwrite, hread, hflag⟩ := client.requests_inverse
  have hcalls : ∀ call ∈ calls, client.check call.1 call.2 = .ok () := by
    intro call hcall
    rcases List.mem_cons.1 hcall with rfl | hcall
    · exact eq_ok_of_toOption (by decide +kernel)
    · rw [List.mem_singleton.1 hcall]
      exact eq_ok_of_toOption (by decide +kernel)
  have hlast : .request last ∈ Assembler.fresh.outcomes
      (Text.lines (Text.unifyBreaks "a\n\n\n\tb\r\nc\r\tx y\r\n\r".toList)) := by decide +kernel
  refine ⟨?_, (hread _ last hlast).2.1, ?_⟩
  · exact (hwrite calls hcalls).1.trans (by decide +kernel)
  · exact (hflag "c\r".toList [] ⟨none, ⟨["b".toList]⟩⟩ rfl).2 (by decide +kernel)

end Client

end LineHighlight
