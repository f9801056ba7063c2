import LineHighlight.Proofs.Client.System

/-!
# What is still to come

Whatever the interleaving of a client and the program, what the client will have read in the end depends
on the state alone: `System.coming` is the text that is still to come and `System.final` what the program
will be once it has read what is on its way. Neither changes by a move of the program, and the client
takes the first line of what is to come (`readLine_spec`).
-/

namespace LineHighlight

open CommandLine Connection

/-! ## Lines for a process -/

namespace Piped

/-- A process that has exited takes no notice. -/
lemma feedLines_exited (status : Int) (ls : List Text) :
    feedLines (.exited status) ls = ([], .exited status) := by
  induction ls with
  | nil => rfl
  | cons l ls ih => rw [feedLines_cons, Process.feed, ih]; rfl

/-- More lines are handed over to what the first ones led to. -/
lemma feedLines_append (p : Process) (ls more : List Text) :
    feedLines p (ls ++ more) =
      ((feedLines p ls).1 ++ (feedLines (feedLines p ls).2 more).1,
        (feedLines (feedLines p ls).2 more).2) := by
  induction ls generalizing p with
  | nil => rfl
  | cons l ls ih => rw [List.cons_append, feedLines_cons, feedLines_cons, ih, List.append_assoc]

end Piped

namespace System

/-! ## The outlook -/

/-- What the program will make of the text on its way to it. -/
def future (st : System) : Text × Process :=
  Piped.feedLines st.process (Text.lines (Text.unifyBreaks (st.requests ++ st.activity.unsent)))

/-- The text that the client has yet to read: what the program has written, what it is about to write
and what it will write when it has read what is on its way. -/
def coming (st : System) : Text :=
  st.outlet.sent ++ st.outlet.held ++ st.todo.output ++ st.future.1

/-- The program once it has read what is on its way. -/
def final (st : System) : Process := st.future.2

lemma future_of_exited {st : System} {status : Int} (h : st.process = .exited status) :
    st.future = ([], .exited status) := by
  unfold future
  rw [h, Piped.feedLines_exited]

/-- The outlook does not depend on which part of a text was written. -/
lemma future_congr {st st' : System} (hprocess : st'.process = st.process)
    (hrequests : st'.requests ++ st'.activity.unsent = st.requests ++ st.activity.unsent) :
    st'.future = st.future := by
  unfold future
  rw [hrequests, hprocess]

lemma coming_congr {st st' : System} (hfuture : st'.future = st.future) (htodo : st'.todo = st.todo)
    (houtlet : st'.outlet = st.outlet) : st'.coming = st.coming := by
  unfold coming
  rw [hfuture, htodo, houtlet]

/-- The program is seen to have exited when there is nothing left for it to do. -/
lemma status?_eq_some_iff {st : System} {status : Int} :
    st.status? = some status ↔
      st.process = .exited status ∧ st.todo = [] ∧ st.outlet.held = [] := by
  unfold status?
  constructor
  · intro h
    split at h
    · rename_i hdone
      cases hprocess : st.process with
      | serving session =>
        rw [hprocess] at h
        exact nomatch h
      | exited status' =>
        rw [hprocess] at h
        exact ⟨congrArg _ (Option.some.inj h), hdone⟩
    · exact nomatch h
  · rintro ⟨hprocess, hdone⟩
    rw [if_pos hdone, hprocess]
    rfl

lemma process_of_status? {st : System} {status : Int} (h : st.status? = some status) :
    st.process.status? = some status := by
  rw [(status?_eq_some_iff.1 h).1]
  rfl

/-- A program that has exited has nothing to come but what it has passed on. -/
lemma coming_of_status? {st : System} {status : Int} (h : st.status? = some status) :
    st.coming = st.outlet.sent := by
  obtain ⟨hprocess, htodo, hheld⟩ := status?_eq_some_iff.1 h
  unfold coming
  rw [htodo, hheld, future_of_exited hprocess, List.append_nil]
  exact (List.append_nil _).trans (List.append_nil _)

/-! ## Moves of the program -/

/-- What the program does next was to come before. -/
lemma coming_perform {st : System} {e : Event} {rest : Trace} (h : st.todo = e :: rest) :
    (st.perform e rest).coming = st.coming := by
  have hnext : (st.outlet.after e).sent ++ (st.outlet.after e).held =
      st.outlet.sent ++ st.outlet.held ++ Trace.output [e] := Trace.sent_append_held st.outlet [e]
  have hall : Trace.output (e :: rest) = Trace.output [e] ++ Trace.output rest :=
    Trace.output_append [e] rest
  show (st.outlet.after e).sent ++ (st.outlet.after e).held ++ Trace.output rest ++ st.future.1 = _
  unfold coming
  rw [hnext, h, hall, List.append_assoc (_ ++ _) (Trace.output [e])]

/-- What comes of a line that is read was to come before. -/
lemma future_readRequest {st : System} {session : Session} {line rest : Text}
    (hprocess : st.process = .serving session)
    (hnext : Text.nextLine? st.inputClosed st.requests = some (line, rest))
    (hclosed : st.inputClosed = true → st.activity.unsent = []) :
    st.future =
      ((session.server.feed session.state (Text.stripTerminator line)).trace.output ++
          (st.readRequest session line rest).future.1,
        (st.readRequest session line rest).final) := by
  have hlines : Text.lines (Text.unifyBreaks (st.requests ++ st.activity.unsent)) =
      Text.stripTerminator line :: Text.lines (Text.unifyBreaks (rest ++ st.activity.unsent)) := by
    unfold Text.lines
    rw [Text.rawLines_of_nextLine? hnext hclosed, List.map_cons]
  unfold future
  rw [hlines, Piped.feedLines_cons, hprocess]
  rfl

lemma coming_readRequest {st : System} {session : Session} {line rest : Text} (htodo : st.todo = [])
    (hprocess : st.process = .serving session)
    (hnext : Text.nextLine? st.inputClosed st.requests = some (line, rest))
    (hclosed : st.inputClosed = true → st.activity.unsent = []) :
    (st.readRequest session line rest).coming = st.coming := by
  unfold coming
  rw [future_readRequest hprocess hnext hclosed, htodo]
  show st.outlet.sent ++ st.outlet.held ++ _ ++ _ = st.outlet.sent ++ st.outlet.held ++ [] ++ _
  rw [List.append_nil, List.append_assoc]
  rfl

/-- What is passed on early was to come before. -/
lemma coming_spill {st : System} {c : Char} {rest : Text} (h : st.outlet.held = c :: rest) :
    coming { st with outlet := ⟨st.outlet.sent ++ [c], rest⟩ } = st.coming := by
  show st.outlet.sent ++ [c] ++ rest ++ st.todo.output ++ st.future.1 = _
  unfold coming
  rw [h, List.append_assoc st.outlet.sent, List.singleton_append]

/-! ## Lines for the client -/

/-- The client takes the first line of what is to come. -/
theorem readLine_spec {st next : System} {line : Text} (h : st.readLine = some (line, next)) :
    received st.coming = line :: received next.coming ∧
      (∃ front, front ≠ [] ∧ st.coming = front ++ next.coming) ∧
      ∃ rest, next = { st with outlet := { st.outlet with sent := rest } } := by
  obtain ⟨⟨line', rest⟩, hnext, hfound⟩ := Option.map_eq_some_iff.1 h
  obtain ⟨rfl, rfl⟩ := Prod.mk.inj hfound
  dsimp only at hnext ⊢
  -- Behind what was passed on there is something to come only if the program has not exited.
  obtain ⟨more, hmore, hended⟩ : ∃ more,
      (∀ sent, coming { st with outlet := { st.outlet with sent := sent } } = sent ++ more) ∧
        (st.status?.isSome = true → more = []) := by
    refine ⟨st.outlet.held ++ st.todo.output ++ st.future.1, fun sent => ?_, fun hstatus => ?_⟩
    · show sent ++ st.outlet.held ++ st.todo.output ++ st.future.1 = _
      simp only [List.append_assoc]
    · obtain ⟨status, hstatus⟩ := Option.isSome_iff_exists.1 hstatus
      have hcoming := coming_of_status? hstatus
      unfold coming at hcoming
      rw [List.append_assoc, List.append_assoc, List.append_right_eq_self] at hcoming
      rw [List.append_assoc]
      exact hcoming
  have hall : st.coming = st.outlet.sent ++ more := hmore st.outlet.sent
  obtain ⟨front, hfront, hsent⟩ := Text.exists_of_nextLine? hnext
  rw [hall, hmore rest]
  refine ⟨Text.rawLines_of_nextLine? hnext hended, ⟨front, hfront, ?_⟩, rest, rfl⟩
  rw [hsent, List.append_assoc]

end System
end LineHighlight
