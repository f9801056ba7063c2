import LineHighlight.Proofs.Client.Deadlock

/-!
# Calls come back

A client in a call and the program can always go on (`Sound.exists_act`), and they cannot go on forever:
every move takes the client further in its call, or brings the request nearer to the program, or what
the program writes nearer to the client (`decreases`). So whatever moves are made, the call comes back
(`inevitably_rests`).
-/

namespace LineHighlight

open CommandLine Connection

/-! ## Distances -/

namespace Activity

/-- No call is being made, and perhaps none will be. -/
def isResting : Activity → Bool
  | idle | gone => true
  | _ => false

/-- How far the client is from the end of its call. -/
def stage : Activity → Nat
  | idle | gone => 0
  | reading .. | leaving => 1
  | sending .. | parting _ => 2
  | greeting _ => 3

lemma stage_pos_of_subject? {a : Activity} {subject : Text × Text} (h : a.subject? = some subject) :
    0 < a.stage := by
  cases a with
  | sending | reading => exact Nat.succ_pos _
  | _ => exact nomatch h

end Activity

/-- The way that is left to what is about to be done. -/
def Trace.outbound : Trace → Nat
  | [] => 0
  | .write t :: rest => 2 * t.length + 1 + outbound rest
  | _ :: rest => 1 + outbound rest

namespace System

/-- The way that is left to a request, and to the exit of the program. -/
def inbound (st : System) : Nat :=
  2 * st.activity.unsent.length + st.requests.length + if st.process.status? = none then 1 else 0

/-- The way that is left to what the program writes. -/
def outbound (st : System) : Nat :=
  st.todo.outbound + 2 * st.outlet.held.length + st.outlet.sent.length

/-- The second state is nearer to the end of a call than the first one. -/
def Nearer (st st' : System) : Prop :=
  st'.activity.stage < st.activity.stage ∨
    st'.activity.stage = st.activity.stage ∧
      (st'.inbound < st.inbound ∨ st'.inbound = st.inbound ∧ st'.outbound < st.outbound)

variable {st st' : System}

/-- A character on its way to the program comes nearer to it. -/
lemma inbound_put {c : Char} (rest : Text) (h : st.activity.unsent = c :: rest) (activity : Activity)
    (hactivity : activity.unsent = rest) : (st.put c activity).inbound < st.inbound := by
  show 2 * activity.unsent.length + (st.requests ++ [c]).length + _ < _
  unfold inbound
  rw [h, hactivity, List.length_append, List.length_singleton, List.length_cons]
  show _ + (if st.process.status? = none then 1 else 0) < _
  omega

/-- The first line is the last thing that a client reads in some calls, and in others the first thing
before it sends a request. -/
lemma stage_greet (st : System) (call : Call) (line : Text) :
    (st.greet call line).activity.stage < 3 := by
  unfold greet
  split
  · exact Nat.succ_pos _
  · split
    · exact Nat.lt_succ_self 2
    · exact Nat.succ_pos _

/-- What is done is behind the program, and what it wrote is nearer to the client. -/
lemma outbound_perform {e : Event} {rest : Trace} (h : st.todo = e :: rest) :
    (st.perform e rest).outbound < st.outbound := by
  show rest.outbound + 2 * (st.outlet.after e).held.length + (st.outlet.after e).sent.length < _
  unfold outbound
  rw [h]
  cases e with
  | read | log =>
    show _ + 2 * st.outlet.held.length + st.outlet.sent.length < 1 + rest.outbound + _ + _
    omega
  | write t =>
    show _ + 2 * (st.outlet.held ++ t).length + st.outlet.sent.length <
      2 * t.length + 1 + rest.outbound + _ + _
    rw [List.length_append]
    omega
  | flush =>
    show _ + 2 * 0 + (st.outlet.sent ++ st.outlet.held).length < 1 + rest.outbound + _ + _
    rw [List.length_append]
    omega

/-- A client in a call and the program come nearer to the end of the call by every move. -/
theorem decreases (hmove : Move st st') (hcalls : st.activity.isResting = false) :
    Nearer st st' := by
  -- The client gets on with its call, or else what is on its way gets on in one of the pipes.
  cases hmove with
  | call call hidle =>
    rw [hidle] at hcalls
    exact nomatch hcalls
  | greet call line next hactivity hread =>
    refine .inl ?_
    rw [hactivity]
    exact next.stage_greet call line
  | ungreeted call status hactivity hstatus =>
    refine .inl ?_
    rw [hactivity]
    exact Nat.succ_pos _
  | put flag code c rest hactivity hstatus =>
    refine .inr ⟨?_, .inl (inbound_put rest ?_ _ rfl)⟩
    · rw [hactivity]
      rfl
    · rw [hactivity]
      rfl
  | sent flag code hactivity =>
    refine .inl ?_
    rw [hactivity]
    exact Nat.lt_succ_self 1
  | readOn flag code before line next hactivity hread =>
    obtain ⟨found, hnext, hfound⟩ := Option.map_eq_some_iff.1 hread
    obtain ⟨rfl, rfl⟩ := Prod.mk.inj hfound
    obtain ⟨front, hfront, hsent⟩ := Text.exists_of_nextLine? hnext
    unfold readOn
    split
    · -- A line that was in the pipe is not there any more.
      refine .inr ⟨?_, .inr ⟨?_, ?_⟩⟩
      · rw [hactivity]
        rfl
      · unfold inbound
        rw [hactivity]
        rfl
      · have hpos := List.length_pos_iff.2 hfront
        show st.todo.outbound + 2 * st.outlet.held.length + found.2.length < _
        unfold outbound
        rw [hsent, List.length_append]
        omega
    · refine .inl ?_
      rw [hactivity]
      exact Nat.succ_pos _
  | lose flag code status hsubject hstatus => exact .inl (Activity.stage_pos_of_subject? hsubject)
  | putBlank c rest hactivity hstatus =>
    refine .inr ⟨?_, .inl (inbound_put rest ?_ _ rfl)⟩
    · rw [hactivity]
      rfl
    · rw [hactivity]
      rfl
  | hangUp rest hactivity hdone =>
    refine .inl ?_
    rw [hactivity]
    exact Nat.lt_succ_self 1
  | depart status hactivity hstatus =>
    refine .inl ?_
    rw [hactivity]
    exact Nat.succ_pos _
  | perform e rest htodo => exact .inr ⟨rfl, .inr ⟨rfl, outbound_perform htodo⟩⟩
  | readRequest session line rest htodo hprocess hnext =>
    refine .inr ⟨rfl, .inl ?_⟩
    obtain ⟨front, hfront, hrequests⟩ := Text.exists_of_nextLine? hnext
    have hpos := List.length_pos_iff.2 hfront
    have hserves : st.process.status? = none := by
      rw [hprocess]
      rfl
    unfold inbound
    rw [hserves, if_pos rfl, hrequests, List.length_append]
    show 2 * st.activity.unsent.length + rest.length + _ < _
    split <;> omega
  | readEnd session htodo hprocess hclosed hrequests =>
    refine .inr ⟨rfl, .inl ?_⟩
    have hserves : st.process.status? = none := by
      rw [hprocess]
      rfl
    unfold inbound
    rw [hserves, if_pos rfl]
    exact Nat.lt_succ_self _
  | spill c rest hheld =>
    refine .inr ⟨rfl, .inr ⟨rfl, ?_⟩⟩
    show st.todo.outbound + 2 * rest.length + (st.outlet.sent ++ [c]).length < _
    unfold outbound
    rw [hheld, List.length_append, List.length_singleton, List.length_cons]
    omega

/-! ## Going on -/

/-- A program that cannot go on, and is not seen to have exited, waits for a line. -/
lemma serverWaits_of_stuck (hstatus : st.status? = none) (hserver : st.serverStep = none)
    (hspill : st.spill = none) : st.ServerWaits ∧ st.inputClosed = false := by
  unfold serverStep at hserver
  cases htodo : st.todo with
  | cons e rest =>
    rw [htodo] at hserver
    cases hserver
  | nil =>
    rw [htodo] at hserver
    dsimp only at hserver
    cases hprocess : st.process with
    | exited status =>
      have hheld : st.outlet.held = [] := by
        unfold spill at hspill
        split at hspill
        · assumption
        · cases hspill
      cases hstatus.symm.trans (status?_eq_some_iff.2 ⟨hprocess, htodo, hheld⟩)
    | serving session =>
      rw [hprocess] at hserver
      dsimp only at hserver
      cases hnext : Text.nextLine? st.inputClosed st.requests with
      | some found =>
        rw [hnext] at hserver
        cases hserver
      | none =>
        rw [hnext] at hserver
        dsimp only at hserver
        split at hserver
        · cases hserver
        · rename_i hopen
          refine ⟨⟨?_, htodo, hnext⟩, eq_false_of_ne_true hopen⟩
          rw [hprocess]
          rfl

/-- Some move can be made as long as a call is being made. -/
theorem Sound.exists_act {client : Client} {s : Server Cache} {logging : Logging}
    (h : Sound client s logging st) (hcalls : st.activity.isResting = false) :
    ∃ action next, st.act action = some next := by
  -- If no move could be made, the client and the program would wait for each other.
  by_contra hstuck
  have hnone : ∀ action, st.act action = none := by
    intro action
    by_contra hsome
    obtain ⟨next, hnext⟩ := Option.ne_none_iff_exists'.1 hsome
    exact hstuck ⟨action, next, hnext⟩
  have hclient : st.clientStep = none := hnone .client
  unfold clientStep at hclient
  cases hactivity : st.activity with
  | idle | gone =>
    rw [hactivity] at hcalls
    exact nomatch hcalls
  | sending flag code rest =>
    rw [hactivity] at hclient
    cases rest with
    | nil => exact nomatch hclient
    | cons c rest =>
      dsimp only at hclient
      split at hclient <;> exact nomatch hclient
  | parting rest =>
    rw [hactivity] at hclient
    cases rest with
    | nil => exact nomatch hclient
    | cons c rest =>
      dsimp only at hclient
      split at hclient <;> exact nomatch hclient
  | greeting call =>
    rw [hactivity] at hclient
    dsimp only at hclient
    split at hclient
    · exact nomatch hclient
    · rename_i hline
      have hstatus := Option.map_eq_none_iff.1 hclient
      obtain ⟨hwaits, -⟩ := serverWaits_of_stuck hstatus (hnone .server) (hnone .spill)
      exact h.not_waits ⟨⟨by rw [hactivity]; rfl, hline⟩, hwaits⟩
  | reading flag code before =>
    rw [hactivity] at hclient
    dsimp only at hclient
    split at hclient
    · exact nomatch hclient
    · rename_i hline
      have hstatus := Option.map_eq_none_iff.1 hclient
      obtain ⟨hwaits, -⟩ := serverWaits_of_stuck hstatus (hnone .server) (hnone .spill)
      exact h.not_waits ⟨⟨by rw [hactivity]; rfl, hline⟩, hwaits⟩
  | leaving =>
    rw [hactivity] at hclient
    have hstatus := Option.map_eq_none_iff.1 hclient
    obtain ⟨-, hopen⟩ := serverWaits_of_stuck hstatus (hnone .server) (hnone .spill)
    have hclosed := h.tracks.closed
    rw [hactivity, hopen] at hclosed
    exact nomatch hclosed

/-! ## Coming back -/

/-- Whatever moves are made, a state with some property is reached. -/
inductive Inevitably (P : System → Prop) : System → Prop
  | now {st : System} : P st → Inevitably P st
  | later {st : System} : (∃ action next, st.act action = some next) →
      (∀ action next, st.act action = some next → Inevitably P next) → Inevitably P st

/-- What a state with a property has is reached if the property is. -/
lemma Inevitably.imp {P Q : System → Prop} (himp : ∀ st, P st → Q st) {st : System}
    (h : Inevitably P st) : Inevitably Q st := by
  induction h with
  | now hnow => exact .now (himp _ hnow)
  | later hcan _ ih => exact .later hcan ih

/-- What every move preserves holds when the call comes back, and the call comes back whatever moves
are made. -/
theorem inevitably_rests {client : Client} {s : Server Cache} {logging : Logging} {P : System → Prop}
    (hagrees : Agrees client s) (hmove : ∀ {st st'}, P st → Move st st' → P st') {st : System}
    (hsound : Sound client s logging st) (h : P st) :
    Inevitably (fun st => st.activity.isResting = true ∧ P st) st := by
  cases hcalls : st.activity.isResting with
  | true => exact .now ⟨hcalls, h⟩
  | false =>
    -- The recursion ends because every move brings the end of the call nearer.
    refine .later (hsound.exists_act hcalls) fun action next hnext => ?_
    have hmoved := move_of_act hnext
    have hnearer := decreases hmoved hcalls
    exact inevitably_rests hagrees hmove (sound_move hagrees hsound hmoved) (hmove h hmoved)
termination_by (st.activity.stage, st.inbound, st.outbound)
decreasing_by
  rw [Prod.lex_def, Prod.lex_def]
  exact hnearer

end System
end LineHighlight
