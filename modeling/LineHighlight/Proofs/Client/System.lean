import LineHighlight.Proofs.Client.Launch
import LineHighlight.Proofs.Server.Flushes
import LineHighlight.Proofs.Text.Growing

/-!
# A client and the program side by side

`Connection` has the program answer in one go what it is sent. Here both run at their own pace, with an
unbounded pipe in each direction: the client sends character by character and reads line by line, the
program reads a line when one is complete, holds back what it writes until it flushes or its buffer runs
over, and is seen to have exited when it has written everything. `System.act` is one move of one side;
a list of moves is an interleaving of the two. `Move` lists what a move can do, so that what every move
preserves holds after all moves (`invariant_after`).
-/

namespace LineHighlight

open CommandLine Connection

/-! ## States -/

/-- What a client is doing. -/
inductive Activity where
  /-- No call is being made. -/
  | idle
  /-- It waits for the ready line, for its own sake or before it sends a request. -/
  | greeting (call : Call)
  /-- It has yet to write the rest of a request. -/
  | sending (flag code rest : Text)
  /-- It has read some lines of an answer, the newest first. -/
  | reading (flag code : Text) (before : List Text)
  /-- It has yet to write the rest of the blank line that ends the session. -/
  | parting (rest : Text)
  /-- It has closed the program's input and waits for its exit, as long as it takes. -/
  | leaving
  | gone
  deriving DecidableEq

/-- What the client has yet to write. -/
def Activity.unsent : Activity → Text
  | sending _ _ rest | parting rest => rest
  | _ => []

/-- What is being sent, or has been sent and is not answered. -/
def Activity.subject? : Activity → Option (Text × Text)
  | sending flag code _ | reading flag code _ => some (flag, code)
  | _ => none

/-- The client is ending the session or has ended it. -/
def Activity.isClosing : Activity → Bool
  | parting _ | leaving | gone => true
  | _ => false

/-- A client and the program with the pipes between them. -/
structure System where
  client : Client
  activity : Activity := .idle
  /-- The calls that have come back, the first one first, and how. -/
  history : List (Call × Reply Result) := []
  /-- Written by the client and not read by the program. -/
  requests : Text := []
  inputClosed : Bool := false
  process : Process
  /-- What the program does before it asks for another line or exits. -/
  todo : Trace
  /-- Passed on by the program and not read by the client, and held back by the program. -/
  outlet : Outlet := {}

/-- What a client makes of a program that has exited while it was waiting for an answer. -/
def Failure.ofExit (flag : Text) (status : Int) : Failure :=
  if status = 1 then .answer (.unknownLanguage flag) else .protocol (.exited status)

namespace System

/-- The client and the program started with some words. -/
def launch (there : Installation) (words : List Text) (client : Client) : System where
  client := client
  process := (Process.launch there words).1
  todo :=
    match plan words with
    | .ok (.serve config _) =>
      match Server.configured there config with
      | .ok server => (server.start []).trace
      | .error _ => []
    | _ => [.write (Process.launch there words).2.stdout]

/-- The exit status of the program, once it has written everything. -/
def status? (st : System) : Option Int :=
  if st.todo = [] ∧ st.outlet.held = [] then st.process.status? else none

/-! ## Moves of the client -/

/-- The call comes back. -/
def finish (st : System) (call : Call) (reply : Reply Result) : System :=
  { st with activity := .idle, history := st.history ++ [(call, reply)] }

/-- The request of a call is to be written. -/
def send (st : System) (flag code : Text) : System :=
  { st with activity := .sending flag code (st.client.request flag code) }

/-- A character of the activity is written. -/
def put (st : System) (c : Char) (activity : Activity) : System :=
  { st with requests := st.requests ++ [c], activity := activity }

/-- The input of the program is closed. -/
def hangUp (st : System) : System := { st with activity := .leaving, inputClosed := true }

/-- A call is made. -/
def call (st : System) (call : Call) : System :=
  match call with
  | .waitReady =>
    if st.client.greeted then st.finish call (.value .nothing)
    else { st with activity := .greeting call }
  | .highlight flag code =>
    match st.client.check flag code with
    | .error cause => st.finish call (.failure (.refused cause))
    | .ok () =>
      if st.client.greeted then st.send flag code else { st with activity := .greeting call }
  | .close => if st.status?.isSome then st.hangUp else { st with activity := .parting ['\n'] }
  | .returncode => st.finish call (.value (.status st.status?))

/-- The next line for the client, and the state in which it is read. -/
def readLine (st : System) : Option (Text × System) :=
  (Text.nextLine? st.status?.isSome st.outlet.sent).map fun found =>
    (found.1, { st with outlet := { st.outlet with sent := found.2 } })

/-- The first line is the one that the client waits for, or it is not. -/
def greet (st : System) (call : Call) (line : Text) : System :=
  match st.client.greet line with
  | .error cause => st.finish call (.failure (.protocol cause))
  | .ok client =>
    match call with
    | .highlight flag code => { st with client := client }.send flag code
    | _ => { st with client := client }.finish call (.value .nothing)

/-- A line is the end of an answer, or it belongs to the answer. -/
def readOn (st : System) (flag code : Text) (before : List Text) (line : Text) : System :=
  match readAnswerLine st.client.config.terminator before line with
  | .inl before => { st with activity := .reading flag code before }
  | .inr markup => st.finish (.highlight flag code) (.value (.markup markup))

/-- The client finds that the program has exited. -/
def lose (st : System) (flag code : Text) (status : Int) : System :=
  st.finish (.highlight flag code) (.failure (.ofExit (st.client.rename flag) status))

/-- The session is over. -/
def depart (st : System) (status : Int) : System :=
  { st.finish .close (.value (.status (some status))) with activity := .gone }

/-- A move of the client in a call. -/
def clientStep (st : System) : Option System :=
  match st.activity with
  | .idle | .gone => none
  | .greeting call =>
    match st.readLine with
    | some (line, st) => some (st.greet call line)
    | none => st.status?.map fun _ => st.finish call (.failure (.protocol .exitedBeforeReady))
  | .sending flag code [] => some { st with activity := .reading flag code [] }
  | .sending flag code (c :: rest) =>
    match st.status? with
    | some status => some (st.lose flag code status)
    | none => some (st.put c (.sending flag code rest))
  | .reading flag code before =>
    match st.readLine with
    | some (line, st) => some (st.readOn flag code before line)
    | none => st.status?.map (st.lose flag code)
  | .parting [] => some st.hangUp
  | .parting (c :: rest) =>
    match st.status? with
    | some _ => some st.hangUp
    | none => some (st.put c (.parting rest))
  | .leaving => st.status?.map st.depart

/-! The client leaves the program alone. -/

lemma process_call (st : System) (call : Call) : (st.call call).process = st.process := by
  unfold System.call
  split
  · split <;> rfl
  · split
    · rfl
    · split <;> rfl
  · split <;> rfl
  · rfl

lemma process_of_readLine {st next : System} {line : Text} (h : st.readLine = some (line, next)) :
    next.process = st.process := by
  obtain ⟨found, -, hfound⟩ := Option.map_eq_some_iff.1 h
  exact (congrArg process (Prod.mk.inj hfound).2).symm

lemma process_greet (st : System) (call : Call) (line : Text) :
    (st.greet call line).process = st.process := by
  unfold greet
  split
  · rfl
  · split <;> rfl

lemma process_readOn (st : System) (flag code : Text) (before : List Text) (line : Text) :
    (st.readOn flag code before line).process = st.process := by
  unfold readOn
  split <;> rfl

/-! ## Moves of the program -/

/-- The program does the next thing. -/
def perform (st : System) (e : Event) (rest : Trace) : System :=
  { st with todo := rest, outlet := st.outlet.after e }

/-- The program reads a line and turns to what the line leads to. -/
def readRequest (st : System) (session : Session) (line rest : Text) : System :=
  { st with
    requests := rest
    process := (Process.feed (Text.stripTerminator line) (.serving session)).1
    todo := (session.server.feed session.state (Text.stripTerminator line)).trace }

/-- The program finds the end of its input. -/
def readEnd (st : System) (session : Session) : System :=
  { st with
    process := (Process.closeInput (.serving session)).1
    todo := Trace.ofNotes (Server.closingNotes session.state) }

/-- A move of the program. -/
def serverStep (st : System) : Option System :=
  match st.todo with
  | e :: rest => some (st.perform e rest)
  | [] =>
    match st.process with
    | .exited _ => none
    | .serving session =>
      match Text.nextLine? st.inputClosed st.requests with
      | some (line, rest) => some (st.readRequest session line rest)
      | none => if st.inputClosed then some (st.readEnd session) else none

/-- The program's buffer runs over. -/
def spill (st : System) : Option System :=
  match st.outlet.held with
  | [] => none
  | c :: rest => some { st with outlet := ⟨st.outlet.sent ++ [c], rest⟩ }

/-! ## Interleavings -/

/-- The moves of the two sides. -/
inductive Action where
  | call (c : Call)
  | client
  | server
  | spill
  deriving DecidableEq

/-- A move, if it can be made. A call can be made if no other one is being made. -/
def act (st : System) : Action → Option System
  | .call call => if st.activity = .idle then some (st.call call) else none
  | .client => st.clientStep
  | .server => st.serverStep
  | .spill => st.spill

/-- Moves one after another, if all of them can be made. -/
def after (st : System) (actions : List Action) : Option System := actions.foldlM act st

/-! ## What a move can be -/

/-- The moves that lead from a state, with what there was to make them. -/
inductive Move (st : System) : System → Prop
  | call (call : Call) : st.activity = .idle → Move st (st.call call)
  | greet (call : Call) (line : Text) (next : System) :
      st.activity = .greeting call → st.readLine = some (line, next) →
      Move st (next.greet call line)
  | ungreeted (call : Call) (status : Int) :
      st.activity = .greeting call → st.status? = some status →
      Move st (st.finish call (.failure (.protocol .exitedBeforeReady)))
  | put (flag code : Text) (c : Char) (rest : Text) : st.activity = .sending flag code (c :: rest) →
      st.status? = none → Move st (st.put c (.sending flag code rest))
  | sent (flag code : Text) : st.activity = .sending flag code [] →
      Move st { st with activity := .reading flag code [] }
  | readOn (flag code : Text) (before : List Text) (line : Text) (next : System) :
      st.activity = .reading flag code before → st.readLine = some (line, next) →
      Move st (next.readOn flag code before line)
  | lose (flag code : Text) (status : Int) : st.activity.subject? = some (flag, code) →
      st.status? = some status → Move st (st.lose flag code status)
  | putBlank (c : Char) (rest : Text) : st.activity = .parting (c :: rest) → st.status? = none →
      Move st (st.put c (.parting rest))
  | hangUp (rest : Text) : st.activity = .parting rest → rest = [] ∨ st.status?.isSome →
      Move st st.hangUp
  | depart (status : Int) : st.activity = .leaving → st.status? = some status →
      Move st (st.depart status)
  | perform (e : Event) (rest : Trace) : st.todo = e :: rest → Move st (st.perform e rest)
  | readRequest (session : Session) (line rest : Text) : st.todo = [] →
      st.process = .serving session →
      Text.nextLine? st.inputClosed st.requests = some (line, rest) →
      Move st (st.readRequest session line rest)
  | readEnd (session : Session) : st.todo = [] → st.process = .serving session →
      st.inputClosed = true → st.requests = [] → Move st (st.readEnd session)
  | spill (c : Char) (rest : Text) : st.outlet.held = c :: rest →
      Move st { st with outlet := ⟨st.outlet.sent ++ [c], rest⟩ }

/-- Every move is one of these. -/
theorem move_of_act {st st' : System} {action : Action} (h : st.act action = some st') :
    Move st st' := by
  cases action with
  | call call =>
    by_cases hidle : st.activity = .idle
    · have hcall : some (st.call call) = some st' := (if_pos hidle).symm.trans h
      exact Option.some.inj hcall ▸ .call call hidle
    · have hnone : none = some st' := (if_neg hidle).symm.trans h
      exact nomatch hnone
  | client =>
    have h : st.clientStep = some st' := h
    -- What the client is doing decides on its move, and so does what it finds in the pipe.
    unfold clientStep at h
    cases hactivity : st.activity with
    | idle | gone =>
      rw [hactivity] at h
      exact nomatch h
    | greeting call =>
      rw [hactivity] at h
      cases hline : st.readLine with
      | some found =>
        rw [hline] at h
        exact Option.some.inj h ▸ .greet call found.1 found.2 hactivity hline
      | none =>
        rw [hline] at h
        obtain ⟨status, hstatus, rfl⟩ := Option.map_eq_some_iff.1 h
        exact .ungreeted call status hactivity hstatus
    | sending flag code rest =>
      rw [hactivity] at h
      cases rest with
      | nil => exact Option.some.inj h ▸ .sent flag code hactivity
      | cons c rest =>
        cases hstatus : st.status? with
        | some status =>
          rw [hstatus] at h
          exact Option.some.inj h ▸ .lose flag code status (congrArg _ hactivity) hstatus
        | none =>
          rw [hstatus] at h
          exact Option.some.inj h ▸ .put flag code c rest hactivity hstatus
    | reading flag code before =>
      rw [hactivity] at h
      cases hline : st.readLine with
      | some found =>
        rw [hline] at h
        exact Option.some.inj h ▸ .readOn flag code before found.1 found.2 hactivity hline
      | none =>
        rw [hline] at h
        obtain ⟨status, hstatus, rfl⟩ := Option.map_eq_some_iff.1 h
        exact .lose flag code status (congrArg _ hactivity) hstatus
    | parting rest =>
      rw [hactivity] at h
      cases rest with
      | nil => exact Option.some.inj h ▸ .hangUp [] hactivity (.inl rfl)
      | cons c rest =>
        cases hstatus : st.status? with
        | some status =>
          rw [hstatus] at h
          exact Option.some.inj h ▸ .hangUp _ hactivity (.inr (hstatus ▸ rfl))
        | none =>
          rw [hstatus] at h
          exact Option.some.inj h ▸ .putBlank c rest hactivity hstatus
    | leaving =>
      rw [hactivity] at h
      obtain ⟨status, hstatus, rfl⟩ := Option.map_eq_some_iff.1 h
      exact .depart status hactivity hstatus
  | server =>
    have h : st.serverStep = some st' := h
    -- The program reads only if there is nothing else for it to do.
    unfold serverStep at h
    cases htodo : st.todo with
    | cons e rest =>
      rw [htodo] at h
      exact Option.some.inj h ▸ .perform e rest htodo
    | nil =>
      rw [htodo] at h
      cases hprocess : st.process with
      | exited status =>
        rw [hprocess] at h
        exact nomatch h
      | serving session =>
        rw [hprocess] at h
        dsimp only at h
        cases hnext : Text.nextLine? st.inputClosed st.requests with
        | some found =>
          rw [hnext] at h
          exact Option.some.inj h ▸ .readRequest session found.1 found.2 htodo hprocess hnext
        | none =>
          rw [hnext] at h
          cases hclosed : st.inputClosed with
          | false =>
            rw [hclosed] at h
            exact nomatch h
          | true =>
            rw [hclosed] at h hnext
            have hrequests := Text.eq_nil_of_nextLine?_ended hnext
            exact Option.some.inj h ▸ .readEnd session htodo hprocess hclosed hrequests
  | spill =>
    have h : st.spill = some st' := h
    unfold spill at h
    cases hheld : st.outlet.held with
    | nil =>
      rw [hheld] at h
      exact nomatch h
    | cons c rest =>
      rw [hheld] at h
      exact Option.some.inj h ▸ .spill c rest hheld

/-- What every move preserves holds after all moves. -/
theorem invariant_after {P : System → Prop} (hmove : ∀ {st st'}, P st → Move st st' → P st')
    {st st' : System} {actions : List Action} (h : P st) (hrun : st.after actions = some st') :
    P st' := by
  induction actions generalizing st with
  | nil => exact Option.some.inj hrun ▸ h
  | cons action rest ih =>
    rw [after, List.foldlM_cons] at hrun
    obtain ⟨next, hnext, hrest⟩ := Option.bind_eq_some_iff.1 hrun
    exact ih (hmove h (move_of_act hnext)) hrest

end System
end LineHighlight
