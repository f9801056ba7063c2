import LineHighlight.Server
import LineHighlight.Proofs.Results

/-!
# Replies to requests

What an engine makes of requests one after another, up to the first that fails (`Engine.replies`),
and one lemma for each operation of a server that says so of the operation: `answer` finds the
markup and writes it as a block or writes nothing, `handle` goes on after the one and ends the
session after the other.
-/

namespace LineHighlight

variable {σ : Type}

/-! ## Loading ahead -/

namespace Registry

/-- Every flag is answered, though perhaps by saying that there is no scope for it. -/
def NeverFails (r : Registry σ) : Prop :=
  ∀ memory flag, ∃ scope, (r.resolve memory flag).1.scope = .ok scope

/-- Loading flags ahead does not fail if no lookup does. -/
lemma found_preload {r : Registry σ} (h : r.NeverFails) (memory : σ) (flags : List Text) :
    ∃ n, (r.preload memory flags).found = .ok n := by
  induction flags generalizing memory with
  | nil => exact ⟨0, rfl⟩
  | cons flag rest ih =>
    obtain ⟨scope, hscope⟩ := h memory flag
    obtain ⟨n, hn⟩ := ih (r.resolve memory flag).2
    refine ⟨(if scope.isSome then 1 else 0) + n, ?_⟩
    rw [preload]
    dsimp only
    rw [hscope, hn]
    rfl

/-- Flags loaded ahead without failure are resolved one after another. -/
lemma memory_preload {r : Registry σ} {memory : σ} {flags : List Text} {n : Nat}
    (h : (r.preload memory flags).found = .ok n) :
    (r.preload memory flags).memory = r.remember memory flags := by
  induction flags generalizing memory n with
  | nil => rfl
  | cons flag rest ih =>
    rw [preload] at h ⊢
    rw [remember]
    dsimp only at h ⊢
    cases hscope : (r.resolve memory flag).1.scope with
    | error cause =>
      rw [hscope] at h
      exact absurd h (by simp)
    | ok scope =>
      rw [hscope] at h
      obtain ⟨m, hmore, -⟩ := exists_of_map_eq_ok h
      exact ih hmore

/-- A service that does not answer counts as one that does not know the name. -/
lemma neverFails_ofService (s : Service) (aliases : Table) : (ofService s aliases).NeverFails := by
  intro memory flag
  show ∃ scope, (askService s aliases.normalized flag).scope = .ok scope
  unfold askService
  dsimp only
  split
  · exact ⟨_, rfl⟩
  · split <;> exact ⟨_, rfl⟩

end Registry

/-! ## Requests one after another -/

/-- The markups of the requests before the first that fails, and why that one failed. -/
structure Replies where
  markups : List Text
  failure : Option AnswerFailure
  deriving DecidableEq, Repr

/-- What an engine makes of requests one after another. A request that fails is the last one. -/
def Engine.replies (e : Engine σ) (memory : σ) : List Request → Replies
  | [] => ⟨[], none⟩
  | r :: rest =>
    match e.markup memory r.language r.source with
    | .ok markup =>
      let more := e.replies (e.registry.resolve memory r.language).2 rest
      ⟨markup :: more.markups, more.failure⟩
    | .error cause => ⟨[], some cause⟩

/-- How a session ends that answers requests until one fails, if it ends for that reason. -/
def Ending.ofFailure : AnswerFailure → Ending
  | .unknownLanguage flag => .unknownLanguage flag
  | .engine cause => .engineFailed cause

namespace Engine

lemma replies_cons_of_ok {e : Engine σ} {memory : σ} {r : Request} {markup : Text}
    (h : e.markup memory r.language r.source = .ok markup) (rest : List Request) :
    e.replies memory (r :: rest) =
      ⟨markup :: (e.replies (e.registry.resolve memory r.language).2 rest).markups,
        (e.replies (e.registry.resolve memory r.language).2 rest).failure⟩ := by
  rw [replies, h]

lemma replies_cons_of_error {e : Engine σ} {memory : σ} {r : Request} {cause : AnswerFailure}
    (h : e.markup memory r.language r.source = .error cause) (rest : List Request) :
    e.replies memory (r :: rest) = ⟨[], some cause⟩ := by
  rw [replies, h]

/-- Requests of which none fails have a markup each. -/
lemma length_markups_of_none {e : Engine σ} {memory : σ} {requests : List Request}
    (h : (e.replies memory requests).failure = none) :
    (e.replies memory requests).markups.length = requests.length := by
  induction requests generalizing memory with
  | nil => rfl
  | cons r rest ih =>
    cases hr : e.markup memory r.language r.source with
    | error cause =>
      rw [replies_cons_of_error hr] at h
      exact nomatch h
    | ok markup =>
      rw [replies_cons_of_ok hr] at h ⊢
      rw [List.length_cons, List.length_cons, ih h]

/-- The request that ended some replies comes behind those that were replied to, and it failed with
the registry as they left it. -/
lemma exists_of_failure {e : Engine σ} {memory : σ} {requests : List Request} {cause : AnswerFailure}
    (h : (e.replies memory requests).failure = some cause) :
    let count := (e.replies memory requests).markups.length
    let before := e.registry.remember memory ((requests.take count).map (·.language))
    ∃ r, requests[count]? = some r ∧ e.markup before r.language r.source = .error cause := by
  induction requests generalizing memory with
  | nil => exact nomatch h
  | cons r rest ih =>
    cases hr : e.markup memory r.language r.source with
    | error cause' =>
      rw [replies_cons_of_error hr] at h ⊢
      have hcause : cause' = cause := Option.some.inj h
      exact ⟨r, rfl, hcause ▸ hr⟩
    | ok markup =>
      rw [replies_cons_of_ok hr] at h ⊢
      exact ih h

/-- The markups of the first requests are among those of all requests. -/
lemma mem_markups_append {e : Engine σ} {memory : σ} {requests : List Request} {markup : Text}
    (h : markup ∈ (e.replies memory requests).markups) (more : List Request) :
    markup ∈ (e.replies memory (requests ++ more)).markups := by
  induction requests generalizing memory with
  | nil => exact absurd h List.not_mem_nil
  | cons r rest ih =>
    cases hr : e.markup memory r.language r.source with
    | error cause =>
      rw [replies_cons_of_error hr] at h
      exact absurd h List.not_mem_nil
    | ok first =>
      rw [replies_cons_of_ok hr] at h
      rw [List.cons_append, replies_cons_of_ok hr]
      rcases List.mem_cons.1 h with rfl | h
      · exact List.mem_cons_self
      · exact List.mem_cons_of_mem first (ih h)

/-! ## Answers -/

/-- The text written for a request: its block, or nothing if it fails. -/
def written (terminator : Text) : Except AnswerFailure Text → Text
  | .ok markup => answerBlock terminator markup
  | .error _ => []

/-- A request is answered by the markup that the engine has for it, and its language is the only
one that is looked up. -/
theorem answer_spec (e : Engine σ) (terminator : Text) (memory : σ) (r : Request) :
    (e.answer terminator memory r).result = e.markup memory r.language r.source ∧
      (e.answer terminator memory r).memory = (e.registry.resolve memory r.language).2 ∧
      (e.answer terminator memory r).trace.output =
        written terminator (e.markup memory r.language r.source) := by
  unfold Engine.answer Engine.markup
  cases hscope : (e.registry.resolve memory r.language).1.scope with
  | error cause =>
    dsimp only
    rw [hscope]
    exact ⟨rfl, rfl, Trace.output_ofNotes _⟩
  | ok found =>
    cases found with
    | none =>
      dsimp only
      rw [hscope]
      exact ⟨rfl, rfl, Trace.output_ofNotes _⟩
    | some scope =>
      dsimp only
      rw [hscope]
      dsimp only
      cases e.highlight r.source scope with
      | error cause => exact ⟨rfl, rfl, Trace.output_ofNotes _⟩
      | ok markup =>
        refine ⟨rfl, rfl, ?_⟩
        rw [Trace.output_append, Trace.output_ofNotes, List.nil_append]
        exact List.append_nil _

end Engine

/-! ## Steps of a session -/

namespace Server

/-- Handling a request that has markup writes its block and goes on. -/
theorem handle_of_ok {s : Server σ} {memory : σ} {r : Request} {markup : Text}
    (h : s.engine.markup memory r.language r.source = .ok markup) (a : Assembler) :
    (s.handle memory a r).ending = none ∧
      (s.handle memory a r).state = ⟨(s.engine.registry.resolve memory r.language).2, a⟩ ∧
      (s.handle memory a r).trace.output = answerBlock s.config.terminator markup := by
  obtain ⟨hresult, hmemory, houtput⟩ := s.engine.answer_spec s.config.terminator memory r
  rw [h] at hresult houtput
  unfold handle
  dsimp only
  rw [hresult, hmemory]
  exact ⟨rfl, rfl, houtput⟩

/-- Handling a request that fails writes nothing and ends the session. -/
theorem handle_of_error {s : Server σ} {memory : σ} {r : Request} {cause : AnswerFailure}
    (h : s.engine.markup memory r.language r.source = .error cause) (a : Assembler) :
    (s.handle memory a r).ending = some (.ofFailure cause) ∧
      (s.handle memory a r).state = ⟨(s.engine.registry.resolve memory r.language).2, a⟩ ∧
      (s.handle memory a r).trace.output = [] := by
  obtain ⟨hresult, hmemory, houtput⟩ := s.engine.answer_spec s.config.terminator memory r
  rw [h] at hresult houtput
  unfold handle
  dsimp only
  rw [hresult, hmemory]
  cases cause with
  | unknownLanguage flag =>
    refine ⟨rfl, rfl, ?_⟩
    rw [Trace.output_append, houtput]
    rfl
  | engine cause => exact ⟨rfl, rfl, houtput⟩

/-- A line that leads to no outcome writes nothing. -/
lemma feed_of_none (s : Server σ) (memory : σ) {a after : Assembler} {line : Text}
    (h : a.feed line = (after, none)) :
    (s.feed ⟨memory, a⟩ line).ending = none ∧ (s.feed ⟨memory, a⟩ line).state = ⟨memory, after⟩ ∧
      (s.feed ⟨memory, a⟩ line).trace.output = [] := by
  unfold feed
  dsimp only
  rw [h]
  exact ⟨rfl, rfl, Trace.output_ofNotes _⟩

/-- A line that ends the session writes nothing. -/
lemma feed_of_sessionEnd (s : Server σ) (memory : σ) {a after : Assembler} {line : Text}
    (h : a.feed line = (after, some .sessionEnd)) :
    (s.feed ⟨memory, a⟩ line).ending = some .sessionEnd ∧
      (s.feed ⟨memory, a⟩ line).state = ⟨memory, after⟩ ∧
      (s.feed ⟨memory, a⟩ line).trace.output = [] := by
  unfold feed
  dsimp only
  rw [h]
  refine ⟨rfl, rfl, ?_⟩
  rw [Trace.output_append, Trace.output_ofNotes]
  rfl

/-- A line that finishes a request leads to what handling the request leads to. -/
lemma feed_of_request (s : Server σ) (memory : σ) {a after : Assembler} {line : Text} {r : Request}
    (h : a.feed line = (after, some (.request r))) :
    (s.feed ⟨memory, a⟩ line).ending = (s.handle memory after r).ending ∧
      (s.feed ⟨memory, a⟩ line).state = (s.handle memory after r).state ∧
      (s.feed ⟨memory, a⟩ line).trace.output = (s.handle memory after r).trace.output := by
  unfold feed
  dsimp only
  rw [h]
  refine ⟨rfl, rfl, ?_⟩
  rw [Trace.output_append, Trace.output_ofNotes, List.nil_append]

end Server
end LineHighlight
