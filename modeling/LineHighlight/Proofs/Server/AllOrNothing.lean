import LineHighlight.Proofs.Server.Replies

/-!
# Whole answers

A request is answered by its whole block and one flush, or by nothing at all (`isWhole_answer`), and so
are requests one after another, whichever of them fail (`answers_allOrNothing`). The highlighter may be
another one for each request, since one that keeps a state of its own may do something else each time.
-/

namespace LineHighlight

variable {σ : Type}

/-! ## Flushes -/

lemma Trace.flushes_ofNotes (ns : List Note) : (ofNotes ns).flushes = 0 := by
  refine List.count_eq_zero.2 fun h => ?_
  obtain ⟨n, -, hn⟩ := List.mem_map.1 h
  exact nomatch hn

/-! ## One answer -/

/-- The markup of a request that was answered. -/
def Answer.markup? (a : Answer σ) : Option Text := a.result.toOption

/-- The answer is written as a whole block and flushed once, or it is a failure and nothing is
written or flushed. -/
structure Answer.IsWhole (terminator : Text) (a : Answer σ) : Prop where
  output : a.trace.output = Engine.written terminator a.result
  flushes : a.trace.flushes = a.markup?.toList.length

namespace Engine

/-- A request is answered as a whole or not at all. -/
theorem isWhole_answer (e : Engine σ) (terminator : Text) (memory : σ) (r : Request) :
    (e.answer terminator memory r).IsWhole terminator := by
  obtain ⟨hresult, -, houtput⟩ := e.answer_spec terminator memory r
  refine ⟨hresult ▸ houtput, ?_⟩
  unfold Engine.answer
  dsimp only
  cases (e.registry.resolve memory r.language).1.scope with
  | error cause => exact Trace.flushes_ofNotes _
  | ok found =>
    cases found with
    | none => exact Trace.flushes_ofNotes _
    | some scope =>
      dsimp only
      cases e.highlight r.source scope with
      | error cause => exact Trace.flushes_ofNotes _
      | ok markup =>
        dsimp only
        rw [Trace.flushes_append, Trace.flushes_ofNotes]
        rfl

/-- A highlighter is called only for a flag that has a scope, and with the source of the request: one
that does the same there leads to the same answer. -/
theorem answer_eq_of_agree (e : Engine σ) (terminator : Text) (memory : σ) (r : Request)
    {other : Highlighter}
    (h : ∀ scope, (e.registry.resolve memory r.language).1.scope = .ok (some scope) →
      other r.source scope = e.highlight r.source scope) :
    ({ e with highlight := other } : Engine σ).answer terminator memory r =
      e.answer terminator memory r := by
  unfold Engine.answer
  dsimp only
  cases hfound : (e.registry.resolve memory r.language).1.scope with
  | error cause => rfl
  | ok found =>
    cases found with
    | none => rfl
    | some scope =>
      dsimp only
      rw [h scope hfound]

end Engine

/-- The whole output of answers is the blocks of those that succeeded, and there is a flush for each. -/
lemma effects_of_isWhole {terminator : Text} {made : List (Answer σ)}
    (h : ∀ answer ∈ made, answer.IsWhole terminator) :
    Trace.output (made.flatMap (·.trace)) =
        (made.filterMap Answer.markup?).flatMap (answerBlock terminator) ∧
      Trace.flushes (made.flatMap (·.trace)) = (made.filterMap Answer.markup?).length := by
  induction made with
  | nil => exact ⟨rfl, rfl⟩
  | cons answer rest ih =>
    obtain ⟨houtput, hflushes⟩ := h answer List.mem_cons_self
    obtain ⟨hmore, hmoreFlushes⟩ := ih fun a ha => h a (List.mem_cons_of_mem answer ha)
    rw [List.flatMap_cons, Trace.output_append, Trace.flushes_append, houtput, hflushes, hmore,
      hmoreFlushes]
    cases hresult : answer.result with
    | error cause =>
      have hnone : answer.markup? = none := congrArg Except.toOption hresult
      rw [List.filterMap_cons_none hnone, hnone]
      exact ⟨rfl, Nat.zero_add _⟩
    | ok markup =>
      have hsome : answer.markup? = some markup := congrArg Except.toOption hresult
      rw [List.filterMap_cons_some hsome, hsome]
      exact ⟨rfl, Nat.add_comm _ _⟩

/-! ## Answers one after another -/

/-- A request, and the highlighter as it is when the turn of the request comes. -/
structure Job where
  highlight : Highlighter
  request : Request

namespace Engine

/-- Answers requests one after another, each with its own highlighter, going on after one that cannot
be answered. -/
def answersTo (e : Engine σ) (terminator : Text) (memory : σ) : List Job → List (Answer σ)
  | [] => []
  | job :: rest =>
    let answer := ({ e with highlight := job.highlight } : Engine σ).answer terminator memory job.request
    answer :: e.answersTo terminator answer.memory rest

/-- With one highlighter for all requests these are the answers to the requests. -/
lemma answersTo_map (e : Engine σ) (terminator : Text) (memory : σ) (requests : List Request) :
    e.answersTo terminator memory (requests.map (⟨e.highlight, ·⟩)) =
      e.answers terminator memory requests := by
  induction requests generalizing memory with
  | nil => rfl
  | cons r rest ih => exact congrArg (_ :: ·) (ih _)

lemma length_answersTo (e : Engine σ) (terminator : Text) (memory : σ) (jobs : List Job) :
    (e.answersTo terminator memory jobs).length = jobs.length := by
  induction jobs generalizing memory with
  | nil => rfl
  | cons job rest ih => exact congrArg (· + 1) (ih _)

/-- Each request is answered on its own, by a registry that was asked for the languages of the requests
before, whether they were answered or not. -/
lemma getElem?_answersTo (e : Engine σ) (terminator : Text) (memory : σ) (jobs : List Job) (i : Nat) :
    (e.answersTo terminator memory jobs)[i]? =
      jobs[i]?.map fun job =>
        ({ e with highlight := job.highlight } : Engine σ).answer terminator
          (e.registry.remember memory ((jobs.take i).map (·.request.language))) job.request := by
  induction jobs generalizing memory i with
  | nil => rfl
  | cons job rest ih =>
    cases i with
    | zero => rfl
    | succ i =>
      obtain ⟨-, hmemory, -⟩ :=
        ({ e with highlight := job.highlight } : Engine σ).answer_spec terminator memory job.request
      rw [answersTo, List.getElem?_cons_succ, ih, hmemory]
      rfl

/-- Requests one after another, each of them answered or not: the whole output is the blocks of the
requests that were answered, in their order, with one flush for each. A request that cannot be answered,
because its lookup fails, there is no scope for its language or the highlighter fails, writes and
flushes nothing, and what was asked before only shows in the memory of the registry. The highlighter
is called only for a language with a scope, and with the source as it is. -/
theorem answers_allOrNothing (e : Engine σ) (terminator : Text) (memory : σ) (jobs : List Job) :
    let made := e.answersTo terminator memory jobs
    let markups := made.filterMap Answer.markup?
    made.length = jobs.length ∧
      Trace.output (made.flatMap (·.trace)) = markups.flatMap (answerBlock terminator) ∧
      Trace.flushes (made.flatMap (·.trace)) = markups.length ∧
      (∀ (i : Nat) (job : Job) (answer : Answer σ), jobs[i]? = some job → made[i]? = some answer →
        let r := job.request
        let before := e.registry.remember memory ((jobs.take i).map (·.request.language))
        let found := (e.registry.resolve before r.language).1.scope
        (answer.result =
          match found with
          | .error cause => .error (.engine cause)
          | .ok none => .error (.unknownLanguage r.language)
          | .ok (some scope) => (job.highlight r.source scope).mapError .engine) ∧
        (∀ markup, answer.result = .ok markup →
          answer.trace.output = answerBlock terminator markup ∧ answer.trace.flushes = 1) ∧
        (∀ cause, answer.result = .error cause →
          answer.trace.output = [] ∧ answer.trace.flushes = 0) ∧
        ∀ other : Highlighter,
          (∀ scope, found = .ok (some scope) → other r.source scope = job.highlight r.source scope) →
          ({ e with highlight := other } : Engine σ).answer terminator before r = answer) ∧
      ∀ requests, jobs = requests.map (⟨e.highlight, ·⟩) →
        made = e.answers terminator memory requests := by
  intro made markups
  have hmade : ∀ i, made[i]? = _ := e.getElem?_answersTo terminator memory jobs
  have hwhole : ∀ answer ∈ made, answer.IsWhole terminator := by
    intro answer hanswer
    obtain ⟨i, hi⟩ := List.mem_iff_getElem?.1 hanswer
    rw [hmade, Option.map_eq_some_iff] at hi
    obtain ⟨job, -, rfl⟩ := hi
    exact isWhole_answer _ terminator _ job.request
  obtain ⟨houtput, hflushes⟩ := effects_of_isWhole hwhole
  refine ⟨e.length_answersTo terminator memory jobs, houtput, hflushes,
    fun i job answer hjob hanswer => ?_, ?_⟩
  · intro r before found
    obtain ⟨hout, hflush⟩ := hwhole answer (List.mem_of_getElem? hanswer)
    rw [hmade, hjob] at hanswer
    have hanswer : ({ e with highlight := job.highlight } : Engine σ).answer terminator before r =
      answer := Option.some.inj hanswer
    refine ⟨?_, fun markup hok => ?_, fun cause herror => ?_, fun other hother => ?_⟩
    · rw [← hanswer, (answer_spec _ terminator before r).1]
      rfl
    · rw [hout, hflush, Answer.markup?, hok]
      exact ⟨rfl, rfl⟩
    · rw [hout, hflush, Answer.markup?, herror]
      exact ⟨rfl, rfl⟩
    · rw [← hanswer]
      exact answer_eq_of_agree { e with highlight := job.highlight } terminator before r hother
  · rintro requests rfl
    exact e.answersTo_map terminator memory requests

/-- A request is answered that failed before, when the highlighter was down, and in between there is one
for an unknown language. Only the answer is seen. -/
theorem answers_allOrNothing_second_try :
    let e : Engine Cache :=
      .ofService ⟨fun name => some (name ≠ "old".toList), fun source _ => .ok source⟩ .default
    let jobs : List Job :=
      [⟨.failing "down".toList, ⟨"new".toList, "a\n".toList⟩⟩,
        ⟨e.highlight, ⟨"old".toList, "a\n".toList⟩⟩, ⟨e.highlight, ⟨"new".toList, "a\n".toList⟩⟩]
    let made := e.answersTo ['\x04'] [] jobs
    made.map (·.markup?) = [none, none, some "a\n".toList] ∧
      Trace.output (made.flatMap (·.trace)) = "a\n\n\x04\n".toList ∧
      Trace.flushes (made.flatMap (·.trace)) = 1 ∧
      made[0]?.map (fun answer => (answer.trace.output, answer.trace.flushes)) = some ([], 0) := by
  intro e jobs made
  obtain ⟨-, houtput, hflushes, hone, -⟩ := e.answers_allOrNothing ['\x04'] [] jobs
  have hfirst : made[0]? = some made[0] := rfl
  obtain ⟨-, -, hsilent, -⟩ := hone 0 _ made[0] rfl hfirst
  obtain ⟨hout, hflush⟩ := hsilent (.engine (.raised "down".toList)) rfl
  refine ⟨by decide +kernel, houtput.trans (by decide +kernel), hflushes.trans (by decide +kernel), ?_⟩
  rw [hfirst, Option.map_some, hout, hflush]

end Engine
end LineHighlight
