import LineHighlight.Proofs.Grammar.History
import LineHighlight.Proofs.Server.Session

/-!
# Engines on their way

Requests come one by one, and an engine that failed at one of them takes no more. `Progress` is what
it has come to after each of them; after all of them it is what the replies tell
(`progress_eq_replies`).
-/

namespace LineHighlight

/-- What an engine has come to: its memory, and the failure after which it takes no more requests. -/
structure Progress (σ : Type) where
  memory : σ
  failure : Option AnswerFailure := none

namespace Engine

variable {σ : Type}

/-- Takes in one more request, unless one failed before. -/
def advance (e : Engine σ) (p : Progress σ) (r : Request) : Progress σ :=
  match p.failure with
  | some _ => p
  | none =>
    let after := (e.registry.resolve p.memory r.language).2
    match e.markup p.memory r.language r.source with
    | .ok _ => ⟨after, none⟩
    | .error cause => ⟨after, some cause⟩

/-- Takes in requests one after another. -/
def progress (e : Engine σ) (p : Progress σ) (requests : List Request) : Progress σ :=
  requests.foldl e.advance p

lemma advance_of_failure {e : Engine σ} {p : Progress σ} {cause : AnswerFailure}
    (h : p.failure = some cause) (r : Request) : e.advance p r = p := by
  rw [advance, h]

lemma progress_of_failure {e : Engine σ} {p : Progress σ} {cause : AnswerFailure}
    (h : p.failure = some cause) (requests : List Request) : e.progress p requests = p := by
  induction requests with
  | nil => rfl
  | cons r rest ih =>
    rw [progress, List.foldl_cons, advance_of_failure h]
    exact ih

/-- An engine stops at the failure that ends its replies, and remembers what it was asked for. -/
theorem progress_eq_replies (e : Engine σ) (memory : σ) (requests : List Request) :
    e.progress ⟨memory, none⟩ requests =
      ⟨e.registry.remember memory ((e.replies memory requests).asked requests),
        (e.replies memory requests).failure⟩ := by
  induction requests generalizing memory with
  | nil => rfl
  | cons r rest ih =>
    rw [progress, List.foldl_cons, advance]
    dsimp only
    cases hmarkup : e.markup memory r.language r.source with
    | ok markup =>
      rw [replies_cons_of_ok hmarkup]
      exact ih (e.registry.resolve memory r.language).2
    | error cause =>
      rw [replies_cons_of_error hmarkup]
      exact progress_of_failure rfl rest

/-- The markup of a request behind some that did not fail is among those of all requests. -/
lemma mem_markups_of_progress {e : Engine σ} {memory : σ} {requests : List Request} {r : Request}
    {markup : Text}
    (hnone : (e.progress ⟨memory, none⟩ requests).failure = none)
    (h : e.markup (e.progress ⟨memory, none⟩ requests).memory r.language r.source = .ok markup) :
    markup ∈ (e.replies memory (requests ++ [r])).markups := by
  induction requests generalizing memory with
  | nil =>
    have h : e.markup memory r.language r.source = .ok markup := h
    rw [List.nil_append, replies_cons_of_ok h]
    exact List.mem_cons_self
  | cons first rest ih =>
    rw [progress, List.foldl_cons, advance] at hnone h
    dsimp only at hnone h
    cases hfirst : e.markup memory first.language first.source with
    | error cause =>
      rw [hfirst] at hnone
      have hfailed := progress_of_failure (e := e)
        (p := ⟨(e.registry.resolve memory first.language).2, some cause⟩) rfl rest
      rw [progress] at hfailed
      rw [hfailed] at hnone
      exact nomatch hnone
    | ok other =>
      rw [hfirst] at hnone h
      rw [List.cons_append, replies_cons_of_ok hfirst]
      exact List.mem_cons_of_mem other (ih hnone h)

/-- An engine that stops at an unknown language has no scope for it. -/
lemma answer_of_advance {e : Engine σ} {p : Progress σ} {r : Request} {other : Text}
    (hp : p.failure = none) (h : (e.advance p r).failure = some (.unknownLanguage other)) :
    e.registry.answer p.memory r.language = .ok none := by
  rw [advance, hp] at h
  dsimp only at h
  cases hmarkup : e.markup p.memory r.language r.source with
  | ok markup =>
    rw [hmarkup] at h
    exact nomatch h
  | error cause =>
    rw [hmarkup] at h
    have hcause : cause = .unknownLanguage other := Option.some.inj h
    rw [hcause] at hmarkup
    exact (markup_eq_unknownLanguage_iff.1 hmarkup).2

end Engine
end LineHighlight
