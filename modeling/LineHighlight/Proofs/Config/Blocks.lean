import LineHighlight.Config.Context
import Mathlib.Tactic.Lemma

/-!
# Programs that change the current settings

Whatever a program does inside a block, it leaves the settings that enclosing blocks have saved as they
are (`run_eq`). So each block, when it is left, finds its own settings on top and restores them, also
if several blocks are left at once because something was raised. `Program.run` works on the saved
settings and notes each block that is left; `Program.settle` says what a program comes to without
them.
-/

namespace LineHighlight.Context

/-! ## Programs -/

/-- What a program may raise. -/
inductive Raised where
  /-- Settings were asked for that are not valid. -/
  | invalid (cause : ConfigFailure)
  | other
  deriving DecidableEq, Repr

/-- A program that changes the current settings. -/
inductive Program where
  | skip
  | raise (e : Raised)
  | set (d : Draft)
  | reset
  /-- Runs the body with other settings for a while. -/
  | block (d : Draft) (body : Program)
  /-- Runs the body and goes on as it ended, also if it raised something. -/
  | follow (body : Program) (next : Except Raised Unit → Program)
  /-- Goes on as the current settings say. -/
  | read (next : Config → Program)

/-- A block that was left: what was current when it was entered, and what is current after it. -/
structure Visit where
  before : Config
  after : Config
  deriving DecidableEq

/-- How a program ended, and the blocks that it left, in this order. -/
structure Finish where
  result : Except Raised Unit
  visits : List Visit

namespace Program

/-- Runs two programs, the second one unless the first one raises something. -/
def seq (first second : Program) : Program :=
  follow first fun
    | .ok () => second
    | .error e => raise e

/-- Runs a program and then, if it raises something, the handler. -/
def attempt (body : Program) (handler : Raised → Program) : Program :=
  follow body fun
    | .ok () => skip
    | .error e => handler e

/-- Goes on with the settings that are asked for. If they are not valid, this is raised. -/
def requiring (d : Draft) (c : Context) (next : Config → Finish × Context) : Finish × Context :=
  match d.check with
  | .ok config => next config
  | .error cause => (⟨.error (.invalid cause), []⟩, c)

/-- Runs a program. -/
def run : Program → Context → Finish × Context
  | skip, c => (⟨.ok (), []⟩, c)
  | raise e, c => (⟨.error e, []⟩, c)
  | set d, c => requiring d c fun config => (⟨.ok (), []⟩, c.set config)
  | reset, c => (⟨.ok (), []⟩, c.reset)
  | block d body, c => requiring d c fun config =>
    let (done, left) := c.within config body.run
    (⟨done.result, done.visits ++ [⟨c.current, left.current⟩]⟩, left)
  | follow body next, c =>
    let (done, between) := body.run c
    let (more, left) := (next done.result).run between
    (⟨more.result, done.visits ++ more.visits⟩, left)
  | read next, c => (next c.current).run c

/-- What a program comes to, given what is current before it: a block changes nothing. -/
def settle : Program → Config → Except Raised Unit × Config
  | skip, now => (.ok (), now)
  | raise e, now => (.error e, now)
  | set d, now =>
    match d.check with
    | .ok config => (.ok (), config)
    | .error cause => (.error (.invalid cause), now)
  | reset, _ => (.ok (), .default)
  | block d body, now =>
    match d.check with
    | .ok config => ((body.settle config).1, now)
    | .error cause => (.error (.invalid cause), now)
  | follow body next, now =>
    let (result, between) := body.settle now
    (next result).settle between
  | read next, now => (next now).settle now

/-- Outside of blocks the program sets nothing. -/
def IsBlocks : Program → Prop
  | skip | raise _ | block _ _ => True
  | set _ | reset => False
  | follow body next => body.IsBlocks ∧ ∀ result, (next result).IsBlocks
  | read next => ∀ config, (next config).IsBlocks

/-! ## What a run keeps -/

/-- A run has the result and the current settings that its program comes to, and what enclosing blocks have
saved is as it was. -/
theorem run_eq (p : Program) (c : Context) :
    (p.run c).1.result = (p.settle c.current).1 ∧
      (p.run c).2 = ⟨(p.settle c.current).2, c.saved⟩ := by
  induction p generalizing c with
  | skip => exact ⟨rfl, rfl⟩
  | raise e => exact ⟨rfl, rfl⟩
  | set d =>
    rw [run, requiring, settle]
    cases d.check <;> exact ⟨rfl, rfl⟩
  | reset => exact ⟨rfl, rfl⟩
  | block d body ih =>
    rw [run, requiring, settle]
    cases d.check with
    | error cause => exact ⟨rfl, rfl⟩
    | ok config =>
      obtain ⟨hresult, hbody⟩ := ih (c.enter config)
      refine ⟨hresult, ?_⟩
      -- The body left on top what was saved for this block.
      show leave (body.run (c.enter config)).2 = c
      rw [hbody]
      rfl
  | follow body next ihbody ihnext =>
    obtain ⟨hresult, hbetween⟩ := ihbody c
    have hnext := ihnext (body.settle c.current).1 ⟨(body.settle c.current).2, c.saved⟩
    rw [run, settle]
    dsimp only
    rw [hresult, hbetween]
    exact hnext
  | read next ih => exact ih c.current c

/-- Each block that a program leaves makes current what was current when it was entered. -/
theorem after_eq_before (p : Program) (c : Context) :
    ∀ v ∈ (p.run c).1.visits, v.after = v.before := by
  induction p generalizing c with
  | skip => exact fun v hv => nomatch hv
  | raise e => exact fun v hv => nomatch hv
  | set d =>
    rw [run, requiring]
    cases d.check <;> exact fun v hv => nomatch hv
  | reset => exact fun v hv => nomatch hv
  | block d body ih =>
    have hblock := (run_eq (block d body) c).2
    rw [run, requiring, settle] at hblock
    rw [run, requiring]
    cases hd : d.check with
    | error cause => exact fun v hv => nomatch hv
    | ok config =>
      rw [hd] at hblock
      intro v hv
      -- The blocks of the body were left first, and this one last.
      rcases List.mem_append.1 hv with hv | hv
      · exact ih (c.enter config) v hv
      · rw [List.mem_singleton.1 hv]
        exact congrArg current hblock
  | follow body next ihbody ihnext =>
    intro v hv
    rcases List.mem_append.1 hv with hv | hv
    · exact ihbody c v hv
    · exact ihnext _ _ v hv
  | read next ih => exact ih c.current c

/-- A program that sets nothing outside of blocks comes to what was current before it. -/
lemma settle_of_isBlocks {p : Program} (h : p.IsBlocks) (now : Config) : (p.settle now).2 = now := by
  induction p generalizing now with
  | skip => rfl
  | raise e => rfl
  | set d => exact h.elim
  | reset => exact h.elim
  | block d body =>
    rw [settle]
    cases d.check <;> rfl
  | follow body next ihbody ihnext =>
    obtain ⟨hbody, hnext⟩ := h
    exact (ihnext _ (hnext _) _).trans (ihbody hbody now)
  | read next ih => exact ih now (h now) now

/-- Blocks restore. Whatever settings are current and saved before a program, each block that it leaves,
normally or because something was raised, makes current what was current when that block was entered.
The program comes to what it would come to if blocks changed nothing, and leaves what was saved as it was;
so a program that sets nothing outside of blocks leaves all as it was. A step that asks for settings that
are not valid changes nothing, raises this, and does not run the body of its block. -/
theorem blocks_restore (p : Program) (c : Context) :
    let (done, left) := p.run c
    (∀ v ∈ done.visits, v.after = v.before) ∧
      (done.result, left) = ((p.settle c.current).1, ⟨(p.settle c.current).2, c.saved⟩) ∧
      (p.IsBlocks → left = c) ∧
      ∀ d cause, d.check = .error cause →
        (set d).run c = (⟨.error (.invalid cause), []⟩, c) ∧
          ∀ body, (block d body).run c = (⟨.error (.invalid cause), []⟩, c) := by
  obtain ⟨hresult, hleft⟩ := p.run_eq c
  refine ⟨p.after_eq_before c, Prod.ext hresult hleft, fun hblocks => ?_, fun d cause hd => ?_⟩
  · rw [hleft, settle_of_isBlocks hblocks]
  · unfold run requiring
    rw [hd]
    exact ⟨rfl, fun _ => rfl⟩

/-- What is raised in the inner one of two blocks leaves both of them, after settings were made current, and
reset, in each. Settings of an unknown engine are refused. -/
theorem blocks_restore_unwound :
    let outer : Draft := { cssPrefix := "outer-".toList }
    let inner : Draft := { cssPrefix := "inner-".toList }
    let unknown : Draft := { engine := "chroma".toList }
    let p := attempt
      (block outer (seq (set inner) (block inner (seq reset (block unknown (set outer))))))
      fun _ => skip
    let c : Context := ⟨{ Config.default with cssPrefix := "x-".toList }, [.default]⟩
    p.IsBlocks ∧ (p.run c).2 = c ∧ (p.run c).1.visits.length = 2 ∧
      (∀ v ∈ (p.run c).1.visits, v.after = v.before) ∧
      unknown.check = .error (.unknownEngine "chroma".toList) ∧
      (set unknown).run c = (⟨.error (.invalid (.unknownEngine "chroma".toList)), []⟩, c) := by
  intro outer inner unknown p c
  have hblocks : p.IsBlocks := by
    refine ⟨trivial, fun result => ?_⟩
    cases result <;> exact trivial
  have hname : EngineKind.ofName? unknown.engine = none := by decide
  have hunknown : unknown.check = .error (.unknownEngine unknown.engine) := by
    rw [Draft.check, hname]
  obtain ⟨hvisits, -, hleft, hinvalid⟩ := blocks_restore p c
  exact ⟨hblocks, hleft hblocks, by decide +kernel, hvisits, hunknown, (hinvalid _ _ hunknown).1⟩

end Program
end LineHighlight.Context
