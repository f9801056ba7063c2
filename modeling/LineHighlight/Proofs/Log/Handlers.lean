import LineHighlight.Log.Setup
import Mathlib.Tactic.Lemma

/-!
# One handler of our own

Logging may be configured any number of times. Each time the handlers of our own are looked for among all
that are attached, and only the others stay; so there is one of our own from the first call on that is not
refused, and a call that is refused does nothing at all. `configureInPlace` makes the changes one after
another, and `configureInPlace_eq` says that they come to what `configure` does in one.
-/

namespace LineHighlight

/-- A name is no level's exactly if its upper-case form is not that of a level. -/
lemma Level.ofName?_eq_none_iff {name : Text} :
    ofName? name = none ↔ name.map upperLetter ∉ named.map Prod.fst := by
  rw [ofName?, List.lookup_eq_none_iff]
  constructor
  · intro h hmem
    obtain ⟨level, hlevel, heq⟩ := List.mem_map.1 hmem
    have hne := h level hlevel
    rw [heq, bne_self_eq_false] at hne
    exact nomatch hne
  · intro h level hlevel
    rw [bne_iff_ne]
    exact fun heq => h (heq ▸ List.mem_map_of_mem hlevel)

namespace Logging

/-! ## Step by step -/

/-- Takes a handler off, once. -/
def detach (l : Logging) (h : Handler) : Logging := { l with handlers := l.handlers.erase h }

/-- Attaches a new handler behind all others. -/
def attach (l : Logging) (h : Handler) : Logging := { l with handlers := l.handlers ++ [h] }

/-- Takes the handlers of our own off, of those that are in a list. -/
def detachOwn (hs : List Handler) : StateM Logging Unit :=
  hs.forM fun h => if h = .own then modify (·.detach h) else pure ()

/-- Configures logging by one change after another. What was changed before a refusal stays changed. -/
def configureInPlace (choice : LevelChoice) : ExceptT Refusal (StateM Logging) Unit := do
  let severity ← ExceptT.mk (pure choice.check)
  detachOwn (← get).handlers
  modify (·.attach .own)
  modify fun l => { l with threshold := severity }

lemma run_detachOwn_cons (h : Handler) (hs : List Handler) (l : Logging) :
    (detachOwn (h :: hs)).run l = (detachOwn hs).run (if h = .own then l.detach h else l) := by
  by_cases hown : h = .own
  · subst hown
    rfl
  · rw [if_neg hown]
    show (do (if h = .own then modify (·.detach h) else pure ()); detachOwn hs :
      StateM Logging Unit).run l = _
    rw [if_neg hown]
    rfl

/-- Behind handlers none of which is our own, all of ours are taken off, and no others. -/
lemma run_detachOwn {kept : List Handler} (h : .own ∉ kept) (hs : List Handler) (threshold : Int) :
    (detachOwn hs).run ⟨kept ++ hs, threshold⟩ =
      ((), ⟨kept ++ hs.filter (· ≠ .own), threshold⟩) := by
  induction hs generalizing kept with
  | nil => rfl
  | cons first rest ih =>
    rw [run_detachOwn_cons]
    by_cases hown : first = .own
    · -- The first one of our own that is attached is this one.
      have hdetach : (⟨kept ++ first :: rest, threshold⟩ : Logging).detach first =
          ⟨kept ++ rest, threshold⟩ := by
        rw [hown, detach, List.erase_append_right _ h, List.erase_cons_head]
      rw [if_pos hown, hdetach, ih h, List.filter_cons_of_neg (by simp [hown])]
    · have hkept : .own ∉ kept ++ [first] := by
        simp only [List.mem_append, List.mem_singleton, not_or]
        exact ⟨h, fun he => hown he.symm⟩
      have hrest := ih hkept
      rw [List.append_assoc, List.append_assoc] at hrest
      rw [if_neg hown, List.filter_cons_of_pos (by simp [hown])]
      exact hrest

/-- The changes come to what configuring does. -/
theorem configureInPlace_eq (l : Logging) (choice : LevelChoice) :
    (configureInPlace choice).run.run l =
      ((l.configure choice).map fun _ => (), l.afterConfigure choice) := by
  unfold afterConfigure configure
  cases hcheck : choice.check with
  | error cause =>
    unfold configureInPlace
    rw [hcheck]
    rfl
  | ok severity =>
    unfold configureInPlace
    rw [hcheck]
    show (let done := ((detachOwn l.handlers).run l).2
      (Except.ok (), ({ done.attach .own with threshold := severity } : Logging))) = _
    have hrun : (detachOwn l.handlers).run l =
        ((), ⟨l.handlers.filter (· ≠ .own), l.threshold⟩) :=
      run_detachOwn List.not_mem_nil l.handlers l.threshold
    rw [hrun]
    rfl

/-! ## Any number of calls -/

/-- The setup after some calls. -/
def afterAll (l : Logging) (choices : List LevelChoice) : Logging := choices.foldl afterConfigure l

/-- The thresholds that were asked for by the calls that are not refused. -/
def accepted (choices : List LevelChoice) : List Int :=
  choices.filterMap fun choice => choice.check.toOption

/-- The handlers that are not our own. -/
def others (l : Logging) : List Handler := l.handlers.filter (· ≠ .own)

lemma afterConfigure_of_ok (l : Logging) {choice : LevelChoice} {severity : Int}
    (h : choice.check = .ok severity) : l.afterConfigure choice = l.install severity := by
  rw [afterConfigure, configure, h]
  rfl

lemma afterConfigure_of_error (l : Logging) {choice : LevelChoice} {cause : Refusal}
    (h : choice.check = .error cause) : l.afterConfigure choice = l := by
  rw [afterConfigure, configure, h]
  rfl

lemma others_install (l : Logging) (severity : Int) : (l.install severity).others = l.others := by
  simp [others, install, List.filter_append, List.filter_filter]

lemma accepted_cons_of_ok {choice : LevelChoice} {severity : Int} (h : choice.check = .ok severity)
    (rest : List LevelChoice) : accepted (choice :: rest) = severity :: accepted rest := by
  rw [accepted, List.filterMap_cons, h]
  rfl

lemma accepted_cons_of_error {choice : LevelChoice} {cause : Refusal}
    (h : choice.check = .error cause) (rest : List LevelChoice) :
    accepted (choice :: rest) = accepted rest := by
  rw [accepted, List.filterMap_cons, h]
  rfl

/-- Calls that are not all refused leave one handler of our own behind the others, with the threshold of the
last one that is not. -/
theorem afterAll_eq (l : Logging) (choices : List LevelChoice) :
    l.afterAll choices =
      if accepted choices = [] then l
      else ⟨l.others ++ [.own], (accepted choices).getLastD l.threshold⟩ := by
  induction choices generalizing l with
  | nil => rfl
  | cons choice rest ih =>
    rw [afterAll, List.foldl_cons]
    refine (ih (l.afterConfigure choice)).trans ?_
    cases hcheck : choice.check with
    | error cause => rw [l.afterConfigure_of_error hcheck, accepted_cons_of_error hcheck]
    | ok severity =>
      rw [l.afterConfigure_of_ok hcheck, accepted_cons_of_ok hcheck, others_install,
        if_neg (List.cons_ne_nil _ _), List.getLastD_cons]
      -- The handlers are those of this call, whether or not a later one is accepted.
      split
      · rename_i hnone
        rw [hnone]
        rfl
      · rfl

/-- A call is refused exactly if it is given a name that is no level's in upper case. -/
lemma check_eq_error_iff {choice : LevelChoice} {cause : Refusal} :
    choice.check = .error cause ↔
      ∃ name, choice = .named name ∧ cause = .unknownLevel name ∧
        name.map Level.upperLetter ∉ Level.named.map Prod.fst := by
  cases choice with
  | numeric severity => exact iff_of_false (fun h => nomatch h) fun ⟨_, h, _⟩ => nomatch h
  | named name =>
    rw [LevelChoice.check]
    cases hname : Level.ofName? name with
    | some severity =>
      refine iff_of_false (fun h => nomatch h) ?_
      rintro ⟨_, h, -, hnot⟩
      rw [← LevelChoice.named.inj h, ← Level.ofName?_eq_none_iff, hname] at hnot
      exact nomatch hnot
    | none =>
      constructor
      · intro h
        exact ⟨name, rfl, (Except.error.inj h).symm, Level.ofName?_eq_none_iff.1 hname⟩
      · rintro ⟨_, h, rfl, -⟩
        rw [LevelChoice.named.inj h]

/-- Logging has one handler of our own at most, and never loses another one. Whatever foreign handlers are
attached to begin with, after any calls they are all there in their order; there is one handler of our own
if some call was not refused and none otherwise; and the threshold is that of the last call that was not
refused. The next call makes its changes one after another, but if it is refused, as it is exactly for a
name that is no level's, it leaves handlers and threshold as they were. -/
theorem one_own_handler (foreign : List Nat) (threshold : Int) (choices : List LevelChoice) :
    let start : Logging := ⟨foreign.map .foreign, threshold⟩
    let done := start.afterAll choices
    done.others = start.handlers ∧
      done.handlers.count .own = (if accepted choices = [] then 0 else 1) ∧
      done.threshold = (accepted choices).getLastD threshold ∧
      ∀ choice,
        let call := (configureInPlace choice).run.run done
        call = ((done.configure choice).map fun _ => (), done.afterConfigure choice) ∧
          (∀ cause, call.1 = .error cause ↔
            ∃ name, choice = .named name ∧ cause = .unknownLevel name ∧
              name.map Level.upperLetter ∉ Level.named.map Prod.fst) ∧
          ∀ cause, call.1 = .error cause → call.2 = done := by
  intro start done
  have hforeign : .own ∉ start.handlers := by simp [start]
  have hothers : start.others = start.handlers :=
    List.filter_eq_self.2 fun h hmem => decide_eq_true fun he => hforeign (he ▸ hmem)
  have hdone : done = if accepted choices = [] then start
      else ⟨start.handlers ++ [.own], (accepted choices).getLastD threshold⟩ := by
    rw [← hothers]
    exact start.afterAll_eq choices
  have hcall (choice : LevelChoice) := done.configureInPlace_eq choice
  have hrefused (choice : LevelChoice) (cause : Refusal) :
      ((configureInPlace choice).run.run done).1 = .error cause ↔ choice.check = .error cause := by
    rw [hcall, configure]
    cases choice.check <;> simp [Except.map]
  refine ⟨?_, ?_, ?_, fun choice => ⟨hcall choice, fun cause => ?_, fun cause h => ?_⟩⟩
  · rw [hdone]
    split
    · exact hothers
    · rw [others, List.filter_append]
      exact (congrArg (· ++ _) hothers).trans (List.append_nil _)
  · rw [hdone]
    split
    · exact List.count_eq_zero.2 hforeign
    · rw [List.count_append, List.count_eq_zero.2 hforeign]
      rfl
  · rw [hdone]
    split
    · rename_i hnone
      rw [hnone]
      rfl
    · rfl
  · exact (hrefused choice cause).trans check_eq_error_iff
  · rw [hcall]
    exact done.afterConfigure_of_error ((hrefused choice cause).1 h)

/-- Two foreign handlers stay in front of the one of our own, and the threshold of the last call but one
is kept, as the last call names no level. A name may be written with a dotless i. -/
theorem one_own_handler_chatty :
    let start : Logging := ⟨[7, 3].map .foreign, 0⟩
    let choices : List LevelChoice := [.named "chatty".toList, .named "debug".toList, .numeric 35,
      .named "\u0131nfo".toList, .named "loud".toList]
    let done := start.afterAll choices
    done.others = start.handlers ∧ done.handlers.count .own = 1 ∧ done.threshold = 20 ∧
      ((configureInPlace (.named "loud".toList)).run.run done).1 =
        .error (.unknownLevel "loud".toList) ∧
      ((configureInPlace (.named "loud".toList)).run.run done).2 = done := by
  intro start choices done
  obtain ⟨hothers, hcount, hthreshold, hcall⟩ := one_own_handler [7, 3] 0 choices
  obtain ⟨-, hiff, hkept⟩ := hcall (.named "loud".toList)
  have hrefused := (hiff (.unknownLevel "loud".toList)).2 ⟨"loud".toList, rfl, rfl, by decide⟩
  exact ⟨hothers, hcount.trans (by decide), hthreshold.trans (by decide), hrefused,
    hkept _ hrefused⟩

end Logging
end LineHighlight
