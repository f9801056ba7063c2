import LineHighlight.Proofs.Request.Segments

/-!
# Assemblers without a declared language

Code lines that come while no language is declared are collected, so that two assemblers without a
declaration may hold different lines. Nothing ever comes of the difference: it may last through any
number of code lines and ends of sessions, but a declaration drops what was collected before it, and
only a declaration can lead to a request. `Alike` is the relation that every call keeps
(`Alike.call`), `Alike.calls` follows it through a run, and `idle_indistinguishable` says what can be
seen.
-/

namespace LineHighlight.Assembler

/-! ## Calls -/

/-- What is asked of an assembler. -/
inductive Call where
  | feed (line : Text)
  | reset
  deriving DecidableEq, Repr

/-- The call feeds a code line. -/
def Call.isCode : Call → Bool
  | feed line => Segment.isCode line
  | reset => false

/-- The call drops what was collected: it feeds a declaration, or it is a reset. -/
def Call.startsOver : Call → Bool
  | feed line => !line.isEmpty && !Segment.isCode line
  | reset => true

/-- The assembler after a call, and the outcome of the call. -/
def call (a : Assembler) : Call → Assembler × Option Outcome
  | .feed line => a.feed line
  | .reset => (a.reset, none)

/-- The assembler after some calls. -/
def afterCalls (a : Assembler) : List Call → Assembler
  | [] => a
  | c :: rest => (a.call c).1.afterCalls rest

/-- The outcome of each of some calls. -/
def outcomesOfCalls (a : Assembler) : List Call → List (Option Outcome)
  | [] => []
  | c :: rest => (a.call c).2 :: (a.call c).1.outcomesOfCalls rest

/-- The calls without those that feed a code line while no language is declared. -/
def withoutOrphans (a : Assembler) : List Call → List Call
  | [] => []
  | c :: rest =>
    let more := (a.call c).1.withoutOrphans rest
    if a.isIdle ∧ c.isCode then more else c :: more

/-! ## What calls keep -/

/-- The two assemblers are the same, or both are without a declared language. -/
def Alike (a b : Assembler) : Prop := a = b ∨ a.pending = none ∧ b.pending = none

lemma alike_of_isIdle {a b : Assembler} (ha : a.isIdle = true) (hb : b.isIdle = true) : Alike a b :=
  .inr ⟨Option.isNone_iff_eq_none.1 ha, Option.isNone_iff_eq_none.1 hb⟩

lemma Alike.pending {a b : Assembler} (h : Alike a b) : a.pending = b.pending := by
  rcases h with rfl | ⟨ha, hb⟩
  · rfl
  · rw [ha, hb]

/-- A call has the same outcome for assemblers that are alike and leaves them so. If it starts over, it
leaves them the same. -/
theorem Alike.call {a b : Assembler} (h : Alike a b) (c : Call) :
    (a.call c).2 = (b.call c).2 ∧ Alike (a.call c).1 (b.call c).1 ∧
      (c.startsOver = true → (a.call c).1 = (b.call c).1) := by
  rcases h with rfl | ⟨ha, hb⟩
  · exact ⟨rfl, .inl rfl, fun _ => rfl⟩
  · obtain ⟨_, held⟩ := a
    obtain ⟨_, other⟩ := b
    dsimp only at ha hb
    subst ha hb
    cases c with
    | reset => exact ⟨rfl, .inl rfl, fun _ => rfl⟩
    | feed line =>
      cases line with
      | nil => exact ⟨rfl, .inr ⟨rfl, rfl⟩, fun hover => nomatch hover⟩
      | cons first rest =>
        by_cases hfirst : first = codeMarker
        · -- Both collect the line, and the difference lasts.
          subst hfirst
          exact ⟨rfl, .inr ⟨rfl, rfl⟩, fun hover => nomatch hover⟩
        · -- What was collected is dropped.
          have hfeed : ∀ buffer : Buffer, feed ⟨none, buffer⟩ (first :: rest) =
              (⟨some (first :: rest), {}⟩, none) := fun _ => feed_declaration _ hfirst rest
          unfold Assembler.call
          dsimp only
          rw [hfeed, hfeed]
          exact ⟨rfl, .inl rfl, fun _ => rfl⟩

/-- What one call keeps holds of a run, by induction on the calls. -/
theorem Alike.calls {a b : Assembler} (h : Alike a b) (calls : List Call) :
    a.outcomesOfCalls calls = b.outcomesOfCalls calls ∧
      Alike (a.afterCalls calls) (b.afterCalls calls) ∧
      ((∃ c ∈ calls, c.startsOver = true) → a.afterCalls calls = b.afterCalls calls) := by
  induction calls generalizing a b with
  | nil => exact ⟨rfl, h, fun ⟨_, hc, _⟩ => nomatch hc⟩
  | cons c rest ih =>
    obtain ⟨houtcome, hafter, hsame⟩ := h.call c
    obtain ⟨houtcomes, hlast, hover⟩ := ih hafter
    refine ⟨?_, hlast, ?_⟩
    · rw [outcomesOfCalls, outcomesOfCalls, houtcome, houtcomes]
    · rintro ⟨c', hmem, hc'⟩
      rcases List.mem_cons.1 hmem with rfl | hmem
      · rw [afterCalls, afterCalls, hsame hc']
      · exact hover ⟨c', hmem, hc'⟩

/-! ## Orphans -/

/-- A code line has no outcome and declares nothing. -/
lemma call_of_isCode (a : Assembler) {c : Call} (h : c.isCode = true) :
    (a.call c).2 = none ∧ (a.call c).1.pending = a.pending := by
  cases c with
  | reset => exact nomatch h
  | feed line =>
    obtain ⟨rest, rfl⟩ := List.head?_eq_some_iff.1 (of_decide_eq_true h)
    exact ⟨rfl, rfl⟩

/-- Code lines that come while no language is declared might as well not have come. -/
theorem outcomes_withoutOrphans {a b : Assembler} (h : Alike a b) (calls : List Call) :
    (a.outcomesOfCalls calls).filterMap id =
      (b.outcomesOfCalls (a.withoutOrphans calls)).filterMap id := by
  induction calls generalizing a b with
  | nil => rfl
  | cons c rest ih =>
    rw [outcomesOfCalls, withoutOrphans]
    by_cases horphan : a.isIdle = true ∧ c.isCode = true
    · obtain ⟨houtcome, hpending⟩ := a.call_of_isCode horphan.2
      have hnone : a.pending = none := Option.isNone_iff_eq_none.1 horphan.1
      have hafter : Alike (a.call c).1 b := .inr ⟨hpending.trans hnone, h.pending ▸ hnone⟩
      rw [if_pos horphan, houtcome]
      exact ih hafter
    · obtain ⟨houtcome, hafter, -⟩ := h.call c
      rw [if_neg horphan, outcomesOfCalls, List.filterMap_cons, List.filterMap_cons, houtcome,
        ih hafter]

/-! ## What can be seen -/

/-- Two assemblers without a declared language cannot be told apart by feeding lines and resetting them,
whatever code lines they hold: at every point of a run they have given the same outcomes and have the
same language pending, and from the first declaration or reset on they are the same. So no code line
that came while no language was declared is ever part of a request: the outcomes are those of a fresh
assembler that is not fed these lines. -/
theorem idle_indistinguishable {a b : Assembler} (ha : a.isIdle = true) (hb : b.isIdle = true)
    (calls : List Call) (n : Nat) :
    let made := calls.take n
    a.outcomesOfCalls made = b.outcomesOfCalls made ∧
      (a.afterCalls made).isIdle = (b.afterCalls made).isIdle ∧
      (a.afterCalls made).pending = (b.afterCalls made).pending ∧
      ((∃ c ∈ made, c.startsOver = true) → a.afterCalls made = b.afterCalls made) ∧
      (a.outcomesOfCalls made).filterMap id =
        (fresh.outcomesOfCalls (a.withoutOrphans made)).filterMap id := by
  intro made
  obtain ⟨houtcomes, hlast, hover⟩ := (alike_of_isIdle ha hb).calls made
  have hfresh : Alike a fresh := alike_of_isIdle ha rfl
  refine ⟨houtcomes, ?_, hlast.pending, hover, outcomes_withoutOrphans hfresh made⟩
  rw [isIdle, isIdle, hlast.pending]

/-- Code lines without a language differ and stay through the end of a session. A declaration drops
them, and so does a reset. -/
theorem idle_indistinguishable_orphans :
    let a : Assembler := ⟨none, ⟨["x".toList]⟩⟩
    let b : Assembler := ⟨none, ⟨["y".toList, "z".toList]⟩⟩
    let calls : List Call := [.feed "\tu".toList, .feed [], .feed "c".toList, .feed "\tv".toList,
      .feed [], .feed "\tw".toList, .reset]
    a.isIdle = true ∧ b.isIdle = true ∧
      a.outcomesOfCalls (calls.take 5) = b.outcomesOfCalls (calls.take 5) ∧
      a.outcomesOfCalls (calls.take 5) =
        [none, some .sessionEnd, none, none, some (.request ⟨"c".toList, "v\n".toList⟩)] ∧
      (a.afterCalls (calls.take 2)).buffer ≠ (b.afterCalls (calls.take 2)).buffer ∧
      a.afterCalls (calls.take 3) = b.afterCalls (calls.take 3) := by
  intro a b calls
  have ha : a.isIdle = true := rfl
  have hb : b.isIdle = true := rfl
  have hdeclared : ∃ c ∈ calls.take 3, c.startsOver = true :=
    ⟨.feed "c".toList, by decide, by decide⟩
  obtain ⟨houtcomes, -⟩ := idle_indistinguishable ha hb calls 5
  obtain ⟨-, -, -, hover, -⟩ := idle_indistinguishable ha hb calls 3
  exact ⟨ha, hb, houtcomes, by decide, by decide, hover hdeclared⟩

end LineHighlight.Assembler
