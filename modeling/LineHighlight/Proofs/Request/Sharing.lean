import LineHighlight.Request.Bench
import Mathlib.Tactic.Lemma

/-!
# Assemblers that share records

Any number of assemblers may be in use at once, each on a record of its own or on that of another one.
A call reads and writes the record of the assembler that it is made on, and nothing else
(`exists_put_of_isCall`, `record_act_of_not`). So what the calls on one record show is what they would
show without all others (`callsOn_eq`): it does not matter which of the assemblers on the record they are
made on, nor what is done in between on other records.
-/

namespace LineHighlight.Bench

/-! ## Records -/

/-- The state of a record. A record that is not there yet counts as fresh. -/
def record (b : Bench) (k : Nat) : Assembler := b.records.getD k .fresh

/-- There is a record, and all assemblers work on records that are there. -/
structure WellFormed (b : Bench) : Prop where
  records_pos : 0 < b.records.length
  owners_lt : ∀ k ∈ b.owners, k < b.records.length

section

variable {b : Bench}

lemma WellFormed.slot_lt (h : b.WellFormed) : b.slot < b.records.length := by
  unfold slot
  rw [List.getD_eq_getElem?_getD]
  cases howner : b.owners[b.selected]? with
  | none => exact h.records_pos
  | some k => exact h.owners_lt k (List.mem_of_getElem? howner)

/-- A new state of the selected assembler is seen in its record and in no other. -/
lemma record_put (h : b.WellFormed) (state : Assembler) (k : Nat) :
    (b.put state).record k = if b.slot = k then state else b.record k := by
  unfold record put
  rw [List.getD_eq_getElem?_getD, List.getD_eq_getElem?_getD, List.getElem?_set]
  by_cases hk : b.slot = k
  · rw [if_pos hk, if_pos h.slot_lt, if_pos hk]
    rfl
  · rw [if_neg hk, if_neg hk]

lemma current_put (h : b.WellFormed) (state : Assembler) : (b.put state).current = state :=
  (record_put h state b.slot).trans (if_pos rfl)

/-- A new record is fresh, and it counted as fresh before. -/
lemma record_create (b : Bench) (k : Nat) : b.create.record k = b.record k := by
  unfold record create
  rw [List.getD_eq_getElem?_getD, List.getD_eq_getElem?_getD, List.getElem?_append]
  split
  · rfl
  · rename_i hnew
    rw [List.getElem?_eq_none (Nat.le_of_not_lt hnew)]
    cases hplace : k - b.records.length <;> rfl

lemma slot_create (b : Bench) : b.create.slot = b.records.length := by
  simp [slot, create]

lemma slot_share (b : Bench) : b.share.slot = b.slot := by
  simp [slot, share]

/-! ## Actions -/

/-- The action is a call on the selected assembler. The others create assemblers or select one. -/
def Action.isCall : Action → Bool
  | feed _ | feedLines .. | reset => true
  | share | create | select _ => false

/-- The bench after some actions. -/
def actAll (b : Bench) (actions : List Action) : Bench := actions.foldl (fun b a => (b.act a).1) b

/-- A call puts a new state in place. This state, and what is shown and logged, depend on nothing but the
state of the assembler that the call is made on. -/
lemma exists_put_of_isCall (b b' : Bench) (h : b.current = b'.current) {a : Action}
    (ha : a.isCall = true) :
    ∃ state, (b.act a).1 = b.put state ∧ (b'.act a).1 = b'.put state ∧
      (b.act a).2 = (b'.act a).2 := by
  cases a with
  | feed line =>
    unfold act
    rw [h]
    exact ⟨_, rfl, rfl, rfl⟩
  | feedLines ls count =>
    unfold act
    rw [h]
    exact ⟨_, rfl, rfl, rfl⟩
  | reset => exact ⟨.fresh, rfl, rfl, rfl⟩
  | share => exact nomatch ha
  | create => exact nomatch ha
  | select i => exact nomatch ha

/-- What an action does to a bench. -/
lemma act_cases (b : Bench) (a : Action) :
    (a.isCall = true ∧ ∃ state, (b.act a).1 = b.put state) ∨ (b.act a).1 = b.share ∨
      (b.act a).1 = b.create ∨ ∃ i, (b.act a).1 = b.select i := by
  cases a with
  | feed line => exact .inl ⟨rfl, _, rfl⟩
  | feedLines ls count => exact .inl ⟨rfl, _, rfl⟩
  | reset => exact .inl ⟨rfl, _, rfl⟩
  | share => exact .inr (.inl rfl)
  | create => exact .inr (.inr (.inl rfl))
  | select i => exact .inr (.inr (.inr ⟨i, rfl⟩))

lemma WellFormed.act (h : b.WellFormed) (a : Action) : (b.act a).1.WellFormed := by
  obtain ⟨hpos, howners⟩ := h
  rcases b.act_cases a with ⟨-, state, hact⟩ | hact | hact | ⟨i, hact⟩ <;> rw [hact]
  · have hlength : (b.put state).records.length = b.records.length := List.length_set
    exact ⟨hlength ▸ hpos, fun k hk => hlength ▸ howners k hk⟩
  · refine ⟨hpos, fun k hk => ?_⟩
    rcases List.mem_append.1 hk with hk | hk
    · exact howners k hk
    · rw [List.mem_singleton.1 hk]
      exact WellFormed.slot_lt ⟨hpos, howners⟩
  · have hlength : b.create.records.length = b.records.length + 1 := List.length_append
    refine ⟨by omega, fun k hk => ?_⟩
    rcases List.mem_append.1 hk with hk | hk
    · have := howners k hk
      omega
    · rw [List.mem_singleton.1 hk]
      omega
  · exact ⟨hpos, howners⟩

lemma WellFormed.actAll (h : b.WellFormed) (actions : List Action) : (b.actAll actions).WellFormed := by
  induction actions generalizing b with
  | nil => exact h
  | cons a rest ih => exact ih (h.act a)

/-- An action that is no call on a record leaves the record as it is. -/
lemma record_act_of_not (h : b.WellFormed) {a : Action} {k : Nat}
    (ha : ¬ (a.isCall = true ∧ b.slot = k)) : (b.act a).1.record k = b.record k := by
  rcases b.act_cases a with ⟨hcall, state, hact⟩ | hact | hact | ⟨i, hact⟩ <;> rw [hact]
  · rw [record_put h, if_neg fun hk => ha ⟨hcall, hk⟩]
  · rfl
  · exact b.record_create k
  · rfl

/-- No action moves an assembler to another record. -/
lemma owners_act (b : Bench) (a : Action) {i : Nat} (hi : i < b.owners.length) :
    (b.act a).1.owners[i]? = b.owners[i]? := by
  rcases b.act_cases a with ⟨-, state, hact⟩ | hact | hact | ⟨_, hact⟩ <;> rw [hact]
  · rfl
  · exact List.getElem?_append_left hi
  · exact List.getElem?_append_left hi
  · rfl

end

/-! ## What can be seen of calls -/

/-- What an action shows and logs, and the state of the assembler that is then selected. -/
structure Observation where
  shown : Shown
  notes : List Note
  after : Assembler
  deriving DecidableEq

/-- What can be seen of an action. -/
def observe (b : Bench) (a : Action) : Observation :=
  let done := b.act a
  ⟨done.2.1, done.2.2, done.1.current⟩

/-- The calls on one record among some actions, and what can be seen of each. -/
def callsOn (b : Bench) (k : Nat) : List Action → List (Action × Observation)
  | [] => []
  | a :: rest =>
    let later := (b.act a).1.callsOn k rest
    if a.isCall = true ∧ b.slot = k then (a, b.observe a) :: later else later

/-- A bench with one assembler. -/
def alone (state : Assembler) : Bench := ⟨[state], [0], 0⟩

lemma wellFormed_alone (state : Assembler) : (alone state).WellFormed :=
  ⟨Nat.one_pos, fun k hk => by rw [List.mem_singleton.1 hk]; exact Nat.one_pos⟩

/-- The calls on a record show what they show on one assembler that begins with the state of the record,
and leave the record in the state of that assembler, by induction on the actions. -/
theorem callsOn_eq {b : Bench} (h : b.WellFormed) (k : Nat) (actions : List Action) :
    let calls := b.callsOn k actions
    (alone (b.record k)).callsOn 0 (calls.map Prod.fst) = calls ∧
      (alone (b.record k)).actAll (calls.map Prod.fst) =
        alone ((b.actAll actions).record k) := by
  induction actions generalizing b with
  | nil => exact ⟨rfl, rfl⟩
  | cons a rest ih =>
    obtain ⟨hcalls, hlast⟩ := ih (h.act a)
    rw [callsOn]
    by_cases hon : a.isCall = true ∧ b.slot = k
    · obtain ⟨hcall, rfl⟩ := hon
      -- Both benches put the same state in place, and show the same.
      obtain ⟨state, hact, halone, hsame⟩ :=
        exists_put_of_isCall b (alone b.current) rfl hcall
      have hrecord : (b.act a).1.record b.slot = state := by
        rw [hact]
        exact current_put h state
      have hobserve : (alone b.current).observe a = b.observe a := by
        unfold observe
        dsimp only
        rw [hsame, hact, halone, current_put h]
        rfl
      rw [hrecord] at hcalls hlast
      rw [if_pos ⟨hcall, rfl⟩]
      refine ⟨?_, ?_⟩
      · rw [List.map_cons, callsOn, if_pos ⟨hcall, rfl⟩]
        show ((a, (alone b.current).observe a) :: ((alone b.current).act a).1.callsOn 0 _) = _
        rw [hobserve, halone]
        exact congrArg _ hcalls
      · rw [List.map_cons, actAll, List.foldl_cons]
        show (((alone b.current).act a).1).actAll _ = _
        rw [halone]
        exact hlast
    · rw [if_neg hon, ← record_act_of_not h hon]
      exact ⟨hcalls, hlast⟩

/-- Assemblers on different records do not interfere, and assemblers on one record are one. After any
actions on a bench, the calls on a record have shown what they show, without all others, on a fresh
assembler that is the only one, and have left the record in its state, which all assemblers on the record
are in. At this point no action changes a record unless it is a call on it, and none moves an assembler to
another record; a new assembler is fresh and on a record that no other one works on, or it works on the
record of the one that was selected. As the lines of a reading may be those that an earlier one left, this
is also about readings that are suspended. -/
theorem calls_independent (actions : List Action) (k : Nat) :
    let b := ({} : Bench).actAll actions
    let calls := ({} : Bench).callsOn k actions
    ({} : Bench).callsOn 0 (calls.map Prod.fst) = calls ∧
      b.record k = (({} : Bench).actAll (calls.map Prod.fst)).current ∧
      (∀ i, b.owners[i]? = some k → (b.select i).current = b.record k) ∧
      (∀ a, ¬ (a.isCall = true ∧ b.slot = k) → (b.act a).1.record k = b.record k) ∧
      (∀ a i, i < b.owners.length → (b.act a).1.owners[i]? = b.owners[i]?) ∧
      (b.create.slot ∉ b.owners ∧ b.create.current = .fresh) ∧ b.share.slot = b.slot := by
  intro b calls
  have hnew : ({} : Bench).WellFormed := wellFormed_alone .fresh
  have hwell : b.WellFormed := hnew.actAll actions
  have hfresh : ({} : Bench).record k = .fresh := by
    cases k <;> rfl
  obtain ⟨hcalls, hlast⟩ := callsOn_eq hnew k actions
  rw [hfresh] at hcalls hlast
  refine ⟨hcalls, ?_, fun i hi => ?_, fun a ha => record_act_of_not hwell ha,
    fun a i hi => b.owners_act a hi, ⟨fun hmem => ?_, ?_⟩, b.slot_share⟩
  · exact (congrArg current hlast).symm
  · show b.record (b.owners.getD i 0) = b.record k
    rw [List.getD_eq_getElem?_getD, hi]
    rfl
  · rw [slot_create] at hmem
    exact Nat.lt_irrefl _ (hwell.owners_lt _ hmem)
  · show b.create.record b.create.slot = .fresh
    rw [record_create, slot_create, record, List.getD_eq_getElem?_getD,
      List.getElem?_eq_none (Nat.le_refl _)]
    rfl

/-- Two assemblers on one record and one on its own are fed by turns. A call on the second of the two that
share finishes what was declared and collected on the first one. -/
theorem calls_independent_by_turns :
    let actions : List Action := [.feed "a".toList, .create, .feed "b".toList, .share, .select 0,
      .feed "\tx".toList, .select 2, .feed "\ty".toList, .select 0,
      .feedLines ["".toList, "c".toList] (some 1), .select 1, .feed []]
    let b := ({} : Bench).actAll actions
    let calls := ({} : Bench).callsOn 1 actions
    calls.map Prod.fst = [.feed "b".toList, .feed "\ty".toList, .feed []] ∧
      ({} : Bench).callsOn 0 (calls.map Prod.fst) = calls ∧
      calls.map (fun call => call.2.shown) = [.outcome none, .outcome none,
        .outcome (some (.request ⟨"b".toList, "y\n".toList⟩))] ∧
      b.owners[2]? = some 1 ∧ (b.select 2).current = b.record 1 ∧
      b.slot ≠ 0 ∧ (b.act .reset).1.record 0 = b.record 0 ∧
      (b.act .create).1.owners[1]? = b.owners[1]? := by
  intro actions b calls
  obtain ⟨halone, -, hshared, hkept, howners, -⟩ := calls_independent actions 1
  obtain ⟨-, -, -, hother, -⟩ := calls_independent actions 0
  have howner : b.owners[2]? = some 1 := by decide +kernel
  have hslot : b.slot ≠ 0 := by decide +kernel
  exact ⟨by decide +kernel, halone, by decide +kernel, howner, hshared 2 howner, hslot,
    hother .reset fun h => hslot h.2, howners .create 1 (by decide +kernel)⟩

end LineHighlight.Bench
