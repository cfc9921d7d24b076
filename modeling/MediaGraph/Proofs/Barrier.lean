import MediaGraph.Barrier

/-!
# What a barrier remembers

A trace is any sequence of calls on a barrier, with any numbers. What a barrier says after a trace
depends on little of it: on the last number that was begun, on whether that number has been
acknowledged since (`Barrier.Awaits`, `Barrier.Acknowledged`), and on how many numbers have been
asked for and begun.

A barrier forgets at each beginning what it has been waiting for. So the proofs take a trace apart
at its last beginning, and follow the barrier from there: first while it waits (`run_begin`), then
while it has nothing to wait for (`run_of_idle`).
-/

namespace MediaGraph.Barrier

/-- A call on a barrier. -/
inductive Step where
  | next
  | begin (number : UInt32)
  | acknowledge (number : UInt32)
  | recordIteration
  deriving DecidableEq

def Step.isBegin : Step → Bool
  | begin _ => true
  | _ => false

def perform (barrier : Barrier) : Step → Barrier
  | .next => barrier.nextSequence.2
  | .begin number => barrier.begin number
  | .acknowledge number => (barrier.acknowledge number).2
  | .recordIteration => barrier.recordIteration

/-- The barrier after a trace. -/
def run (barrier : Barrier) (steps : List Step) : Barrier := steps.foldl perform barrier

/-- The numbers that a trace is given, in order. -/
def numbers (barrier : Barrier) : List Step → List UInt32
  | [] => []
  | .next :: rest => barrier.nextSequence.1 :: (barrier.perform .next).numbers rest
  | step :: rest => (barrier.perform step).numbers rest

/-- The last beginning in a trace is the one of a number, and what comes after it is known. -/
def LastBegan (steps : List Step) (number : UInt32) (after : List Step) : Prop :=
  ∃ before, steps = before ++ .begin number :: after ∧ ∀ other, .begin other ∉ after

/-- The number begun last has not been acknowledged since. -/
def Awaits (steps : List Step) (number : UInt32) : Prop :=
  ∃ after, LastBegan steps number after ∧ .acknowledge number ∉ after

/-- The number begun last has been acknowledged since. -/
def Acknowledged (steps : List Step) (number : UInt32) : Prop :=
  ∃ after, LastBegan steps number after ∧ .acknowledge number ∈ after

variable {barrier : Barrier} {steps after : List Step} {number : UInt32}

@[simp]
theorem run_cons (barrier : Barrier) (step : Step) (rest : List Step) :
    barrier.run (step :: rest) = (barrier.perform step).run rest := rfl

/-! ## From the last beginning on -/

/-- Without a beginning, a barrier that waits for nothing is not changed by acknowledgements. -/
theorem run_of_idle (idle : barrier.pending = none) (unbegun : ∀ other, .begin other ∉ after) :
    (barrier.run after).pending = none ∧ (barrier.run after).complete = barrier.complete := by
  induction after generalizing barrier with
  | nil => exact ⟨idle, rfl⟩
  | cons step rest ih =>
      have others : ∀ other, .begin other ∉ rest := fun other later =>
        unbegun other (List.mem_cons_of_mem step later)
      cases step with
      | next =>
          have stillIdle : (barrier.perform .next).pending = none := idle
          exact ih stillIdle others
      | recordIteration =>
          have stillIdle : (barrier.perform .recordIteration).pending = none := idle
          exact ih stillIdle others
      | begin other => exact absurd List.mem_cons_self (unbegun other)
      | acknowledge other =>
          have stale : barrier.perform (.acknowledge other) = barrier := by
            simp [perform, Barrier.acknowledge, idle]
          rw [run_cons, stale]
          exact ih idle others

/-- From its beginning on, a number is waited for until it is acknowledged the first time. -/
theorem run_begin (unbegun : ∀ other, .begin other ∉ after) :
    ((barrier.begin number).run after).pending =
        (if .acknowledge number ∈ after then none else some number) ∧
      ((barrier.begin number).run after).complete = decide (.acknowledge number ∈ after) := by
  induction after generalizing barrier with
  | nil => simp [run, begin]
  | cons step rest ih =>
      have others : ∀ other, .begin other ∉ rest := fun other later =>
        unbegun other (List.mem_cons_of_mem step later)
      cases step with
      | next =>
          have commutes : (barrier.begin number).perform .next =
              (barrier.perform .next).begin number := rfl
          simpa [commutes] using ih others
      | recordIteration =>
          have commutes : (barrier.begin number).perform .recordIteration =
              (barrier.perform .recordIteration).begin number := rfl
          simpa [commutes] using ih others
      | begin other => exact absurd List.mem_cons_self (unbegun other)
      | acknowledge other =>
          by_cases awaited : number = other
          · subst awaited
            have first : (barrier.begin number).perform (.acknowledge number) =
                { barrier.begin number with pending := none, complete := true } := by
              simp [perform, begin, Barrier.acknowledge]
            rw [run_cons, first]
            simpa using run_of_idle rfl others
          · have stale : (barrier.begin number).perform (.acknowledge other) =
                barrier.begin number := by
              simp [perform, begin, Barrier.acknowledge, awaited]
            simpa [stale, awaited] using ih others

/-! ## Whole traces -/

/-- Either nothing has been begun in a trace, or there is a last beginning. -/
theorem unbegun_or_lastBegan (steps : List Step) :
    (∀ other, .begin other ∉ steps) ∨ ∃ number after, LastBegan steps number after := by
  induction steps with
  | nil => exact .inl fun _ => List.not_mem_nil
  | cons step rest ih =>
      rcases ih with unbegun | ⟨number, after, before, rfl, last⟩
      · cases step with
        | begin number => exact .inr ⟨number, rest, [], rfl, unbegun⟩
        | next | acknowledge | recordIteration => exact .inl fun other => by simp [unbegun other]
      · exact .inr ⟨number, after, step :: before, rfl, last⟩

theorem run_of_lastBegan (last : LastBegan steps number after) :
    (barrier.run steps).pending =
        (if .acknowledge number ∈ after then none else some number) ∧
      (barrier.run steps).complete = decide (.acknowledge number ∈ after) := by
  rcases last with ⟨before, rfl, unbegun⟩
  have split : barrier.run (before ++ .begin number :: after) =
      ((barrier.run before).begin number).run after := by
    simp only [run, List.foldl_append, List.foldl_cons, perform]
  rw [split]
  exact run_begin unbegun

theorem pending_eq_some_iff : (run {} steps).pending = some number ↔ Awaits steps number := by
  constructor
  · intro pending
    rcases unbegun_or_lastBegan steps with unbegun | ⟨begun, after, last⟩
    · have fresh : ({} : Barrier).pending = none := rfl
      rw [(run_of_idle fresh unbegun).1] at pending
      cases pending
    · rw [(run_of_lastBegan last).1] at pending
      split at pending
      case isTrue => cases pending
      case isFalse unacknowledged =>
        cases pending
        exact ⟨after, last, unacknowledged⟩
  · rintro ⟨after, last, unacknowledged⟩
    rw [(run_of_lastBegan last).1, if_neg unacknowledged]

theorem complete_iff : (run {} steps).complete ↔ ∃ number, Acknowledged steps number := by
  constructor
  · intro complete
    rcases unbegun_or_lastBegan steps with unbegun | ⟨begun, after, last⟩
    · have fresh : ({} : Barrier).pending = none := rfl
      rw [(run_of_idle fresh unbegun).2] at complete
      cases complete
    · rw [(run_of_lastBegan last).2] at complete
      exact ⟨begun, after, last, of_decide_eq_true complete⟩
  · rintro ⟨number, after, last, acknowledged⟩
    rw [(run_of_lastBegan last).2]
    exact decide_eq_true acknowledged

/-- An acknowledgement counts exactly if its number is the one waited for. -/
theorem acknowledge_iff : (barrier.acknowledge number).1 ↔ barrier.pending = some number := by
  simp only [acknowledge]
  split
  case isTrue awaited => simp [awaited]
  case isFalse stale => simp [stale]

/-! ## Counts -/

theorem next_perform (barrier : Barrier) (step : Step) :
    (barrier.perform step).next = if step = .next then barrier.next + 1 else barrier.next := by
  cases step with
  | next => rfl
  | begin | recordIteration => rfl
  | acknowledge number =>
      simp only [perform, acknowledge]
      split <;> rfl

theorem syncs_perform (barrier : Barrier) (step : Step) :
    (barrier.perform step).syncs = barrier.syncs + if step.isBegin then 1 else 0 := by
  cases step with
  | begin => rfl
  | next | recordIteration => rfl
  | acknowledge number =>
      simp only [perform, acknowledge]
      split <;> rfl

theorem syncs_run (barrier : Barrier) (steps : List Step) :
    (barrier.run steps).syncs = barrier.syncs + steps.countP Step.isBegin := by
  induction steps generalizing barrier with
  | nil => rfl
  | cons step rest ih =>
      rw [run_cons, ih, syncs_perform, List.countP_cons, Nat.add_assoc, Nat.add_comm (ite _ _ _)]

/-- Whatever else happens, the numbers that are given out follow each other. -/
theorem numbers_eq (barrier : Barrier) (steps : List Step) :
    barrier.numbers steps =
      (List.range (steps.count .next)).map fun index => barrier.next + UInt32.ofNat index := by
  induction steps generalizing barrier with
  | nil => rfl
  | cons step rest ih =>
      have further := ih (barrier.perform step)
      rw [next_perform] at further
      cases step with
      | next =>
          simp only [numbers, further, List.count_cons_self, List.range_succ_eq_map, List.map_cons,
            List.map_map, List.cons.injEq]
          refine ⟨by simp [nextSequence], ?_⟩
          apply List.map_congr_left
          intro index _
          simp only [Function.comp_apply, if_true, Nat.succ_eq_add_one, UInt32.ofNat_add]
          grind
      | begin | acknowledge | recordIteration => simpa [numbers] using further

theorem numbers_new (steps : List Step) :
    numbers {} steps = (List.range (steps.count .next)).map UInt32.ofNat := by
  simpa using numbers_eq {} steps

/-- Two numbers are only the same if the counter has gone all the way round between them. -/
theorem number_ne {first second : Nat} (before : first < second)
    (near : second < first + UInt32.size) (given : second < steps.count .next) :
    (numbers {} steps)[first]? ≠ (numbers {} steps)[second]? := by
  have earlier : first < steps.count .next := Nat.lt_trans before given
  simp only [numbers_new, List.getElem?_map, List.getElem?_range earlier, List.getElem?_range given,
    Option.map_some, ne_eq, Option.some.injEq]
  intro same
  have remainders := congrArg UInt32.toNat same
  simp only [UInt32.toNat_ofNat'] at remainders
  rw [UInt32.size] at near
  omega

/--
After any trace, a barrier is complete exactly if the number begun last has been acknowledged since,
and waits for that number exactly if it has not. It is the next acknowledgement of the number that
counts, and no other. Numbers are given out in order and wrap around, and every beginning is
counted.
-/
theorem run_remembers (steps : List Step) :
    ((run {} steps).complete ↔ ∃ number, Acknowledged steps number) ∧
    (∀ number, ((run {} steps).acknowledge number).1 ↔ Awaits steps number) ∧
    (∀ number, (run {} steps).pending = some number ↔ Awaits steps number) ∧
    (numbers {} steps).map UInt32.toNat =
      (List.range (steps.count .next)).map (· % UInt32.size) ∧
    (∀ first second, first < second → second < first + UInt32.size → second < steps.count .next →
      (numbers {} steps)[first]? ≠ (numbers {} steps)[second]?) ∧
    (run {} steps).syncs = steps.countP Step.isBegin := by
  refine ⟨complete_iff, ?_, fun _ => pending_eq_some_iff, ?_, fun _ _ => number_ne, ?_⟩
  · intro number
    rw [acknowledge_iff, pending_eq_some_iff]
  · rw [numbers_new, List.map_map]
    apply List.map_congr_left
    intro index _
    exact UInt32.toNat_ofNat'
  · simpa using syncs_run {} steps

/-- A number is begun a second time before it has been acknowledged, and then told twice. -/
def reArmed : List Step :=
  [.next, .begin 7, .acknowledge 6, .begin 7, .next, .acknowledge 7, .acknowledge 7]

theorem run_remembers_reArmed :
    (run {} reArmed).complete ∧ Acknowledged reArmed 7 ∧ ¬Awaits reArmed 7 ∧
      (numbers {} reArmed)[0]? ≠ (numbers {} reArmed)[1]? ∧ (run {} reArmed).syncs = 2 := by
  rcases run_remembers reArmed with ⟨complete, -, pending, -, distinct, syncs⟩
  have acknowledged : Acknowledged reArmed 7 :=
    ⟨[.next, .acknowledge 7, .acknowledge 7], ⟨[.next, .begin 7, .acknowledge 6], rfl, by simp⟩,
      by simp⟩
  refine ⟨complete.2 ⟨7, acknowledged⟩, acknowledged, ?_, ?_, syncs⟩
  · rw [← pending]
    decide
  · exact distinct 0 1 (by decide) (by decide) (by decide)

end MediaGraph.Barrier
