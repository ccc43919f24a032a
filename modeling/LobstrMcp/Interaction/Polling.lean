import LobstrMcp.Interaction.Machine
import Mathlib.Algebra.Order.Field.Rat
import Mathlib.Tactic.Linarith

/-!
Loops that poll: look, and as long as what was seen is not settled and time is left, sleep for an
interval, or for what is left of the time, and look again. Only the clock brings such a loop to its
end: its measure is the time up to the deadline, in intervals.
-/

namespace Interaction

/-- What a polling loop does: it looks, reads the clock, and sleeps. -/
inductive Polling where
  | poll
  | now
  | sleep (seconds : Rat)

/-- A look answers with what it saw, or with the exception it raised. -/
abbrev Polling.Ans (ε α : Type) : Polling → Type
  | .poll => Except ε α
  | .now => Rat
  | .sleep _ => Unit

namespace Polling
variable {ε ε' α σ : Type}

section Loop
variable (escape : ε → ε') (settled : α → Bool) (interval deadline : Rat)

/-- Look; an exception escapes the loop. -/
def look : Program Polling (Ans ε α) ε' α := do
  let seen : Except ε α ← .ask Polling.poll
  .ofExcept (seen.mapError escape)

/-- The loop from what was seen last; none where it needs more rounds than are given. -/
def pollUntil : Nat → α → Program Polling (Ans ε α) ε' (Option α)
  | 0, _ => pure none
  | rounds + 1, last =>
    if settled last then pure (some last) else do
    let now : Rat ← .ask Polling.now
    let remaining := deadline - now
    if remaining ≤ 0 then pure (some last) else do
    let _ ← .ask (Polling.sleep (min interval remaining))
    let seen ← look escape
    pollUntil rounds seen

end Loop

/-- The clock of a machine. It never goes back, a reading is what it shows meanwhile, and a sleep
takes its time at least. -/
structure Clock (m : Machine Polling (Ans ε α) σ) (now : σ → Rat) : Prop where
  forward : ∀ st op, now st ≤ now (m st op).2
  reads : ∀ st, now st ≤ (m st .now).1 ∧ (m st .now).1 ≤ now (m st .now).2
  sleeps : ∀ st seconds, now st + seconds ≤ now (m st (.sleep seconds)).2

/-- What the looks of a run saw. -/
def looks : List (Event Polling (Ans ε α) σ) → List (Except ε α)
  | [] => []
  | ⟨_, .poll, seen⟩ :: rest => seen :: looks rest
  | _ :: rest => looks rest

/-- Every sleep is for some time, right after a reading, and by that reading over at the deadline. -/
def SleepsWithin (deadline : Rat) : Option Rat → List (Event Polling (Ans ε α) σ) → Prop
  | _, [] => True
  | _, ⟨_, .now, reading⟩ :: rest => SleepsWithin deadline (some reading) rest
  | read, ⟨_, .sleep seconds, _⟩ :: rest =>
    (∃ reading, read = some reading ∧ 0 < seconds ∧ reading + seconds ≤ deadline) ∧ SleepsWithin deadline none rest
  | _, ⟨_, .poll, _⟩ :: rest => SleepsWithin deadline none rest

/-- A reading of the run is past the deadline. -/
def RanOut (deadline : Rat) (tr : List (Event Polling (Ans ε α) σ)) : Prop :=
  ∃ st reading, deadline ≤ reading ∧ (⟨st, .now, reading⟩ : Event Polling (Ans ε α) σ) ∈ tr

/-- How the loop ends: with the last look, and unless that is settled or an exception, out of time. -/
structure Halts (escape : ε → ε') (settled : α → Bool) (deadline : Rat) (most : Nat) (first : α)
    (outcome : Except ε' (Option α)) (tr : List (Event Polling (Ans ε α) σ)) : Prop where
  few : (looks tr).length ≤ most
  timely : SleepsWithin deadline none tr
  last : outcome = (((looks tr).getLast?.getD (.ok first)).mapError escape).map some
  honest : ∀ seen, outcome = .ok (some seen) → settled seen = true ∨ RanOut deadline tr

section Ends
variable {escape : ε → ε'} {settled : α → Bool} {interval deadline : Rat} {m : Machine Polling (Ans ε α) σ}
  {now : σ → Rat} {st : σ} {last : α} {most rounds : Nat}

theorem halts_settled (done : settled last = true) :
    Halts escape settled deadline most last (.ok (some last)) ([] : List (Event Polling (Ans ε α) σ)) where
  few := Nat.zero_le _
  timely := trivial
  last := rfl
  honest seen same := by
    cases same
    exact .inl done

theorem halts_late {reading : Rat} (late : deadline - reading ≤ 0) :
    Halts escape settled deadline most last (.ok (some last))
      ([⟨st, .now, reading⟩] : List (Event Polling (Ans ε α) σ)) where
  few := Nat.zero_le _
  timely := trivial
  last := rfl
  honest _ _ := .inr ⟨st, reading, by linarith, List.mem_singleton_self _⟩

/-- After a sleep, one interval less is left. -/
theorem Clock.slept (clock : Clock m now) (positive : 0 < interval)
    (left : deadline - now st ≤ (most + 1 : Nat) * interval) {awake : σ}
    (woken : awake = (m (m st .now).2 (.sleep (min interval (deadline - (m st .now).1)))).2) :
    deadline - now (m awake .poll).2 ≤ most * interval := by
  have read := clock.reads st
  have slept := clock.sleeps (m st .now).2 (min interval (deadline - (m st .now).1))
  have looked := clock.forward awake .poll
  rw [← woken] at slept
  have rest : 0 ≤ (most : Rat) * interval := by positivity
  push_cast at left
  rcases min_cases interval (deadline - (m st .now).1) with ⟨short, -⟩ | ⟨short, -⟩
  · rw [short] at slept
    linarith
  · rw [short] at slept
    linarith

/-- A round: the reading, the sleep and the look it makes before the others. -/
theorem Halts.round {outcome : Except ε' (Option α)} {tr : List (Event Polling (Ans ε α) σ)} {reading seconds : Rat}
    {before after awake : σ} {seen : α} (halts : Halts escape settled deadline most seen outcome tr)
    (some : 0 < seconds) (within : reading + seconds ≤ deadline) :
    Halts escape settled deadline (most + 1) last outcome
      (⟨before, .now, reading⟩ :: ⟨after, .sleep seconds, ()⟩ :: ⟨awake, .poll, .ok seen⟩ :: tr) where
  few := Nat.succ_le_succ halts.few
  timely := ⟨⟨reading, rfl, some, within⟩, halts.timely⟩
  last := by
    rw [halts.last]
    simp only [looks, List.getLast?_cons, Option.getD_some]
  honest seen ended := by
    refine (halts.honest seen ended).imp_right fun ⟨st, late, passed, read⟩ => ⟨st, late, passed, ?_⟩
    exact List.mem_cons_of_mem _ (List.mem_cons_of_mem _ (List.mem_cons_of_mem _ read))

/-- The loop ends with as many looks as intervals fit into the time left. -/
theorem halts_pollUntil (clock : Clock m now) (positive : 0 < interval)
    (left : deadline - now st ≤ most * interval) (enough : most < rounds) :
    Halts escape settled deadline most last ((pollUntil escape settled interval deadline rounds last).run m st).1
      ((pollUntil escape settled interval deadline rounds last).trace m st) := by
  induction most generalizing rounds st last with
  | zero =>
    obtain ⟨rounds, rfl⟩ : ∃ fewer, rounds = fewer + 1 := ⟨rounds - 1, by omega⟩
    unfold pollUntil
    split
    · exact halts_settled ‹_›
    have late : deadline - (m st .now).1 ≤ 0 := by
      have read := (clock.reads st).1
      simp only [Nat.cast_zero, zero_mul] at left
      linarith
    rw [Program.run_ask_bind, Program.trace_ask_bind]
    dsimp only
    rw [if_pos late]
    exact halts_late late
  | succ most ih =>
    obtain ⟨rounds, rfl⟩ : ∃ fewer, rounds = fewer + 1 := ⟨rounds - 1, by omega⟩
    unfold pollUntil
    split
    · exact halts_settled ‹_›
    rw [Program.run_ask_bind, Program.trace_ask_bind]
    dsimp only
    split
    · exact halts_late ‹_›
    rename_i time
    have some : 0 < min interval (deadline - (m st .now).1) := lt_min positive (by linarith)
    have within : (m st .now).1 + min interval (deadline - (m st .now).1) ≤ deadline := by
      linarith [min_le_right interval (deadline - (m st .now).1)]
    rw [Program.run_ask_bind, Program.trace_ask_bind]
    obtain ⟨awake, woken⟩ : ∃ awake, awake =
        (m (m st .now).2 (.sleep (min interval (deadline - (m st .now).1)))).2 := ⟨_, rfl⟩
    have fewer := clock.slept positive left woken
    rw [← woken]
    unfold look
    rw [Program.bind_assoc, Program.run_ask_bind, Program.trace_ask_bind]
    cases seen : (m awake .poll).1 with
    | ok value =>
      have rest : Halts escape settled deadline most value _ _ := ih fewer (Nat.lt_of_succ_lt_succ enough)
      exact rest.round some within
    | error e =>
      exact {
        few := Nat.succ_le_succ (Nat.zero_le _)
        timely := ⟨⟨_, rfl, some, within⟩, trivial⟩
        last := rfl
        honest := fun _ absurd => by cases absurd }

/-- It ends with what was seen last or in one of its looks, with the exception of one, or, short of
rounds, with nothing. -/
theorem pollUntil_cases (rounds : Nat) (last : α) (st : σ) :
    (∃ seen, ((pollUntil escape settled interval deadline rounds last).run m st).1 = .ok (some seen) ∧
      (seen = last ∨ ∃ awake, (⟨awake, .poll, .ok seen⟩ : Event Polling (Ans ε α) σ) ∈
        (pollUntil escape settled interval deadline rounds last).trace m st)) ∨
    ((pollUntil escape settled interval deadline rounds last).run m st).1 = .ok none ∨
    ∃ e, ((pollUntil escape settled interval deadline rounds last).run m st).1 = .error (escape e) := by
  induction rounds generalizing last st with
  | zero => exact .inr (.inl rfl)
  | succ rounds ih =>
    unfold pollUntil
    split
    · exact .inl ⟨last, rfl, .inl rfl⟩
    rw [Program.run_ask_bind, Program.trace_ask_bind]
    dsimp only
    split
    · exact .inl ⟨last, rfl, .inl rfl⟩
    rw [Program.run_ask_bind, Program.trace_ask_bind]
    unfold look
    rw [Program.bind_assoc, Program.run_ask_bind, Program.trace_ask_bind]
    generalize (m (m st .now).2 _).2 = awake
    cases looked : (m awake .poll).1 with
    | error e => exact .inr (.inr ⟨e, rfl⟩)
    | ok value =>
      rcases ih value (m awake .poll).2 with ⟨seen, ended, place⟩ | short | raised
      · refine .inl ⟨seen, ended, .inr ?_⟩
        rcases place with rfl | ⟨later, member⟩
        · exact ⟨awake, List.mem_cons_of_mem _ (List.mem_cons_of_mem _ List.mem_cons_self)⟩
        · exact ⟨later, List.mem_cons_of_mem _ (List.mem_cons_of_mem _ (List.mem_cons_of_mem _ member))⟩
      · exact .inr (.inl short)
      · exact .inr (.inr raised)

end Ends
end Polling
end Interaction
