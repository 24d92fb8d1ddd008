import Lisplet.Proofs.Evaluation.Nesting
import Lisplet.Regex.PatternEngine
import Lisplet.TopLevel

namespace Lisplet.TopLevel

/-! Each step of the loop stands on its own. Whatever came of the steps before it, no form is being
applied when it starts; so what it reports and what it changes is the work of its own form. -/

structure Step where
  before : State
  reader : Reader

section

variable [RegexEngine]

/-- Evaluation of the datum fails and adds to the stack, whatever lies on it, what it leaves on an
empty one: the heads of the applications that are broken off, innermost first. -/
structure Fails (datum : Value) (state : State) (halt : Halt) (last : State) : Prop where
  eval : ∀ stack, Session.eval datum { state with stack } =
    .error halt { last with stack := last.stack ++ stack }
  heads : Eval.Nested halt last [] last.stack

namespace Step

def outcome (step : Step) : Outcome :=
  (TopLevel.step step.before step.reader).1

def after (step : Step) : State :=
  (TopLevel.step step.before step.reader).2.1

def reading (step : Step) : Reader.Reading (Option Value) :=
  step.reader.skipBlankLine.2.next.1

def start (step : Step) : State :=
  { step.before with
    symbols := step.before.symbols.internAll step.reading.met
    stack := [] }

/-- A form was read and its evaluation ends without a value, in the last state. -/
def Halts (step : Step) (halt : Halt) (last : State) : Prop :=
  ∃ datum, step.reading.outcome = .ok (some datum) ∧ Fails datum step.start halt last

inductive Account (step : Step) : Outcome → State → Prop
  | blank : Account step .blank step.before
  | ended : step.reading.outcome = .ok none → Account step .ended step.start
  | misread {error : Error} :
      step.reading.outcome = .error error → Account step (.failed error []) step.start
  | value {datum value : Value} {last : State} : step.reading.outcome = .ok (some datum) →
      Session.eval datum step.start = .ok value last → last.stack = [] →
        Account step (.value value)
          { last with store := last.store.define .underscore value }
  | failed {error : Error} {last : State} : step.Halts (.error error) last →
      Account step (.failed error last.backtrace) last.clearStack
  | exited {last : State} : step.Halts (.error .exit) last →
      Account step .exited last.clearStack
  | exhausted {last : State} : step.Halts .outOfFuel last →
      Account step .exhausted last.clearStack

theorem nestingLaw_eval (datum : Value) :
    Eval.nestingLaw.Holds (Session.eval datum) (Session.eval datum) :=
  (Eval.nestingLaw_respects Session.fuel).eval .global datum

theorem fails_of_eval {datum : Value} {state last : State} {halt : Halt}
    (hstack : state.stack = []) (heval : Session.eval datum state = .error halt last) :
    Fails datum state halt last := by
  obtain ⟨hdisciplined, hunwinds⟩ := nestingLaw_eval datum
  have hnested := hunwinds _ _ _ heval
  rw [hstack] at hnested
  have hstate := hdisciplined state
  rw [heval] at hstate
  obtain ⟨added, hadded, _, hfree⟩ := hstate
  rw [hstack, List.append_nil] at hadded
  rw [← hadded] at hfree
  exact ⟨hfree, hnested⟩

theorem account_evaluate (step : Step) {datum : Value}
    (hdatum : step.reading.outcome = .ok (some datum)) :
    Account step (evaluate datum step.start).1 (evaluate datum step.start).2 := by
  rw [evaluate]
  split
  · rename_i value last heval
    exact .value hdatum heval ((nestingLaw_eval datum).1.stack_eq heval)
  · rename_i last heval
    exact .exited ⟨datum, hdatum, fails_of_eval rfl heval⟩
  · rename_i error last hexit heval
    exact .failed ⟨datum, hdatum, fails_of_eval rfl heval⟩
  · rename_i last heval
    exact .exhausted ⟨datum, hdatum, fails_of_eval rfl heval⟩

theorem account (step : Step) (hstack : step.before.stack = []) :
    Account step step.outcome step.after := by
  have hstart : step.start =
      { step.before with symbols := step.before.symbols.internAll step.reading.met } := by
    rw [start, ← hstack]
  rw [outcome, after, TopLevel.step]
  split
  rename_i skipped reader hskip
  split
  · exact .blank
  · have hreading : reader.next.1 = step.reading := by rw [reading, hskip]
    split
    rename_i result following hnext
    rw [hnext] at hreading
    -- Nothing lies on the stack, so a form starts where the step does.
    obtain rfl : result = step.reading := hreading
    rw [← hstart]
    split
    · rename_i error hread
      exact .misread hread
    · rename_i hread
      exact .ended hread
    · rename_i datum hread
      exact account_evaluate step hread

section Account

variable {step : Step} {outcome : Outcome} {after : State}

theorem Account.stack (h : Account step outcome after) (hstack : step.before.stack = []) :
    after.stack = [] := by
  cases h with
  | blank => exact hstack
  | value _ _ hlast => exact hlast
  | _ => rfl

theorem Account.idle (h : Account step outcome after) (hstack : step.before.stack = [])
    (hidle : outcome = .blank ∨ outcome = .ended ∨
      ∃ error backtrace, outcome = .failed error backtrace ∧
        step.reading.outcome = .error error) :
    after = { step.before with symbols := after.symbols } := by
  cases h with
  | blank => rfl
  | ended => rw [start, ← hstack]
  | misread => rw [start, ← hstack]
  | value => simp at hidle
  | failed hhalts =>
      obtain ⟨_, hdatum, _⟩ := hhalts
      simp [hdatum] at hidle
  | exited => simp at hidle
  | exhausted => simp at hidle

theorem Account.underscore {value : Value} (h : Account step (.value value) after) :
    after.store.globals.get? .underscore = some value := by
  cases h with
  | value => exact Frame.get?_insert_self _ _ _

theorem Account.failed_cases {error : Error} {backtrace : List String}
    (h : Account step (.failed error backtrace) after) :
    (step.reading.outcome = .error error ∧ backtrace = []) ∨
      ∃ last, Halts step (.error error) last ∧ backtrace = last.backtrace ∧
        after = last.clearStack := by
  cases h with
  | misread hread => exact .inl ⟨hread, rfl⟩
  | failed hhalts => exact .inr ⟨_, hhalts, rfl, rfl⟩

theorem Account.halts_of_exited (h : Account step .exited after) :
    ∃ last, Halts step (.error .exit) last ∧ after = last.clearStack := by
  cases h with
  | exited hhalts => exact ⟨_, hhalts, rfl⟩

end Account

structure Isolated (step : Step) : Prop where
  stack : step.after.stack = []
  /-- Where no form was read, only symbols may have become known. -/
  idle : (step.outcome = .blank ∨ step.outcome = .ended ∨
      ∃ error backtrace, step.outcome = .failed error backtrace ∧
        step.reading.outcome = .error error) →
    step.after = { step.before with symbols := step.after.symbols }
  underscore : ∀ value, step.outcome = .value value →
    step.after.store.globals.get? .underscore = some value
  failed : ∀ error backtrace, step.outcome = .failed error backtrace →
    (step.reading.outcome = .error error ∧ backtrace = []) ∨
      ∃ last, Halts step (.error error) last ∧ backtrace = last.backtrace ∧
        step.after = last.clearStack
  exited : step.outcome = .exited →
    ∃ last, Halts step (.error .exit) last ∧ step.after = last.clearStack

theorem isolated (step : Step) (hstack : step.before.stack = []) : step.Isolated := by
  have haccount := step.account hstack
  refine ⟨haccount.stack hstack, haccount.idle hstack, ?_, ?_, ?_⟩
  · intro value hvalue
    rw [hvalue] at haccount
    exact haccount.underscore
  · intro error backtrace hfailed
    rw [hfailed] at haccount
    exact haccount.failed_cases
  · intro hexited
    rw [hexited] at haccount
    exact haccount.halts_of_exited

end Step

/-- Steps made one after the other, each with any reader. What was printed may be taken away in
between. -/
inductive Run : State → List Step → Prop
  | nil (state : State) : Run state []
  | cons {state : State} {steps : List Step} (output : String) (reader : Reader) :
      Run (Step.mk { state with output } reader).after steps →
        Run state (⟨{ state with output }, reader⟩ :: steps)

theorem Run.steps_isolated {start : State} {steps : List Step} (hrun : Run start steps)
    (hstart : start.stack = []) : ∀ step ∈ steps, step.Isolated := by
  induction hrun with
  | nil => simp
  | @cons state steps output reader _ ih =>
      have hfirst := Step.isolated ⟨{ state with output }, reader⟩ hstart
      intro step hstep
      rcases List.mem_cons.mp hstep with rfl | hlater
      · exact hfirst
      · exact ih hfirst.stack step hlater

def Step.ofText (before : State) (text : List Char) : Step :=
  ⟨{ before with output := "" }, { source := .ofText text }⟩

end

open scoped Pattern

/-- The forms `(quote)` and `(def)`; the second failure does not show the first. -/
theorem Run.steps_isolated_two_failures :
    let first := Step.ofText (State.initial .empty) ['(', 'q', 'u', 'o', 't', 'e', ')']
    let second := Step.ofText first.after ['(', 'd', 'e', 'f', ')']
    first.outcome = .failed (.wrongArity "quote" (.exactly 1) 0) ["\tin 'quote'"] ∧
      second.outcome = .failed (.wrongArity "def" (.exactly 2) 0) ["\tin 'def'"] ∧
      first.Isolated ∧ second.Isolated := by
  intro first second
  have hrun : Run (State.initial .empty) [first, second] :=
    .cons "" _ (.cons "" _ (.nil _))
  have hisolated := Run.steps_isolated hrun rfl
  exact ⟨rfl, rfl, hisolated first (by simp), hisolated second (by simp)⟩

end Lisplet.TopLevel
