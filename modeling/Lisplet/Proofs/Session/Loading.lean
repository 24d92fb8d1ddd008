import Lisplet.Proofs.Evaluation.Law
import Lisplet.Proofs.Reader.Joining
import Lisplet.Regex.PatternEngine

namespace Lisplet

/-! Loading a text and evaluating it form by form. One reads all of it first, the other goes back
and forth between reading and evaluation. They come to the same because evaluation does not see
which symbols are known. -/

/-- The two differ at most in the symbols that are known and in the record of loads. -/
def State.Matches (state other : State) : Prop :=
  ∃ symbols loads, other = { state with symbols, loads }

namespace State.Matches

variable {state other third : State}

theorem refl (state : State) : state.Matches state :=
  ⟨state.symbols, state.loads, rfl⟩

theorem symm (h : state.Matches other) : other.Matches state := by
  obtain ⟨symbols, loads, rfl⟩ := h
  exact ⟨state.symbols, state.loads, rfl⟩

theorem trans (h : state.Matches other) (hthird : other.Matches third) : state.Matches third := by
  obtain ⟨_, _, rfl⟩ := h
  obtain ⟨symbols, loads, rfl⟩ := hthird
  exact ⟨symbols, loads, rfl⟩

end State.Matches

namespace Eval

inductive Alike : EStateM.Result Halt State α → EStateM.Result Halt State α → Prop
  | ok (value : α) {after after' : State} :
      after.Matches after' → Alike (.ok value after) (.ok value after')
  | error (halt : Halt) {after after' : State} :
      after.Matches after' → Alike (.error halt after) (.error halt after')

def Tallies (computation other : Eval α) : Prop :=
  ∀ state state', state.Matches state' → Alike (computation state) (other state')

namespace Tallies

theorem pure (value : α) : Tallies (Pure.pure value) (Pure.pure value) :=
  fun _ _ hstate => .ok value hstate

theorem throw (halt : Halt) : Tallies (throw halt : Eval α) (throw halt) :=
  fun _ _ hstate => .error halt hstate

theorem bind {first first' : Eval α} {next next' : α → Eval β} (hfirst : Tallies first first')
    (hnext : ∀ value, Returns first value → Tallies (next value) (next' value)) :
    Tallies (first >>= next) (first' >>= next') := by
  intro state state' hstate
  have hstart := hfirst state state' hstate
  generalize hrun : first state = ended at hstart
  generalize hrun' : first' state' = ended' at hstart
  cases hstart with
  | ok value hmiddle =>
      rw [bind_ok hrun, bind_ok hrun']
      exact hnext value ⟨state, _, hrun⟩ _ _ hmiddle
  | error halt hlast =>
      rw [bind_error hrun, bind_error hrun']
      exact .error halt hlast

theorem get {next next' : State → Eval α}
    (hunseen : ∀ state symbols stack loads,
      next' { state with symbols, stack, loads } = next' state)
    (hnext : ∀ state, Tallies (next state) (next' state)) :
    Tallies (MonadState.get >>= next) (MonadState.get >>= next') := by
  intro state state' hstate
  obtain ⟨symbols, loads, rfl⟩ := id hstate
  have hsame : next' { state with symbols, loads } = next' state :=
    hunseen state symbols state.stack loads
  have hend := hnext state state _ hstate
  rw [← hsame] at hend
  exact hend

theorem modifyGet {change : State → α × State}
    (hvalue : ∀ state symbols loads, (change { state with symbols, loads }).1 = (change state).1)
    (hstate : ∀ state symbols loads,
      (change state).2.Matches (change { state with symbols, loads }).2) :
    Tallies (modifyGet change : Eval α) (modifyGet change) := by
  rintro state _ ⟨symbols, loads, rfl⟩
  change Alike (.ok (change state).1 (change state).2)
    (.ok (change { state with symbols, loads }).1 (change { state with symbols, loads }).2)
  rw [hvalue state symbols loads]
  exact .ok _ (hstate state symbols loads)

theorem modify {change : State → State}
    (h : ∀ state symbols loads, change { state with symbols, loads } =
      { change state with symbols, loads }) :
    Tallies (MonadState.modifyGet fun state => (⟨⟩, change state) : Eval PUnit)
      (MonadState.modifyGet fun state => (⟨⟩, change state)) :=
  modifyGet (fun _ _ _ => rfl) fun state symbols loads => ⟨symbols, loads, h state symbols loads⟩

theorem applying (head : Value) {body body' : Eval Value} (hbody : Tallies body body') :
    Tallies (Eval.applying head body) (Eval.applying head body') := by
  refine bind (modify fun _ _ _ => rfl) fun _ _ => bind hbody fun value _ => ?_
  exact bind (modify fun _ _ _ => rfl) fun _ _ => pure value

theorem assign (environment : Environment) (key : Symbol) (value : Value) :
    Tallies (Eval.assign environment key value) (Eval.assign environment key value) := by
  refine bind (modifyGet ?_ ?_) fun assigned _ => ?_
  · intro state symbols loads
    dsimp only
    split <;> rfl
  · intro state symbols loads
    dsimp only
    split <;> exact ⟨symbols, loads, rfl⟩
  · cases assigned with
    | true => exact pure _
    | false => exact throw _

theorem nameClosure (name : Symbol) (value : Value) :
    Tallies (Eval.nameClosure name value) (Eval.nameClosure name value) := by
  cases value with
  | closure => exact modify fun _ _ _ => rfl
  | _ => exact pure _

end Tallies

def tallyLaw : Law where
  Holds := Tallies
  Marks _ _ := True
  pure := .pure
  throw := .throw
  bind := .bind
  get _ hunseen hnext := .get hunseen hnext
  applying _ hbody := .applying _ hbody
  print _ := .modify fun _ _ _ => rfl
  intern _ := .modifyGet (fun _ _ _ => rfl) fun _ _ loads => ⟨_, loads, rfl⟩
  recordLoad _ := .modifyGet (fun _ _ _ => rfl) fun _ symbols _ => ⟨symbols, _, rfl⟩
  define _ _ := .modify fun _ _ _ => rfl
  assign := .assign
  extend _ _ := .modifyGet (fun _ _ _ => rfl) fun _ symbols loads => ⟨symbols, loads, rfl⟩
  newClosure _ _ _ _ := .modifyGet (fun _ _ _ => rfl) fun _ symbols loads => ⟨symbols, loads, rfl⟩
  nameClosure := .nameClosure

end Eval

namespace Session

section

open Eval

variable [RegexEngine]

theorem tallies_eval (datum : Value) : Tallies (eval datum) (eval datum) :=
  (tallyLaw.respects_layers (fun _ _ _ _ _ _ => trivial) fuel).eval .global datum

/-- Forms evaluated one after the other until one of them fails, from the result so far on. The
number counts those that have a value. What becomes known or is loaded in between does not
matter. -/
inductive Course : Value → State → List Value → Nat → EStateM.Result Halt State Value → Prop
  | done {result : Value} {state last : State} :
      state.Matches last → Course result state [] 0 (.ok result last)
  | stop {result form : Value} {state begun last : State} {rest : List Value} {halt : Halt} :
      state.Matches begun → eval form begun = .error halt last →
        Course result state (form :: rest) 0 (.error halt last)
  | next {result form value : Value} {state begun middle : State} {rest : List Value} {count : Nat}
      {ended : EStateM.Result Halt State Value} :
      state.Matches begun → eval form begun = .ok value middle →
        Course value middle rest count ended → Course result state (form :: rest) (count + 1) ended

namespace Course

variable {result : Value} {state state' : State} {forms : List Value} {count count' : Nat}
  {ended ended' : EStateM.Result Halt State Value}

theorem of_matches (hstate : state.Matches state') (h : Course result state' forms count ended) :
    Course result state forms count ended := by
  cases h with
  | done hlast => exact .done (hstate.trans hlast)
  | stop hbegun hform => exact .stop (hstate.trans hbegun) hform
  | next hbegun hform hrest => exact .next (hstate.trans hbegun) hform hrest

theorem unique (h : Course result state forms count ended) (hstate : state.Matches state')
    (h' : Course result state' forms count' ended') : count' = count ∧ Alike ended ended' := by
  induction h generalizing state' count' ended' with
  | done hlast =>
      cases h' with
      | done hlast' => exact ⟨rfl, .ok _ ((hlast.symm.trans hstate).trans hlast')⟩
  | @stop result form _ _ _ rest halt hbegun hform =>
      cases h' with
      | stop hbegun' hform' =>
          have hsame := tallies_eval form _ _ ((hbegun.symm.trans hstate).trans hbegun')
          rw [hform, hform'] at hsame
          exact ⟨rfl, hsame⟩
      | next hbegun' hform' _ =>
          have hsame := tallies_eval form _ _ ((hbegun.symm.trans hstate).trans hbegun')
          rw [hform, hform'] at hsame
          cases hsame
  | @next result form value _ _ _ rest count ended hbegun hform _ ih =>
      cases h' with
      | stop hbegun' hform' =>
          have hsame := tallies_eval form _ _ ((hbegun.symm.trans hstate).trans hbegun')
          rw [hform, hform'] at hsame
          cases hsame
      | next hbegun' hform' hrest' =>
          have hsame := tallies_eval form _ _ ((hbegun.symm.trans hstate).trans hbegun')
          rw [hform, hform'] at hsame
          cases hsame with
          | ok _ hmiddle =>
              obtain ⟨rfl, hended⟩ := ih hmiddle hrest'
              exact ⟨rfl, hended⟩

end Course

theorem course_evalAll (result : Value) (forms : List Value) (state : State) :
    ∃ count, Course result state forms count (Closure.evalAll eval result forms state) := by
  induction forms generalizing result state with
  | nil => exact ⟨0, .done (.refl state)⟩
  | cons form rest ih =>
      rw [Closure.evalAll]
      cases hform : eval form state with
      | error halt last =>
          rw [bind_error hform]
          exact ⟨0, .stop (.refl state) hform⟩
      | ok value middle =>
          rw [bind_ok hform]
          obtain ⟨count, hrest⟩ := ih value middle
          exact ⟨count + 1, .next (.refl state) hform hrest⟩

def afterReading (text : List Char) (state : State) : State :=
  { state with symbols := state.symbols.internAll (Reader.read text).met }

theorem matches_afterReading (text : List Char) (state : State) :
    state.Matches (afterReading text state) :=
  ⟨_, state.loads, rfl⟩

theorem evalForms_of_ended {text : List Char} (h : (Reader.read text).outcome = .ok none)
    (steps : Nat) (result : Value) (state : State) :
    evalForms (steps + 1) result text state = .ok result (afterReading text state) := by
  have hread : ofExcept (Reader.read text).outcome (afterReading text state) =
      .ok none (afterReading text state) := by rw [h]; rfl
  exact bind_ok hread

theorem evalForms_of_datum {text : List Char} {datum : Value}
    (h : (Reader.read text).outcome = .ok (some datum)) (steps : Nat) (result : Value)
    (state : State) :
    evalForms (steps + 1) result text state =
      (eval datum >>= fun value => evalForms steps value (Reader.read text).rest)
        (afterReading text state) := by
  have hread : ofExcept (Reader.read text).outcome (afterReading text state) =
      .ok (some datum) (afterReading text state) := by rw [h]; rfl
  exact bind_ok hread

theorem course_evalForms {steps : Nat} {text : List Char} {forms : List Value}
    (hforms : (Reader.readMany steps text).outcome = .ok forms) (result : Value) (state : State) :
    ∃ count, Course result state forms count (evalForms steps result text state) := by
  induction steps generalizing text forms result state with
  | zero =>
      cases hforms
      exact ⟨0, .done (.refl state)⟩
  | succ steps ih =>
      have hbegun := matches_afterReading text state
      rw [Reader.readMany_succ] at hforms
      cases hread : (Reader.read text).outcome with
      | error error =>
          rw [hread] at hforms
          cases hforms
      | ok first =>
          rw [hread] at hforms
          cases first with
          | none =>
              cases hforms
              rw [evalForms_of_ended hread]
              exact ⟨0, .done hbegun⟩
          | some datum =>
              cases hmore : (Reader.readMany steps (Reader.read text).rest).outcome with
              | error error =>
                  rw [hmore] at hforms
                  cases hforms
              | ok rest =>
                  rw [hmore] at hforms
                  cases hforms
                  rw [evalForms_of_datum hread]
                  cases hform : eval datum (afterReading text state) with
                  | error halt last =>
                      rw [bind_error hform]
                      exact ⟨0, .stop hbegun hform⟩
                  | ok value middle =>
                      rw [bind_ok hform]
                      obtain ⟨count, hrest⟩ := ih hmore value middle
                      exact ⟨count + 1, .next hbegun hform hrest⟩

/-- What loading the forms and evaluating their text come to, side by side: both go through all of
them, or both stop at the same one. Only evaluation has the value of the last form as its own. -/
inductive InStep (forms : List Value) (state : State) :
    EStateM.Result Halt State Value → EStateM.Result Halt State Value → Prop
  | finish {value : Value} {loaded evaluated : State} :
      Course .nil state forms forms.length (.ok value loaded) →
      Course .nil state forms forms.length (.ok value evaluated) → loaded.Matches evaluated →
        InStep forms state (.ok (.bool true) loaded) (.ok value evaluated)
  | stop {count : Nat} {halt : Halt} {loaded evaluated : State} :
      Course .nil state forms count (.error halt loaded) →
      Course .nil state forms count (.error halt evaluated) → loaded.Matches evaluated →
        InStep forms state (.error halt loaded) (.error halt evaluated)

theorem Course.count_eq_length {result value : Value} {state last : State} {forms : List Value}
    {count : Nat} (h : Course result state forms count (.ok value last)) :
    count = forms.length := by
  generalize hended : EStateM.Result.ok value last = ended at h
  induction h with
  | done => rfl
  | stop => cases hended
  | next _ _ _ ih => rw [ih hended, List.length_cons]

theorem inStep_of_courses {forms : List Value} {state : State} {count count' : Nat}
    {loading evaluating : Eval Value} {begun : State}
    (hloading : Course .nil state forms count (loading begun))
    (hevaluating : Course .nil state forms count' (evaluating state)) :
    InStep forms state ((loading >>= fun _ => Pure.pure (.bool true)) begun)
      (evaluating state) := by
  obtain ⟨rfl, halike⟩ := hloading.unique (.refl state) hevaluating
  generalize hended' : evaluating state = ended' at hevaluating halike
  generalize hended : loading begun = ended at hloading halike
  cases halike with
  | ok value hmatches =>
      obtain rfl := hloading.count_eq_length
      rw [bind_ok hended]
      exact .finish hloading hevaluating hmatches
  | error halt hmatches =>
      rw [bind_error hended]
      exact .stop hloading hevaluating hmatches

structure LoadsAtOnce (path : String) (state : State) : Prop where
  unreadable : ∀ error, state.files.read path = .error error →
    loadFile path state = .error (.error (.file error)) { state with loads := path :: state.loads }
  malformed : ∀ text error, state.files.read path = .ok text →
    (Reader.readAll text.toList).outcome = .error error →
      ∃ symbols : SymbolTable, state.symbols.symbols ⊆ symbols.symbols ∧
        loadFile path state =
          .error (.error error) { state with symbols, loads := path :: state.loads }
  wellFormed : ∀ text forms, state.files.read path = .ok text →
    (Reader.readAll text.toList).outcome = .ok forms →
      InStep forms state (loadFile path state) (evalText text state)

theorem loadFile_eq (path : String) (state : State) :
    loadFile path state =
      (match state.files.read path with
        | .error error => Eval.fail (.file error)
        | .ok text => loadText text) { state with loads := path :: state.loads } :=
  rfl

def afterReadingAll (text : String) (state : State) : State :=
  { state with symbols := state.symbols.internAll (Reader.readAll text.toList).met }

theorem loadText_eq (text : String) (state : State) :
    loadText text state =
      (ofExcept (Reader.readAll text.toList).outcome >>= fun forms =>
        Closure.evalAll eval .nil forms >>= fun _ => Pure.pure (.bool true))
          (afterReadingAll text state) :=
  rfl

theorem loadText_of_error {text : String} {error : Error}
    (h : (Reader.readAll text.toList).outcome = .error error) (state : State) :
    loadText text state = .error (.error error) (afterReadingAll text state) := by
  rw [loadText_eq, h]
  rfl

theorem loadText_of_forms {text : String} {forms : List Value}
    (h : (Reader.readAll text.toList).outcome = .ok forms) (state : State) :
    loadText text state =
      (Closure.evalAll eval .nil forms >>= fun _ => Pure.pure (.bool true))
        (afterReadingAll text state) := by
  rw [loadText_eq, h]
  rfl

/-- A file that cannot be read, or not to its end, changes nothing but which symbols are known. One
that can be is loaded the way its text is evaluated. -/
theorem loadFile_atOnce (path : String) (state : State) : LoadsAtOnce path state := by
  refine ⟨fun error hfile => ?_, fun text error hfile hread => ?_, fun text forms hfile hread => ?_⟩
  · rw [loadFile_eq, hfile]
    rfl
  · rw [loadFile_eq, hfile]
    refine ⟨_, fun symbol hsymbol => ?_, loadText_of_error hread _⟩
    exact (SymbolTable.mem_internAll _ _ symbol).mpr (.inr hsymbol)
  · have hmatches : state.Matches
        (afterReadingAll text { state with loads := path :: state.loads }) :=
      ⟨_, path :: state.loads, rfl⟩
    obtain ⟨count, hloading⟩ := course_evalAll .nil forms
      (afterReadingAll text { state with loads := path :: state.loads })
    obtain ⟨count', hevaluating⟩ := course_evalForms hread .nil state
    rw [loadFile_eq, hfile]
    change InStep forms state (loadText text _) _
    rw [loadText_of_forms hread]
    exact inStep_of_courses (hloading.of_matches hmatches) hevaluating

end

open scoped Pattern

/-- One file that can be loaded, one with a parenthesis too much and one that is not there. -/
theorem loadFile_atOnce_three_files :
    let files : Files := ⟨none, fun path =>
      if path = "good" then .ok ":a :b" else if path = "bad" then .ok ":a )"
      else .error .notFound⟩
    let state := State.initial files
    InStep [.keyword "a", .keyword "b"] state (loadFile "good" state) (evalText ":a :b" state) ∧
      (∃ after, loadFile "good" state = .ok (.bool true) after) ∧
      (∃ symbols : SymbolTable, state.symbols.symbols ⊆ symbols.symbols ∧
        loadFile "bad" state =
          .error (.error .strayClose) { state with symbols, loads := ["bad"] }) ∧
      loadFile "gone" state =
        .error (.error (.file .notFound)) { state with loads := ["gone"] } := by
  intro files state
  refine ⟨?_, ⟨_, rfl⟩, ?_, ?_⟩
  · exact (loadFile_atOnce "good" state).wellFormed _ _ rfl rfl
  · exact (loadFile_atOnce "bad" state).malformed _ _ rfl rfl
  · exact (loadFile_atOnce "gone" state).unreadable _ rfl

end Session

end Lisplet
