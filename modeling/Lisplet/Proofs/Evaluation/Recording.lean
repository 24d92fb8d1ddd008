import Lisplet.Proofs.Evaluation.Ledger

namespace Lisplet

/-! A recorded computation does what the computation does, and what it enters accounts for every
name that a closure is given meanwhile. Sequencing respects this, so it is gone through once along
evaluation. -/

def Primitive.evaluates : Primitive → Bool
  | .apply | .expand | .eval | .load => true
  | _ => false

theorem Evaluator.runPrimitive_eq_of_not_evaluates [RegexEngine] {primitive : Primitive}
    (h : ¬primitive.evaluates = true) (inner inner' : Evaluator) (arguments : List Value) :
    runPrimitive inner primitive arguments = runPrimitive inner' primitive arguments := by
  cases primitive with
  | apply | expand | eval | load => exact absurd rfl h
  | _ => rcases arguments with _ | ⟨_, _ | ⟨_, _ | _⟩⟩ <;> rfl

namespace Eval

def KeepsNames (computation : Eval α) : Prop :=
  ∀ state, (final computation state).names = state.names

namespace KeepsNames

theorem pure (value : α) : KeepsNames (Pure.pure value : Eval α) :=
  fun _ => rfl

theorem throw (halt : Halt) : KeepsNames (throw halt : Eval α) :=
  fun _ => rfl

theorem final_bind {first : Eval α} {next : α → Eval β} (hnext : ∀ value, KeepsNames (next value))
    (state : State) : (final (first >>= next) state).names = (final first state).names := by
  cases hrun : first state with
  | error halt after => rw [final_error (bind_error hrun), final_error hrun]
  | ok value middle =>
      rw [final_ok hrun, final, bind_ok hrun]
      exact hnext value middle

theorem bind {first : Eval α} {next : α → Eval β} (hfirst : KeepsNames first)
    (hnext : ∀ value, KeepsNames (next value)) : KeepsNames (first >>= next) :=
  fun state => (final_bind hnext state).trans (hfirst state)

theorem get {next : State → Eval α} (hnext : ∀ state, KeepsNames (next state)) :
    KeepsNames (MonadState.get >>= next) :=
  fun state => hnext state state

theorem modifyGet {change : State → α × State}
    (h : ∀ state, (change state).2.names = state.names) :
    KeepsNames (MonadStateOf.modifyGet change) :=
  h

theorem ofOption (error : Error) (value : Option α) : KeepsNames (Eval.ofOption error value) := by
  cases value with
  | none => exact throw _
  | some value => exact pure value

theorem ofExcept (value : Except Error α) : KeepsNames (Eval.ofExcept value) := by
  cases value with
  | error error => exact throw _
  | ok value => exact pure value

theorem checkArity (name : String) (arity : Arity) (count : Nat) :
    KeepsNames (Eval.checkArity name arity count) := by
  unfold Eval.checkArity
  split
  · exact pure _
  · exact throw _

theorem lookup (environment : Environment) (key : Symbol) :
    KeepsNames (Eval.lookup environment key) :=
  get fun _ => ofOption _ _

theorem assign (environment : Environment) (key : Symbol) (value : Value) :
    KeepsNames (Eval.assign environment key value) := by
  refine bind (modifyGet fun state => ?_) fun assigned => ?_
  · split <;> rfl
  · cases assigned with
    | true => exact pure _
    | false => exact throw _

theorem extend (environment : Environment) (frame : Frame) :
    KeepsNames (Eval.extend environment frame) :=
  modifyGet fun _ => rfl

theorem operand (sugar : Sugar) (rest : Value) : KeepsNames (Template.operand sugar rest) := by
  refine bind (ofOption _ _) fun operands => ?_
  split
  · exact pure _
  · exact throw _

theorem target (form : SpecialForm) (value : Value) :
    KeepsNames (Evaluator.target form value) := by
  cases value with
  | symbol symbol => exact pure symbol
  | _ => exact throw _

theorem operationName (value : Value) : KeepsNames (Evaluator.operationName value) := by
  cases value with
  | keyword name => exact pure name
  | symbol symbol => exact pure symbol.name
  | str text => exact pure text
  | _ => exact throw _

theorem concatItems (values : List Value) : KeepsNames (Evaluator.concatItems values) := by
  induction values with
  | nil => exact pure []
  | cons value rest ih => exact bind (ofOption _ _) fun _ => bind ih fun _ => pure _

theorem printEach (values : List Value) : KeepsNames (Evaluator.printEach values) := by
  induction values with
  | nil => exact pure ()
  | cons value rest ih => exact get fun _ => bind (fun _ => rfl) fun _ => ih

theorem isEmpty (value : Value) : KeepsNames (Evaluator.isEmpty value) := by
  cases value with
  | emptyList => exact pure _
  | cons first rest => exact pure _
  | str text => exact pure _
  | _ => exact throw _

theorem runPrimitive [RegexEngine] {primitive : Primitive} (h : ¬primitive.evaluates = true)
    (inner : Evaluator) (arguments : List Value) :
    KeepsNames (Evaluator.runPrimitive inner primitive arguments) := by
  unfold Evaluator.runPrimitive
  split
  · exact bind (printEach _) fun _ => pure _
  · exact get fun _ => bind (fun _ => rfl) fun _ => pure _
  · exact pure _
  · exact ofOption _ _
  · exact ofOption _ _
  · exact bind (concatItems _) fun _ => pure _
  · exact pure _
  · exact pure _
  · exact isEmpty _
  · exact pure _
  · exact absurd rfl h
  · exact absurd rfl h
  · exact absurd rfl h
  · exact absurd rfl h
  all_goals exact throw _

end KeepsNames

end Eval

namespace Recorded

/-- The one computation is the other with a ledger, and what it enters explains the names. -/
def Accounts (recorded : Recorded α) (computation : Eval α) : Prop :=
  ∀ ledger : Ledger, ∃ added,
    recorded ledger = withEntries (ledger.entries ++ added) (computation ledger.state) ∧
      ClosureNames.Explained added ledger.state.names
        (Eval.final computation ledger.state).names

namespace Accounts

theorem silent {computation : Eval α}
    (h : ∀ state, ClosureNames.Explained [] state.names (Eval.final computation state).names) :
    Accounts (silent computation) computation := by
  intro ledger
  refine ⟨[], ?_, h ledger.state⟩
  rw [List.append_nil, Recorded.silent]

theorem keeping {computation : Eval α} (h : Eval.KeepsNames computation) :
    Accounts (Recorded.silent computation) computation := by
  refine silent fun state => ?_
  rw [h state]
  exact .refl _

theorem pure (value : α) : Accounts (Pure.pure value) (Pure.pure value) := by
  intro ledger
  refine ⟨[], ?_, .refl _⟩
  rw [List.append_nil]
  rfl

theorem throw (halt : Halt) : Accounts (throw halt : Recorded α) (throw halt) := by
  intro ledger
  refine ⟨[], ?_, .refl _⟩
  rw [List.append_nil]
  rfl

theorem bind {first : Recorded α} {first' : Eval α} {next : α → Recorded β} {next' : α → Eval β}
    (hfirst : Accounts first first') (hnext : ∀ value, Accounts (next value) (next' value)) :
    Accounts (first >>= next) (first' >>= next') := by
  intro ledger
  obtain ⟨added, hsame, hexplained⟩ := hfirst ledger
  change ∃ more, EStateM.bind first next ledger = _ ∧ _
  rw [EStateM.bind, hsame]
  cases hrun : first' ledger.state with
  | error halt after =>
      rw [Eval.final_error hrun] at hexplained
      refine ⟨added, ?_, ?_⟩
      · rw [Eval.bind_error hrun]
        rfl
      · rw [Eval.final_error (Eval.bind_error hrun)]
        exact hexplained
  | ok value middle =>
      rw [Eval.final_ok hrun] at hexplained
      obtain ⟨more, hmore, hlater⟩ := hnext value ⟨middle, ledger.entries ++ added⟩
      refine ⟨added ++ more, ?_, ?_⟩
      · rw [Eval.bind_ok hrun, ← List.append_assoc]
        exact hmore
      · rw [Eval.final, Eval.bind_ok hrun]
        exact hexplained.trans hlater

theorem get {next : State → Recorded α} {next' : State → Eval α}
    (hnext : ∀ state, Accounts (next state) (next' state)) :
    Accounts (Recorded.silent MonadState.get >>= next) (MonadState.get >>= next') :=
  bind (keeping fun _ => rfl) hnext

theorem ite {condition : Bool} {first second : Recorded α} {first' second' : Eval α}
    (hfirst : Accounts first first') (hsecond : Accounts second second') :
    Accounts (if condition then first else second) (if condition then first' else second') := by
  cases condition with
  | true => exact hfirst
  | false => exact hsecond

/-- The entry of a definition is what names the closure. -/
theorem define (key : Symbol) (value : Value) :
    Accounts
      (do enter key value
          Recorded.silent (Eval.nameClosure key value)
          Recorded.silent (Eval.define key value)
          return value)
      (do Eval.nameClosure key value
          Eval.define key value
          return value) := by
  intro ledger
  refine ⟨[⟨key, value⟩], ?_, ?_⟩
  · cases value <;> rfl
  · cases value with
    | closure id kind parameters body scope =>
        refine ⟨Nat.le_of_eq (ClosureNames.next_assign _ _ _).symm, fun other hother => ?_⟩
        refine (ClosureNames.get?_assign _ hother id key).trans ?_
        by_cases h : id = other
        · simp [Ledger.nameFor, Ledger.Entry.isOf, Value.closure?, h]
        · simp [Ledger.nameFor, Ledger.Entry.isOf, Value.closure?, h]
    | _ => exact ⟨Nat.le_refl _, fun _ _ => (Option.or_none).symm⟩

structure Layers (recorder : Recorder) (evaluator : Evaluator) : Prop where
  eval : ∀ environment value,
    Accounts (recorder.eval environment value) (evaluator.eval environment value)
  apply : ∀ callable arguments,
    Accounts (recorder.apply callable arguments) (evaluator.apply callable arguments)

section Expressions

variable {eval : Value → Recorded Value} {eval' : Value → Eval Value}

theorem evalAll (heval : ∀ value, Accounts (eval value) (eval' value)) (result : Value)
    (expressions : List Value) :
    Accounts (Recorder.evalAll eval result expressions)
      (Closure.evalAll eval' result expressions) := by
  induction expressions generalizing result with
  | nil => exact pure result
  | cons expression rest ih => exact bind (heval expression) fun value => ih value

theorem evalEach (heval : ∀ value, Accounts (eval value) (eval' value))
    (expressions : List Value) :
    Accounts (Recorder.evalEach eval expressions) (Evaluator.evalEach eval' expressions) := by
  induction expressions with
  | nil => exact pure []
  | cons expression rest ih =>
      exact bind (heval expression) fun _ => bind ih fun _ => pure _

theorem splice (heval : ∀ value, Accounts (eval value) (eval' value)) (rest : Value) :
    Accounts (Recorder.splice eval rest) (Template.splice eval' rest) :=
  bind (keeping (.operand _ _)) fun _ => bind (heval _) fun _ => keeping (.ofOption _ _)

mutual

theorem element (heval : ∀ value, Accounts (eval value) (eval' value)) :
    ∀ template, Accounts (Recorder.element eval template) (Template.element eval' template)
  | .cons first rest => by
      have hunmarked := bind (element heval first) fun front =>
        bind (following heval rest) fun back => pure [Value.ofDotted front back]
      simp only [Recorder.element, Template.element]
      cases Template.mark? first with
      | none => exact hunmarked
      | some sugar =>
          cases sugar with
          | unquote => exact bind (keeping (.operand _ _)) fun _ => bind (heval _) fun _ => pure _
          | splice => exact splice heval rest
          | _ => exact hunmarked
  | .nil | .bool _ | .int _ | .float _ | .str _ | .symbol _ | .keyword _ | .regex _ | .emptyList
  | .closure _ _ _ _ _ | .primitive _ | .special _ => pure _

theorem following (heval : ∀ value, Accounts (eval value) (eval' value)) :
    ∀ template, Accounts (Recorder.following eval template) (Template.following eval' template)
  | .cons first rest => by
      simp only [Recorder.following, Template.following]
      exact bind (element heval first) fun _ => bind (following heval rest) fun _ => pure _
  | .nil | .bool _ | .int _ | .float _ | .str _ | .symbol _ | .keyword _ | .regex _ | .emptyList
  | .closure _ _ _ _ _ | .primitive _ | .special _ => pure _

end

theorem expand (heval : ∀ value, Accounts (eval value) (eval' value)) (template : Value) :
    Accounts (Recorder.expand eval template) (Template.expand eval' template) := by
  refine bind (element heval template) fun values => ?_
  cases Template.isSplice template with
  | true => exact keeping (.throw _)
  | false =>
      match values with
      | [value] => exact pure value
      | [] | _ :: _ :: _ => exact keeping (.throw _)

end Expressions

theorem invoke {eval : Environment → Value → Recorded Value}
    {eval' : Environment → Value → Eval Value}
    (heval : ∀ environment value, Accounts (eval environment value) (eval' environment value))
    (closure : Closure) (arguments : List Value) :
    Accounts (Recorder.invoke eval closure arguments) (closure.invoke eval' arguments) := by
  refine get fun state => bind (keeping (.checkArity _ _ _)) fun _ => ?_
  exact bind (keeping (.extend _ _)) fun environment => evalAll (heval environment) _ _

section Layer

variable {recorder : Recorder} {evaluator : Evaluator}

theorem makeClosure (kind : ClosureKind) (environment : Environment) (operands : List Value) :
    Accounts (Recorded.silent (Evaluator.makeClosure kind environment operands))
      (Evaluator.makeClosure kind environment operands) := by
  refine silent fun state => ?_
  unfold Evaluator.makeClosure
  split
  · rename_i parameters first rest
    cases Parameters.ofValue parameters with
    | error error => exact .refl _
    | ok parameters => exact .push state.names
  · exact .refl _

variable [RegexEngine]

theorem receiver (h : Layers recorder evaluator) (environment : Environment) (value : Value) :
    Accounts (Recorder.receiver recorder environment value)
      (Evaluator.receiver evaluator environment value) := by
  cases value with
  | cons first rest => exact h.eval environment (.cons first rest)
  | symbol symbol => exact keeping (.get fun _ => .pure _)
  | _ => exact keeping (.pure _)

theorem evalSpecial (h : Layers recorder evaluator) (environment : Environment)
    (form : SpecialForm) (operands : List Value) :
    Accounts (Recorder.evalSpecial recorder environment form operands)
      (Evaluator.evalSpecial evaluator environment form operands) := by
  have heval := h.eval environment
  cases form with
  | quote =>
      match operands with
      | [datum] => exact pure datum
      | [] | _ :: _ :: _ => exact keeping (.throw _)
  | quasiquote =>
      match operands with
      | [template] => exact expand heval template
      | [] | _ :: _ :: _ => exact keeping (.throw _)
  | define =>
      match operands with
      | [key, expression] =>
          exact bind (keeping (.target _ _)) fun key => bind (heval expression) (define key)
      | [] | [_] | _ :: _ :: _ :: _ => exact keeping (.throw _)
  | assign =>
      match operands with
      | [key, expression] =>
          refine bind (keeping (.target _ _)) fun key => bind (heval expression) fun value => ?_
          exact bind (keeping (.assign _ _ _)) fun _ => pure value
      | [] | [_] | _ :: _ :: _ :: _ => exact keeping (.throw _)
  | function => exact makeClosure .function environment operands
  | expander => exact makeClosure .expander environment operands
  | branch =>
      match operands with
      | [condition, consequence] =>
          exact bind (heval condition) fun value => ite (heval consequence) (pure Value.nil)
      | [condition, consequence, alternative] =>
          exact bind (heval condition) fun value => ite (heval consequence) (heval alternative)
      | [] | [_] | _ :: _ :: _ :: _ :: _ => exact keeping (.throw _)
  | send =>
      match operands with
      | [expression] => exact receiver h environment expression
      | expression :: operation :: rest =>
          refine bind (receiver h environment expression) fun value =>
            bind (heval operation) fun operation => ?_
          refine bind (keeping (.operationName operation)) fun name =>
            bind (evalEach heval rest) fun arguments => ?_
          exact get fun _ => keeping (.ofExcept _)
      | [] => exact keeping (.throw _)

omit [RegexEngine] in
theorem expandOnce (h : Layers recorder evaluator) (form : Value) :
    Accounts (Recorder.expandOnce recorder form) (Evaluator.expandOnce evaluator form) := by
  refine get fun state => ?_
  cases form with
  | cons head rest =>
      cases Evaluator.expander? state (.cons head rest) with
      | some closure => exact bind (keeping (.ofOption _ _)) fun _ => invoke h.eval _ _
      | none => exact pure (Value.cons head rest)
  | _ => exact pure _

theorem loadText (h : Layers recorder evaluator) (text : String) :
    Accounts (Recorder.loadText recorder text) (Evaluator.loadText evaluator text) := by
  refine bind (keeping fun _ => rfl) fun _ => bind (keeping (.ofExcept _)) fun forms => ?_
  exact bind (evalAll (h.eval .global) _ forms) fun _ => pure _

theorem loadFile (h : Layers recorder evaluator) (path : String) :
    Accounts (Recorder.loadFile recorder path) (Evaluator.loadFile evaluator path) := by
  refine bind (keeping fun _ => rfl) fun _ => get fun state => ?_
  cases state.files.read path with
  | error error => exact keeping (.throw _)
  | ok text => exact loadText h text

theorem runPrimitive (h : Layers recorder evaluator) (primitive : Primitive)
    (arguments : List Value) :
    Accounts (Recorder.runPrimitive recorder primitive arguments)
      (Evaluator.runPrimitive evaluator primitive arguments) := by
  by_cases hinner : primitive.evaluates = true
  · cases primitive with
    | apply =>
        match arguments with
        | callable :: second :: rest =>
            exact bind (keeping (.ofOption _ _)) fun _ => h.apply _ _
        | [] | [_] => exact keeping (.throw _)
    | expand =>
        match arguments with
        | [form] => exact expandOnce h form
        | [] | _ :: _ :: _ => exact keeping (.throw _)
    | eval =>
        match arguments with
        | [datum] => exact h.eval .global datum
        | [] | _ :: _ :: _ => exact keeping (.throw _)
    | load =>
        match arguments with
        | [path] =>
            cases path with
            | str path => exact get fun state => loadFile h _
            | _ => exact keeping (.throw _)
        | [] => exact keeping (.throw _)
        | first :: _ :: _ => cases first <;> exact keeping (.throw _)
    | _ => cases hinner
  · have hkeeps := Eval.KeepsNames.runPrimitive hinner (Evaluator.layers 0) arguments
    rw [Evaluator.runPrimitive_eq_of_not_evaluates hinner evaluator (Evaluator.layers 0)]
    cases primitive with
    | apply | expand | eval | load => exact absurd rfl hinner
    | _ => exact keeping hkeeps

theorem applyValue (h : Layers recorder evaluator) (callable : Value) (arguments : List Value) :
    Accounts (Recorder.applyValue recorder callable arguments)
      (Evaluator.applyValue evaluator callable arguments) := by
  cases callable with
  | closure id kind parameters body scope => exact invoke h.eval _ _
  | primitive primitive => exact runPrimitive h primitive arguments
  | _ => exact keeping (.throw _)

theorem applyForm (h : Layers recorder evaluator) (environment : Environment)
    (head operator : Value) (operands : List Value) :
    Accounts (Recorder.applyForm recorder environment head operator operands)
      (Evaluator.applyForm evaluator environment head operator operands) := by
  have hcall := bind (evalEach (h.eval environment) operands) fun arguments =>
    applyValue h operator arguments
  unfold Recorder.applyForm Evaluator.applyForm
  cases head.symbol?.bind SpecialForm.ofSymbol? with
  | some form => exact evalSpecial h environment form operands
  | none =>
      cases operator with
      | closure id kind parameters body scope =>
          cases kind with
          | expander => exact bind (invoke h.eval _ _) fun _ => h.eval environment _
          | function => exact hcall
      | _ => exact hcall

theorem evalValue (h : Layers recorder evaluator) (environment : Environment) (value : Value) :
    Accounts (Recorder.evalValue recorder environment value)
      (Evaluator.evalValue evaluator environment value) := by
  cases value with
  | symbol symbol => exact keeping (.lookup environment symbol)
  | cons head rest =>
      refine bind (h.eval environment head) fun operator => ?_
      refine bind (keeping (.ofOption _ _)) fun operands => bind (keeping fun _ => rfl) fun _ => ?_
      refine bind (applyForm h environment head operator operands) fun _ => ?_
      exact bind (keeping fun _ => rfl) fun _ => pure _
  | _ => exact pure _

end Layer

theorem layers [RegexEngine] (fuel : Nat) :
    Layers (Recorder.layers fuel) (Evaluator.layers fuel) := by
  induction fuel with
  | zero => exact ⟨fun _ _ => throw _, fun _ _ => throw _⟩
  | succ fuel ih =>
      exact ⟨fun environment value => evalValue ih environment value,
        fun callable arguments => applyValue ih callable arguments⟩

end Accounts

end Recorded

end Lisplet
