import Lisplet.Proofs.Evaluation.Message
import Lisplet.Proofs.Reader.Progress
import Lisplet.Proofs.Reader.Soundness

namespace Lisplet

/-! Evaluation makes use of nothing that was not made before: from known data in a known environment
it comes to a known value, or fails and shows known values. -/

theorem Value.closures_eq_nil_of_isWritten {value : Value} (h : value.isWritten = true) :
    value.closures = [] := by
  induction value with
  | cons first rest ihFirst ihRest =>
      rw [isWritten, Bool.and_eq_true] at h
      rw [closures, ihFirst h.1, ihRest h.2, List.append_nil]
  | closure => cases h
  | _ => rfl

theorem Reader.values_eq_nil_of_isInner {error : Error} (h : isInner error = true) :
    error.values = [] := by
  cases error <;> first | rfl | cases h

namespace Eval.Continues

variable {history : History}

section Expressions

variable {eval : Value → Eval Value}

def Evaluates (history : History) (eval : Value → Eval Value) : Prop :=
  ∀ later value, history.Precedes later → later.Knows value →
    Continues later (eval value) History.Knows

theorem Evaluates.mono {later : History} (heval : Evaluates history eval)
    (h : history.Precedes later) : Evaluates later eval :=
  fun last value hlast => heval last value (h.trans hlast)

theorem evalAll (heval : Evaluates history eval) {result : Value} {expressions : List Value}
    (hresult : history.Knows result) (hexpressions : history.KnowsAll expressions) :
    Continues history (Closure.evalAll eval result expressions) History.Knows := by
  induction expressions generalizing history result with
  | nil => exact pure hresult
  | cons expression rest ih =>
      obtain ⟨hexpression, hrest⟩ := History.knowsAll_cons.mp hexpressions
      refine bind (heval history expression (.refl history) hexpression) ?_
      exact fun later value hlater hvalue => ih (heval.mono hlater) hvalue (hrest.mono hlater)

theorem evalEach (heval : Evaluates history eval) {expressions : List Value}
    (hexpressions : history.KnowsAll expressions) :
    Continues history (Evaluator.evalEach eval expressions) History.KnowsAll := by
  induction expressions generalizing history with
  | nil => exact pure History.knowsAll_nil
  | cons expression rest ih =>
      obtain ⟨hexpression, hrest⟩ := History.knowsAll_cons.mp hexpressions
      refine bind (heval history expression (.refl history) hexpression) ?_
      intro later value hlater hvalue
      refine bind (ih (heval.mono hlater) (hrest.mono hlater)) fun last values hlast hvalues => ?_
      exact pure (History.knowsAll_cons.mpr ⟨hvalue.mono hlast, hvalues⟩)

theorem operand (sugar : Sugar) {rest : Value} (hrest : history.Knows rest) :
    Continues history (Template.operand sugar rest) History.Knows := by
  refine bind (ofOption History.knowsAll_nil fun items hitems =>
    History.knowsAll_toList? hrest hitems) ?_
  intro later items hlater hitems
  split
  · exact pure (hitems _ List.mem_cons_self)
  · exact fail History.knowsAll_nil

theorem splice (heval : Evaluates history eval) {rest : Value} (hrest : history.Knows rest) :
    Continues history (Template.splice eval rest) History.KnowsAll := by
  refine bind (operand _ hrest) fun later operand hlater hoperand => ?_
  refine bind (heval later operand hlater hoperand) fun last value _ hvalue => ?_
  exact ofOption (History.knowsAll_singleton.mpr hvalue) fun items hitems =>
    History.knowsAll_toList? hvalue hitems

mutual

theorem element : ∀ (template : Value) {history : History}, Evaluates history eval →
    history.Knows template →
      Continues history (Template.element eval template) History.KnowsAll
  | .cons first rest, history, heval, htemplate => by
      obtain ⟨hfirst, hrest⟩ := History.knows_cons.mp htemplate
      simp only [Template.element]
      split
      · refine bind (operand _ hrest) fun later operand hlater hoperand => ?_
        refine bind (heval later operand hlater hoperand) fun last value _ hvalue => ?_
        exact pure (History.knowsAll_singleton.mpr hvalue)
      · exact splice heval hrest
      · refine bind (element first heval hfirst) fun later front hlater hfront => ?_
        refine bind (following rest (heval.mono hlater) (hrest.mono hlater)) ?_
        intro last back hlast hback
        have hlist := History.knows_ofDotted.mpr ⟨hfront.mono hlast, hback⟩
        exact pure (History.knowsAll_singleton.mpr hlist)
  | .nil, _, _, htemplate | .bool _, _, _, htemplate | .int _, _, _, htemplate
  | .float _, _, _, htemplate | .str _, _, _, htemplate | .symbol _, _, _, htemplate
  | .keyword _, _, _, htemplate | .regex _, _, _, htemplate | .emptyList, _, _, htemplate
  | .closure _ _ _ _ _, _, _, htemplate | .primitive _, _, _, htemplate
  | .special _, _, _, htemplate =>
      pure (History.knowsAll_singleton.mpr htemplate)

theorem following : ∀ (template : Value) {history : History}, Evaluates history eval →
    history.Knows template →
      Continues history (Template.following eval template) History.Knows
  | .cons first rest, history, heval, htemplate => by
      obtain ⟨hfirst, hrest⟩ := History.knows_cons.mp htemplate
      simp only [Template.following]
      refine bind (element first heval hfirst) fun later front hlater hfront => ?_
      refine bind (following rest (heval.mono hlater) (hrest.mono hlater)) ?_
      intro last back hlast hback
      exact pure (History.knows_ofDotted.mpr ⟨hfront.mono hlast, hback⟩)
  | .nil, _, _, htemplate | .bool _, _, _, htemplate | .int _, _, _, htemplate
  | .float _, _, _, htemplate | .str _, _, _, htemplate | .symbol _, _, _, htemplate
  | .keyword _, _, _, htemplate | .regex _, _, _, htemplate | .emptyList, _, _, htemplate
  | .closure _ _ _ _ _, _, _, htemplate | .primitive _, _, _, htemplate
  | .special _, _, _, htemplate => pure htemplate

end

theorem expand (heval : Evaluates history eval) {template : Value}
    (htemplate : history.Knows template) :
    Continues history (Template.expand eval template) History.Knows := by
  refine bind (element template heval htemplate) fun later values hlater hvalues => ?_
  split
  · exact pure (hvalues _ List.mem_cons_self)
  · exact fail History.knowsAll_nil

end Expressions

theorem knowsAll_frame (parameters : Parameters) {arguments : List Value}
    (harguments : history.KnowsAll arguments) :
    history.KnowsAll (parameters.frame arguments).values := by
  have hpositional : history.KnowsAll
      (Frame.ofPairs (parameters.positional.zip arguments)).values := by
    intro value hvalue
    obtain ⟨⟨key, bound⟩, hbinding, rfl⟩ := List.mem_map.mp hvalue
    exact harguments bound (List.of_mem_zip (Frame.mem_ofPairs hbinding)).2
  unfold Parameters.frame
  split
  · exact hpositional
  · intro value hvalue
    rcases Frame.mem_values_insert hvalue with rfl | hold
    · exact History.knows_ofList.mpr fun item hitem => harguments item (List.mem_of_mem_drop hitem)
    · exact hpositional value hold

theorem invoke {eval : Environment → Value → Eval Value}
    (heval : ∀ history environment, history.Links environment.locals →
      Evaluates history (eval environment))
    {closure : Closure} {arguments : List Value} (hscope : history.Links closure.scope.locals)
    (hbody : history.Knows closure.body) (harguments : history.KnowsAll arguments) :
    Continues history (closure.invoke eval arguments) History.Knows := by
  refine get fun state _ => bind (checkArity _ _ _) fun later _ hlater _ => ?_
  refine bind (extend (hscope.mono hlater)
    (knowsAll_frame _ (harguments.mono hlater))) fun last environment hlast henvironment => ?_
  refine evalAll (heval last environment henvironment) (History.knows_of_closures_eq_nil rfl) ?_
  exact History.knowsAll_items ((hbody.mono hlater).mono hlast)

/-- Evaluators that use nothing but what is known. -/
structure Sound (inner : Evaluator) : Prop where
  eval : ∀ history environment, history.Links environment.locals →
    Evaluates history (inner.eval environment)
  apply : ∀ {history callable arguments}, history.Knows callable → history.KnowsAll arguments →
    Continues history (inner.apply callable arguments) History.Knows

section Layer

variable {inner : Evaluator} {environment : Environment}

theorem target (form : SpecialForm) {value : Value} (hvalue : history.Knows value) :
    Continues history (Evaluator.target form value) fun _ _ => True := by
  cases value with
  | symbol symbol => exact pure trivial
  | _ => exact fail (History.knowsAll_singleton.mpr hvalue)

theorem shows_symbolsOf {values : List Value} (hvalues : history.KnowsAll values) :
    history.Shows (fun _ _ => True) (Parameters.symbolsOf values) := by
  induction values with
  | nil => trivial
  | cons value rest ih =>
      obtain ⟨hvalue, hrest⟩ := History.knowsAll_cons.mp hvalues
      cases value with
      | symbol symbol =>
          have hothers := ih hrest
          rw [Parameters.symbolsOf]
          cases hsymbols : Parameters.symbolsOf rest with
          | ok symbols => trivial
          | error error =>
              rw [hsymbols] at hothers
              exact hothers
      | _ => exact History.knowsAll_singleton.mpr hvalue

theorem shows_ofSymbols (symbols : List Symbol) :
    history.Shows (fun _ _ => True) (Parameters.ofSymbols symbols) := by
  unfold Parameters.ofSymbols
  split
  · trivial
  · split
    · split
      · trivial
      · exact History.knowsAll_nil
    · exact History.knowsAll_nil
  · exact History.knowsAll_nil

theorem shows_parameters {value : Value} (hvalue : history.Knows value) :
    history.Shows (fun _ _ => True) (Parameters.ofValue value) := by
  unfold Parameters.ofValue
  split
  · exact History.knowsAll_singleton.mpr hvalue
  · rename_i items hitems
    have hsymbols := shows_symbolsOf (History.knowsAll_toList? hvalue hitems)
    split
    · exact shows_ofSymbols _
    · rename_i hfailed
      rw [hfailed] at hsymbols
      exact hsymbols

theorem makeClosure (kind : ClosureKind) (henvironment : history.Links environment.locals)
    {operands : List Value} (hoperands : history.KnowsAll operands) :
    Continues history (Evaluator.makeClosure kind environment operands) History.Knows := by
  unfold Evaluator.makeClosure
  split
  · obtain ⟨hparameters, hbody⟩ := History.knowsAll_cons.mp hoperands
    refine bind (ofExcept (shows_parameters hparameters)) ?_
    intro later parameters hlater _
    exact newClosure kind parameters (History.knows_ofList.mpr (hbody.mono hlater))
      (henvironment.mono hlater)
  · exact fail History.knowsAll_nil

theorem receiver (hinner : Sound inner) (henvironment : history.Links environment.locals)
    {value : Value} (hvalue : history.Knows value) :
    Continues history (Evaluator.receiver inner environment value) History.Knows := by
  cases value with
  | symbol symbol =>
      refine get fun state hstate => pure ?_
      cases hbound : state.store.get? environment symbol with
      | none => exact hvalue
      | some bound =>
          exact hstate.values bound (List.mem_append_left _ (Store.mem_values_of_get? hbound))
  | cons first rest => exact hinner.eval _ _ henvironment _ _ (.refl history) hvalue
  | _ => exact pure hvalue

theorem operationName {value : Value} (hvalue : history.Knows value) :
    Continues history (Evaluator.operationName value) fun _ _ => True := by
  cases value with
  | keyword name => exact pure trivial
  | symbol symbol => exact pure trivial
  | str text => exact pure trivial
  | _ => exact fail (History.knowsAll_singleton.mpr hvalue)

theorem knows_globals {state : State} (hstate : state.Follows history) {key : Symbol}
    {value : Value} (h : state.store.globals.get? key = some value) : history.Knows value :=
  hstate.values value (List.mem_append_left _
    (Store.mem_values_of_globals (Frame.mem_values_of_get? h)))

theorem knows_expander? {state : State} (hstate : state.Follows history) {form : Value}
    (hform : history.Knows form) {closure : Closure}
    (h : Evaluator.expander? state form = some closure) :
    history.Knows (.ofClosure closure) := by
  cases form with
  | cons head rest =>
      have hhead := (History.knows_cons.mp hform).1
      have hclosure : ∀ value : Value, history.Knows value →
          value.closure?.filter Closure.isExpander = some closure →
            history.Knows (.ofClosure closure) := by
        intro value hvalue hfilter
        have hself := (Option.filter_eq_some_iff.mp hfilter).1
        cases value with
        | closure id kind parameters body scope =>
            cases hself
            exact hvalue
        | _ => cases hself
      cases head with
      | symbol symbol =>
          refine hclosure ((state.store.globals.get? symbol).getD .nil) ?_ h
          cases hbound : state.store.globals.get? symbol with
          | none => exact History.knows_of_closures_eq_nil rfl
          | some bound => exact knows_globals hstate hbound
      | _ => exact hclosure _ hhead h
  | _ => cases h

theorem invoke_known (hinner : Sound inner) {closure : Closure} {arguments : List Value}
    (hclosure : history.Knows (.ofClosure closure)) (harguments : history.KnowsAll arguments) :
    Continues history (closure.invoke inner.eval arguments) History.Knows := by
  obtain ⟨hself, hbody⟩ := History.knows_closure.mp hclosure
  exact invoke hinner.eval hself.2 hbody harguments

theorem expandOnce (hinner : Sound inner) {form : Value} (hform : history.Knows form) :
    Continues history (Evaluator.expandOnce inner form) History.Knows := by
  refine get fun state hstate => ?_
  split
  · rename_i head rest closure hexpander
    have hrest := (History.knows_cons.mp hform).2
    have hclosure := knows_expander? hstate hform hexpander
    refine bind (ofOption History.knowsAll_nil fun items hitems =>
      History.knowsAll_toList? hrest hitems) ?_
    exact fun later operands hlater hoperands =>
      invoke_known hinner (hclosure.mono hlater) hoperands
  · exact pure hform

theorem items (primitive : Primitive) {value : Value} (hvalue : history.Knows value) :
    Continues history (Evaluator.items primitive value) History.KnowsAll :=
  ofOption (History.knowsAll_singleton.mpr hvalue) fun _ hitems =>
    History.knowsAll_toList? hvalue hitems

theorem concatItems {values : List Value} (hvalues : history.KnowsAll values) :
    Continues history (Evaluator.concatItems values) History.KnowsAll := by
  induction values generalizing history with
  | nil => exact pure History.knowsAll_nil
  | cons value rest ih =>
      obtain ⟨hvalue, hrest⟩ := History.knowsAll_cons.mp hvalues
      refine bind (items .concat hvalue) fun later front hlater hfront => ?_
      refine bind (ih (hrest.mono hlater)) fun last back hlast hback => ?_
      exact pure (History.knowsAll_append.mpr ⟨hfront.mono hlast, hback⟩)

theorem printEach (values : List Value) :
    Continues history (Evaluator.printEach values) fun _ _ => True := by
  induction values generalizing history with
  | nil => exact pure trivial
  | cons value rest ih =>
      exact get fun state _ => bind (print _) fun later _ _ _ => ih

theorem isEmpty {value : Value} (hvalue : history.Knows value) :
    Continues history (Evaluator.isEmpty value) History.Knows := by
  cases value with
  | emptyList => exact pure (History.knows_of_closures_eq_nil rfl)
  | cons first rest => exact pure (History.knows_of_closures_eq_nil rfl)
  | str text => exact pure (History.knows_of_closures_eq_nil rfl)
  | _ => exact fail (History.knowsAll_singleton.mpr hvalue)

variable [RegexEngine]

theorem evalSpecial (hinner : Sound inner) (henvironment : history.Links environment.locals)
    (form : SpecialForm) {operands : List Value} (hoperands : history.KnowsAll operands) :
    Continues history (Evaluator.evalSpecial inner environment form operands) History.Knows := by
  have heval := hinner.eval history environment henvironment
  unfold Evaluator.evalSpecial
  split
  · exact pure (hoperands _ (by simp))
  · exact expand heval (hoperands _ (by simp))
  · refine bind (target _ (hoperands _ (by simp))) fun first key hfirst _ => ?_
    refine bind (heval first _ hfirst ((hoperands _ (by simp)).mono hfirst)) ?_
    intro second value hsecond hvalue
    refine bind (nameClosure key value) fun third _ hthird _ => ?_
    refine bind (define key (hvalue.mono hthird)) fun last _ hlast _ => ?_
    exact pure ((hvalue.mono hthird).mono hlast)
  · refine bind (target _ (hoperands _ (by simp))) fun first key hfirst _ => ?_
    refine bind (heval first _ hfirst ((hoperands _ (by simp)).mono hfirst)) ?_
    intro second value hsecond hvalue
    refine bind (assign environment key hvalue) fun last _ hlast _ => ?_
    exact pure (hvalue.mono hlast)
  · exact makeClosure _ henvironment hoperands
  · exact makeClosure _ henvironment hoperands
  · refine bind (heval history _ (.refl history) (hoperands _ (by simp))) ?_
    intro later condition hlater _
    split
    · exact heval later _ hlater ((hoperands _ (by simp)).mono hlater)
    · exact pure (History.knows_of_closures_eq_nil rfl)
  · refine bind (heval history _ (.refl history) (hoperands _ (by simp))) ?_
    intro later condition hlater _
    split
    · exact heval later _ hlater ((hoperands _ (by simp)).mono hlater)
    · exact heval later _ hlater ((hoperands _ (by simp)).mono hlater)
  · exact receiver hinner henvironment (hoperands _ (by simp))
  · refine bind (receiver hinner henvironment (hoperands _ (by simp))) ?_
    intro first value hfirst hvalue
    refine bind (heval first _ hfirst ((hoperands _ (by simp)).mono hfirst)) ?_
    intro second operation hsecond hoperation
    refine bind (operationName hoperation) fun third name hthird _ => ?_
    have hprecedes := (hfirst.trans hsecond).trans hthird
    have hrest := (History.knowsAll_cons.mp (History.knowsAll_cons.mp hoperands).2).2
    refine bind (evalEach (heval.mono hprecedes) (hrest.mono hprecedes)) ?_
    intro last arguments hlast harguments
    refine get fun state _ => ofExcept ?_
    exact History.shows_send _ name (((hvalue.mono hsecond).mono hthird).mono hlast) harguments
  all_goals exact fail History.knowsAll_nil

theorem loadText (hinner : Sound inner) (text : String) :
    Continues history (Evaluator.loadText inner text) History.Knows := by
  refine bind (intern _) fun first _ _ _ => ?_
  have hread : first.Shows History.KnowsAll (Reader.readAll text.toList).outcome := by
    cases hforms : (Reader.readAll text.toList).outcome with
    | ok forms =>
        intro form hform
        exact History.knows_of_closures_eq_nil
          (Value.closures_eq_nil_of_isWritten (Reader.isWritten_of_readAll hforms form hform))
    | error error =>
        rw [History.Shows, Reader.values_eq_nil_of_isInner (Reader.isInner_of_readAll hforms)]
        exact History.knowsAll_nil
  refine bind (ofExcept hread) fun second forms _ hforms => ?_
  refine bind (evalAll (hinner.eval second .global trivial)
    (History.knows_of_closures_eq_nil rfl) hforms) fun last _ _ _ => ?_
  exact pure (History.knows_of_closures_eq_nil rfl)

theorem loadFile (hinner : Sound inner) (path : String) :
    Continues history (Evaluator.loadFile inner path) History.Knows := by
  refine bind (modify (fun _ => rfl) (fun _ => rfl) fun _ => rfl) fun later _ _ _ => ?_
  refine get fun state _ => ?_
  split
  · exact fail History.knowsAll_nil
  · exact loadText hinner _

theorem runPrimitive (hinner : Sound inner) (primitive : Primitive) {arguments : List Value}
    (harguments : history.KnowsAll arguments) :
    Continues history (Evaluator.runPrimitive inner primitive arguments) History.Knows := by
  unfold Evaluator.runPrimitive
  split
  · refine bind (printEach _) fun later _ hlater _ => ?_
    exact pure (History.knows_ofList.mpr (harguments.mono hlater))
  · refine get fun state _ => bind (print _) fun later _ _ _ => ?_
    exact pure (History.knows_of_closures_eq_nil rfl)
  · exact pure (History.knows_cons.mpr ⟨harguments _ (by simp), harguments _ (by simp)⟩)
  · exact ofOption harguments fun _ hfirst => History.knows_first? (harguments _ (by simp)) hfirst
  · exact ofOption harguments fun _ hrest => History.knows_rest? (harguments _ (by simp)) hrest
  · refine bind (concatItems harguments) fun later values _ hvalues => ?_
    exact pure (History.knows_ofList.mpr hvalues)
  · exact pure (History.knows_ofList.mpr harguments)
  · exact pure (History.knows_of_closures_eq_nil rfl)
  · exact isEmpty (harguments _ (by simp))
  · exact pure (History.knows_of_closures_eq_nil rfl)
  · rename_i callable second rest
    obtain ⟨hcallable, hothers⟩ := History.knowsAll_cons.mp harguments
    have hlast : history.Knows ((second :: rest).getLastD .nil) := by
      rw [List.getLastD_cons]
      exact hothers _ List.getLastD_mem_cons
    refine bind (items .apply hlast) fun later values hlater hvalues => ?_
    refine hinner.apply (hcallable.mono hlater) (History.knowsAll_append.mpr ⟨?_, hvalues⟩)
    exact fun value hvalue => (hothers value (List.dropLast_subset _ hvalue)).mono hlater
  · exact expandOnce hinner (harguments _ (by simp))
  · exact hinner.eval history .global trivial history _ (.refl history) (harguments _ (by simp))
  · exact get fun state _ => loadFile hinner _
  all_goals exact fail History.knowsAll_nil

theorem applyValue (hinner : Sound inner) {callable : Value} {arguments : List Value}
    (hcallable : history.Knows callable) (harguments : history.KnowsAll arguments) :
    Continues history (Evaluator.applyValue inner callable arguments) History.Knows := by
  cases callable with
  | closure id kind parameters body scope => exact invoke_known hinner hcallable harguments
  | primitive primitive => exact runPrimitive hinner primitive harguments
  | special form => exact fail History.knowsAll_nil
  | _ => exact fail (History.knowsAll_singleton.mpr hcallable)

theorem applyForm (hinner : Sound inner) (henvironment : history.Links environment.locals)
    (head : Value) {operator : Value} {operands : List Value} (hoperator : history.Knows operator)
    (hoperands : history.KnowsAll operands) :
    Continues history (Evaluator.applyForm inner environment head operator operands)
      History.Knows := by
  unfold Evaluator.applyForm
  split
  · exact evalSpecial hinner henvironment _ hoperands
  · refine bind (invoke_known hinner hoperator hoperands) ?_
    intro later expansion hlater hexpansion
    exact hinner.eval history environment henvironment later expansion hlater hexpansion
  · refine bind (evalEach (hinner.eval history environment henvironment) hoperands) ?_
    exact fun later arguments hlater harguments =>
      applyValue hinner (hoperator.mono hlater) harguments

theorem evalValue (hinner : Sound inner) (henvironment : history.Links environment.locals)
    {value : Value} (hvalue : history.Knows value) :
    Continues history (Evaluator.evalValue inner environment value) History.Knows := by
  cases value with
  | symbol symbol => exact lookup environment symbol
  | cons head rest =>
      obtain ⟨hhead, hrest⟩ := History.knows_cons.mp hvalue
      have heval := hinner.eval history environment henvironment
      refine bind (heval history head (.refl history) hhead) ?_
      intro first operator hfirst hoperator
      refine bind (ofOption History.knowsAll_nil fun items hitems =>
        History.knowsAll_toList? (hrest.mono hfirst) hitems) ?_
      intro second operands hsecond hoperands
      have hprecedes := hfirst.trans hsecond
      exact applying (hhead.mono hprecedes)
        (applyForm hinner (henvironment.mono hprecedes) head (hoperator.mono hsecond) hoperands)
  | _ => exact pure hvalue

end Layer

variable [RegexEngine]

theorem sound_layers (fuel : Nat) : Sound (Evaluator.layers fuel) := by
  induction fuel with
  | zero =>
      exact ⟨fun _ _ _ _ _ _ _ => throw History.knowsAll_nil, fun _ _ => throw History.knowsAll_nil⟩
  | succ fuel ih =>
      refine ⟨?_, fun hcallable harguments => applyValue ih hcallable harguments⟩
      intro history environment henvironment later value hlater hvalue
      exact evalValue ih (henvironment.mono hlater) hvalue

end Eval.Continues

def Request.Uses (history : History) : Request → Prop
  | eval environment datum => history.Links environment.locals ∧ history.Knows datum
  | apply callable arguments => history.Knows callable ∧ history.KnowsAll arguments
  | expand form => history.Knows form
  | load _ => True

variable [RegexEngine]

theorem Request.continues_run {history : History} {request : Request}
    (h : request.Uses history) (fuel : Nat) :
    Eval.Continues history (request.run fuel) History.Knows := by
  have hsound := Eval.Continues.sound_layers fuel
  cases request with
  | eval environment datum =>
      exact hsound.eval history environment h.1 history datum (.refl history) h.2
  | apply callable arguments => exact hsound.apply h.1 h.2
  | expand form => exact .expandOnce hsound h
  | load path => exact .loadFile hsound path

end Lisplet
