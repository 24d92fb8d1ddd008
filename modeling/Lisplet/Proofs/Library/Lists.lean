import Lisplet.Proofs.Library.Bootstrap
import Lisplet.Regex.PatternEngine

namespace Lisplet.Library

/-! The list functions of the library, called on any function that can be relied on. -/

open Evaluator

def walking : List Symbol :=
  [⟨"empty?"⟩, ⟨"first"⟩, ⟨"rest"⟩]

section

variable [RegexEngine]

/-- Inside a call that goes through the list `l` with the function `f`. -/
structure Walks (frame : Frame) (state : State) (environment : Environment) (names : List Symbol)
    (callable : Value) (values : List Value) : Prop
    extends Inside frame state environment [.branch] (walking ++ names) where
  function : frame.get? ⟨"f"⟩ = some callable
  list : frame.get? ⟨"l"⟩ = some (.ofList values)

variable {setting : Setting} {frame : Frame} {state : State} {environment : Environment}
  {names : List Symbol} {callable value : Value} {values arguments : List Value}

namespace Walks

theorem gives_function (h : Walks frame state environment names callable values) :
    Gives environment (var "f") state callable state :=
  h.gives_var "f" h.function

theorem gives_item (h : Walks frame state environment names callable (value :: values)) :
    Gives environment (call "first" [var "l"]) state value state :=
  h.gives_first (List.mem_append_left names (by decide)) (h.gives_var "l" h.list)

theorem gives_others (h : Walks frame state environment names callable (value :: values)) :
    Gives environment (call "rest" [var "l"]) state (.ofList values) state :=
  h.gives_rest (List.mem_append_left names (by decide)) (h.gives_var "l" h.list)

theorem of_preserves (h : Walks frame state environment names callable values) {after : State}
    (hpreserves : state.store.Preserves after.store) :
    Walks frame after environment names callable values :=
  ⟨h.toInside.of_preserves hpreserves, h.function, h.list⟩

theorem settles_function (h : Walks frame state environment names callable values)
    (hcallable : callable.isFunction = true) (hstate : setting.Holds state)
    {operands : List Value} {outcome : Except Error Value}
    (hoperands : GivesEach environment operands state arguments state)
    (hsettles : setting.Settles callable arguments outcome) :
    Eval.Settles (fun fuel => evalAt fuel environment (call "f" operands)) state outcome
      (setting.Reaches state) :=
  settles_call_values rfl (h.sees h.function) hcallable hoperands (hsettles state hstate)

theorem calls (h : Walks frame state environment names callable values)
    (hcallable : callable.isFunction = true) (hstate : setting.Holds state)
    {operands : List Value} {result : Value}
    (hoperands : GivesEach environment operands state arguments state)
    (hreliable : setting.Reliable callable arguments result) :
    ∃ after, Gives environment (call "f" operands) state result after ∧
      setting.Reaches state after ∧ Walks frame after environment names callable values := by
  have hsettles : setting.Settles callable arguments (.ok result) := hreliable
  obtain ⟨after, hgives, hreaches⟩ := h.settles_function hcallable hstate hoperands hsettles
  exact ⟨after, hgives, hreaches, h.of_preserves hreaches.preserves⟩

end Walks

theorem settles_of_walks {kind : ClosureKind} (parameters : Parameters)
    {consequence alternative : Value} {outcome : Except Error Value}
    (harity : parameters.arity.Admits arguments.length)
    (hnames : ∀ name ∈ SpecialForm.branch.symbol :: (walking ++ names), name ∉ parameters.symbols)
    (hfunction : (parameters.frame arguments).get? ⟨"f"⟩ = some callable)
    (hlist : (parameters.frame arguments).get? ⟨"l"⟩ = some (.ofList values))
    (hoffers : ∀ state, setting.Holds state → Offers state .global [.branch] (walking ++ names))
    (hvalue : ∀ {state environment}, setting.Holds state →
      Walks (parameters.frame arguments) state environment names callable values →
        Eval.Settles (fun fuel => evalAt fuel environment
          (if values.isEmpty then consequence else alternative)) state outcome
          (setting.Reaches state))
    (id : Nat) :
    setting.Settles
      (.closure id kind parameters
        (.ofList [call "if" [call "empty?" [var "l"], consequence, alternative]]) .global)
      arguments outcome := by
  refine settles_of_inside parameters harity hnames hoffers ?_ id
  intro state environment hstate hinside
  exact hinside.settles_if_empty (by decide) (List.mem_append_left names (by decide))
    (hinside.gives_var "l" hlist) (hvalue hstate ⟨hinside, hfunction, hlist⟩)

theorem reliable_of_walks {kind : ClosureKind} (parameters : Parameters)
    {consequence alternative : Value} (harity : parameters.arity.Admits arguments.length)
    (hnames : ∀ name ∈ SpecialForm.branch.symbol :: (walking ++ names), name ∉ parameters.symbols)
    (hfunction : (parameters.frame arguments).get? ⟨"f"⟩ = some callable)
    (hlist : (parameters.frame arguments).get? ⟨"l"⟩ = some (.ofList values))
    (hoffers : ∀ state, setting.Holds state → Offers state .global [.branch] (walking ++ names))
    (hvalue : ∀ {state environment}, setting.Holds state →
      Walks (parameters.frame arguments) state environment names callable values →
        ∃ after, Gives environment (if values.isEmpty then consequence else alternative) state value
            after ∧
          setting.Reaches state after)
    (id : Nat) :
    setting.Reliable
      (.closure id kind parameters
        (.ofList [call "if" [call "empty?" [var "l"], consequence, alternative]]) .global)
      arguments value := by
  have hsettles : setting.Settles
      (.closure id kind parameters
        (.ofList [call "if" [call "empty?" [var "l"], consequence, alternative]]) .global)
      arguments (.ok value) :=
    settles_of_walks parameters harity hnames hfunction hlist hoffers hvalue id
  exact hsettles

theorem map_reliable
    (hoffers : ∀ state, setting.Holds state →
      Offers state .global [.branch] (walking ++ [⟨"cons"⟩, ⟨"map"⟩]))
    (hcallable : callable.isFunction = true) (results : Value → Value)
    (hreliable : ∀ value ∈ values, setting.Reliable callable [value] (results value)) (id : Nat) :
    setting.Reliable (map.closure id) [callable, .ofList values]
      (.ofList (values.map results)) := by
  induction values generalizing id with
  | nil =>
      refine reliable_of_walks map.parameters (Arity.admits_exactly.mpr rfl) (by decide) rfl rfl
        hoffers ?_ id
      intro state environment hstate hwalks
      exact ⟨state, gives_constant rfl, .refl hstate⟩
  | cons value values ih =>
      refine reliable_of_walks map.parameters (Arity.admits_exactly.mpr rfl) (by decide) rfl rfl
        hoffers ?_ id
      intro state environment hstate hwalks
      obtain ⟨middle, hresult, hmiddle, hlater⟩ := hwalks.calls hcallable hstate
        (givesEach_one hwalks.gives_item) (hreliable value List.mem_cons_self)
      obtain ⟨after, hresults, hafter⟩ := hlater.resolves.gives_call map (by simp [described])
        (by decide) rfl (.cons hlater.gives_function (givesEach_one hlater.gives_others))
        hmiddle.holds (ih fun other hother => hreliable other (List.mem_cons_of_mem value hother))
      refine ⟨after, ?_, hmiddle.trans hafter⟩
      exact gives_primitive .cons (hwalks.resolves.primitive .cons (by decide))
        (.cons hresult (givesEach_one hresults)) fun _ => rfl

theorem filter_reliable
    (hoffers : ∀ state, setting.Holds state →
      Offers state .global [.branch] (walking ++ [⟨"cons"⟩, ⟨"filter"⟩]))
    (hcallable : callable.isFunction = true) (results : Value → Value)
    (hreliable : ∀ value ∈ values, setting.Reliable callable [value] (results value)) (id : Nat) :
    setting.Reliable (filter.closure id) [callable, .ofList values]
      (.ofList (values.filter fun value => (results value).truthy)) := by
  induction values generalizing id with
  | nil =>
      refine reliable_of_walks filter.parameters (Arity.admits_exactly.mpr rfl) (by decide) rfl rfl
        hoffers ?_ id
      intro state environment hstate hwalks
      exact ⟨state, gives_constant rfl, .refl hstate⟩
  | cons value values ih =>
      refine reliable_of_walks filter.parameters (Arity.admits_exactly.mpr rfl) (by decide) rfl rfl
        hoffers ?_ id
      intro state environment hstate hwalks
      obtain ⟨middle, hresult, hmiddle, hlater⟩ := hwalks.calls hcallable hstate
        (givesEach_one hwalks.gives_item) (hreliable value List.mem_cons_self)
      obtain ⟨after, hresults, hafter⟩ := hlater.resolves.gives_call filter (by simp [described])
        (by decide) rfl (.cons hlater.gives_function (givesEach_one hlater.gives_others))
        hmiddle.holds (ih fun other hother => hreliable other (List.mem_cons_of_mem value hother))
      refine ⟨after, ?_, hmiddle.trans hafter⟩
      refine gives_branch (hwalks.bound .branch (by decide)) hresult ?_
      by_cases hkept : (results value).truthy = true
      · rw [if_pos hkept, List.filter_cons, if_pos hkept]
        exact gives_primitive .cons (hlater.resolves.primitive .cons (by decide))
          (.cons hlater.gives_item (givesEach_one hresults)) fun _ => rfl
      · rw [if_neg hkept, List.filter_cons, if_neg hkept]
        exact hresults

/-- The function is only called on the accumulators that come up, and not again once it fails. -/
theorem reduce_settles
    (hoffers : ∀ state, setting.Holds state →
      Offers state .global [.branch] (walking ++ [⟨"reduce"⟩]))
    (hcallable : callable.isFunction = true) {step : Value → Value → Except Error Value}
    {initial : Value}
    (hsettles : ∀ front value back accumulated, values = front ++ value :: back →
      front.foldlM step initial = .ok accumulated →
        setting.Settles callable [accumulated, value] (step accumulated value)) (id : Nat) :
    setting.Settles (reduce.closure id) [callable, initial, .ofList values]
      (values.foldlM step initial) := by
  induction values generalizing initial id with
  | nil =>
      refine settles_of_walks reduce.parameters (Arity.admits_exactly.mpr rfl) (by decide) rfl rfl
        hoffers ?_ id
      intro state environment hstate hwalks
      exact .of_eventually (hwalks.gives_var "acc" rfl) (.refl hstate)
  | cons value values ih =>
      refine settles_of_walks reduce.parameters (Arity.admits_exactly.mpr rfl) (by decide) rfl rfl
        hoffers ?_ id
      intro state environment hstate hwalks
      have hresult := hwalks.settles_function hcallable hstate
        (.cons (hwalks.gives_var "acc" rfl) (givesEach_one hwalks.gives_item))
        (hsettles [] value values initial rfl rfl)
      have hoperands := settles_each_before hwalks.gives_function
        (settles_each_behind hresult fun after hreaches =>
          givesEach_one (hwalks.of_preserves hreaches.preserves).gives_others)
      rw [List.foldlM_cons]
      refine hwalks.resolves.settles_call reduce (by simp [described]) (by decide) rfl hoperands
        fun accumulated hstep => ih fun front other back later hsplit hfront => ?_
      refine hsettles (value :: front) other back later (congrArg (value :: ·) hsplit) ?_
      rw [List.foldlM_cons, hstep]
      exact hfront

theorem reduce_reliable
    (hoffers : ∀ state, setting.Holds state →
      Offers state .global [.branch] (walking ++ [⟨"reduce"⟩]))
    (hcallable : callable.isFunction = true) {results : Value → Value → Value} {initial : Value}
    (hreliable : ∀ front value back, values = front ++ value :: back →
      setting.Reliable callable [front.foldl results initial, value]
        (results (front.foldl results initial) value)) (id : Nat) :
    setting.Reliable (reduce.closure id) [callable, initial, .ofList values]
      (values.foldl results initial) := by
  have hpure : ∀ values : List Value, values.foldlM
      (fun accumulated value => (.ok (results accumulated value) : Except Error Value)) initial =
        .ok (values.foldl results initial) := fun _ => List.foldlM_pure
  have hsettles : setting.Settles (reduce.closure id) [callable, initial, .ofList values]
      (.ok (values.foldl results initial)) := by
    rw [← hpure]
    refine reduce_settles hoffers hcallable (fun front value back accumulated hsplit hfront => ?_)
      id
    cases (hpure front).symm.trans hfront
    exact hreliable front value back hsplit
  exact hsettles

theorem settles_reduced {parameters : Parameters}
    {parameterList expression initialExpression listExpression initial : Value}
    {step : Value → Value → Except Error Value}
    (hoffers : Offers state .global [.branch] (walking ++ [⟨"reduce"⟩]))
    (hscope : Offers state environment [.function] [⟨"reduce"⟩])
    (hparameters : Parameters.ofValue parameterList = .ok parameters)
    (hinitial : Gives environment initialExpression state.made initial state.made)
    (hlist : Gives environment listExpression state.made (.ofList values) state.made)
    (hstep : ∀ accumulated value, (Setting.still state.made).Settles
      (.closure state.names.next .function parameters (.ofList [expression]) environment)
      [accumulated, value] (step accumulated value)) :
    Eval.Settles (fun fuel => evalAt fuel environment (call "reduce"
        [call "fn" [parameterList, expression], initialExpression, listExpression])) state
      (values.foldlM step initial) (fun after => state.store.Preserves after.store) := by
  have hmade : Gives environment (call "fn" [parameterList, expression]) state
      (.closure state.names.next .function parameters (.ofList [expression]) environment)
      state.made :=
    gives_closure .function (hscope.bound .function (by decide)) hparameters
  have hstill : (Setting.still state.made).Holds state.made := ⟨.refl _, rfl⟩
  refine (hscope.resolves.settles_call_values reduce (by simp [described]) (by decide) rfl
    (.cons hmade (.cons hinitial (givesEach_one hlist))) hstill fun id => ?_).mono
      fun _ hafter => hafter.preserves
  exact reduce_settles
    (fun _ (hlater : (Setting.still state.made).Holds _) => hoffers.of_preserves hlater.1) rfl
    (fun _ value _ accumulated _ _ => hstep accumulated value) id

def accumulator (id : Nat) (scope : Environment) : Value :=
  .closure id .function ⟨[⟨"acc"⟩, ⟨"x"⟩], none⟩ (.ofList [call "cons" [var "x", var "acc"]]) scope

theorem accumulator_settles {state : State} {scope : Environment}
    (hscope : Offers state scope [] [⟨"cons"⟩]) (id : Nat) (accumulated value : Value) :
    (Setting.still state).Settles (accumulator id scope) [accumulated, value]
      (.ok (.cons value accumulated)) := by
  refine settles_of_inside ⟨[⟨"acc"⟩, ⟨"x"⟩], none⟩ (Arity.admits_exactly.mpr rfl) (by decide)
    (fun _ (hlater : (Setting.still state).Holds _) => hscope.of_preserves hlater.1) ?_ id
  intro later environment hlater hinside
  refine .of_eventually ?_ (.refl hlater)
  exact gives_primitive .cons (hinside.resolves.primitive .cons (by decide))
    (.cons (hinside.gives_var "x" rfl) (givesEach_one (hinside.gives_var "acc" rfl))) fun _ => rfl

omit [RegexEngine] in
theorem foldlM_accumulated (values accumulated : List Value) :
    values.foldlM
      (fun accumulated value => (.ok (.cons value accumulated) : Except Error Value))
      (.ofList accumulated) = .ok (.ofList (values.reverse ++ accumulated)) := by
  induction values generalizing accumulated with
  | nil => rfl
  | cons value values ih =>
      rw [List.reverse_cons, List.append_assoc]
      exact ih (value :: accumulated)

theorem reverse_answers {state : State}
    (hoffers : Offers state .global [.branch, .function] (walking ++ [⟨"cons"⟩, ⟨"reduce"⟩]))
    (values : List Value) (id : Nat) :
    ∃ after, Answers (reverse.closure id) [.ofList values] state (.ofList values.reverse) after ∧
      state.store.Preserves after.store := by
  have hsettles : Eval.Settles (fun fuel => applyAt fuel (reverse.closure id) [.ofList values])
      state (.ok (.ofList values.reverse)) fun after => state.store.Preserves after.store := by
    rw [← List.append_nil values.reverse, ← foldlM_accumulated values []]
    refine settles_entered reverse.parameters [.ofList values] (Arity.admits_exactly.mpr rfl)
      (by decide) hoffers (fun environment hinside hentered => ?_) id
    have hscope : Offers (state.aside [reverse.parameters.frame [.ofList values]]).made environment
        [] [⟨"cons"⟩] :=
      (hinside.toOffers.mono (by decide) (by decide)).of_preserves (.refl _)
    exact settles_reduced (hentered.mono (by decide) (by decide))
      (hinside.toOffers.mono (by decide) (by decide)) rfl (gives_constant rfl)
      (gives_symbol (hinside.sees rfl)) (accumulator_settles hscope _)
  exact hsettles

def listNames : List Symbol :=
  walking ++ [⟨"if"⟩, ⟨"fn"⟩, ⟨"cons"⟩, ⟨"map"⟩, ⟨"filter"⟩, ⟨"reduce"⟩, ⟨"reverse"⟩]

/-- Where a name is seen as it is at the top level, a call of it whose operands have come to the
arguments comes to the value. It changes no binding, and the stack is as it was. -/
def Computes (state : State) (name : Symbol) (arguments : List Value) (value : Value) : Prop :=
  ∀ {before : State} {environment : Environment} {operands : List Value},
    before.store.get? environment name = state.store.globals.get? name →
      GivesEach environment operands before arguments state →
        ∃ after, Gives environment (.ofList (.symbol name :: operands)) before value after ∧
          state.store.Preserves after.store ∧ after.stack = before.stack

theorem computes_of_answers {state : State} (definition : Definition) {arguments : List Value}
    {value : Value} (hresolves : Resolves state .global listNames)
    (hdescribed : definition ∈ described) (hname : definition.name ∈ listNames)
    (hkind : definition.kind = .function)
    (hanswers : ∀ id, ∃ after, Answers (definition.closure id) arguments state value after ∧
      state.store.Preserves after.store) :
    Computes state definition.name arguments value := by
  intro before environment operands hseen hoperands
  obtain ⟨id, hbound⟩ := hresolves.closure hdescribed hname
  obtain ⟨after, hanswer, hpreserves⟩ := hanswers id
  have hgives := Definition.gives_call hdescribed hkind (hseen.trans hbound) hoperands hanswer
  exact ⟨after, hgives, hpreserves, hgives.stack_eq⟩

theorem computes_of_reliable {state : State} (definition : Definition) {arguments : List Value}
    {value : Value} (hresolves : Resolves state .global listNames)
    (hdescribed : definition ∈ described) (hname : definition.name ∈ listNames)
    (hkind : definition.kind = .function) (hstate : setting.Holds state)
    (hreliable : ∀ id, (setting.keeping state.store).Reliable (definition.closure id) arguments
      value) :
    Computes state definition.name arguments value := by
  refine computes_of_answers definition hresolves hdescribed hname hkind fun id => ?_
  obtain ⟨after, hanswers, hreaches⟩ := hreliable id state ⟨hstate, .refl _⟩
  exact ⟨after, hanswers, hreaches.preserves⟩

/-- The list functions of the library, in a state and for a function. -/
structure ListFunctions (setting : Setting) (state : State) (function : Value) : Prop where
  map : ∀ (results : Value → Value) (values : List Value),
    (∀ value ∈ values, setting.Reliable function [value] (results value)) →
      Computes state ⟨"map"⟩ [function, .ofList values] (.ofList (values.map results))
  filter : ∀ (results : Value → Value) (values : List Value),
    (∀ value ∈ values, setting.Reliable function [value] (results value)) →
      Computes state ⟨"filter"⟩ [function, .ofList values]
        (.ofList (values.filter fun value => (results value).truthy))
  reduce : ∀ (results : Value → Value → Value) (initial : Value) (values : List Value),
    (∀ front value back, values = front ++ value :: back →
      setting.Reliable function [front.foldl results initial, value]
        (results (front.foldl results initial) value)) →
      Computes state ⟨"reduce"⟩ [function, initial, .ofList values]
        (values.foldl results initial)
  reverse : ∀ values : List Value,
    Computes state ⟨"reverse"⟩ [.ofList values] (.ofList values.reverse)

theorem listFunctions_compute {setting : Setting} {state : State} {function : Value}
    (hresolves : Resolves state .global listNames) (hstate : setting.Holds state)
    (hfunction : function.isFunction = true) : ListFunctions setting state function := by
  have hoffers : Offers state .global [.branch, .function] listNames :=
    hresolves.offers (by decide) (List.Subset.refl _)
  have hkept : ∀ later, (setting.keeping state.store).Holds later →
      Offers later .global [.branch, .function] listNames :=
    fun _ hlater => hoffers.of_preserves hlater.2
  refine ⟨?_, ?_, ?_, ?_⟩
  · intro results values hreliable
    apply computes_of_reliable map hresolves (by simp [described]) (by decide) rfl hstate
    apply map_reliable (fun later hlater => (hkept later hlater).mono (by decide) (by decide))
      hfunction results
    exact fun value hvalue => (hreliable value hvalue).keeping state.store
  · intro results values hreliable
    apply computes_of_reliable filter hresolves (by simp [described]) (by decide) rfl hstate
    apply filter_reliable (fun later hlater => (hkept later hlater).mono (by decide) (by decide))
      hfunction results
    exact fun value hvalue => (hreliable value hvalue).keeping state.store
  · intro results initial values hreliable
    apply computes_of_reliable reduce hresolves (by simp [described]) (by decide) rfl hstate
    apply reduce_reliable (fun later hlater => (hkept later hlater).mono (by decide) (by decide))
      hfunction
    exact fun front value back hsplit => (hreliable front value back hsplit).keeping state.store
  · intro values
    apply computes_of_answers reverse hresolves (by simp [described]) (by decide) rfl
    exact reverse_answers (hoffers.mono (by decide) (by decide)) values

end

open scoped Pattern

/-- Once the library is loaded, with a primitive as the function and `nil` among the values. -/
theorem listFunctions_compute_loaded :
    ∃ seen state, Reachable seen state ∧ Resolves state .global listNames ∧
      (Value.primitive .list).isFunction = true ∧
      (Setting.preserving state.store).Holds state ∧
      Computes state ⟨"map"⟩ [.primitive .list, .ofList [.int 1, .nil]]
        (.ofList [.ofList [.int 1], .ofList [.nil]]) ∧
      Computes state ⟨"reverse"⟩ [.ofList [.int 1, .nil]] (.ofList [.nil, .int 1]) := by
  have hnames : listNames ⊆ described.map Definition.name ++ initialNames := by decide
  obtain ⟨seen, state, hreachable, hresolves⟩ := exists_reachable_resolves hnames
  have hstate : (Setting.preserving state.store).Holds state := Store.Preserves.refl _
  have hlists : ListFunctions _ state (.primitive .list) :=
    listFunctions_compute hresolves hstate rfl
  refine ⟨seen, state, hreachable, hresolves, rfl, hstate, ?_, hlists.reverse _⟩
  exact hlists.map (fun value => .ofList [value]) _ fun value _ =>
    Setting.reliable_primitive _ fun _ _ => rfl

end Lisplet.Library
