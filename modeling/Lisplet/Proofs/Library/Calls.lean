import Lisplet.Proofs.Evaluation.Outcome
import Lisplet.Proofs.Library.Definitions

namespace Lisplet

/-! Calls of what the library defines. They are made where enough of the library is in place, and
they can be relied on there as far as the functions that they are given can be. -/

namespace Evaluator

/-- A class of states that making frames does not lead out of. -/
structure Setting where
  Holds : State → Prop
  aside : ∀ {state : State}, Holds state → ∀ frame, Holds (state.aside [frame])

namespace Setting

structure Reaches (setting : Setting) (state after : State) : Prop where
  preserves : state.store.Preserves after.store
  holds : setting.Holds after

/-- The states in which a store is as it was, apart from what has been added. -/
def preserving (store : Store) : Setting where
  Holds state := store.Preserves state.store
  aside h frame := h.trans (State.preserves_aside _ [frame])

/-- The states in which no binding has changed and no closure has been made or named since. -/
def still (state : State) : Setting where
  Holds later := state.store.Preserves later.store ∧ later.names = state.names
  aside h frame := ⟨h.1.trans (State.preserves_aside _ [frame]), h.2⟩

def keeping (setting : Setting) (store : Store) : Setting where
  Holds state := setting.Holds state ∧ store.Preserves state.store
  aside h frame := ⟨setting.aside h.1 frame, h.2.trans (State.preserves_aside _ [frame])⟩

variable {setting : Setting} {state middle after : State}

theorem Reaches.refl (h : setting.Holds state) : setting.Reaches state state :=
  ⟨.refl _, h⟩

theorem Reaches.trans (hfirst : setting.Reaches state middle)
    (hlast : setting.Reaches middle after) : setting.Reaches state after :=
  ⟨hfirst.preserves.trans hlast.preserves, hlast.holds⟩

theorem reaches_aside (h : setting.Holds state) (frame : Frame) :
    setting.Reaches state (state.aside [frame]) :=
  ⟨state.preserves_aside [frame], setting.aside h frame⟩

variable [RegexEngine]

/-- Wherever the setting holds, the call gives the value and stays within the setting. -/
def Reliable (setting : Setting) (callable : Value) (arguments : List Value) (value : Value) :
    Prop :=
  ∀ state, setting.Holds state →
    ∃ after, Answers callable arguments state value after ∧ setting.Reaches state after

/-- Wherever the setting holds, the call comes to the outcome, and stays within the setting if that
is a value. -/
def Settles (setting : Setting) (callable : Value) (arguments : List Value)
    (outcome : Except Error Value) : Prop :=
  ∀ state, setting.Holds state →
    Eval.Settles (fun fuel => applyAt fuel callable arguments) state outcome (setting.Reaches state)

theorem Reliable.keeping {callable : Value} {arguments : List Value} {value : Value}
    (h : setting.Reliable callable arguments value) (store : Store) :
    (setting.keeping store).Reliable callable arguments value := by
  intro state hstate
  obtain ⟨after, hanswers, hreaches⟩ := h state hstate.1
  exact ⟨after, hanswers, hreaches.preserves, hreaches.holds, hstate.2.trans hreaches.preserves⟩

theorem reliable_primitive (setting : Setting) {primitive : Primitive} {arguments : List Value}
    {value : Value}
    (h : ∀ inner state, runPrimitive inner primitive arguments state = .ok value state) :
    setting.Reliable (.primitive primitive) arguments value :=
  fun state hstate => ⟨state, answers_primitive fun inner => h inner state, .refl hstate⟩

end Setting

end Evaluator

namespace Library

open Evaluator

theorem namesForm?_described {definition : Definition} (h : definition ∈ described) :
    namesForm? (.symbol definition.name) = none := by
  revert definition
  decide

variable [RegexEngine]

/-- Here the special forms are bound, to whatever it may be, and the names stand for what they stand
for before a program runs. -/
structure Offers (state : State) (environment : Environment) (forms : List SpecialForm)
    (names : List Symbol) : Prop where
  within : ∀ index ∈ environment.locals, index < state.store.locals.size
  bound : ∀ form ∈ forms, (state.store.get? environment form.symbol).isSome = true
  resolves : Resolves state environment names

structure Inside (frame : Frame) (state : State) (environment : Environment)
    (forms : List SpecialForm) (names : List Symbol) : Prop
    extends Offers state environment forms names where
  sees : ∀ {key value}, frame.get? key = some value →
    state.store.get? environment key = some value

variable {forms : List SpecialForm} {names : List Symbol} {state middle after : State}
  {environment : Environment} {frame : Frame} {value result callable : Value}
  {operands arguments values : List Value} {setting : Setting}

theorem Offers.atTop (hforms : ∀ form ∈ forms, state.store.globals.contains form.symbol = true)
    (hresolves : Resolves state .global names) : Offers state .global forms names :=
  ⟨fun _ hindex => absurd hindex List.not_mem_nil, hforms, hresolves⟩

theorem Resolves.offers {all : List Symbol} (h : Resolves state .global all)
    (hforms : forms.map SpecialForm.symbol ⊆ all) (hnames : names ⊆ all) :
    Offers state .global forms names :=
  .atTop (fun _ hform => h.isSome (hforms (List.mem_map_of_mem hform)))
    fun name hname => h name (hnames hname)

theorem Offers.mono (h : Offers state environment forms names) {fewer : List SpecialForm}
    {some : List Symbol} (hforms : fewer ⊆ forms) (hnames : some ⊆ names) :
    Offers state environment fewer some where
  within := h.within
  bound form hform := h.bound form (hforms hform)
  resolves name hname := h.resolves name (hnames hname)

theorem Offers.of_preserves (h : Offers state environment forms names)
    (hpreserves : state.store.Preserves after.store) : Offers after environment forms names where
  within index hindex := Nat.lt_of_lt_of_le (h.within index hindex) hpreserves.size
  bound form hform := by
    obtain ⟨bound, hbound⟩ := Option.isSome_iff_exists.mp (h.bound form hform)
    rw [hpreserves.get? h.within hbound]
    rfl
  resolves := h.resolves.of_preserves h.within hpreserves

/-- The body of a closure sees what its scope offers, apart from what its parameters hide. -/
theorem Offers.enter (h : Offers state environment forms names) (parameters : Parameters)
    (hnames : ∀ name ∈ forms.map SpecialForm.symbol ++ names, name ∉ parameters.symbols)
    (arguments : List Value) :
    Inside (parameters.frame arguments) (state.aside [parameters.frame arguments])
      (environment.push state.store.locals.size) forms names where
  within := state.within_push _ h.within
  bound form hform := by
    have hname := hnames form.symbol (List.mem_append_left _ (List.mem_map_of_mem hform))
    rw [State.get?_aside _ _ h.within, Parameters.get?_frame_of_not_mem hname, Option.none_or]
    exact h.bound form hform
  resolves := h.resolves.inside h.within
    (fun name hname => hnames name (List.mem_append_right _ hname)) arguments
  sees hbound := by rw [State.get?_aside _ _ h.within, hbound, Option.some_or]

namespace Inside

theorem of_preserves (h : Inside frame state environment forms names)
    (hpreserves : state.store.Preserves after.store) :
    Inside frame after environment forms names where
  toOffers := h.toOffers.of_preserves hpreserves
  sees hbound := hpreserves.get? h.within (h.sees hbound)

theorem gives_var (h : Inside frame state environment forms names) (name : String)
    (hbound : frame.get? ⟨name⟩ = some value) :
    Gives environment (var name) state value state :=
  gives_symbol (h.sees hbound)

theorem gives_first (h : Inside frame state environment forms names)
    (hname : Primitive.first.symbol ∈ names) {operand : Value}
    (hoperand : Gives environment operand state (.ofList values) state) :
    Gives environment (call "first" [operand]) state (values.headD .nil) state := by
  refine gives_primitive .first (h.resolves.primitive .first hname) (givesEach_one hoperand)
    fun _ => ?_
  cases values <;> rfl

theorem gives_rest (h : Inside frame state environment forms names)
    (hname : Primitive.rest.symbol ∈ names) {operand : Value}
    (hoperand : Gives environment operand state (.ofList values) state) :
    Gives environment (call "rest" [operand]) state (.ofList values.tail) state := by
  refine gives_primitive .rest (h.resolves.primitive .rest hname) (givesEach_one hoperand)
    fun _ => ?_
  cases values <;> rfl

theorem gives_empty (h : Inside frame state environment forms names)
    (hname : Primitive.isEmpty.symbol ∈ names) {operand : Value}
    (hoperand : Gives environment operand state (.ofList values) state) :
    Gives environment (call "empty?" [operand]) state (.bool values.isEmpty) state := by
  refine gives_primitive .isEmpty (h.resolves.primitive .isEmpty hname) (givesEach_one hoperand)
    fun inner => ?_
  cases values <;> rfl

theorem settles_if_empty (h : Inside frame state environment forms names)
    (hform : .branch ∈ forms) (hname : Primitive.isEmpty.symbol ∈ names)
    {operand consequence alternative : Value} {outcome : Except Error Value} {ends : State → Prop}
    (hoperand : Gives environment operand state (.ofList values) state)
    (hvalue : Eval.Settles (fun fuel => evalAt fuel environment
      (if values.isEmpty then consequence else alternative)) state outcome ends) :
    Eval.Settles (fun fuel => evalAt fuel environment
      (call "if" [call "empty?" [operand], consequence, alternative])) state outcome ends := by
  refine settles_branch (h.bound .branch hform) (h.gives_empty hname hoperand) ?_
  cases values with
  | nil => exact hvalue
  | cons => exact hvalue

theorem gives_if_empty (h : Inside frame state environment forms names)
    (hform : .branch ∈ forms) (hname : Primitive.isEmpty.symbol ∈ names)
    {operand consequence alternative : Value}
    (hoperand : Gives environment operand state (.ofList values) state)
    (hvalue : Gives environment (if values.isEmpty then consequence else alternative) state
      value after) :
    Gives environment (call "if" [call "empty?" [operand], consequence, alternative]) state
      value after := by
  obtain ⟨_, hgives, rfl⟩ := h.settles_if_empty hform hname hoperand (.of_eventually hvalue rfl)
  exact hgives

end Inside

theorem Definition.gives_call {definition : Definition} (hdescribed : definition ∈ described)
    (hkind : definition.kind = .function) {id : Nat}
    (hbound : state.store.get? environment definition.name = some (definition.closure id))
    (hoperands : GivesEach environment operands state arguments middle)
    (hanswers : Answers (definition.closure id) arguments middle value after) :
    Gives environment (.ofList (.symbol definition.name :: operands)) state value after := by
  have hfunction : (definition.closure id).isFunction = true := by
    rw [closure, hkind]
    rfl
  exact Evaluator.gives_call (namesForm?_described hdescribed) (gives_symbol hbound) hfunction
    hoperands hanswers

theorem Resolves.settles_call_values (h : Resolves state environment names)
    (definition : Definition) (hdescribed : definition ∈ described)
    (hname : definition.name ∈ names) (hkind : definition.kind = .function)
    {outcome : Except Error Value} (hoperands : GivesEach environment operands state arguments middle)
    (hmiddle : setting.Holds middle)
    (hsettles : ∀ id, setting.Settles (definition.closure id) arguments outcome) :
    Eval.Settles (fun fuel => evalAt fuel environment (.ofList (.symbol definition.name :: operands)))
      state outcome (setting.Reaches middle) := by
  obtain ⟨id, hbound⟩ := h.closure hdescribed hname
  have hfunction : (definition.closure id).isFunction = true := by
    rw [Definition.closure, hkind]
    rfl
  exact Evaluator.settles_call_values (namesForm?_described hdescribed) hbound hfunction hoperands
    (hsettles id middle hmiddle)

theorem Resolves.gives_call (h : Resolves state environment names) (definition : Definition)
    (hdescribed : definition ∈ described) (hname : definition.name ∈ names)
    (hkind : definition.kind = .function)
    (hoperands : GivesEach environment operands state arguments middle)
    (hmiddle : setting.Holds middle)
    (hreliable : ∀ id, setting.Reliable (definition.closure id) arguments value) :
    ∃ after, Gives environment (.ofList (.symbol definition.name :: operands)) state value after ∧
      setting.Reaches middle after := by
  have hsettles : ∀ id, setting.Settles (definition.closure id) arguments (.ok value) := hreliable
  exact h.settles_call_values definition hdescribed hname hkind hoperands hmiddle hsettles

theorem Resolves.settles_call (h : Resolves state environment names) (definition : Definition)
    (hdescribed : definition ∈ described) (hname : definition.name ∈ names)
    (hkind : definition.kind = .function) {outcome : Except Error Value}
    {arguments : Value → List Value} {result : Value → Except Error Value}
    (hoperands : Eval.Settles (fun fuel => evalEach (evalAt fuel environment) operands) state
      (outcome.map arguments) (setting.Reaches state))
    (hsettles : ∀ value, outcome = .ok value →
      ∀ id, setting.Settles (definition.closure id) (arguments value) (result value)) :
    Eval.Settles (fun fuel => evalAt fuel environment (.ofList (.symbol definition.name :: operands)))
      state (outcome >>= result) (setting.Reaches state) := by
  obtain ⟨id, hbound⟩ := h.closure hdescribed hname
  have hfunction : (definition.closure id).isFunction = true := by
    rw [Definition.closure, hkind]
    rfl
  refine Evaluator.settles_call (namesForm?_described hdescribed) hbound hfunction hoperands
    fun value middle hvalue hmiddle => ?_
  exact (hsettles value hvalue id middle hmiddle.holds).mono fun _ hafter => hmiddle.trans hafter

theorem settles_of_inside {kind : ClosureKind} (parameters : Parameters) {expression : Value}
    {scope : Environment} {outcome : Except Error Value}
    (harity : parameters.arity.Admits arguments.length)
    (hnames : ∀ name ∈ forms.map SpecialForm.symbol ++ names, name ∉ parameters.symbols)
    (hoffers : ∀ state, setting.Holds state → Offers state scope forms names)
    (hvalue : ∀ {state environment}, setting.Holds state →
      Inside (parameters.frame arguments) state environment forms names →
        Eval.Settles (fun fuel => evalAt fuel environment expression) state outcome
          (setting.Reaches state))
    (id : Nat) :
    setting.Settles (.closure id kind parameters (.ofList [expression]) scope) arguments
      outcome := by
  intro state hstate
  have hentered := setting.reaches_aside hstate (parameters.frame arguments)
  have hinside := hvalue hentered.holds ((hoffers state hstate).enter parameters hnames arguments)
  exact settles_closure harity (hinside.mono fun _ hafter => hentered.trans hafter)

/-- What a closure made at the top level comes to in one state, where its body is evaluated behind a
new frame. -/
theorem settles_entered {kind : ClosureKind} (parameters : Parameters) (arguments : List Value)
    {expression : Value} {outcome : Except Error Value}
    (harity : parameters.arity.Admits arguments.length)
    (hnames : ∀ name ∈ forms.map SpecialForm.symbol ++ names, name ∉ parameters.symbols)
    (hoffers : Offers state .global forms names)
    (hvalue : ∀ environment,
      Inside (parameters.frame arguments) (state.aside [parameters.frame arguments]) environment
        forms names →
      Offers (state.aside [parameters.frame arguments]) .global forms names →
        Eval.Settles (fun fuel => evalAt fuel environment expression)
          (state.aside [parameters.frame arguments]) outcome
          fun after => (state.aside [parameters.frame arguments]).store.Preserves after.store)
    (id : Nat) :
    Eval.Settles
      (fun fuel => applyAt fuel (.closure id kind parameters (.ofList [expression]) .global)
        arguments)
      state outcome fun after => state.store.Preserves after.store := by
  have hpreserves := state.preserves_aside [parameters.frame arguments]
  have hentered := hvalue _ (hoffers.enter parameters hnames arguments)
    (hoffers.of_preserves hpreserves)
  exact settles_closure harity (hentered.mono fun _ hafter => hpreserves.trans hafter)

theorem reliable_of_inside {kind : ClosureKind} (parameters : Parameters) {expression : Value}
    {scope : Environment} (harity : parameters.arity.Admits arguments.length)
    (hnames : ∀ name ∈ forms.map SpecialForm.symbol ++ names, name ∉ parameters.symbols)
    (hoffers : ∀ state, setting.Holds state → Offers state scope forms names)
    (hvalue : ∀ {state environment}, setting.Holds state →
      Inside (parameters.frame arguments) state environment forms names →
        ∃ after, Gives environment expression state value after ∧ setting.Reaches state after)
    (id : Nat) :
    setting.Reliable (.closure id kind parameters (.ofList [expression]) scope) arguments
      value := by
  have hsettles : setting.Settles (.closure id kind parameters (.ofList [expression]) scope)
      arguments (.ok value) := settles_of_inside parameters harity hnames hoffers hvalue id
  exact hsettles

theorem second_answers (hoffers : Offers state .global [] [⟨"first"⟩, ⟨"rest"⟩]) (id : Nat)
    (values : List Value) :
    Answers (second.closure id) [.ofList values] state (values.tail.headD .nil)
      (state.aside [second.parameters.frame [.ofList values]]) := by
  have hinside := hoffers.enter second.parameters (by decide) [.ofList values]
  refine answers_closure (Arity.admits_exactly.mpr rfl) ?_
  exact hinside.gives_first (by decide)
    (hinside.gives_rest (by decide) (hinside.gives_var "l" rfl))

end Library

end Lisplet
