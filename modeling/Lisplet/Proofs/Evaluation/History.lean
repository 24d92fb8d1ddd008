import Lisplet.Proofs.Evaluation.Growth

namespace Lisplet

namespace Value

/-! The closures in a value, at any depth. -/

def closures : Value → List Closure
  | cons first rest => first.closures ++ rest.closures
  | closure id kind parameters body scope => ⟨id, kind, parameters, body, scope⟩ :: body.closures
  | _ => []

end Value

def Error.values : Error → List Value
  | parameterNotSymbol value | parametersNotList value | spliceNotList value
  | expectedList _ value | notCallable value | targetNotSymbol _ value
  | badOperationName value => [value]
  | _ => []

def Halt.values : Halt → List Value
  | .error failure => failure.values
  | .outOfFuel => []

/-- What has been made so far: for each local frame the environment it was put on, and each closure
in the place of its id. -/
structure History where
  parents : List Environment
  closures : List Closure

namespace History

variable {history later : History}

/-- Each frame lies on the rest of the chain, and was made after all of it. -/
def Links (history : History) : List Nat → Prop
  | [] => True
  | frame :: rest =>
      history.parents[frame]? = some ⟨rest⟩ ∧ (∀ other ∈ rest, other < frame) ∧ history.Links rest

def Holds (history : History) (closure : Closure) : Prop :=
  history.closures[closure.id]? = some closure ∧ history.Links closure.scope.locals

def Knows (history : History) (value : Value) : Prop :=
  ∀ closure ∈ value.closures, history.Holds closure

def KnowsAll (history : History) (values : List Value) : Prop :=
  ∀ value ∈ values, history.Knows value

/-- The result fits what is known, or is a failure that shows nothing else. -/
def Shows (history : History) (Fits : History → α → Prop) : Except Error α → Prop
  | .ok value => Fits history value
  | .error error => history.KnowsAll error.values

structure Precedes (history later : History) : Prop where
  parents : history.parents <+: later.parents
  closures : history.closures <+: later.closures

theorem Precedes.refl (history : History) : history.Precedes history :=
  ⟨List.prefix_refl _, List.prefix_refl _⟩

theorem Precedes.trans {first second third : History} (hfirst : first.Precedes second)
    (hsecond : second.Precedes third) : first.Precedes third :=
  ⟨hfirst.parents.trans hsecond.parents, hfirst.closures.trans hsecond.closures⟩

private theorem getElem?_later {items others : List α} (h : items <+: others) {index : Nat}
    {item : α} (hitem : items[index]? = some item) : others[index]? = some item := by
  obtain ⟨hindex, rfl⟩ := List.getElem?_eq_some_iff.mp hitem
  exact List.prefix_iff_getElem?.mp h index hindex

theorem Links.mono (h : history.Precedes later) {locals : List Nat}
    (hlocals : history.Links locals) : later.Links locals := by
  induction locals with
  | nil => trivial
  | cons frame rest ih =>
      obtain ⟨hparent, hearlier, hrest⟩ := hlocals
      exact ⟨getElem?_later h.parents hparent, hearlier, ih hrest⟩

theorem Holds.mono (h : history.Precedes later) {closure : Closure}
    (hclosure : history.Holds closure) : later.Holds closure :=
  ⟨getElem?_later h.closures hclosure.1, hclosure.2.mono h⟩

theorem Holds.eq_of_id {closure other : Closure} (h : history.Holds closure)
    (hother : history.Holds other) (hid : closure.id = other.id) : closure = other := by
  have hsame := h.1
  rw [hid, hother.1] at hsame
  exact (Option.some.inj hsame).symm

theorem Knows.mono (h : history.Precedes later) {value : Value} (hvalue : history.Knows value) :
    later.Knows value :=
  fun closure hclosure => (hvalue closure hclosure).mono h

theorem KnowsAll.mono (h : history.Precedes later) {values : List Value}
    (hvalues : history.KnowsAll values) : later.KnowsAll values :=
  fun value hvalue => (hvalues value hvalue).mono h

theorem Links.lt {locals : List Nat} (h : history.Links locals) :
    ∀ index ∈ locals, index < history.parents.length := by
  induction locals with
  | nil => simp
  | cons frame rest ih =>
      intro index hindex
      rcases List.mem_cons.mp hindex with rfl | hrest
      · exact (List.getElem?_eq_some_iff.mp h.1).1
      · exact ih h.2.2 index hrest

theorem Links.of_suffix {locals outer : List Nat} (h : history.Links locals)
    (hsuffix : outer <:+ locals) : history.Links outer := by
  induction locals with
  | nil =>
      rw [List.suffix_nil.mp hsuffix]
      trivial
  | cons frame rest ih =>
      rcases List.suffix_cons_iff.mp hsuffix with rfl | hrest
      · exact h
      · exact ih h.2.2 hrest

theorem knows_of_closures_eq_nil {value : Value} (h : value.closures = []) :
    history.Knows value := by
  intro closure hclosure
  rw [h] at hclosure
  cases hclosure

theorem knows_cons {first rest : Value} :
    history.Knows (.cons first rest) ↔ history.Knows first ∧ history.Knows rest := by
  simp only [Knows, Value.closures, List.mem_append, or_imp, forall_and]

theorem knows_closure {id : Nat} {kind : ClosureKind} {parameters : Parameters} {body : Value}
    {scope : Environment} :
    history.Knows (.closure id kind parameters body scope) ↔
      history.Holds ⟨id, kind, parameters, body, scope⟩ ∧ history.Knows body := by
  simp only [Knows, Value.closures, List.mem_cons, forall_eq_or_imp]

theorem knowsAll_nil : history.KnowsAll [] := by
  simp [KnowsAll]

theorem knowsAll_cons {value : Value} {values : List Value} :
    history.KnowsAll (value :: values) ↔ history.Knows value ∧ history.KnowsAll values := by
  simp [KnowsAll]

theorem knowsAll_singleton {value : Value} : history.KnowsAll [value] ↔ history.Knows value := by
  simp [KnowsAll]

theorem knowsAll_append {front back : List Value} :
    history.KnowsAll (front ++ back) ↔ history.KnowsAll front ∧ history.KnowsAll back := by
  simp only [KnowsAll, List.mem_append, or_imp, forall_and]

theorem knows_ofDotted {items : List Value} {tail : Value} :
    history.Knows (.ofDotted items tail) ↔ history.KnowsAll items ∧ history.Knows tail := by
  induction items with
  | nil => simp [knowsAll_nil]
  | cons first items ih => rw [Value.ofDotted_cons, knows_cons, ih, knowsAll_cons, and_assoc]

theorem knows_ofList {items : List Value} :
    history.Knows (.ofList items) ↔ history.KnowsAll items := by
  rw [Value.ofList, knows_ofDotted]
  exact and_iff_left (knows_of_closures_eq_nil rfl)

theorem knowsAll_items {value : Value} (h : history.Knows value) :
    history.KnowsAll value.items := by
  rw [← Value.ofDotted_items_tail value] at h
  exact (knows_ofDotted.mp h).1

theorem knowsAll_toList? {value : Value} {items : List Value} (h : history.Knows value)
    (hitems : value.toList? = some items) : history.KnowsAll items := by
  rw [Value.toList?_eq_some_iff.mp hitems] at h
  exact knows_ofList.mp h

theorem knows_first? {value first : Value} (h : history.Knows value)
    (hfirst : value.first? = some first) : history.Knows first := by
  cases value with
  | emptyList =>
      cases hfirst
      exact knows_of_closures_eq_nil rfl
  | cons front rest =>
      cases hfirst
      exact (knows_cons.mp h).1
  | _ => cases hfirst

theorem knows_rest? {value rest : Value} (h : history.Knows value)
    (hrest : value.rest? = some rest) : history.Knows rest := by
  cases value with
  | emptyList =>
      cases hrest
      exact h
  | cons first back =>
      cases hrest
      exact (knows_cons.mp h).2
  | _ => cases hrest

end History

namespace ClosureNames

theorem lt_next_of_get? {names : ClosureNames} {id : Nat} {name : Symbol}
    (h : names.get? id = some name) : id < names.next := by
  have hslot := Option.join_eq_some_iff.mp h
  exact (Array.getElem?_eq_some_iff.mp hslot).1

theorem get?_push (names : ClosureNames) (id : Nat) : names.push.get? id = names.get? id := by
  simp only [get?, push, Array.getElem?_push]
  split
  · rename_i h
    rw [h, Array.getElem?_size]
    rfl
  · rfl

theorem next_assign (names : ClosureNames) (id : Nat) (name : Symbol) :
    (names.assign id name).next = names.next := by
  rw [assign]
  split
  · rfl
  · simp [next]

theorem get?_assign (names : ClosureNames) {id : Nat} (hid : id < names.next) (other : Nat)
    (name : Symbol) :
    (names.assign other name).get? id =
      (names.get? id).or (if other = id then some name else none) := by
  by_cases h : other = id
  · subst h
    rw [if_pos rfl, assign]
    cases hname : names.get? other with
    | some old => exact hname
    | none =>
        rw [get?, Array.getElem?_setIfInBounds_self_of_lt hid]
        rfl
  · rw [if_neg h, Option.or_none, assign]
    split
    · rfl
    · rw [get?, get?, Array.getElem?_setIfInBounds_ne h]

end ClosureNames

/-! States that come about in the course of a history. -/

def State.values (state : State) : List Value :=
  state.store.values ++ state.stack

structure State.Follows (history : History) (state : State) : Prop where
  frames : history.parents.length = state.store.locals.size
  closures : history.closures.length = state.names.next
  values : history.KnowsAll state.values

namespace Eval

/-- Started in the course of the history, the computation goes on with it. What it returns fits what
is known then, and a failure shows nothing else. -/
def Continues (history : History) (computation : Eval α) (Fits : History → α → Prop) : Prop :=
  ∀ state : State, state.Follows history →
    ∃ later, history.Precedes later ∧ (final computation state).Follows later ∧
      match computation state with
      | .ok value _ => Fits later value
      | .error halt _ => later.KnowsAll halt.values

namespace Continues

variable {history : History} {Fits : History → α → Prop}

theorem pure {value : α} (h : Fits history value) :
    Continues history (Pure.pure value) Fits :=
  fun _ hstate => ⟨history, .refl history, hstate, h⟩

theorem throw {halt : Halt} (h : history.KnowsAll halt.values) :
    Continues history (throw halt : Eval α) Fits :=
  fun _ hstate => ⟨history, .refl history, hstate, h⟩

theorem fail {error : Error} (h : history.KnowsAll error.values) :
    Continues history (Eval.fail error : Eval α) Fits :=
  throw h

theorem bind {first : Eval α} {next : α → Eval β} {Goal : History → β → Prop}
    (hfirst : Continues history first Fits)
    (hnext : ∀ later value, history.Precedes later → Fits later value →
      Continues later (next value) Goal) :
    Continues history (first >>= next) Goal := by
  intro state hstate
  obtain ⟨middle, hmiddle, hafter, hfits⟩ := hfirst state hstate
  cases hrun : first state with
  | error halt after =>
      rw [final_error hrun] at hafter
      rw [hrun] at hfits
      refine ⟨middle, hmiddle, ?_, ?_⟩
      · rw [final_error (bind_error hrun)]
        exact hafter
      · rw [bind_error hrun]
        exact hfits
  | ok value after =>
      rw [final_ok hrun] at hafter
      rw [hrun] at hfits
      obtain ⟨later, hlater, hend, hgoal⟩ := hnext middle value hmiddle hfits after hafter
      refine ⟨later, hmiddle.trans hlater, ?_, ?_⟩
      · rw [final, bind_ok hrun]
        exact hend
      · rw [bind_ok hrun]
        exact hgoal

theorem get {next : State → Eval α}
    (hnext : ∀ state, state.Follows history → Continues history (next state) Fits) :
    Continues history (MonadState.get >>= next) Fits :=
  fun state hstate => hnext state hstate state hstate

theorem modifyGet {change : State → α × State}
    (hframes : ∀ state, (change state).2.store.locals.size = state.store.locals.size)
    (hnames : ∀ state, (change state).2.names.next = state.names.next)
    (hvalues : ∀ state, state.Follows history → history.KnowsAll (change state).2.values)
    (hfits : ∀ state, state.Follows history → Fits history (change state).1) :
    Continues history (modifyGet change : Eval α) Fits := by
  intro state hstate
  refine ⟨history, .refl history, ⟨?_, ?_, hvalues state hstate⟩, hfits state hstate⟩
  · exact hstate.frames.trans (hframes state).symm
  · exact hstate.closures.trans (hnames state).symm

theorem ofOption {error : Error} {option : Option α} (herror : history.KnowsAll error.values)
    (h : ∀ value, option = some value → Fits history value) :
    Continues history (Eval.ofOption error option) Fits := by
  cases option with
  | none => exact fail herror
  | some value => exact pure (h value rfl)

theorem ofExcept {result : Except Error α} (h : history.Shows Fits result) :
    Continues history (Eval.ofExcept result) Fits := by
  cases result with
  | error error => exact fail h
  | ok value => exact pure h

theorem checkArity (name : String) (arity : Arity) (count : Nat) :
    Continues history (Eval.checkArity name arity count) fun _ _ => True := by
  unfold Eval.checkArity
  split
  · exact pure trivial
  · exact fail History.knowsAll_nil

theorem lookup (environment : Environment) (key : Symbol) :
    Continues history (Eval.lookup environment key) History.Knows := by
  refine get fun state hstate => ofOption History.knowsAll_nil fun value hvalue => ?_
  exact hstate.values value (List.mem_append_left _ (Store.mem_values_of_get? hvalue))

theorem modify {change : State → State} (hstore : ∀ state, (change state).store = state.store)
    (hnames : ∀ state, (change state).names = state.names)
    (hstack : ∀ state, (change state).stack = state.stack) :
    Continues history (MonadState.modifyGet fun state => (⟨⟩, change state) : Eval PUnit)
      fun _ _ => True := by
  refine modifyGet (fun state => ?_) (fun state => ?_) (fun state hstate => ?_) fun _ _ => trivial
  · rw [hstore]
  · rw [hnames]
  · rw [State.values, hstore, hstack]
    exact hstate.values

theorem print (text : String) : Continues history (Eval.print text) fun _ _ => True :=
  modify (fun _ => rfl) (fun _ => rfl) fun _ => rfl

theorem intern (symbols : List Symbol) :
    Continues history (Eval.intern symbols) fun _ _ => True :=
  modify (fun _ => rfl) (fun _ => rfl) fun _ => rfl

theorem applying {head : Value} {body : Eval Value} (hhead : history.Knows head)
    (hbody : Continues history body History.Knows) :
    Continues history (Eval.applying head body) History.Knows := by
  have hpush : Continues history (push head) fun later _ => later = history := by
    refine modifyGet (fun _ => rfl) (fun _ => rfl) (fun state hstate => ?_) fun _ _ => rfl
    have hparts := History.knowsAll_append.mp hstate.values
    exact History.knowsAll_append.mpr ⟨hparts.1, History.knowsAll_cons.mpr ⟨hhead, hparts.2⟩⟩
  have hpop : ∀ history : History, Continues history pop fun later _ => later = history := by
    intro history
    refine modifyGet (fun _ => rfl) (fun _ => rfl) (fun state hstate => ?_) fun _ _ => rfl
    have hparts := History.knowsAll_append.mp hstate.values
    exact History.knowsAll_append.mpr
      ⟨hparts.1, fun value hvalue => hparts.2 value (List.mem_of_mem_tail hvalue)⟩
  refine bind hpush fun _ _ _ heq => ?_
  subst heq
  refine bind hbody fun later value _ hvalue => ?_
  refine bind (hpop later) fun _ _ _ heq => ?_
  subst heq
  exact pure hvalue

theorem knowsAll_bind {state : State} (hstate : state.Follows history) {owner : Owner}
    {key : Symbol} {value : Value} (hvalue : history.Knows value) :
    history.KnowsAll ((state.store.bind owner key value).values ++ state.stack) := by
  have hparts := History.knowsAll_append.mp hstate.values
  refine History.knowsAll_append.mpr ⟨fun other hother => ?_, hparts.2⟩
  rcases Store.mem_values_bind hother with rfl | hold
  · exact hvalue
  · exact hparts.1 other hold

theorem define (key : Symbol) {value : Value} (hvalue : history.Knows value) :
    Continues history (Eval.define key value) fun _ _ => True :=
  modifyGet (fun _ => rfl) (fun _ => rfl) (fun _ hstate => knowsAll_bind hstate hvalue)
    fun _ _ => trivial

theorem assign (environment : Environment) (key : Symbol) {value : Value}
    (hvalue : history.Knows value) :
    Continues history (Eval.assign environment key value) fun _ _ => True := by
  refine @bind _ history (fun _ _ => True) _ _ _ _ (modifyGet ?_ ?_ ?_ fun _ _ => trivial)
    fun later assigned _ _ => ?_
  · intro state
    split
    · exact Store.size_bind _ _ _ _
    · rfl
  · intro state
    split <;> rfl
  · intro state hstate
    split
    · exact knowsAll_bind hstate hvalue
    · exact hstate.values
  · cases assigned with
    | true => exact pure trivial
    | false => exact fail History.knowsAll_nil

theorem nameClosure (name : Symbol) (value : Value) :
    Continues history (Eval.nameClosure name value) fun _ _ => True := by
  cases value with
  | closure id kind parameters body scope =>
      refine modifyGet (fun _ => rfl) (fun state => ?_) (fun _ hstate => hstate.values)
        fun _ _ => trivial
      exact ClosureNames.next_assign _ _ _
  | _ => exact pure trivial

theorem extend {environment : Environment} {frame : Frame}
    (henvironment : history.Links environment.locals) (hframe : history.KnowsAll frame.values) :
    Continues history (Eval.extend environment frame) fun later extended =>
      later.Links extended.locals := by
  intro state hstate
  have hprecedes : history.Precedes ⟨history.parents ++ [environment], history.closures⟩ :=
    ⟨List.prefix_append _ _, List.prefix_refl _⟩
  refine ⟨_, hprecedes, ⟨?_, hstate.closures, ?_⟩, ?_, fun other hother => ?_,
    henvironment.mono hprecedes⟩
  · change (history.parents ++ [environment]).length = (state.store.locals.push frame).size
    simp [hstate.frames]
  · refine History.KnowsAll.mono hprecedes ?_
    have hparts := History.knowsAll_append.mp hstate.values
    refine History.knowsAll_append.mpr ⟨fun value hvalue => ?_, hparts.2⟩
    rcases Store.mem_values_extend environment hvalue with hnew | hold
    · exact hframe value hnew
    · exact hparts.1 value hold
  · rw [← hstate.frames]
    simp
  · rw [← hstate.frames]
    exact henvironment.lt other hother

theorem newClosure (kind : ClosureKind) (parameters : Parameters) {body : Value}
    {scope : Environment} (hbody : history.Knows body) (hscope : history.Links scope.locals) :
    Continues history (Eval.newClosure kind parameters body scope) History.Knows := by
  intro state hstate
  have hprecedes : history.Precedes ⟨history.parents,
      history.closures ++ [⟨state.names.next, kind, parameters, body, scope⟩]⟩ :=
    ⟨List.prefix_refl _, List.prefix_append _ _⟩
  refine ⟨_, hprecedes, ⟨hstate.frames, ?_, hstate.values.mono hprecedes⟩, ?_⟩
  · change _ = (state.names.names.push none).size
    simp [hstate.closures, ClosureNames.next]
  · refine History.knows_closure.mpr ⟨⟨?_, hscope.mono hprecedes⟩, hbody.mono hprecedes⟩
    rw [← hstate.closures]
    simp

end Continues

end Eval

end Lisplet
