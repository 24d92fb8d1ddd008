import Lisplet.Proofs.Evaluation.Filling
import Lisplet.Proofs.Library.Calls

namespace Lisplet

/-! Evaluating a definition binds its name to the closure that it describes. -/

namespace Library

open Evaluator Template

variable {state : State} {environment : Environment}

variable [RegexEngine]

theorem gives_definingTemplate (kind : ClosureKind) {frame : Frame} {forms : List SpecialForm}
    {names : List Symbol} {name list : Value} {body : List Value}
    (hinside : Inside frame state environment forms names) (hform : .quasiquote ∈ forms)
    (hname : frame.get? ⟨"name"⟩ = some name) (hlist : frame.get? ⟨"params"⟩ = some list)
    (hbody : frame.get? ⟨"body"⟩ = some (.ofList body)) :
    Gives environment (definingTemplate kind) state
      (.ofList [.symbol SpecialForm.define.symbol, name,
        .ofList (.symbol (makes kind).symbol :: list :: body)])
      state := by
  have hmade : FillsEach environment [.symbol (makes kind).symbol, call "unquote" [var "params"],
      call "unquote-splicing" [var "body"]] state (.symbol (makes kind).symbol :: list :: body)
      state :=
    .cons (fills_atom rfl) (.cons (fills_unquote (hinside.gives_var "params" hlist))
      (.last (fills_splice (hinside.gives_var "body" hbody))))
  refine gives_template (hinside.bound .quasiquote hform) rfl (fills_list rfl ?_)
  exact .cons (fills_atom rfl) (.cons (fills_unquote (hinside.gives_var "name" hname))
    (.last (fills_list (by cases kind <;> rfl) hmade)))

theorem defining_answers {forms : List SpecialForm} (hoffers : Offers state .global forms [])
    (hform : .quasiquote ∈ forms) (kind : ClosureKind) (id : Nat) (name list : Value)
    (body : List Value) :
    Answers ((defining kind).closure id) (name :: list :: body) state
      (.ofList [.symbol SpecialForm.define.symbol, name,
        .ofList (.symbol (makes kind).symbol :: list :: body)])
      (state.aside [(defining kind).parameters.frame (name :: list :: body)]) := by
  have hneeded : Offers state .global [.quasiquote] [] :=
    hoffers.mono (by simpa using hform) (by simp)
  refine answers_closure (Arity.admits_atLeast.mpr (Nat.le_add_left 2 _)) ?_
  exact gives_definingTemplate kind
    (hneeded.enter (defining kind).parameters (by cases kind <;> decide) (name :: list :: body))
    (by decide) rfl rfl rfl

namespace Definition

def install (definition : Definition) (state : State) : State :=
  { state with
    names := state.names.push.assign state.names.next definition.name
    store := state.store.define definition.name (definition.closure state.names.next) }

def forms : List SpecialForm :=
  [.quasiquote, .define, .function, .expander]

structure Sound (definition : Definition) : Prop where
  accepted : Parameters.ofValue definition.parameterList = .ok definition.parameters
  body : ∃ first rest, definition.body = .ofList (first :: rest)

variable {definition : Definition}

omit [RegexEngine] in
theorem sound_of_ofParts? {kind : ClosureKind} {name : Symbol} {parameters body : Value}
    (h : ofParts? kind name parameters body = some definition) : definition.Sound := by
  rw [ofParts?] at h
  split at h
  · rename_i accepted first rest hparameters hbody
    cases h
    exact ⟨Parameters.ofValue_symbols hparameters, _, _, Value.toList?_eq_some_iff.mp hbody⟩
  · cases h

omit [RegexEngine] in
theorem sound_of_ofForm? {form : Value} (h : ofForm? form = some definition) :
    definition.Sound := by
  unfold ofForm? at h
  split at h
  · split at h
    · exact sound_of_ofParts? h
    · split at h
      · exact sound_of_ofParts? h
      · split at h
        · exact sound_of_ofParts? h
        · cases h
  · cases h

theorem sound_of_mem {text : List Char} (h : definition ∈ definitionsOf text) :
    definition.Sound := by
  obtain ⟨form, _, hform⟩ := List.mem_filterMap.mp h
  exact sound_of_ofForm? hform

theorem gives_expanded (h : definition.Sound) {names : List Symbol}
    (hoffers : Offers state .global forms names) :
    Gives .global definition.expanded state (definition.closure state.names.next)
      (definition.install state) := by
  obtain ⟨first, rest, hbody⟩ := h.body
  have hmaker : makes definition.kind ∈ forms := by cases definition.kind <;> decide
  have hmade : Gives .global (.cons (.symbol (makes definition.kind).symbol)
      (.cons definition.parameterList definition.body)) state (definition.closure state.names.next)
        { state with names := state.names.push } := by
    rw [closure, hbody]
    exact gives_closure definition.kind (hoffers.bound _ hmaker) h.accepted
  exact gives_define definition.name (hoffers.bound .define (by decide)) hmade

def frame (definition : Definition) : Frame :=
  (defining definition.kind).parameters.frame
    (.symbol definition.name :: definition.parameterList :: definition.body.items)

theorem gives_form (h : definition.Sound)
    (hoffers : Offers state .global forms [definer definition.kind]) :
    Gives .global definition.form state (definition.closure state.names.next)
      (definition.install (state.aside [definition.frame])) := by
  obtain ⟨first, rest, hbody⟩ := h.body
  have hdescribed : defining definition.kind ∈ described := by
    cases definition.kind <;> simp [described]
  obtain ⟨id, hbound⟩ := hoffers.resolves.closure hdescribed List.mem_cons_self
  have hexpansion := defining_answers (hoffers.mono (List.Subset.refl _) (List.nil_subset _))
    (by decide) definition.kind id (.symbol definition.name) definition.parameterList
    definition.body.items
  have hvalue := gives_expanded h (hoffers.of_preserves (state.preserves_aside [definition.frame]))
  have hitems : definition.body = .ofList definition.body.items := by
    rw [hbody, Value.items_ofList]
  rw [expanded, hitems] at hvalue
  rw [form, hitems]
  exact Evaluator.gives_expanded (namesForm?_described hdescribed) (gives_symbol hbound) hexpansion
    hvalue

end Definition

end Library

end Lisplet
