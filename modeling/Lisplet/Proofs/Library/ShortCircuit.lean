import Lisplet.Proofs.Evaluation.Together
import Lisplet.Proofs.Library.Bootstrap
import Lisplet.Regex.PatternEngine

namespace Lisplet.Library

/-! What `and` and `cond` evaluate, and in which order. Each step expands the rest of the form. -/

open Eval Evaluator Template

def andFrames (operands : List Value) : List Frame :=
  [and.parameters.frame operands]

def condFrames : List Value → List Frame
  | [] => [cond.parameters.frame []]
  | test :: rest =>
      [cond.parameters.frame (test :: rest), second.parameters.frame [.ofList (test :: rest)]]

/-- Up to the first value that is falsy, or to the last one. -/
def conjunction (eval : Value → Eval Value) : List Value → Eval Value
  | [] => do
      setAside (andFrames [])
      return .bool true
  | [operand] => do
      setAside (andFrames [operand])
      eval operand
  | operand :: next :: rest => do
      setAside (andFrames (operand :: next :: rest))
      if (← eval operand).truthy then conjunction eval (next :: rest) else return .bool false

/-- What stands behind the first test that is truthy. -/
def selection (eval : Value → Eval Value) : List Value → Eval Value
  | [] => do
      setAside (condFrames [])
      return .nil
  | [test] => do
      setAside (condFrames [test])
      if (← eval test).truthy then return .nil else selection eval []
  | test :: consequence :: rest => do
      setAside (condFrames (test :: consequence :: rest))
      if (← eval test).truthy then eval consequence else selection eval rest

/-! Where the names stand for what they stand for before a program runs. -/

section

variable [RegexEngine]

structure Available (environment : Environment) (state : State) : Prop where
  here : Offers state environment [.branch] [⟨"and"⟩, ⟨"cond"⟩]
  atTop : Offers state .global [.branch, .quasiquote]
    [⟨"empty?"⟩, ⟨"first"⟩, ⟨"second"⟩, ⟨"rest"⟩]

inductive AndLasts (environment : Environment) : List Value → State → Prop
  | none {state : State} : Available environment state → AndLasts environment [] state
  | last {operand : Value} {state : State} :
      Available environment state → AndLasts environment [operand] state
  | more {operand next : Value} {rest : List Value} {state : State} :
      Available environment state →
      (∀ value after,
        Gives environment operand (state.aside (andFrames (operand :: next :: rest))) value after →
          value.truthy = true → AndLasts environment (next :: rest) after) →
        AndLasts environment (operand :: next :: rest) state

inductive CondLasts (environment : Environment) : List Value → State → Prop
  | none {state : State} : Available environment state → CondLasts environment [] state
  | more {test : Value} {rest : List Value} {state : State} :
      Available environment state →
      (∀ value after, Gives environment test (state.aside (condFrames (test :: rest))) value after →
        value.truthy = false → CondLasts environment rest.tail after) →
        CondLasts environment (test :: rest) state

def andExpansion : List Value → Value
  | [] => .bool true
  | [operand] => operand
  | operand :: next :: rest =>
      .ofList [.symbol SpecialForm.branch.symbol, operand,
        .ofList (.symbol and.name :: next :: rest), .bool false]

def condExpansion : List Value → Value
  | [] => .nil
  | test :: rest =>
      .ofList [.symbol SpecialForm.branch.symbol, test, rest.headD .nil,
        .ofList (.symbol cond.name :: rest.tail)]

variable {environment : Environment} {state : State}

theorem and_answers (h : Available environment state) (id : Nat) (operands : List Value) :
    Answers (and.closure id) operands state (andExpansion operands)
      (state.aside (andFrames operands)) := by
  have hinside := h.atTop.enter and.parameters (by decide) operands
  have hvar : Gives _ (var "xs") _ (.ofList operands) _ := hinside.gives_var "xs" rfl
  have hrest := hinside.gives_rest (by decide) hvar
  have hfirst := hinside.gives_first (by decide) hvar
  refine answers_closure (Arity.admits_atLeast.mpr (Nat.zero_le _)) ?_
  refine hinside.gives_if_empty (by decide) (by decide) hvar ?_
  match operands with
  | [] => exact gives_constant rfl
  | [operand] => exact hinside.gives_if_empty (by decide) (by decide) hrest hfirst
  | operand :: next :: rest =>
      refine hinside.gives_if_empty (by decide) (by decide) hrest ?_
      refine gives_template (hinside.bound .quasiquote (by decide)) rfl (fills_list rfl ?_)
      have hcall : Fills _ (call "and" [call "unquote-splicing" [call "rest" [var "xs"]]]) _
          [.ofList (.symbol and.name :: next :: rest)] _ :=
        fills_list rfl (.cons (fills_atom rfl) (.last (fills_splice hrest)))
      exact .cons (fills_atom rfl) (.cons (fills_unquote hfirst)
        (.cons hcall (.last (fills_atom rfl))))

theorem cond_answers (h : Available environment state) (id : Nat) (clauses : List Value) :
    Answers (cond.closure id) clauses state (condExpansion clauses)
      (state.aside (condFrames clauses)) := by
  have hinside := h.atTop.enter cond.parameters (by decide) clauses
  have hvar : Gives _ (var "clauses") _ (.ofList clauses) _ := hinside.gives_var "clauses" rfl
  refine answers_closure (Arity.admits_atLeast.mpr (Nat.zero_le _)) ?_
  refine hinside.gives_if_empty (by decide) (by decide) hvar ?_
  match clauses with
  | [] => exact gives_constant rfl
  | test :: rest =>
      have hsecond : second ∈ described := by simp [described]
      obtain ⟨other, hbound⟩ := hinside.resolves.closure hsecond (by decide)
      have hoffers := h.atTop.of_preserves
        (state.preserves_aside [cond.parameters.frame (test :: rest)])
      have hconsequence := Definition.gives_call hsecond rfl hbound (givesEach_one hvar)
        (second_answers (hoffers.mono (by decide) (by decide)) other (test :: rest))
      have hlater := hinside.of_preserves (State.preserves_aside _
        [second.parameters.frame [.ofList (test :: rest)]])
      have hvar' : Gives _ (var "clauses") _ (.ofList (test :: rest)) _ :=
        hlater.gives_var "clauses" rfl
      have hrest := hlater.gives_rest (by decide) (hlater.gives_rest (by decide) hvar')
      have hcall : Fills _ (call "cond" [call "unquote-splicing"
          [call "rest" [call "rest" [var "clauses"]]]]) _ [.ofList (.symbol cond.name :: rest.tail)]
            _ :=
        fills_list rfl (.cons (fills_atom rfl) (.last (fills_splice hrest)))
      rw [State.aside_aside] at hconsequence hcall
      refine gives_template (hinside.bound .quasiquote (by decide)) rfl (fills_list rfl ?_)
      exact .cons (fills_atom rfl) (.cons (fills_unquote (hinside.gives_first (by decide) hvar))
        (.cons (fills_unquote hconsequence) (.last hcall)))

theorem endTogether_expansion (h : Available environment state) {definition : Definition}
    (hdescribed : definition ∈ described)
    (hname : definition.name ∈ [and.name, cond.name]) (hkind : definition.kind = .expander)
    {operands : List Value} {expansion : Value} {frames : List Frame}
    (hanswers : ∀ id, Answers (definition.closure id) operands state expansion
      (state.aside frames)) :
    EndTogether
      (fun fuel => evalAt fuel environment (.ofList (.symbol definition.name :: operands)))
      (fun fuel => setAside frames >>= fun _ => evalAt fuel environment expansion) state := by
  obtain ⟨id, hbound⟩ := h.here.resolves.closure hdescribed hname
  have hcalled := hanswers id
  rw [Definition.closure, hkind] at hbound hcalled
  exact endTogether_expanded (namesForm?_described hdescribed) hbound hcalled

theorem Available.aside (h : Available environment state) (frames : List Frame) :
    Available environment (state.aside frames) :=
  ⟨h.here.of_preserves (state.preserves_aside frames),
    h.atTop.of_preserves (state.preserves_aside frames)⟩

theorem steady_conjunction (environment : Environment) (operands : List Value) :
    Steady fun fuel => conjunction (evalAt fuel environment) operands := by
  induction operands using conjunction.induct with
  | case1 => exact steady_const _
  | case2 operand => exact (steady_const _).bind fun _ => steady_evalAt environment operand
  | case3 operand next rest ih =>
      exact (steady_const _).bind fun _ => (steady_evalAt environment operand).bind fun value =>
        ih.ite (steady_const _) _

theorem steady_selection (environment : Environment) (clauses : List Value) :
    Steady fun fuel => selection (evalAt fuel environment) clauses := by
  induction clauses using selection.induct with
  | case1 => exact steady_const _
  | case2 test ih =>
      exact (steady_const _).bind fun _ => (steady_evalAt environment test).bind fun value =>
        (steady_const _).ite ih _
  | case3 test consequence rest ih =>
      exact (steady_const _).bind fun _ => (steady_evalAt environment test).bind fun value =>
        (steady_evalAt environment consequence).ite ih _

theorem conjunction_endTogether {operands : List Value} (h : AndLasts environment operands state) :
    EndTogether (fun fuel => evalAt fuel environment (.ofList (.symbol and.name :: operands)))
      (fun fuel => conjunction (evalAt fuel environment) operands) state := by
  have hdescribed : and ∈ described := by simp [described]
  induction h with
  | none h =>
      refine (endTogether_expansion h hdescribed (by decide) rfl fun id =>
        and_answers h id []).trans (.setAside ?_)
      exact endTogether_constant rfl _ _
  | last h =>
      exact endTogether_expansion h hdescribed (by decide) rfl fun id => and_answers h id [_]
  | more h _ ih =>
      refine (endTogether_expansion h hdescribed (by decide) rfl fun id =>
        and_answers h id (_ :: _ :: _)).trans (.setAside ?_)
      exact endTogether_branch_of_parts ((h.aside _).here.bound .branch (by decide))
        (steady_conjunction environment _) (steady_const _) ih
        fun _ _ _ _ => endTogether_constant rfl _ _

theorem selection_endTogether {clauses : List Value} (h : CondLasts environment clauses state) :
    EndTogether (fun fuel => evalAt fuel environment (.ofList (.symbol cond.name :: clauses)))
      (fun fuel => selection (evalAt fuel environment) clauses) state := by
  have hdescribed : cond ∈ described := by simp [described]
  induction h with
  | none h =>
      refine (endTogether_expansion h hdescribed (by decide) rfl fun id =>
        cond_answers h id []).trans (.setAside ?_)
      exact endTogether_constant rfl _ _
  | @more test rest _ h _ ih =>
      refine (endTogether_expansion h hdescribed (by decide) rfl fun id =>
        cond_answers h id (test :: rest)).trans ?_
      have hbound := (h.aside (condFrames (test :: rest))).here.bound .branch (by decide)
      cases rest with
      | nil =>
          exact .setAside (endTogether_branch_of_parts hbound (steady_const _)
            (steady_selection environment []) (fun _ _ _ _ => endTogether_constant rfl _ _) ih)
      | cons consequence rest =>
          exact .setAside (endTogether_branch_of_parts hbound
            (steady_evalAt environment consequence) (steady_selection environment rest)
            (fun _ _ _ _ => .refl _ _) ih)

/-- Both forms end as the evaluations that they stand for do, with the same value or failure and in
the same state, apart from what a failure leaves on the stack. -/
theorem and_cond_shortCircuit (environment : Environment) (state : State) :
    (∀ operands, AndLasts environment operands state →
      EndTogether (fun fuel => evalAt fuel environment (.ofList (.symbol ⟨"and"⟩ :: operands)))
        (fun fuel => conjunction (evalAt fuel environment) operands) state) ∧
    (∀ clauses, CondLasts environment clauses state →
      EndTogether (fun fuel => evalAt fuel environment (.ofList (.symbol ⟨"cond"⟩ :: clauses)))
        (fun fuel => selection (evalAt fuel environment) clauses) state) :=
  ⟨fun _ => conjunction_endTogether, fun _ => selection_endTogether⟩

end

open scoped Pattern

/-- Once the library is loaded, with operands that would fail. -/
theorem and_cond_shortCircuit_loaded :
    let missing := Value.symbol ⟨"missing"⟩
    ∃ seen state, Reachable seen state ∧
      AndLasts .global [.bool false, missing] state ∧
      Gives .global (.ofList [.symbol ⟨"and"⟩, .bool false, missing]) state (.bool false)
        (state.aside (andFrames [.bool false, missing])) ∧
      CondLasts .global [.nil, missing, .int 1, .int 2] state ∧
      Gives .global (.ofList [.symbol ⟨"cond"⟩, .nil, missing, .int 1, .int 2]) state (.int 2)
        ((state.aside (condFrames [.nil, missing, .int 1, .int 2])).aside
          (condFrames [.int 1, .int 2])) := by
  intro missing
  have hnames : [⟨"if"⟩, ⟨"quasiquote"⟩, ⟨"and"⟩, ⟨"cond"⟩, ⟨"empty?"⟩, ⟨"first"⟩, ⟨"second"⟩,
      ⟨"rest"⟩] ⊆ described.map Definition.name ++ initialNames := by decide
  obtain ⟨seen, state, hreachable, hresolves⟩ := exists_reachable_resolves hnames
  have havailable : Available .global state :=
    ⟨hresolves.offers (by decide) (by decide), hresolves.offers (by decide) (by decide)⟩
  have hand : AndLasts .global [.bool false, missing] state := by
    refine .more havailable fun value after hgives htruthy => ?_
    rw [(hgives.eq_of_constant rfl).1] at htruthy
    cases htruthy
  have hcond : CondLasts .global [.nil, missing, .int 1, .int 2] state := by
    refine .more havailable fun value after hgives _ => ?_
    rw [(hgives.eq_of_constant rfl).2]
    refine .more (havailable.aside _) fun value after hgives hfalsy => ?_
    rw [(hgives.eq_of_constant rfl).1] at hfalsy
    cases hfalsy
  obtain ⟨hconjunction, hselection⟩ := and_cond_shortCircuit .global state
  exact ⟨seen, state, hreachable, hand, (hconjunction _ hand).eventually ⟨1, rfl⟩, hcond,
    (hselection _ hcond).eventually ⟨1, rfl⟩⟩

end Lisplet.Library
