import Lisplet.Proofs.Evaluation.Together
import Lisplet.Proofs.Library.Bootstrap
import Lisplet.Regex.PatternEngine

namespace Lisplet.Library

/-! What `or` evaluates, in which order, and where. The operands behind a falsy one are evaluated
inside a function, whose parameter they see. -/

open Eval Evaluator Template

def orFrames (operands : List Value) : List Frame :=
  [or.parameters.frame operands]

def orParameters : Parameters :=
  ⟨[⟨"or-value"⟩], none⟩

/-- What the operands behind a falsy one see before everything else. -/
def orFrame (value : Value) : Frame :=
  orParameters.frame [value]

def disjunction (eval : Environment → Value → Eval Value) (environment : Environment) :
    List Value → Eval Value
  | [] => do
      setAside (orFrames [])
      return .nil
  | operand :: rest => do
      setAside (orFrames (operand :: rest))
      modify State.made
      let value ← eval environment operand
      let inner ← Eval.extend environment (orFrame value)
      if value.truthy then return value else disjunction eval inner rest

section

variable [RegexEngine]

/-- The value of the first operand with a truthy one, or `nil`. An operand is evaluated where the
one before it has left off. -/
inductive FirstTruthy : Environment → List Value → State → Value → State → Prop
  | none {environment : Environment} {state : State} :
      FirstTruthy environment [] state .nil (state.aside (orFrames []))
  | found {environment : Environment} {operand value : Value} {rest : List Value}
      {state after : State} :
      Gives environment operand (state.aside (orFrames (operand :: rest))).made value after →
      value.truthy = true →
        FirstTruthy environment (operand :: rest) state value (after.aside [orFrame value])
  | skipped {environment : Environment} {operand value result : Value} {rest : List Value}
      {state after last : State} :
      Gives environment operand (state.aside (orFrames (operand :: rest))).made value after →
      value.truthy = false →
      FirstTruthy (environment.push after.store.locals.size) rest (after.aside [orFrame value])
        result last →
        FirstTruthy environment (operand :: rest) state result last

/-- The turn of an operand comes when all before it have come to falsy values. This is where it is
evaluated. -/
inductive Turn : Environment → List Value → State → Value → Environment → State → Prop
  | first {environment : Environment} {operand : Value} {rest : List Value} {state : State} :
      Turn environment (operand :: rest) state operand environment
        (state.aside (orFrames (operand :: rest))).made
  | behind {environment inner : Environment} {operand other value : Value} {rest : List Value}
      {state after before : State} :
      Gives environment operand (state.aside (orFrames (operand :: rest))).made value after →
      value.truthy = false →
      Turn (environment.push after.store.locals.size) rest (after.aside [orFrame value])
        other inner before →
        Turn environment (operand :: rest) state other inner before

/-! Where the library is loaded and no frame hides `or`. -/

def orForms : List SpecialForm :=
  [.branch, .function, .quasiquote]

def orNames : List Symbol :=
  [or.name, ⟨"empty?"⟩, ⟨"first"⟩, ⟨"rest"⟩]

structure OrAvailable (environment : Environment) (state : State) : Prop where
  within : ∀ index ∈ environment.locals, index < state.store.locals.size
  unhidden : ∀ index ∈ environment.locals, (state.store.frame index).contains or.name = false
  atTop : Offers state .global orForms orNames

/-- No operand that is evaluated and comes to a falsy value rebinds what `or` uses. -/
inductive OrKeeps : Environment → List Value → State → Prop
  | none {environment : Environment} {state : State} : OrKeeps environment [] state
  | more {environment : Environment} {operand : Value} {rest : List Value} {state : State} :
      (∀ value after,
        Gives environment operand (state.aside (orFrames (operand :: rest))).made value after →
          value.truthy = false → ∀ name ∈ orNames,
            after.store.globals.get? name = state.store.globals.get? name) →
      (∀ value after,
        Gives environment operand (state.aside (orFrames (operand :: rest))).made value after →
          value.truthy = false → OrKeeps (environment.push after.store.locals.size) rest
            (after.aside [orFrame value])) →
        OrKeeps environment (operand :: rest) state

variable {environment : Environment} {state after : State} {operand value : Value}
  {operands rest : List Value}

omit [RegexEngine] in
theorem get?_orFrame (value : Value) (key : Symbol) :
    (orFrame value).get? key = if key = ⟨"or-value"⟩ then some value else none :=
  Frame.get?_insert _ _ _ _

omit [RegexEngine] in
theorem get?_behind (hwithin : ∀ index ∈ environment.locals, index < after.store.locals.size)
    (value : Value) (key : Symbol) :
    (after.aside [orFrame value]).store.get? (environment.push after.store.locals.size) key =
      if key = ⟨"or-value"⟩ then some value else after.store.get? environment key := by
  rw [State.get?_aside _ _ hwithin, get?_orFrame]
  split <;> rfl

theorem within_after (hwithin : ∀ index ∈ environment.locals, index < state.store.locals.size)
    {frames : List Frame} (hgives : Gives environment operand (state.aside frames).made value after) :
    ∀ index ∈ environment.locals, index < after.store.locals.size := by
  intro index hindex
  have hbefore := Nat.lt_of_lt_of_le (hwithin index hindex) (state.preserves_aside frames).size
  exact Nat.lt_of_lt_of_le hbefore hgives.grows.size

namespace Turn

variable {inner : Environment} {before : State}

theorem grows (h : Turn environment operands state operand inner before) :
    state.store.GrowsInto before.store := by
  induction h with
  | first => exact (State.preserves_aside _ _).growsInto
  | @behind environment inner operand other value rest state after before hgives _ _ ih =>
      have hexpanded := (state.preserves_aside (orFrames (operand :: rest))).growsInto
      have hentered := (after.preserves_aside [orFrame value]).growsInto
      exact hexpanded.trans (hgives.grows.trans (hentered.trans ih))

/-- Names mean what they mean in the environment of the form, except for `or-value`. -/
theorem get?_eq (h : Turn environment operands state operand inner before)
    (hwithin : ∀ index ∈ environment.locals, index < state.store.locals.size) {key : Symbol}
    (hkey : key ≠ ⟨"or-value"⟩) :
    before.store.get? inner key = before.store.get? environment key := by
  induction h with
  | first => rfl
  | @behind environment inner operand other value rest state after before hgives _ hturn ih =>
      have hafter := within_after hwithin hgives
      -- the operands in between have bound nothing else in the frame of the function
      have hnew := hturn.grows.frames (after.within_push _ hafter _ List.mem_cons_self) key
      rw [State.frame_aside_new, Frame.contains, Frame.contains, get?_orFrame, if_neg hkey] at hnew
      rw [ih (after.within_push _ hafter), Store.get?_push,
        Option.isNone_iff_eq_none.mp (Option.isSome_eq_false_iff.mp hnew), Option.none_or]

theorem first_or_hidden (h : Turn environment operands state operand inner before)
    (hwithin : ∀ index ∈ environment.locals, index < state.store.locals.size) :
    (inner = environment ∧ before = (state.aside (orFrames operands)).made) ∨
      ∃ value : Value, value.truthy = false ∧
        before.store.get? inner ⟨"or-value"⟩ = some value := by
  induction h with
  | first => exact .inl ⟨rfl, rfl⟩
  | @behind environment inner operand other value rest state after before hgives hfalsy hturn ih =>
      have hafter := within_after hwithin hgives
      refine .inr ?_
      rcases ih (after.within_push _ hafter) with ⟨rfl, rfl⟩ | hidden
      · have hvalue := get?_behind hafter value ⟨"or-value"⟩
        rw [if_pos rfl] at hvalue
        exact ⟨value, hfalsy, (State.preserves_aside _ (orFrames rest)).get?
          (after.within_push _ hafter) hvalue⟩
      · exact hidden

end Turn

namespace OrAvailable

theorem get?_or (h : OrAvailable environment state) :
    state.store.get? environment or.name = state.store.globals.get? or.name := by
  have hlocal : (environment.locals.findSome? fun index =>
      (state.store.frame index).get? or.name) = none := by
    refine List.findSome?_eq_none_iff.mpr fun index hindex => ?_
    exact Option.isNone_iff_eq_none.mp (Option.isSome_eq_false_iff.mp (h.unhidden index hindex))
  rw [Store.get?, hlocal, Option.none_or]

theorem bound (h : OrAvailable environment state) {form : SpecialForm} (hform : form ∈ orForms) :
    (state.store.get? environment form.symbol).isSome = true :=
  Store.isSome_get?_of_globals (h.atTop.bound form hform) environment

theorem aside (h : OrAvailable environment state) (frames : List Frame) :
    OrAvailable environment (state.aside frames) where
  within index hindex :=
    Nat.lt_of_lt_of_le (h.within index hindex) (state.preserves_aside frames).size
  unhidden index hindex := by
    rw [state.frame_aside frames (h.within index hindex)]
    exact h.unhidden index hindex
  atTop := h.atTop.of_preserves (state.preserves_aside frames)

theorem made (h : OrAvailable environment state) : OrAvailable environment state.made :=
  ⟨h.within, h.unhidden, h.atTop.of_preserves (.refl _)⟩

theorem of_gives (h : OrAvailable environment state)
    (hgives : Gives environment operand state value after)
    (hkeeps : ∀ name ∈ orNames, after.store.globals.get? name = state.store.globals.get? name) :
    OrAvailable environment after where
  within index hindex := Nat.lt_of_lt_of_le (h.within index hindex) hgives.grows.size
  unhidden index hindex := by
    rw [hgives.grows.frames (h.within index hindex)]
    exact h.unhidden index hindex
  atTop := by
    refine .atTop (fun form hform => hgives.grows.globals (h.atTop.bound form hform))
      fun name hname => ?_
    obtain ⟨id, value, hgiven, hbound⟩ := h.atTop.resolves name hname
    exact ⟨id, value, hgiven, (hkeeps name hname).trans hbound⟩

theorem enter (h : OrAvailable environment state) (value : Value) :
    OrAvailable (environment.push state.store.locals.size) (state.aside [orFrame value]) where
  within := state.within_push _ h.within
  unhidden index hindex := by
    rcases List.mem_cons.mp hindex with rfl | hindex
    · rw [State.frame_aside_new, Frame.contains, get?_orFrame, if_neg (by decide)]
      rfl
    · exact (h.aside [orFrame value]).unhidden index hindex
  atTop := (h.aside [orFrame value]).atTop

end OrAvailable

def orBranch (rest : List Value) : Value :=
  call "if" [var "or-value", var "or-value", .ofList (.symbol or.name :: rest)]

def orExpansion : List Value → Value
  | [] => .nil
  | operand :: rest => .ofList [call "fn" [.ofList [var "or-value"], orBranch rest], operand]

theorem or_answers (h : OrAvailable environment state) (id : Nat) (operands : List Value) :
    Answers (or.closure id) operands state (orExpansion operands)
      (state.aside (orFrames operands)) := by
  have hinside := h.atTop.enter or.parameters (by decide) operands
  have hvar : Gives _ (var "xs") _ (.ofList operands) _ := hinside.gives_var "xs" rfl
  refine answers_closure (Arity.admits_atLeast.mpr (Nat.zero_le _)) ?_
  refine hinside.gives_if_empty (by decide) (by decide) hvar ?_
  match operands with
  | [] => exact gives_constant rfl
  | operand :: rest =>
      have hfirst := hinside.gives_first (by decide) hvar
      have hrest := hinside.gives_rest (by decide) hvar
      refine gives_template (hinside.bound .quasiquote (by decide)) rfl (fills_list rfl ?_)
      have hcall : Fills _ (call "or" [call "unquote-splicing" [call "rest" [var "xs"]]]) _
          [.ofList (.symbol or.name :: rest)] _ :=
        fills_list rfl (.cons (fills_atom rfl) (.last (fills_splice hrest)))
      have hbranch : Fills _ (call "if" [var "or-value", var "or-value",
          call "or" [call "unquote-splicing" [call "rest" [var "xs"]]]]) _ [orBranch rest] _ :=
        fills_list rfl (.cons (fills_atom rfl) (.cons (fills_atom rfl) (.cons (fills_atom rfl)
          (.last hcall))))
      have hparameters : ∀ inner later, Fills inner (.ofList [var "or-value"]) later
          [.ofList [var "or-value"]] later :=
        fun _ _ => fills_list rfl (.last (fills_atom rfl))
      have hfunction : Fills _ (call "fn" [.ofList [var "or-value"], call "if" [var "or-value",
          var "or-value", call "or" [call "unquote-splicing" [call "rest" [var "xs"]]]]]) _
          [call "fn" [.ofList [var "or-value"], orBranch rest]] _ :=
        fills_list rfl (.cons (fills_atom rfl) (.cons (hparameters _ _) (.last hbranch)))
      exact .cons hfunction (.last (fills_unquote hfirst))

theorem endTogether_or (h : OrAvailable environment state) (operands : List Value) :
    EndTogether (fun fuel => evalAt fuel environment (.ofList (.symbol or.name :: operands)))
      (fun fuel => setAside (orFrames operands) >>= fun _ =>
        evalAt fuel environment (orExpansion operands)) state := by
  have hdescribed : or ∈ described := by simp [described]
  obtain ⟨id, hbound⟩ := h.atTop.resolves.closure hdescribed (by decide)
  exact endTogether_expanded (namesForm?_described hdescribed) (h.get?_or.trans hbound)
    (or_answers h id operands)

theorem steady_disjunction (environment : Environment) (operands : List Value) :
    Steady fun fuel => disjunction (evalAt fuel) environment operands := by
  induction operands generalizing environment with
  | nil => exact steady_const _
  | cons operand rest ih =>
      exact (steady_const _).bind fun _ => (steady_const _).bind fun _ =>
        (steady_evalAt environment operand).bind fun value => (steady_const _).bind fun inner =>
          (steady_const _).ite (ih inner) _

/-- What follows an operand goes on from where its value has been bound. -/
theorem eventually_disjunction_cons_iff {operand : Value} {rest : List Value} {result : Value}
    {last : State} :
    Eventually (fun fuel => disjunction (evalAt fuel) environment (operand :: rest)) state result
        last ↔
      ∃ value after, Gives environment operand (state.aside (orFrames (operand :: rest))).made value
          after ∧
        Eventually (fun fuel =>
          if value.truthy = true then Pure.pure value
          else disjunction (evalAt fuel) (environment.push after.store.locals.size) rest)
          (after.aside [orFrame value]) result last := by
  have hsteady : ∀ value : Value, Steady fun fuel =>
      Eval.extend environment (orFrame value) >>= fun inner =>
        if value.truthy = true then Pure.pure value
        else disjunction (evalAt fuel) inner rest :=
    fun _ => (steady_const _).bind fun inner =>
      (steady_const _).ite (steady_disjunction inner rest) _
  refine (eventually_bind (steady_evalAt environment operand) hsteady).trans ?_
  refine exists_congr fun value => exists_congr fun after => and_congr Iff.rfl ?_
  have hentered := extend_eq environment (orFrame value) after
  exact exists_congr fun fuel => Eq.congr_left (bind_ok hentered)

theorem eventually_disjunction_iff {result : Value} {last : State} :
    Eventually (fun fuel => disjunction (evalAt fuel) environment operands) state result last ↔
      FirstTruthy environment operands state result last := by
  induction operands generalizing environment state with
  | nil =>
      constructor
      · rintro ⟨fuel, hrun⟩
        cases hrun
        exact .none
      · intro h
        cases h
        exact ⟨0, rfl⟩
  | cons operand rest ih =>
      rw [eventually_disjunction_cons_iff]
      constructor
      · rintro ⟨value, after, hgives, hlast⟩
        cases hvalue : value.truthy with
        | true =>
            simp only [hvalue, if_true] at hlast
            obtain ⟨fuel, hrun⟩ := hlast
            cases hrun
            exact .found hgives hvalue
        | false =>
            simp only [hvalue, Bool.false_eq_true, if_false] at hlast
            exact .skipped hgives hvalue (ih.mp hlast)
      · intro h
        cases h with
        | @found _ _ _ _ _ after hgives hvalue =>
            refine ⟨result, after, hgives, ?_⟩
            simp only [hvalue, if_true]
            exact ⟨0, rfl⟩
        | @skipped _ _ value _ _ _ after _ hgives hvalue hrest =>
            refine ⟨value, after, hgives, ?_⟩
            simp only [hvalue, Bool.false_eq_true, if_false]
            exact ih.mpr hrest

theorem endTogether_orBranch
    (hwithin : ∀ index ∈ environment.locals, index < state.store.locals.size)
    (hbranch : state.store.globals.contains SpecialForm.branch.symbol = true) (value : Value)
    {others : Nat → Eval Value} (hsteady : Steady others)
    (hothers : value.truthy = false → EndTogether
      (fun fuel => evalAt fuel (environment.push state.store.locals.size)
        (.ofList (.symbol or.name :: rest))) others (state.aside [orFrame value])) :
    EndTogether
      (fun fuel => evalAt fuel (environment.push state.store.locals.size) (orBranch rest))
      (fun fuel => if value.truthy = true then Pure.pure value else others fuel)
      (state.aside [orFrame value]) := by
  have hvar : Gives (environment.push state.store.locals.size) (var "or-value")
      (state.aside [orFrame value]) value (state.aside [orFrame value]) := by
    refine gives_symbol ?_
    rw [get?_behind hwithin, if_pos rfl]
  have hvalue : value.truthy = true → EndTogether
      (fun fuel => evalAt fuel (environment.push state.store.locals.size) (var "or-value"))
      (fun _ => Pure.pure value) (state.aside [orFrame value]) :=
    fun _ => .of_eventually (steady_evalAt _ _) hvar rfl
  have hglobal : (state.aside [orFrame value]).store.globals.contains
      SpecialForm.branch.symbol = true := hbranch
  exact endTogether_branch_of_value (Store.isSome_get?_of_globals hglobal _)
    (steady_const (Pure.pure value)) hsteady hvar hvalue hothers

theorem disjunction_endTogether (h : OrAvailable environment state)
    (hkeeps : OrKeeps environment operands state) :
    EndTogether (fun fuel => evalAt fuel environment (.ofList (.symbol or.name :: operands)))
      (fun fuel => disjunction (evalAt fuel) environment operands) state := by
  induction hkeeps with
  | none =>
      refine (endTogether_or h []).trans (.setAside ?_)
      exact endTogether_constant rfl _ _
  | @more environment operand rest state hkept _ ih =>
      have hready := (h.aside (orFrames (operand :: rest))).made
      refine (endTogether_or h (operand :: rest)).trans (.setAside ?_)
      have hparameters : Parameters.ofValue (.ofList [var "or-value"]) = .ok orParameters := rfl
      have hfunction := (h.aside (orFrames (operand :: rest))).bound
        (show SpecialForm.function ∈ orForms by decide)
      refine (endTogether_applied hfunction hparameters (Arity.admits_exactly.mpr rfl)
        operand).trans (.modify _ ?_)
      have hoperand := steady_evalAt environment operand
      refine .bind hoperand hoperand
        (fun value => (steady_const _).bind fun inner => steady_evalAt inner (orBranch rest))
        (fun value => (steady_const _).bind fun inner =>
          (steady_const _).ite (steady_disjunction inner rest) _)
        (.refl _ _) fun value after hgives => .extend ?_
      have hbranch := (Gives.grows hgives).globals (hready.atTop.bound .branch (by decide))
      refine endTogether_orBranch (within_after h.within hgives) hbranch value
        (steady_disjunction _ rest) fun hfalsy => ?_
      have hafter := hready.of_gives hgives (hkept value after hgives hfalsy)
      exact ih value after hgives hfalsy (hafter.enter value)

/-- How `or` ends, what a value comes from, and what the operands see. -/
structure ShortCircuits (environment : Environment) (operands : List Value) (state : State) :
    Prop where
  endTogether : EndTogether
    (fun fuel => evalAt fuel environment (.ofList (.symbol ⟨"or"⟩ :: operands)))
    (fun fuel => disjunction (evalAt fuel) environment operands) state
  gives_iff : ∀ value after,
    Gives environment (.ofList (.symbol ⟨"or"⟩ :: operands)) state value after ↔
      FirstTruthy environment operands state value after
  first_or_hidden : ∀ {operand inner before}, Turn environment operands state operand inner before →
    (inner = environment ∧ before = (state.aside (orFrames operands)).made) ∨
      ∃ value : Value, value.truthy = false ∧
        before.store.get? inner ⟨"or-value"⟩ = some value
  others_seen : ∀ {operand inner before}, Turn environment operands state operand inner before →
    ∀ key ≠ ⟨"or-value"⟩, before.store.get? inner key = before.store.get? environment key

theorem gives_or_iff (h : OrAvailable environment state)
    (hkeeps : OrKeeps environment operands state) (value : Value) (after : State) :
    Gives environment (.ofList (.symbol or.name :: operands)) state value after ↔
      FirstTruthy environment operands state value after := by
  have htogether := disjunction_endTogether h hkeeps
  refine ⟨fun hgives => ?_, fun hfirst => ?_⟩
  · exact eventually_disjunction_iff.mp (htogether.symm.eventually hgives)
  · exact htogether.eventually (eventually_disjunction_iff.mpr hfirst)

theorem or_shortCircuit (h : OrAvailable environment state)
    (hkeeps : OrKeeps environment operands state) : ShortCircuits environment operands state where
  endTogether := disjunction_endTogether h hkeeps
  gives_iff := gives_or_iff h hkeeps
  first_or_hidden hturn := hturn.first_or_hidden h.within
  others_seen hturn _ hkey := hturn.get?_eq h.within hkey

theorem orAvailable_of_resolves
    (hresolves : Resolves state .global (orForms.map SpecialForm.symbol ++ orNames)) :
    OrAvailable .global state where
  within _ hindex := absurd hindex List.not_mem_nil
  unhidden _ hindex := absurd hindex List.not_mem_nil
  atTop := hresolves.offers (List.subset_append_left _ _) (List.subset_append_right _ _)

theorem keeps_constant (hconstant : operand.isConstant = true)
    (hrest : operand.truthy = false → OrKeeps
      (environment.push (state.aside (orFrames (operand :: rest))).store.locals.size) rest
        ((state.aside (orFrames (operand :: rest))).made.aside [orFrame operand])) :
    OrKeeps environment (operand :: rest) state := by
  refine .more (fun value after hgives _ => ?_) fun value after hgives hfalsy => ?_
  all_goals obtain ⟨rfl, rfl⟩ := hgives.eq_of_constant hconstant
  · exact fun _ _ => rfl
  · exact hrest hfalsy

end

open scoped Pattern

/-- Once the library is loaded, with an operand that would fail. -/
theorem or_shortCircuit_loaded :
    ∃ seen state after, Reachable seen state ∧ OrAvailable .global state ∧
      OrKeeps .global [.nil, .int 4, var "missing"] state ∧
      Gives .global (.ofList [.symbol ⟨"or"⟩, .nil, .int 4, var "missing"]) state (.int 4)
        after := by
  have hnames : orForms.map SpecialForm.symbol ++ orNames ⊆
      described.map Definition.name ++ initialNames := by decide
  obtain ⟨seen, state, hreachable, hresolves⟩ := exists_reachable_resolves hnames
  have havailable := orAvailable_of_resolves hresolves
  have hkeeps : OrKeeps .global [.nil, .int 4, var "missing"] state :=
    keeps_constant rfl fun _ => keeps_constant rfl nofun
  have hgives := ((or_shortCircuit havailable hkeeps).gives_iff _ _).mpr
    (.skipped (gives_constant rfl) rfl (.found (gives_constant rfl) rfl))
  exact ⟨seen, state, _, hreachable, havailable, hkeeps, hgives⟩

/-- A variable of the program that is called `or-value` is not seen behind a falsy operand, although
its value is truthy wherever the program looks at it. -/
theorem or_hides_variable :
    ∃ seen state, Reachable seen state ∧ OrAvailable .global state ∧
      OrKeeps .global [.nil, var "or-value"] state ∧
      (∀ later : State, later.store.globals = state.store.globals →
        Gives .global (var "or-value") later (.int 5) later) ∧
      (∃ after, Gives .global (.ofList [.symbol ⟨"or"⟩, .nil, var "or-value"]) state .nil after) ∧
      ∀ value after, Gives .global (.ofList [.symbol ⟨"or"⟩, .nil, var "or-value"]) state value
        after → value ≠ .int 5 := by
  have hnames : orForms.map SpecialForm.symbol ++ orNames ⊆
      described.map Definition.name ++ initialNames := by decide
  obtain ⟨seen, loaded, hreachable, hresolves⟩ := exists_reachable_resolves hnames
  let state : State := { loaded with store := loaded.store.define ⟨"or-value"⟩ (.int 5) }
  have havailable : OrAvailable .global state :=
    orAvailable_of_resolves (hresolves.define (by decide) (.int 5))
  have hkeeps : OrKeeps .global [.nil, var "or-value"] state := by
    refine keeps_constant rfl fun _ => .more (fun value after hgives _ => ?_) fun _ _ _ _ => .none
    rw [Gives.eq_of_symbol hgives]
    exact fun _ _ => rfl
  have hvariable : ∀ later : State, later.store.globals = state.store.globals →
      Gives .global (var "or-value") later (.int 5) later := by
    intro later hlater
    refine gives_symbol ?_
    change later.store.globals.get? ⟨"or-value"⟩ = some (.int 5)
    rw [hlater]
    exact Frame.get?_insert_self _ _ _
  have hnil : ∃ after,
      Gives .global (.ofList [.symbol ⟨"or"⟩, .nil, var "or-value"]) state .nil after := by
    have hready := (havailable.aside (orFrames [.nil, var "or-value"])).made
    have hhidden := get?_behind hready.within .nil ⟨"or-value"⟩
    rw [if_pos rfl] at hhidden
    have hkept := (State.preserves_aside _ (orFrames [var "or-value"])).get?
      (hready.enter .nil).within hhidden
    exact ⟨_, (gives_or_iff havailable hkeeps _ _).mpr
      (.skipped (gives_constant rfl) rfl (.skipped (gives_symbol hkept) rfl .none))⟩
  refine ⟨seen, state, hreachable.define ⟨"or-value"⟩ (Reachable.inSight_of_isWritten rfl),
    havailable, hkeeps, hvariable, hnil, fun value after hgives => ?_⟩
  obtain ⟨last, hlast⟩ := hnil
  obtain ⟨rfl, _⟩ := Eventually.unique (steady_evalAt _ _) hlast hgives
  exact nofun

end Lisplet.Library
