import Lisplet.Proofs.Library.Lists
import Lisplet.Proofs.Operation.Integers
import Lisplet.Regex.PatternEngine
import Mathlib.Data.List.Induction

namespace Lisplet

namespace Value

/-- A closure without a name is printed as if it were not there yet. -/
theorem write_push (names : ClosureNames) (position : Position) (value : Value) :
    value.write names.push position = value.write names position := by
  fun_induction write names position value with
  | case11 head operand sugar hsugar ih => simp only [write, hsugar, ih]
  | case12 head operand hsugar ih => simp only [write, hsugar, ih]
  | case13 first rest hother ihFirst ihRest =>
      rw [write, ihFirst, ihRest]
      exact hother
  | case14 first rest ihFirst ihRest => simp only [write, ihFirst, ihRest]
  | case15 position id kind parameters body _ ih =>
      simp only [write, ClosureNames.get?_push, ih]
  | _ => simp only [write]

theorem display_push (names : ClosureNames) (value : Value) :
    value.display names.push = value.display names := by
  cases value <;> first | rfl | exact write_push names .alone _

end Value

namespace Library

/-! The operators of the library that take any number of arguments. -/

open Evaluator Arithmetic

variable {state : State} {environment : Environment} {frame : Frame} {operator : String}
  {first value accumulated : Value} {rest values : List Value}

/-- The number for all of the words, if that for each part from the start on is in range, and an
overflow if one of them is not. -/
structure Accumulates (operator : String) (number : List Int64 → Int) (words : List Int64)
    (outcome : Except Error Value) : Prop where
  exact : (∀ part ≠ [], part <+: words → InRange (number part)) →
    ∃ word : Int64, outcome = .ok (.int word) ∧ word.toInt = number words
  overflow : (∃ part ≠ [], part <+: words ∧ ¬InRange (number part)) →
    outcome = .error (.overflow operator)

theorem foldlM_accumulates {number : List Int64 → Int} {step : Value → Value → Except Error Value}
    (hone : ∀ word : Int64, number [word] = word.toInt)
    (hstep : ∀ (front : List Int64) (left right : Int64), front ≠ [] →
      left.toInt = number front →
        Delivers operator (number (front ++ [right])) (step (.int left) (.int right)))
    (first : Int64) (rest : List Int64) :
    Accumulates operator number (first :: rest)
      ((rest.map Value.int).foldlM step (.int first)) := by
  induction rest using List.reverseRecOn with
  | nil =>
      refine ⟨fun _ => ⟨first, rfl, (hone first).symm⟩, ?_⟩
      rintro ⟨part, hpart, hprefix, hrange⟩
      obtain rfl : part = [first] := by
        rcases List.prefix_cons_iff.mp hprefix with hnil | ⟨tail, rfl, htail⟩
        · exact absurd hnil hpart
        · rw [List.prefix_nil.mp htail]
      rw [hone] at hrange
      exact absurd ⟨first.le_toInt, first.toInt_lt⟩ hrange
  | append_singleton rest last ih =>
      have hfold : ((rest ++ [last]).map Value.int).foldlM step (.int first) =
          (rest.map Value.int).foldlM step (.int first) >>= fun left => step left (.int last) := by
        simp only [List.map_append, List.map_cons, List.map_nil, List.foldlM_append,
          List.foldlM_cons, List.foldlM_nil, bind_pure]
      rw [hfold, ← List.cons_append]
      have hfront : ∀ part, part <+: first :: rest → part <+: first :: rest ++ [last] :=
        fun part hpart => hpart.trans (List.prefix_append _ _)
      constructor
      · intro hrange
        obtain ⟨left, hleft, hvalue⟩ := ih.exact fun part hsome hpart =>
          hrange part hsome (hfront part hpart)
        rw [hleft]
        exact (hstep _ left last (List.cons_ne_nil _ _) hvalue).exact
          (hrange _ (by simp) (List.prefix_refl _))
      · rintro ⟨part, hsome, hpart, hrange⟩
        by_cases hearlier : ∃ part ≠ [], part <+: first :: rest ∧ ¬InRange (number part)
        · rw [ih.overflow hearlier]
          rfl
        · have hbefore : ∀ part ≠ [], part <+: first :: rest → InRange (number part) := by
            intro part hsome hpart
            by_contra hrange
            exact hearlier ⟨part, hsome, hpart, hrange⟩
          obtain ⟨left, hleft, hvalue⟩ := ih.exact hbefore
          rcases List.prefix_concat_iff.mp hpart with rfl | hpart
          · rw [hleft]
            exact (hstep _ left last (List.cons_ne_nil _ _) hvalue).overflow hrange
          · exact absurd (hbefore part hsome hpart) hrange

def total (words : List Int64) : Int :=
  (words.map Int64.toInt).sum

def product (words : List Int64) : Int :=
  (words.map Int64.toInt).prod

def difference : List Int64 → Int
  | [] => 0
  | first :: rest => first.toInt - total rest

theorem total_append (front : List Int64) (last : Int64) :
    total (front ++ [last]) = total front + last.toInt := by
  simp [total]

theorem product_append (front : List Int64) (last : Int64) :
    product (front ++ [last]) = product front * last.toInt := by
  simp [product]

theorem difference_append {front : List Int64} (h : front ≠ []) (last : Int64) :
    difference (front ++ [last]) = difference front - last.toInt := by
  obtain ⟨first, rest, rfl⟩ := List.exists_cons_of_ne_nil h
  rw [List.cons_append, difference, difference, total_append]
  omega

section

variable [RegexEngine]

theorem sender_settles (hscope : Offers state environment [.send] []) (operator : String) (id : Nat)
    (accumulated value : Value) :
    (Setting.still state).Settles
      (.closure id .function ⟨[⟨"a"⟩, ⟨"b"⟩], none⟩
        (.ofList [call "send" [var "a", .keyword operator, var "b"]]) environment)
      [accumulated, value] (send state.names operator accumulated [value]) := by
  refine settles_of_inside ⟨[⟨"a"⟩, ⟨"b"⟩], none⟩ (Arity.admits_exactly.mpr rfl) (by decide)
    (fun _ (hlater : (Setting.still state).Holds _) => hscope.of_preserves hlater.1) ?_ id
  intro later environment hlater hinside
  rw [← hlater.2]
  refine (settles_send (hinside.bound .send (by decide)) (receiver_symbol (hinside.sees rfl))
    (givesEach_one (hinside.gives_var "b" rfl))).mono ?_
  rintro _ rfl
  exact .refl hlater

theorem joiner_settles (hscope : Offers state environment [.send] []) (id : Nat)
    (accumulated value : Value) :
    (Setting.still state).Settles
      (.closure id .function ⟨[⟨"acc"⟩, ⟨"x"⟩], none⟩
        (.ofList [call "send" [var "acc", .keyword "+", call "send" [var "x", .keyword "to_s"]]])
        environment)
      [accumulated, value] (send state.names "+" accumulated [.str (value.display state.names)]) := by
  refine settles_of_inside ⟨[⟨"acc"⟩, ⟨"x"⟩], none⟩ (Arity.admits_exactly.mpr rfl) (by decide)
    (fun _ (hlater : (Setting.still state).Holds _) => hscope.of_preserves hlater.1) ?_ id
  intro later environment hlater hinside
  have hdisplayed : Eval.Settles
      (fun fuel => evalAt fuel environment (call "send" [var "x", .keyword "to_s"])) later
      (.ok (.str (value.display later.names))) (· = later) :=
    settles_send (hinside.bound .send (by decide)) (receiver_symbol (hinside.sees rfl))
      givesEach_nil
  obtain ⟨_, hdisplay, rfl⟩ := hdisplayed
  rw [← hlater.2]
  refine (settles_send (hinside.bound .send (by decide)) (receiver_symbol (hinside.sees rfl))
    (givesEach_one hdisplay)).mono ?_
  rintro _ rfl
  exact .refl hlater

def variadicNames : List Symbol :=
  walking ++ [⟨"if"⟩, ⟨"fn"⟩, ⟨"send"⟩, ⟨"reduce"⟩]

def variadicForms : List SpecialForm :=
  [.branch, .function, .send]

theorem settles_folded
    (hinside : Inside frame state environment variadicForms variadicNames)
    (hoffers : Offers state .global [.branch] (walking ++ [⟨"reduce"⟩]))
    (hfirst : frame.get? ⟨"x"⟩ = some first) (hrest : frame.get? ⟨"xs"⟩ = some (.ofList rest))
    (operator : String) :
    Eval.Settles (fun fuel => evalAt fuel environment (folded operator)) state
      (rest.foldlM (fun left right => send state.names.push operator left [right]) first)
      (fun after => state.store.Preserves after.store) := by
  have hscope : Offers state.made environment [.send] [] :=
    (hinside.toOffers.mono (by decide) (by decide)).of_preserves (.refl _)
  exact settles_reduced hoffers (hinside.toOffers.mono (by decide) (by decide)) rfl
    (gives_symbol (hinside.sees hfirst)) (gives_symbol (hinside.sees hrest))
    (sender_settles hscope operator _)

theorem accumulating_settles (hoffers : Offers state .global variadicForms variadicNames)
    (operator : String) (first : Value) (rest : List Value) (id : Nat) :
    Eval.Settles (fun fuel => applyAt fuel ((accumulating operator).closure id) (first :: rest)) state
      (rest.foldlM (fun left right => send state.names.push operator left [right]) first)
      fun after => state.store.Preserves after.store := by
  refine settles_entered ⟨[⟨"x"⟩], some ⟨"xs"⟩⟩ (first :: rest)
    (Arity.admits_atLeast.mpr (Nat.le_add_left 1 rest.length)) (by decide) hoffers
    (fun environment hinside hentered => ?_) id
  exact settles_folded hinside (hentered.mono (by decide) (by decide)) rfl rfl operator

/-- A single argument is taken from zero. -/
def minusOutcome (names : ClosureNames) (first : Value) : List Value → Except Error Value
  | [] => send names "-" (.int 0) [first]
  | second :: rest =>
      (second :: rest).foldlM (fun left right => send names.push "-" left [right]) first

theorem minus_settles (hoffers : Offers state .global variadicForms variadicNames)
    (first : Value) (rest : List Value) (id : Nat) :
    Eval.Settles (fun fuel => applyAt fuel (minus.closure id) (first :: rest)) state
      (minusOutcome state.names first rest) fun after => state.store.Preserves after.store := by
  refine settles_entered ⟨[⟨"x"⟩], some ⟨"xs"⟩⟩ (first :: rest)
    (Arity.admits_atLeast.mpr (Nat.le_add_left 1 rest.length)) (by decide) hoffers
    (fun environment hinside hentered => ?_) id
  refine hinside.settles_if_empty (by decide) (by decide) (hinside.gives_var "xs" rfl) ?_
  cases rest with
  | nil =>
      refine (settles_send (hinside.bound .send (by decide)) (fun _ => rfl)
        (givesEach_one (hinside.gives_var "x" rfl))).mono ?_
      rintro _ rfl
      exact .refl _
  | cons second rest =>
      exact settles_folded hinside (hentered.mono (by decide) (by decide)) rfl rfl "-"

theorem str_settles (hoffers : Offers state .global variadicForms variadicNames)
    (values : List Value) (id : Nat) :
    Eval.Settles (fun fuel => applyAt fuel (str.closure id) values) state
      (values.foldlM (fun left right =>
        send state.names.push "+" left [.str (right.display state.names.push)]) (.str ""))
      fun after => state.store.Preserves after.store := by
  refine settles_entered str.parameters values (Arity.admits_atLeast.mpr (Nat.zero_le _))
    (by decide) hoffers
    (fun environment hinside hentered => ?_) id
  have hscope : Offers (state.aside [str.parameters.frame values]).made environment [.send] [] :=
    (hinside.toOffers.mono (by decide) (by decide)).of_preserves (.refl _)
  exact settles_reduced (hentered.mono (by decide) (by decide))
    (hinside.toOffers.mono (by decide) (by decide)) rfl (gives_constant rfl)
    (gives_symbol (hinside.sees rfl)) (joiner_settles hscope _)

theorem foldlM_str (names : ClosureNames) (values : List Value) (text : String) :
    values.foldlM (fun left right => send names "+" left [.str (right.display names)])
      (.str text) = .ok (.str ((values.map (Value.display names)).foldl (· ++ ·) text)) := by
  induction values generalizing text with
  | nil => rfl
  | cons value values ih => exact ih (text ++ value.display names)

/-! Results on integers, from left to right. -/

theorem add_accumulates (names : ClosureNames) (first : Int64) (rest : List Int64) :
    Accumulates "+" total (first :: rest)
      ((rest.map Value.int).foldlM (fun left right => send names "+" left [right])
        (.int first)) := by
  refine foldlM_accumulates (fun word => by simp [total]) (fun front left right _ hleft => ?_) first
    rest
  rw [total_append, ← hleft]
  exact delivers_exact _ _

theorem multiply_accumulates (names : ClosureNames) (first : Int64) (rest : List Int64) :
    Accumulates "*" product (first :: rest)
      ((rest.map Value.int).foldlM (fun left right => send names "*" left [right])
        (.int first)) := by
  refine foldlM_accumulates (fun word => by simp [product]) (fun front left right _ hleft => ?_)
    first rest
  rw [product_append, ← hleft]
  exact delivers_exact _ _

theorem subtract_accumulates (names : ClosureNames) (first : Int64) (rest : List Int64) :
    Accumulates "-" difference (first :: rest)
      ((rest.map Value.int).foldlM (fun left right => send names "-" left [right])
        (.int first)) := by
  refine foldlM_accumulates (fun word => by simp [difference, total])
    (fun front left right hsome hleft => ?_) first rest
  rw [difference_append hsome, ← hleft]
  exact delivers_exact _ _

theorem negate_delivers (names : ClosureNames) (word : Int64) :
    Delivers "-" (-word.toInt) (send names "-" (.int 0) [.int word]) := by
  have hzero : (0 : Int64).toInt - word.toInt = -word.toInt := Int.zero_sub _
  rw [← hzero]
  exact delivers_exact _ _

/-- Where a name is seen as it is at the top level, a call of it whose operands have come to the
arguments comes to the outcome. A value leaves the bindings and the stack as they were. -/
def ComesTo (state : State) (name : Symbol) (arguments : List Value)
    (outcome : Except Error Value) : Prop :=
  ∀ (before : State) (environment : Environment) (operands : List Value),
    before.store.get? environment name = state.store.globals.get? name →
      GivesEach environment operands before arguments state →
        Eval.Settles (fun fuel => evalAt fuel environment (.ofList (.symbol name :: operands)))
          before outcome fun after =>
            state.store.Preserves after.store ∧ after.stack = before.stack

theorem comesTo_of_settles (definition : Definition) {arguments : List Value}
    {outcome : Except Error Value} (hresolves : Resolves state .global [definition.name])
    (hdescribed : definition ∈ described) (hkind : definition.kind = .function)
    (hsettles : ∀ id, Eval.Settles (fun fuel => applyAt fuel (definition.closure id) arguments) state
      outcome fun after => state.store.Preserves after.store) :
    ComesTo state definition.name arguments outcome := by
  intro before environment operands hseen hoperands
  obtain ⟨id, hbound⟩ := hresolves.closure hdescribed List.mem_cons_self
  have hfunction : (definition.closure id).isFunction = true := by
    rw [Definition.closure, hkind]
    rfl
  have hcall := settles_call_values (namesForm?_described hdescribed) (hseen.trans hbound) hfunction
    hoperands (hsettles id)
  cases outcome with
  | ok value =>
      obtain ⟨after, hgives, hpreserves⟩ := hcall
      exact ⟨after, hgives, hpreserves, Gives.stack_eq hgives⟩
  | error error => exact hcall

structure VariadicOperators (state : State) : Prop where
  add : Resolves state .global [⟨"+"⟩] → ∀ words ≠ [],
    ∃ outcome, ComesTo state ⟨"+"⟩ (words.map .int) outcome ∧ Accumulates "+" total words outcome
  multiply : Resolves state .global [⟨"*"⟩] → ∀ words ≠ [],
    ∃ outcome, ComesTo state ⟨"*"⟩ (words.map .int) outcome ∧ Accumulates "*" product words outcome
  subtract : Resolves state .global [⟨"-"⟩] → ∀ words, 2 ≤ words.length →
    ∃ outcome, ComesTo state ⟨"-"⟩ (words.map .int) outcome ∧
      Accumulates "-" difference words outcome
  negate : Resolves state .global [⟨"-"⟩] → ∀ word, word ≠ Int64.minValue →
    ∃ negated : Int64, negated.toInt = -word.toInt ∧
      ComesTo state ⟨"-"⟩ [.int word] (.ok (.int negated))
  negate_least : Resolves state .global [⟨"-"⟩] →
    ComesTo state ⟨"-"⟩ [.int Int64.minValue] (.error (.overflow "-"))
  str : Resolves state .global [⟨"str"⟩] → ∀ values, ComesTo state ⟨"str"⟩ values
    (.ok (.str (String.join (values.map (Value.display state.names)))))

theorem variadicOperators_compute (hresolves : Resolves state .global variadicNames) :
    VariadicOperators state := by
  have hoffers : Offers state .global variadicForms variadicNames :=
    hresolves.offers (by decide) (List.Subset.refl _)
  have hminus : Resolves state .global [⟨"-"⟩] → ∀ first rest, ComesTo state ⟨"-"⟩ (first :: rest)
      (minusOutcome state.names first rest) := fun hname first rest =>
    comesTo_of_settles minus hname (by simp [described]) rfl (minus_settles hoffers first rest)
  refine ⟨fun hname words hsome => ?_, fun hname words hsome => ?_, fun hname words hlength => ?_,
    fun hname word hword => ?_, fun hname => ?_, fun hname values => ?_⟩
  · obtain ⟨first, rest, rfl⟩ := List.exists_cons_of_ne_nil hsome
    exact ⟨_, comesTo_of_settles (accumulating "+") hname (by simp [described]) rfl
      (accumulating_settles hoffers "+" _ _), add_accumulates _ first rest⟩
  · obtain ⟨first, rest, rfl⟩ := List.exists_cons_of_ne_nil hsome
    exact ⟨_, comesTo_of_settles (accumulating "*") hname (by simp [described]) rfl
      (accumulating_settles hoffers "*" _ _), multiply_accumulates _ first rest⟩
  · obtain _ | ⟨first, _ | ⟨second, rest⟩⟩ := words
    · exact absurd hlength (by decide)
    · exact absurd hlength (Nat.lt_irrefl 1)
    · exact ⟨_, hminus hname _ _, subtract_accumulates _ first (second :: rest)⟩
  · have hrange : InRange (-word.toInt) := by
      have hleast := word.le_toInt
      have hmost := word.toInt_lt
      have hother : word.toInt ≠ Int64.minValue.toInt := fun heq => hword (Int64.toInt_inj.mp heq)
      rw [Int64.toInt_minValue] at hother
      exact ⟨by omega, by omega⟩
    obtain ⟨negated, hresult, hvalue⟩ := (negate_delivers state.names word).exact hrange
    refine ⟨negated, hvalue, ?_⟩
    rw [← hresult]
    exact hminus hname (.int word) []
  · have hrange : ¬InRange (-Int64.minValue.toInt) := by decide
    rw [← (negate_delivers state.names Int64.minValue).overflow hrange]
    exact hminus hname (.int Int64.minValue) []
  · have hjoined := foldlM_str state.names.push values ""
    rw [funext (Value.display_push state.names)] at hjoined
    rw [String.join, ← hjoined]
    have hstr := str_settles hoffers values
    simp only [Value.display_push] at hstr
    exact comesTo_of_settles Library.str hname (by simp [described]) rfl hstr

end

open scoped Pattern

/-- Once the library is loaded: a sum whose second part is out of range, and texts that are put
together. -/
theorem variadicOperators_compute_loaded :
    ∃ seen state, Reachable seen state ∧ Resolves state .global variadicNames ∧
      Resolves state .global [⟨"+"⟩] ∧ Resolves state .global [⟨"str"⟩] ∧
      ComesTo state ⟨"+"⟩ ([Int64.maxValue, 1, -1].map .int) (.error (.overflow "+")) ∧
      ComesTo state ⟨"str"⟩ [.str "a", .keyword "b"] (.ok (.str "ab")) := by
  have hnames : variadicNames ++ [⟨"+"⟩, ⟨"str"⟩] ⊆
      described.map Definition.name ++ initialNames := by decide
  obtain ⟨seen, state, hreachable, hall⟩ := exists_reachable_resolves hnames
  have hresolves : Resolves state .global variadicNames :=
    fun name hname => hall name (List.mem_append_left _ hname)
  have hadd : Resolves state .global [⟨"+"⟩] :=
    fun name hname => hall name (List.mem_append_right _ (by simp_all))
  have hstr : Resolves state .global [⟨"str"⟩] :=
    fun name hname => hall name (List.mem_append_right _ (by simp_all))
  have hoperators : VariadicOperators state := variadicOperators_compute hresolves
  obtain ⟨outcome, hcomes, haccumulates⟩ :=
    hoperators.add hadd [Int64.maxValue, 1, -1] (List.cons_ne_nil _ _)
  have hlost : ¬InRange (total [Int64.maxValue, 1]) := by decide
  rw [haccumulates.overflow ⟨[Int64.maxValue, 1], List.cons_ne_nil _ _, by decide, hlost⟩] at hcomes
  exact ⟨seen, state, hreachable, hresolves, hadd, hstr, hcomes,
    hoperators.str hstr [.str "a", .keyword "b"]⟩

end Library

end Lisplet
