import Lisplet.Proofs.Evaluation.Frames
import Lisplet.Proofs.Evaluation.Law

namespace Lisplet

/-! Parameter lists: which are accepted, how many arguments a call takes, and what it binds. -/

namespace Parameters

theorem symbolsOf_map_symbol (symbols : List Symbol) :
    symbolsOf (symbols.map .symbol) = .ok symbols := by
  induction symbols with
  | nil => rfl
  | cons symbol rest ih =>
      rw [List.map_cons, symbolsOf, ih]
      rfl

theorem eq_map_symbol {values : List Value} {symbols : List Symbol}
    (h : symbolsOf values = .ok symbols) : values = symbols.map .symbol := by
  fun_induction symbolsOf values generalizing symbols with
  | case1 =>
      cases h
      rfl
  | case2 symbol rest ih =>
      cases hrest : symbolsOf rest with
      | error error =>
          rw [hrest] at h
          cases h
      | ok others =>
          rw [hrest] at h
          cases h
          rw [ih hrest, List.map_cons]
  | case3 => cases h

theorem count_ampersand_eq_one_iff {front : List Symbol} {last : Symbol} :
    (front ++ [Symbol.ampersand, last]).count Symbol.ampersand = 1 ↔
      Symbol.ampersand ∉ front ∧ last ≠ Symbol.ampersand := by
  rw [List.count_append, List.count_cons_self, ← List.count_eq_zero]
  by_cases hlast : last = Symbol.ampersand
  · simp [hlast]
  · simp [hlast]

theorem ofSymbols_eq_ok_iff {symbols : List Symbol} {parameters : Parameters} :
    ofSymbols symbols = .ok parameters ↔
      symbols = parameters.symbols ∧ Symbol.ampersand ∉ parameters.positional ∧
        parameters.others ≠ some Symbol.ampersand := by
  constructor
  · intro h
    rw [ofSymbols] at h
    split at h
    · rename_i hcount
      cases h
      exact ⟨rfl, List.count_eq_zero.mp hcount, nofun⟩
    · rename_i hcount
      split at h
      · rename_i others marker positional hreverse
        split at h
        · rename_i hmarker
          cases h
          have hsymbols : symbols = positional.reverse ++ [Symbol.ampersand, others] := by
            rw [← List.reverse_reverse symbols, hreverse, hmarker]
            simp
          rw [hsymbols, count_ampersand_eq_one_iff] at hcount
          exact ⟨hsymbols, hcount.1, fun heq => hcount.2 (Option.some.inj heq)⟩
        · cases h
      · cases h
    · cases h
  · obtain ⟨positional, others⟩ := parameters
    rintro ⟨rfl, hpositional, hothers⟩
    cases others with
    | none => simp [ofSymbols, Parameters.symbols, List.count_eq_zero.mpr hpositional]
    | some others =>
        have hcount : (positional ++ [Symbol.ampersand, others]).count Symbol.ampersand = 1 :=
          count_ampersand_eq_one_iff.mpr ⟨hpositional, fun heq => hothers (congrArg some heq)⟩
        simp [ofSymbols, Parameters.symbols, hcount]

theorem ofValue_eq_ok_iff {value : Value} {parameters : Parameters} :
    ofValue value = .ok parameters ↔
      value = .ofList (parameters.symbols.map .symbol) ∧
        Symbol.ampersand ∉ parameters.positional ∧
          parameters.others ≠ some Symbol.ampersand := by
  constructor
  · intro h
    rw [ofValue] at h
    split at h
    · cases h
    · rename_i items hitems
      split at h
      · rename_i symbols hsymbols
        obtain ⟨rfl, hampersand⟩ := ofSymbols_eq_ok_iff.mp h
        rw [Value.toList?_eq_some_iff.mp hitems, eq_map_symbol hsymbols]
        exact ⟨rfl, hampersand⟩
      · cases h
  · rintro ⟨rfl, hampersand⟩
    rw [ofValue, Value.toList?_ofList]
    simp only [symbolsOf_map_symbol]
    exact ofSymbols_eq_ok_iff.mpr ⟨rfl, hampersand⟩

theorem ofValue_symbols {value : Value} {parameters : Parameters}
    (h : ofValue value = .ok parameters) :
    ofValue (.ofList (parameters.symbols.map .symbol)) = .ok parameters :=
  ofValue_eq_ok_iff.mpr ⟨rfl, (ofValue_eq_ok_iff.mp h).2⟩

def IsMarked (symbols : List Symbol) : Prop :=
  symbols.count Symbol.ampersand ≤ 1 ∧
    (symbols.count Symbol.ampersand = 1 →
      ∃ front last, symbols = front ++ [Symbol.ampersand, last])

theorem exists_ofSymbols_eq_ok_iff {symbols : List Symbol} :
    (∃ parameters, ofSymbols symbols = .ok parameters) ↔ IsMarked symbols := by
  constructor
  · rintro ⟨⟨positional, others⟩, h⟩
    obtain ⟨rfl, hpositional, hothers⟩ := ofSymbols_eq_ok_iff.mp h
    cases others with
    | none => simp [IsMarked, Parameters.symbols, List.count_eq_zero.mpr hpositional]
    | some others =>
        refine ⟨Nat.le_of_eq ?_, fun _ => ⟨positional, others, rfl⟩⟩
        exact count_ampersand_eq_one_iff.mpr
          ⟨hpositional, fun heq => hothers (congrArg some heq)⟩
  · rintro ⟨hcount, hmarked⟩
    rcases Nat.le_one_iff_eq_zero_or_eq_one.mp hcount with hnone | hone
    · exact ⟨⟨symbols, none⟩, ofSymbols_eq_ok_iff.mpr ⟨rfl, List.count_eq_zero.mp hnone, nofun⟩⟩
    · obtain ⟨front, last, rfl⟩ := hmarked hone
      obtain ⟨hfront, hlast⟩ := count_ampersand_eq_one_iff.mp hone
      exact ⟨⟨front, some last⟩, ofSymbols_eq_ok_iff.mpr
        ⟨rfl, hfront, fun heq => hlast (Option.some.inj heq)⟩⟩

end Parameters

namespace Parameters

variable {parameters : Parameters} {arguments : List Value} {name : Symbol}

/-- The number of arguments is right: as many as there are parameters by position, or more if
another parameter takes the rest. -/
def Fits (parameters : Parameters) (count : Nat) : Prop :=
  match parameters.others with
  | none => count = parameters.positional.length
  | some _ => parameters.positional.length ≤ count

theorem admits_arity_iff {count : Nat} :
    parameters.arity.Admits count ↔ parameters.Fits count := by
  obtain ⟨positional, others⟩ := parameters
  cases others <;> simp [arity, Fits]

theorem Fits.le {count : Nat} (h : parameters.Fits count) :
    parameters.positional.length ≤ count := by
  rw [Fits] at h
  split at h
  · exact Nat.le_of_eq h.symm
  · exact h

theorem get?_frame_others (h : parameters.others = some name) (arguments : List Value) :
    (parameters.frame arguments).get? name =
      some (.ofList (arguments.drop parameters.positional.length)) := by
  rw [frame, h, Frame.get?_insert_self]

theorem get?_frame_positional (h : parameters.others ≠ some name) (arguments : List Value) :
    (parameters.frame arguments).get? name =
      (parameters.positional.zip arguments).reverse.lookup name := by
  obtain ⟨positional, others⟩ := parameters
  cases others with
  | none => exact Frame.get?_ofPairs_eq_lookup _ _
  | some others =>
      have hname : name ≠ others := fun heq => h (congrArg some heq.symm)
      rw [frame, Frame.get?_insert, if_neg hname]
      exact Frame.get?_ofPairs_eq_lookup _ _

theorem get?_frame_eq_none (hpositional : name ∉ parameters.positional)
    (hothers : parameters.others ≠ some name) (arguments : List Value) :
    (parameters.frame arguments).get? name = none := by
  rw [get?_frame_positional hothers, List.lookup_eq_none_iff]
  intro pair hpair
  have hname : name ≠ pair.1 := by
    rintro rfl
    exact hpositional (List.of_mem_zip (List.mem_reverse.mp hpair)).1
  simpa using hname

theorem get?_frame_of_not_mem (h : name ∉ parameters.symbols) (arguments : List Value) :
    (parameters.frame arguments).get? name = none := by
  obtain ⟨positional, others⟩ := parameters
  cases others with
  | none => exact get?_frame_eq_none h nofun arguments
  | some others =>
      simp only [symbols, List.mem_append, List.mem_cons, List.not_mem_nil, or_false, not_or] at h
      exact get?_frame_eq_none h.1 (fun heq => h.2.2 (Option.some.inj heq).symm) arguments

theorem lookup_reverse_zip {keys : List Symbol} {values : List Value} {index : Nat} {value : Value}
    (hkey : keys[index]? = some name) (hvalue : values[index]? = some value)
    (hlast : ∀ later, index < later → keys[later]? ≠ some name) :
    (keys.zip values).reverse.lookup name = some value := by
  -- The pairs with the later keys are searched before the one of the first key.
  induction keys generalizing values index with
  | nil => cases hkey
  | cons key keys ih =>
      cases values with
      | nil => cases hvalue
      | cons first values =>
          rw [List.zip_cons_cons, List.reverse_cons, List.lookup_append]
          cases index with
          | succ index =>
              rw [ih hkey hvalue fun later hlater => hlast (later + 1) (Nat.succ_lt_succ hlater),
                Option.some_or]
          | zero =>
              cases hkey
              cases hvalue
              have hnone : (keys.zip values).reverse.lookup name = none := by
                refine List.lookup_eq_none_iff.mpr fun pair hpair => ?_
                have hmem := (List.of_mem_zip (List.mem_reverse.mp hpair)).1
                obtain ⟨later, hlater⟩ := List.getElem?_of_mem hmem
                have hname : name ≠ pair.1 := by
                  rintro rfl
                  exact hlast (later + 1) (Nat.succ_pos later) hlater
                simpa using hname
              simp [hnone]

/-- What a frame binds when the parameters are given as many arguments as they take. -/
structure Binds (parameters : Parameters) (arguments : List Value) (frame : Frame) : Prop where
  others : ∀ {name : Symbol}, parameters.others = some name →
    frame.get? name = some (.ofList (arguments.drop parameters.positional.length))
  /-- Where a name is repeated, its last occurrence counts. -/
  positional : ∀ {name : Symbol} {index : Nat}, parameters.others ≠ some name →
    parameters.positional[index]? = some name →
      (∀ later, index < later → parameters.positional[later]? ≠ some name) →
        ∃ argument, arguments[index]? = some argument ∧ frame.get? name = some argument
  nothingElse : ∀ {name : Symbol}, name ∉ parameters.positional → parameters.others ≠ some name →
    frame.get? name = none
  distinct : (parameters.positional ++ parameters.others.toList).Nodup →
    ∃ values more, parameters.positional.map frame.get? = values.map some ∧
      (∀ name, parameters.others = some name → frame.get? name = some (.ofList more)) ∧
        (parameters.others = none → more = []) ∧ values ++ more = arguments

theorem Fits.exists_argument (h : parameters.Fits arguments.length) {index : Nat}
    (hothers : parameters.others ≠ some name) (hname : parameters.positional[index]? = some name)
    (hlast : ∀ later, index < later → parameters.positional[later]? ≠ some name) :
    ∃ argument, arguments[index]? = some argument ∧
      (parameters.frame arguments).get? name = some argument := by
  obtain ⟨hindex, -⟩ := List.getElem?_eq_some_iff.mp hname
  have hargument := List.getElem?_eq_getElem (Nat.lt_of_lt_of_le hindex h.le)
  refine ⟨_, hargument, ?_⟩
  rw [get?_frame_positional hothers, lookup_reverse_zip hname hargument hlast]

theorem Fits.map_get? (h : parameters.Fits arguments.length)
    (hnodup : (parameters.positional ++ parameters.others.toList).Nodup) :
    parameters.positional.map (parameters.frame arguments).get? =
      (arguments.take parameters.positional.length).map some := by
  rw [List.nodup_append] at hnodup
  refine List.ext_getElem? fun index => ?_
  rw [List.getElem?_map, List.getElem?_map, List.getElem?_take]
  cases hname : parameters.positional[index]? with
  | none => simp [Nat.not_lt.mpr (List.getElem?_eq_none_iff.mp hname)]
  | some name =>
      obtain ⟨hindex, -⟩ := List.getElem?_eq_some_iff.mp hname
      have hothers : parameters.others ≠ some name := fun heq =>
        hnodup.2.2 name (List.mem_of_getElem? hname) name (by simp [heq]) rfl
      have hlast : ∀ later, index < later → parameters.positional[later]? ≠ some name := by
        intro later hlater hagain
        have hsame := (List.getElem?_inj hindex hnodup.1).mp (hname.trans hagain.symm)
        exact Nat.ne_of_lt hlater hsame
      obtain ⟨argument, hargument, hget⟩ := h.exists_argument hothers hname hlast
      rw [if_pos hindex, hargument, Option.map_some, Option.map_some, hget]

theorem Fits.binds (h : parameters.Fits arguments.length) :
    parameters.Binds arguments (parameters.frame arguments) where
  others hname := get?_frame_others hname arguments
  positional := h.exists_argument
  nothingElse hname hothers := get?_frame_eq_none hname hothers arguments
  distinct hnodup := by
    refine ⟨_, arguments.drop parameters.positional.length, h.map_get? hnodup,
      fun _ hname => get?_frame_others hname arguments, fun hnone => ?_, List.take_append_drop _ _⟩
    rw [Fits, hnone] at h
    exact List.drop_eq_nil_of_le (Nat.le_of_eq h)

example (first second third : Value) :
    let frame := Parameters.frame ⟨[⟨"a"⟩, ⟨"a"⟩], some ⟨"b"⟩⟩ [first, second, third]
    frame.get? ⟨"a"⟩ = some second ∧ frame.get? ⟨"b"⟩ = some (.ofList [third]) :=
  ⟨rfl, rfl⟩

end Parameters

namespace Closure

variable {closure : Closure} {arguments : List Value}

theorem invoke_of_not_fits (h : ¬ closure.parameters.Fits arguments.length)
    (eval : Environment → Value → Eval Value) (state : State) :
    closure.invoke eval arguments state =
      .error (.error (.wrongArity (closure.callName state.names) closure.parameters.arity
        arguments.length)) state := by
  have hget : (get : Eval State) state = .ok state state := rfl
  refine (Eval.bind_ok hget).trans (Eval.bind_error ?_)
  rw [Eval.checkArity, if_neg (mt Parameters.admits_arity_iff.mp h)]
  rfl

theorem invoke_of_fits (h : closure.parameters.Fits arguments.length)
    (eval : Environment → Value → Eval Value) (state : State) :
    let entered := state.store.extend closure.scope (closure.parameters.frame arguments)
    closure.invoke eval arguments state =
      evalAll (eval entered.1) .nil closure.body.items { state with store := entered.2 } := by
  have hget : (get : Eval State) state = .ok state state := rfl
  have hchecked : Eval.checkArity (closure.callName state.names) closure.parameters.arity
      arguments.length state = .ok () state := by
    rw [Eval.checkArity, if_pos (Parameters.admits_arity_iff.mpr h)]
    rfl
  exact (Eval.bind_ok hget).trans ((Eval.bind_ok hchecked).trans (Eval.bind_ok rfl))

theorem evalAll_nil (values : List Value) (state : State) :
    evalAll (fun _ => pure .nil) .nil values state = .ok .nil state := by
  induction values with
  | nil => rfl
  | cons value rest ih => exact (Eval.bind_ok rfl).trans ih

/-- A call with a wrong number of arguments fails and does nothing, whatever evaluates the body. Any
other runs the body where a new frame with the parameters is in front of the scope of the
closure. -/
structure Invokes (closure : Closure) (arguments : List Value) : Prop where
  refused : ∀ state : State,
    (∀ eval, closure.invoke eval arguments state =
      .error (.error (.wrongArity (closure.callName state.names) closure.parameters.arity
        arguments.length)) state) ↔ ¬ closure.parameters.Fits arguments.length
  entered : closure.parameters.Fits arguments.length → ∀ eval (state : State),
    let entered := state.store.extend closure.scope (closure.parameters.frame arguments)
    closure.invoke eval arguments state =
      evalAll (eval entered.1) .nil closure.body.items { state with store := entered.2 }
  bound : closure.parameters.Fits arguments.length →
    closure.parameters.Binds arguments (closure.parameters.frame arguments)
  seen : ∀ state : State, (∀ index ∈ closure.scope.locals, index < state.store.locals.size) →
    let entered := state.store.extend closure.scope (closure.parameters.frame arguments)
    ∀ name, entered.2.get? entered.1 name =
      ((closure.parameters.frame arguments).get? name).or (state.store.get? closure.scope name)

theorem invokes (closure : Closure) (arguments : List Value) : closure.Invokes arguments where
  refused state := by
    refine ⟨fun hrefused hfits => ?_, fun h eval => invoke_of_not_fits h eval state⟩
    have hrun := (hrefused fun _ _ => pure .nil).symm.trans (invoke_of_fits hfits _ state)
    cases hrun.trans (evalAll_nil closure.body.items _)
  entered := invoke_of_fits
  bound h := h.binds
  seen _ hframes name := Store.get?_extend_new hframes _ name

/-- What is accepted as a parameter list, what it is taken apart into, and how every call of a
closure with such parameters binds its arguments. -/
theorem parameters_bind (list : Value) (closure : Closure) (arguments : List Value) :
    ((∃ parameters, Parameters.ofValue list = .ok parameters) ↔
      ∃ symbols, list = .ofList (symbols.map .symbol) ∧ Parameters.IsMarked symbols) ∧
    (∀ parameters, Parameters.ofValue list = .ok parameters ↔
      list = .ofList (parameters.symbols.map .symbol) ∧
        Symbol.ampersand ∉ parameters.positional ∧
          parameters.others ≠ some Symbol.ampersand) ∧
    closure.Invokes arguments := by
  refine ⟨?_, fun parameters => Parameters.ofValue_eq_ok_iff, closure.invokes arguments⟩
  constructor
  · rintro ⟨parameters, h⟩
    obtain ⟨hlist, hampersand⟩ := Parameters.ofValue_eq_ok_iff.mp h
    exact ⟨_, hlist, Parameters.exists_ofSymbols_eq_ok_iff.mp
      ⟨parameters, Parameters.ofSymbols_eq_ok_iff.mpr ⟨rfl, hampersand⟩⟩⟩
  · rintro ⟨symbols, rfl, hmarked⟩
    obtain ⟨parameters, h⟩ := Parameters.exists_ofSymbols_eq_ok_iff.mpr hmarked
    obtain ⟨rfl, hampersand⟩ := Parameters.ofSymbols_eq_ok_iff.mp h
    exact ⟨parameters, Parameters.ofValue_eq_ok_iff.mpr ⟨rfl, hampersand⟩⟩

end Closure

end Lisplet
