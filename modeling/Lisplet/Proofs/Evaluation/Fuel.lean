import Lisplet.Proofs.Evaluation.Law

namespace Lisplet.Eval

/-! More layers change nothing for a computation that had enough of them. -/

def AgreesUnlessDeeper (computation deeper : Eval α) : Prop :=
  ∀ state, (∃ after, computation state = .error .outOfFuel after) ∨
    deeper state = computation state

namespace AgreesUnlessDeeper

theorem refl (computation : Eval α) : AgreesUnlessDeeper computation computation :=
  fun _ => .inr rfl

theorem bind {first first' : Eval α} {next next' : α → Eval β}
    (hfirst : AgreesUnlessDeeper first first')
    (hnext : ∀ value, Returns first value → AgreesUnlessDeeper (next value) (next' value)) :
    AgreesUnlessDeeper (first >>= next) (first' >>= next') := by
  intro state
  rcases hfirst state with ⟨after, hdeeper⟩ | hsame
  · exact .inl ⟨after, bind_error hdeeper⟩
  · cases hrun : first state with
    | error halt after =>
        rw [hrun] at hsame
        exact .inr ((bind_error hsame).trans (bind_error hrun).symm)
    | ok value middle =>
        rw [hrun] at hsame
        rw [bind_ok hrun, bind_ok hsame]
        exact hnext value ⟨state, middle, hrun⟩ middle

theorem ok {computation deeper : Eval α} (h : AgreesUnlessDeeper computation deeper)
    {state after : State} {value : α} (hrun : computation state = .ok value after) :
    deeper state = .ok value after := by
  rcases h state with ⟨_, hdeeper⟩ | hsame
  · rw [hrun] at hdeeper
    cases hdeeper
  · exact hsame.trans hrun

end AgreesUnlessDeeper

def fuelLaw : Law where
  Holds := AgreesUnlessDeeper
  Marks _ _ := True
  pure _ := .refl _
  throw _ := .refl _
  bind := .bind
  get _ _ hnext := fun state => hnext state state
  applying _ hbody := .bind (.refl _) fun _ _ => .bind hbody fun _ _ => .refl _
  print _ := .refl _
  intern _ := .refl _
  recordLoad _ := .refl _
  define _ _ := .refl _
  assign _ _ _ := .refl _
  extend _ _ := .refl _
  newClosure _ _ _ _ := .refl _
  nameClosure _ _ := .refl _

theorem fuelLaw_respects [RegexEngine] {fuel fuel' : Nat} (hle : fuel ≤ fuel') :
    fuelLaw.Respects (Evaluator.layers fuel) (Evaluator.layers fuel') := by
  induction fuel generalizing fuel' with
  | zero =>
      exact ⟨fun _ _ state => .inl ⟨state, rfl⟩, fun _ _ state => .inl ⟨state, rfl⟩,
        fun _ _ _ _ _ => trivial⟩
  | succ fuel ih =>
      cases fuel' with
      | zero => omega
      | succ fuel' =>
          have hinner := ih (Nat.le_of_succ_le_succ hle)
          exact ⟨fun environment value => Law.evalValue hinner environment value,
            fun callable arguments => Law.applyValue hinner callable arguments,
            fun _ _ _ _ _ => trivial⟩

def Steady (family : Nat → Eval α) : Prop :=
  ∀ fuel fuel', fuel ≤ fuel' → AgreesUnlessDeeper (family fuel) (family fuel')

def Eventually (family : Nat → Eval α) (state : State) (value : α) (after : State) : Prop :=
  ∃ fuel, family fuel state = .ok value after

theorem steady_evalAt [RegexEngine] (environment : Environment) (datum : Value) :
    Steady fun fuel => Evaluator.evalAt fuel environment datum :=
  fun _ _ hle => (fuelLaw_respects hle).eval environment datum

theorem steady_const (computation : Eval α) : Steady fun _ => computation :=
  fun _ _ _ => .refl computation

theorem Steady.bind {first : Nat → Eval α} {next : Nat → α → Eval β} (hfirst : Steady first)
    (hnext : ∀ value, Steady fun fuel => next fuel value) :
    Steady fun fuel => first fuel >>= next fuel :=
  fun fuel fuel' hle => .bind (hfirst fuel fuel' hle) fun value _ => hnext value fuel fuel' hle

theorem Steady.map {family : Nat → Eval α} (h : Steady family) (f : α → β) :
    Steady fun fuel => family fuel >>= fun value => pure (f value) :=
  h.bind fun _ => steady_const _

theorem Steady.ite {family other : Nat → Eval α} (h : Steady family) (h' : Steady other)
    (condition : Prop) [Decidable condition] :
    Steady fun fuel => if condition then family fuel else other fuel := by
  split
  · exact h
  · exact h'

section Eventually

variable {family : Nat → Eval α} {state after : State} {value : α}

theorem eventually_const {computation : Eval α} :
    Eventually (fun _ => computation) state value after ↔ computation state = .ok value after :=
  ⟨fun ⟨_, h⟩ => h, fun h => ⟨0, h⟩⟩

theorem eventually_pure {result : α} :
    Eventually (fun _ => pure result) state value after ↔ value = result ∧ after = state := by
  rw [eventually_const]
  constructor
  · intro h
    cases h
    exact ⟨rfl, rfl⟩
  · rintro ⟨rfl, rfl⟩
    rfl

theorem eventually_ofOption {error : Error} {option : Option α} :
    Eventually (fun _ => ofOption error option) state value after ↔
      option = some value ∧ after = state := by
  cases option with
  | none =>
      constructor
      · rintro ⟨_, h⟩
        cases h
      · rintro ⟨h, _⟩
        cases h
  | some result =>
      refine eventually_pure.trans ?_
      rw [Option.some.injEq, eq_comm]

theorem Eventually.unique (hsteady : Steady family) {value' : α} {after' : State}
    (h : Eventually family state value after) (h' : Eventually family state value' after') :
    value' = value ∧ after' = after := by
  obtain ⟨fuel, hrun⟩ := h
  obtain ⟨fuel', hrun'⟩ := h'
  have hdeep := (hsteady _ _ (Nat.le_max_left fuel fuel')).ok hrun
  have hdeep' := (hsteady _ _ (Nat.le_max_right fuel fuel')).ok hrun'
  cases hdeep.symm.trans hdeep'
  exact ⟨rfl, rfl⟩

theorem eventually_add (hsteady : Steady family) (count : Nat) :
    Eventually (fun fuel => family (fuel + count)) state value after ↔
      Eventually family state value after := by
  constructor
  · rintro ⟨fuel, hrun⟩
    exact ⟨fuel + count, hrun⟩
  · rintro ⟨fuel, hrun⟩
    exact ⟨fuel, (hsteady _ _ (Nat.le_add_right fuel count)).ok hrun⟩

theorem eventually_bind {next : Nat → α → Eval β} {result : β} (hfamily : Steady family)
    (hnext : ∀ value, Steady fun fuel => next fuel value) :
    Eventually (fun fuel => family fuel >>= next fuel) state result after ↔
      ∃ value middle, Eventually family state value middle ∧
        Eventually (fun fuel => next fuel value) middle result after := by
  constructor
  · rintro ⟨fuel, hrun⟩
    cases hfirst : family fuel state with
    | error halt middle => cases (bind_error hfirst).symm.trans hrun
    | ok value middle =>
        exact ⟨value, middle, ⟨fuel, hfirst⟩, fuel, (bind_ok hfirst).symm.trans hrun⟩
  · rintro ⟨value, middle, ⟨fuel, hfirst⟩, fuel', hlast⟩
    have hdeep := (hfamily _ _ (Nat.le_max_left fuel fuel')).ok hfirst
    have hdeeper := (hnext value _ _ (Nat.le_max_right fuel fuel')).ok hlast
    exact ⟨max fuel fuel', (bind_ok hdeep).trans hdeeper⟩

theorem eventually_map {f : α → β} {result : β} (hfamily : Steady family) :
    Eventually (fun fuel => family fuel >>= fun value => pure (f value)) state result after ↔
      ∃ value, Eventually family state value after ∧ result = f value := by
  refine (eventually_bind hfamily fun value => steady_const (pure (f value))).trans ?_
  constructor
  · rintro ⟨value, middle, hvalue, hresult⟩
    obtain ⟨rfl, rfl⟩ := eventually_pure.mp hresult
    exact ⟨value, hvalue, rfl⟩
  · rintro ⟨value, hvalue, rfl⟩
    exact ⟨value, after, hvalue, eventually_pure.mpr ⟨rfl, rfl⟩⟩

end Eventually

end Lisplet.Eval
