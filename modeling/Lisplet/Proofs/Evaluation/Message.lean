import Lisplet.Proofs.Evaluation.History

namespace Lisplet

/-! Messages. Only lists that are put together have parts of other values in them. -/

/-- The result has no closure in it, and a failure no value. -/
def IsFlat : Except Error Value → Prop
  | .ok value => value.closures = []
  | .error error => error.values = []

namespace IsFlat

theorem ok {value : Value} (h : value.closures = []) : IsFlat (.ok value) := h

theorem error {error : Error} (h : error.values = []) : IsFlat (.error error) := h

theorem exact (operation : String) (number : Option Int64) :
    IsFlat (Arithmetic.exact operation number) := by
  cases number with
  | some number => exact ok rfl
  | none => exact error rfl

theorem addNumbers (operation : String) (numbers : Arithmetic.Numbers) :
    IsFlat (Arithmetic.addNumbers operation numbers) := by
  cases numbers with
  | ints left right => exact exact _ _
  | floats left right => exact ok rfl

theorem bindNumbers {operation : String} {receiver argument : Value}
    {next : Arithmetic.Numbers → Except Error Value} (h : ∀ numbers, IsFlat (next numbers)) :
    IsFlat (Arithmetic.numbers operation receiver argument >>= next) := by
  unfold Arithmetic.numbers
  split
  · exact h _
  · exact error rfl

theorem ofNumbers {operation : String} {receiver argument : Value}
    {next : Arithmetic.Numbers → Except Error Value}
    (hints : ∀ left right, IsFlat (next (.ints left right)))
    (hfloats : ∀ left right, IsFlat (next (.floats left right))) :
    IsFlat (Arithmetic.numbers operation receiver argument >>= next) := by
  refine bindNumbers fun numbers => ?_
  cases numbers with
  | ints left right => exact hints left right
  | floats left right => exact hfloats left right

theorem quotientSteps {operation : String} {left right : Int64} {result : Except Error Value}
    (h : Arithmetic.quotientSteps operation left right = some result) : IsFlat result := by
  unfold Arithmetic.quotientSteps at h
  split at h
  · cases h
    exact error rfl
  · split at h
    · cases h
      exact error rfl
    · obtain ⟨remainder, _, h⟩ := Option.bind_eq_some_iff.mp h
      split at h
      · obtain ⟨lower, _, h⟩ := Option.bind_eq_some_iff.mp h
        cases h
        exact ok rfl
      · cases h
        exact ok rfl

theorem remainderSteps {left right : Int64} {result : Except Error Value}
    (h : Arithmetic.remainderSteps left right = some result) : IsFlat result := by
  unfold Arithmetic.remainderSteps at h
  split at h
  · cases h
    exact error rfl
  · obtain ⟨remainder, _, h⟩ := Option.bind_eq_some_iff.mp h
    split at h
    · obtain ⟨higher, _, h⟩ := Option.bind_eq_some_iff.mp h
      cases h
      exact ok rfl
    · cases h
      exact ok rfl

theorem subtract (operation : String) (receiver argument : Value) :
    IsFlat (Arithmetic.subtract operation receiver argument) :=
  ofNumbers (fun _ _ => exact _ _) fun _ _ => ok rfl

theorem multiply (operation : String) (receiver argument : Value) :
    IsFlat (Arithmetic.multiply operation receiver argument) :=
  ofNumbers (fun _ _ => exact _ _) fun _ _ => ok rfl

theorem divide (operation : String) (receiver argument : Value) :
    IsFlat (Arithmetic.divide operation receiver argument) :=
  ofNumbers (fun _ _ => quotientSteps (Option.some_get _).symm) fun _ _ => ok rfl

theorem modulo (operation : String) (receiver argument : Value) :
    IsFlat (Arithmetic.modulo operation receiver argument) :=
  ofNumbers (fun _ _ => remainderSteps (Option.some_get _).symm) fun _ _ => ok rfl

theorem test (holds : Ordering → Bool) (operation : String) (receiver argument : Value) :
    IsFlat (Arithmetic.test holds operation receiver argument) := by
  unfold Arithmetic.test Arithmetic.compare
  split
  · exact ok rfl
  · rw [bind_assoc]
    exact ofNumbers (fun _ _ => ok rfl) fun _ _ => ok rfl

theorem toInteger (operation : String) (receiver : Value) :
    IsFlat (Conversion.toInteger operation receiver) := by
  unfold Conversion.toInteger
  split
  · exact ok rfl
  · exact ok rfl
  · split
    · exact ok rfl
    · exact error rfl
  · split
    · exact ok rfl
    · exact error rfl
  · exact error rfl

theorem toFloat (operation : String) (receiver : Value) :
    IsFlat (Conversion.toFloat operation receiver) := by
  unfold Conversion.toFloat
  split
  · exact ok rfl
  · exact ok rfl
  · exact ok rfl
  · split
    · exact ok rfl
    · exact error rfl
  · exact error rfl

theorem length (operation : String) (receiver : Value) :
    IsFlat (Conversion.length operation receiver) := by
  unfold Conversion.length
  split
  · exact ok rfl
  · split
    · exact ok rfl
    · exact error rfl

theorem changeCase (convert : List Char → List Char) (operation : String) (receiver : Value) :
    IsFlat (Conversion.changeCase convert operation receiver) := by
  cases receiver with
  | str text => exact ok rfl
  | keyword name => exact ok rfl
  | _ => exact error rfl

variable [RegexEngine]

theorem match? (operation : String) (receiver argument : Value) :
    IsFlat (Conversion.match? operation receiver argument) := by
  have hstart : ∀ regex text, (Conversion.matchStart regex text).closures = [] := by
    intro regex text
    unfold Conversion.matchStart
    split <;> rfl
  unfold Conversion.match?
  split
  · exact ok (hstart _ _)
  · exact ok (hstart _ _)
  · exact error rfl

theorem unary {operation : Operation} {run : ClosureNames → Value → Except Error Value}
    (h : operation.meaning = .unary run) (names : ClosureNames) (receiver : Value) :
    IsFlat (run names receiver) := by
  cases operation <;> cases h
  case toText | inspect | isNil | typeName => exact ok rfl
  case toInteger => exact toInteger _ _
  case toFloat => exact toFloat _ _
  case length | size => exact length _ _
  case upcase | downcase => exact changeCase _ _ _

theorem binary {operation : Operation} {run : Value → Value → Except Error Value}
    (h : operation.meaning = .binary run) (hadd : operation ≠ .add) (receiver argument : Value) :
    IsFlat (run receiver argument) := by
  cases operation <;> cases h
  case add => exact absurd rfl hadd
  case subtract => exact subtract _ _ _
  case multiply => exact multiply _ _ _
  case divide => exact divide _ _ _
  case modulo => exact modulo _ _ _
  case less | lessEqual | greater | greaterEqual => exact test _ _ _ _
  case equal | unequal => exact ok rfl
  case locate => exact match? _ _ _

end IsFlat

namespace History

variable {history : History}

theorem shows_of_isFlat {result : Except Error Value} (h : IsFlat result) :
    history.Shows Knows result := by
  cases result with
  | ok value => exact knows_of_closures_eq_nil h
  | error error =>
      have hvalues : error.values = [] := h
      rw [Shows, hvalues]
      exact knowsAll_nil

theorem shows_add (operation : String) {receiver argument : Value}
    (hreceiver : history.Knows receiver) (hargument : history.Knows argument) :
    history.Shows Knows (Arithmetic.add operation receiver argument) := by
  unfold Arithmetic.add
  split
  · exact shows_of_isFlat (.ok rfl)
  · split
    · split
      · rename_i list hlist
        obtain ⟨_, _, happend⟩ := Option.bind_eq_some_iff.mp hlist
        obtain ⟨front, hfront, rfl⟩ := Option.map_eq_some_iff.mp happend
        exact knows_ofDotted.mpr ⟨knowsAll_toList? hreceiver hfront, hargument⟩
      · exact shows_of_isFlat (.error rfl)
    · exact shows_of_isFlat (.bindNumbers fun numbers => .addNumbers operation numbers)

variable [RegexEngine]

theorem shows_send (names : ClosureNames) (name : String) {receiver : Value}
    {arguments : List Value} (hreceiver : history.Knows receiver)
    (harguments : history.KnowsAll arguments) :
    history.Shows Knows (send names name receiver arguments) := by
  rw [send]
  cases hoperation : Operation.ofName? name with
  | none => exact shows_of_isFlat (.error rfl)
  | some operation =>
      simp only [Operation.perform]
      split
      · rename_i run hmeaning
        exact shows_of_isFlat (.unary hmeaning _ _)
      · rename_i run argument hmeaning
        by_cases hadd : operation = .add
        · subst hadd
          cases hmeaning
          exact shows_add _ hreceiver (harguments argument List.mem_cons_self)
        · exact shows_of_isFlat (.binary hmeaning hadd _ _)
      · exact shows_of_isFlat (.error rfl)
      · exact shows_of_isFlat (.error rfl)

end History

end Lisplet
