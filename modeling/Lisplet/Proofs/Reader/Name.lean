import Lisplet.Proofs.Number.Integer
import Lisplet.Proofs.Reader.Scanning

namespace Lisplet.Reader

/-! Which names a symbol and a keyword can be given by their spelling. -/

def startsNumber : List Char → Bool
  | [] => false
  | c :: rest =>
      NumberText.isDigit c || ((c = '+' || c = '-') && rest.head?.any NumberText.isDigit)

/-- The characters that begin something other than a symbol. -/
def isMark (c : Char) : Bool :=
  ['(', '"', ':', '\'', '\x60', '~', ',', ';', '/', '%'].contains c

/-- The names that begin with a mark all the same: the lone slash, names that are qualified by a
double colon, and a percent sign that opens no regular expression. -/
def isMarkedName (name : List Char) : Bool :=
  name == ['/'] || [':', ':'].isPrefixOf name ||
    (['%'].isPrefixOf name && !(['%', 'r', '\x7b'].isPrefixOf name))

structure IsSymbolName (name : List Char) : Prop where
  nonempty : name ≠ []
  token : ∀ c ∈ name, isTokenChar c = true
  not_literal : name ∉ [['n', 'i', 'l'], ['t', 'r', 'u', 'e'], ['f', 'a', 'l', 's', 'e']]
  not_dot : name ≠ ['.']
  not_number : startsNumber name = false
  marked : name.head?.any isMark = true → isMarkedName name = true

structure IsKeywordName (name : List Char) : Prop where
  nonempty : name ≠ []
  token : ∀ c ∈ name, isTokenChar c = true
  not_qualified : name.head? ≠ some ':'

theorem isSymbolName_iff {name : List Char} :
    IsSymbolName name ↔ name ≠ [] ∧ name.all isTokenChar = true ∧
      [['n', 'i', 'l'], ['t', 'r', 'u', 'e'], ['f', 'a', 'l', 's', 'e']].contains name = false ∧
      name ≠ ['.'] ∧ startsNumber name = false ∧
      (name.head?.any isMark = true → isMarkedName name = true) := by
  rw [List.all_eq_true, ← Bool.not_eq_true, List.contains_iff_mem]
  constructor
  · intro h
    exact ⟨h.nonempty, h.token, h.not_literal, h.not_dot, h.not_number, h.marked⟩
  · intro h
    exact ⟨h.1, h.2.1, h.2.2.1, h.2.2.2.1, h.2.2.2.2.1, h.2.2.2.2.2⟩

instance (name : List Char) : Decidable (IsSymbolName name) :=
  decidable_of_iff _ isSymbolName_iff.symm

theorem isKeywordName_iff {name : List Char} :
    IsKeywordName name ↔
      name ≠ [] ∧ name.all isTokenChar = true ∧ name.head? ≠ some ':' := by
  rw [List.all_eq_true]
  constructor
  · intro h
    exact ⟨h.nonempty, h.token, h.not_qualified⟩
  · intro h
    exact ⟨h.1, h.2.1, h.2.2⟩

instance (name : List Char) : Decidable (IsKeywordName name) :=
  decidable_of_iff _ isKeywordName_iff.symm

theorem atomOfToken_of_not_literal {token : List Char}
    (h : token ∉ [['n', 'i', 'l'], ['t', 'r', 'u', 'e'], ['f', 'a', 'l', 's', 'e']]) :
    atomOfToken token = .symbol ⟨String.ofList token⟩ := by
  have hname : ∀ name : String, String.ofList token = name → token = name.toList := by
    intro name heq
    rw [← heq, String.toList_ofList]
  simp only [List.mem_cons, List.not_mem_nil, or_false, not_or] at h
  unfold atomOfToken
  split
  next heq => exact absurd (hname _ heq) h.1
  next heq => exact absurd (hname _ heq) h.2.1
  next heq => exact absurd (hname _ heq) h.2.2
  next => rfl

theorem startsNumber_ofInt (value : Int64) :
    startsNumber (NumberText.ofInt value).toList = true := by
  rw [NumberText.toList_ofInt]
  cases hdigits : Nat.toDigits 10 value.toInt.natAbs with
  | nil => exact absurd hdigits Nat.toDigits_ne_nil
  | cons c rest =>
      have hc : NumberText.isDigit c = true :=
        NumberText.isDigit_of_mem_toDigits (n := value.toInt.natAbs) (by simp [hdigits])
      split <;> simp [startsNumber, hc]

end Lisplet.Reader
