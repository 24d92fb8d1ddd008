namespace Lisplet.StringLiteral

/-! String literals. One table of escapes serves reading and writing; any other pair of a backslash
and a character stands for itself. -/

/-- The character after the backslash, and the one the pair stands for. -/
def escapes : List (Char × Char) :=
  [('\\', '\\'), ('"', '"'), ('n', '\n'), ('t', '\t')]

def unescape? (letter : Char) : Option Char :=
  escapes.lookup letter

def escape? (c : Char) : Option Char :=
  (escapes.find? (·.2 = c)).map (·.1)

def writeChar (c : Char) : List Char :=
  match escape? c with
  | some letter => ['\\', letter]
  | none => [c]

def writeBody (text : List Char) : List Char :=
  text.flatMap writeChar

def write (text : String) : String :=
  String.ofList ('"' :: writeBody text.toList ++ ['"'])

def readPair (letter : Char) : List Char :=
  match unescape? letter with
  | some c => [c]
  | none => ['\\', letter]

/-- What stands before the closing quote, and what follows it. -/
def readBody : List Char → Option (List Char × List Char)
  | [] => none
  | '"' :: rest => some ([], rest)
  | ['\\'] => none
  | '\\' :: letter :: rest => (readBody rest).map fun (text, rest) => (readPair letter ++ text, rest)
  | c :: rest => (readBody rest).map fun (text, rest) => (c :: text, rest)

theorem unescape?_of_mem : ∀ pair ∈ escapes, unescape? pair.1 = some pair.2 := by
  decide

theorem escape?_eq_some {c letter : Char} (h : escape? c = some letter) :
    unescape? letter = some c := by
  obtain ⟨pair, hfind, rfl⟩ := Option.map_eq_some_iff.mp h
  have hc : pair.2 = c := by simpa using List.find?_some hfind
  rw [← hc]
  exact unescape?_of_mem pair (List.mem_of_find?_eq_some hfind)

theorem escape?_eq_none {c : Char} (h : escape? c = none) : c ≠ '"' ∧ c ≠ '\\' := by
  constructor <;> (rintro rfl; revert h; decide)

theorem readBody_writeBody (text rest : List Char) :
    readBody (writeBody text ++ '"' :: rest) = some (text, rest) := by
  induction text with
  | nil => rfl
  | cons c text ih =>
      simp only [writeBody, List.flatMap_cons, List.append_assoc, writeChar] at ih ⊢
      split
      next letter h =>
        simp [readBody, ih, readPair, escape?_eq_some h]
      next h =>
        obtain ⟨_, hbackslash⟩ := escape?_eq_none h
        simp [readBody, ih, hbackslash]

end Lisplet.StringLiteral
