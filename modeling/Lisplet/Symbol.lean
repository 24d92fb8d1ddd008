namespace Lisplet

/-! Symbols are compared by name alone, so a table only has to remember which names were met. -/

structure Symbol where
  name : String
deriving DecidableEq, Inhabited, Repr

/-- The symbols met so far, each once, newest first. -/
structure SymbolTable where
  symbols : List Symbol
  nodup : symbols.Nodup

namespace SymbolTable

def empty : SymbolTable :=
  ⟨[], .nil⟩

def size (table : SymbolTable) : Nat :=
  table.symbols.length

def contains (table : SymbolTable) (symbol : Symbol) : Bool :=
  decide (symbol ∈ table.symbols)

def intern (table : SymbolTable) (symbol : Symbol) : SymbolTable :=
  if h : symbol ∈ table.symbols then table
  else ⟨symbol :: table.symbols, List.nodup_cons.mpr ⟨h, table.nodup⟩⟩

def internAll (table : SymbolTable) (symbols : List Symbol) : SymbolTable :=
  symbols.foldl intern table

@[simp] theorem size_empty : empty.size = 0 := rfl

theorem mem_intern (table : SymbolTable) (symbol other : Symbol) :
    other ∈ (table.intern symbol).symbols ↔ other = symbol ∨ other ∈ table.symbols := by
  unfold intern
  split <;> simp_all

theorem mem_internAll (table : SymbolTable) (symbols : List Symbol) (other : Symbol) :
    other ∈ (table.internAll symbols).symbols ↔ other ∈ symbols ∨ other ∈ table.symbols := by
  induction symbols generalizing table with
  | nil => simp [internAll]
  | cons symbol rest ih =>
      change other ∈ ((table.intern symbol).internAll rest).symbols ↔ _
      rw [ih, mem_intern, List.mem_cons, or_left_comm, or_assoc]

theorem intern_of_mem {table : SymbolTable} {symbol : Symbol} (h : symbol ∈ table.symbols) :
    table.intern symbol = table := by
  simp [intern, h]

theorem size_intern_of_not_mem {table : SymbolTable} {symbol : Symbol}
    (h : symbol ∉ table.symbols) : (table.intern symbol).size = table.size + 1 := by
  simp [intern, h, size]

end SymbolTable

inductive SpecialForm where
  | quote | quasiquote | define | assign | function | expander | branch | send
deriving DecidableEq, Inhabited, Repr

namespace SpecialForm

def name : SpecialForm → String
  | quote => "quote"
  | quasiquote => "quasiquote"
  | define => "def"
  | assign => "set!"
  | function => "fn"
  | expander => "macro"
  | branch => "if"
  | send => "send"

def symbol (form : SpecialForm) : Symbol :=
  ⟨form.name⟩

def all : List SpecialForm :=
  [quote, quasiquote, define, assign, function, expander, branch, send]

def ofSymbol? (symbol : Symbol) : Option SpecialForm :=
  all.find? (fun form => form.symbol = symbol)

@[simp] theorem ofSymbol?_symbol (form : SpecialForm) : ofSymbol? form.symbol = some form := by
  cases form <;> decide

theorem symbol_of_ofSymbol? {symbol : Symbol} {form : SpecialForm}
    (h : ofSymbol? symbol = some form) : form.symbol = symbol := by
  simpa using List.find?_some h

end SpecialForm

/-! The four quotation marks: each stands for a two-element list headed by its symbol. -/

inductive Sugar where
  | quote | quasiquote | unquote | splice
deriving DecidableEq, Inhabited, Repr

namespace Sugar

def name : Sugar → String
  | quote => "quote"
  | quasiquote => "quasiquote"
  | unquote => "unquote"
  | splice => "unquote-splicing"

def symbol (sugar : Sugar) : Symbol :=
  ⟨sugar.name⟩

def mark : Sugar → String
  | quote => "'"
  | quasiquote => "`"
  | unquote => ","
  | splice => ",@"

def all : List Sugar :=
  [quote, quasiquote, unquote, splice]

def ofSymbol? (symbol : Symbol) : Option Sugar :=
  all.find? (fun sugar => sugar.symbol = symbol)

@[simp] theorem ofSymbol?_symbol (sugar : Sugar) : ofSymbol? sugar.symbol = some sugar := by
  cases sugar <;> decide

theorem symbol_of_ofSymbol? {symbol : Symbol} {sugar : Sugar}
    (h : ofSymbol? symbol = some sugar) : sugar.symbol = symbol := by
  simpa using List.find?_some h

end Sugar

namespace Symbol

/-- Marks the rest parameter in a parameter list. -/
def ampersand : Symbol :=
  ⟨"&"⟩

/-- Holds the last value at the top level. -/
def underscore : Symbol :=
  ⟨"_"⟩

end Symbol

def SymbolTable.reserve (table : SymbolTable) : SymbolTable :=
  table.internAll
    (SpecialForm.all.map SpecialForm.symbol ++
      [Sugar.unquote.symbol, Sugar.splice.symbol, Symbol.ampersand, Symbol.underscore])

end Lisplet
