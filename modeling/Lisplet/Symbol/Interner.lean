import Lisplet.Symbol

namespace Lisplet

/-! Symbols by identity. A table keeps each name in one place and hands that place out; symbols are
told apart by it alone, and their names are only shown. -/

structure Handle where
  place : Nat
deriving DecidableEq, Inhabited, Repr

/-- The names that were interned, each once. Nothing is ever taken out. -/
structure Interner where
  names : List String
  nodup : names.Nodup

namespace Interner

def empty : Interner :=
  ⟨[], .nil⟩

def size (interner : Interner) : Nat :=
  interner.names.length

def name? (interner : Interner) (handle : Handle) : Option String :=
  interner.names[handle.place]?

def symbol (interner : Interner) (handle : Handle) : Symbol :=
  ⟨(interner.name? handle).getD ""⟩

def add (interner : Interner) (name : String) (h : name ∉ interner.names) : Interner where
  names := interner.names ++ [name]
  nodup := by
    refine List.nodup_append.mpr ⟨interner.nodup, List.nodup_cons.mpr ⟨List.not_mem_nil, .nil⟩, ?_⟩
    intro other hother last hlast heq
    exact h (List.mem_singleton.mp hlast ▸ heq ▸ hother)

def intern (name : String) : StateM Interner Handle := fun interner =>
  if h : name ∈ interner.names then (⟨interner.names.idxOf name⟩, interner)
  else (⟨interner.size⟩, interner.add name h)

def internAll (interner : Interner) (names : List String) : Interner :=
  names.foldl (fun interner name => (intern name interner).2) interner

end Interner

structure Names where
  specials : List (Handle × SpecialForm)
  quote : Handle
  quasiquote : Handle
  unquote : Handle
  splice : Handle
  ampersand : Handle
  underscore : Handle

namespace Names

def internForms : List SpecialForm → StateM Interner (List (Handle × SpecialForm))
  | [] => return []
  | form :: rest => do
      let handle ← Interner.intern form.name
      return (handle, form) :: (← internForms rest)

def make : StateM Interner Names := do
  let specials ← internForms SpecialForm.all
  let quote ← Interner.intern Sugar.quote.name
  let quasiquote ← Interner.intern Sugar.quasiquote.name
  let unquote ← Interner.intern Sugar.unquote.name
  let splice ← Interner.intern Sugar.splice.name
  let ampersand ← Interner.intern Symbol.ampersand.name
  let underscore ← Interner.intern Symbol.underscore.name
  return { specials, quote, quasiquote, unquote, splice, ampersand, underscore }

/-- The names that are interned, in this order. -/
def reserved : List String :=
  SpecialForm.all.map SpecialForm.name ++
    [Sugar.quote.name, Sugar.quasiquote.name, Sugar.unquote.name, Sugar.splice.name,
      Symbol.ampersand.name, Symbol.underscore.name]

def sugar (names : Names) : Sugar → Handle
  | .quote => names.quote
  | .quasiquote => names.quasiquote
  | .unquote => names.unquote
  | .splice => names.splice

def specialForm? (names : Names) (handle : Handle) : Option SpecialForm :=
  (names.specials.find? fun special => special.1 = handle).map Prod.snd

def handles (names : Names) : List Handle :=
  names.specials.map Prod.fst ++
    [names.quote, names.quasiquote, names.unquote, names.splice, names.ampersand,
      names.underscore]

end Names

end Lisplet
