import Lisplet.Value

namespace Lisplet

/-! Bindings. A frame binds each name once; the store holds the global frame and every local frame
ever made, so that environments can share them. -/

structure Frame where
  bindings : List (Symbol × Value)
deriving Inhabited

namespace Frame

def empty : Frame :=
  ⟨[]⟩

def get? (frame : Frame) (key : Symbol) : Option Value :=
  frame.bindings.lookup key

def names (frame : Frame) : List Symbol :=
  frame.bindings.map Prod.fst

def contains (frame : Frame) (key : Symbol) : Bool :=
  (frame.get? key).isSome

def insertInto (key : Symbol) (value : Value) : List (Symbol × Value) → List (Symbol × Value)
  | [] => [(key, value)]
  | (name, old) :: rest =>
      if key == name then (key, value) :: rest else (name, old) :: insertInto key value rest

def insert (frame : Frame) (key : Symbol) (value : Value) : Frame :=
  ⟨insertInto key value frame.bindings⟩

/-- Later pairs win over earlier ones with the same name. -/
def ofPairs (pairs : List (Symbol × Value)) : Frame :=
  pairs.foldl (fun frame (key, value) => frame.insert key value) empty

def sortedNames (frame : Frame) : List String :=
  (frame.names.map Symbol.name).mergeSort fun left right => decide (left ≤ right)

@[simp] theorem get?_empty (key : Symbol) : empty.get? key = none := rfl

theorem get?_insert (frame : Frame) (key other : Symbol) (value : Value) :
    (frame.insert key value).get? other = if other = key then some value else frame.get? other := by
  obtain ⟨bindings⟩ := frame
  simp only [insert, get?]
  induction bindings with
  | nil =>
      by_cases h : other = key
      · simp [insertInto, h]
      · have hfalse : (other == key) = false := by simpa using h
        simp [insertInto, List.lookup_cons, h, hfalse]
  | cons binding rest ih =>
      obtain ⟨name, old⟩ := binding
      by_cases hname : key = name
      · subst hname
        by_cases h : other = key
        · simp [insertInto, h]
        · have hfalse : (other == key) = false := by simpa using h
          simp [insertInto, List.lookup_cons, h, hfalse]
      · by_cases h : other = name
        · subst h
          simp [insertInto, hname, Ne.symm hname]
        · have hfalse : (other == name) = false := by simpa using h
          simp only [insertInto, beq_iff_eq, hname, if_false, List.lookup_cons, hfalse]
          exact ih

@[simp] theorem get?_insert_self (frame : Frame) (key : Symbol) (value : Value) :
    (frame.insert key value).get? key = some value := by
  simp [get?_insert]

end Frame

structure Store where
  globals : Frame
  locals : Array Frame
deriving Inhabited

inductive Owner where
  | frame (index : Nat)
  | globals
deriving DecidableEq, Inhabited, Repr

namespace Store

def empty : Store :=
  ⟨.empty, #[]⟩

/-- The local frame with an index; one that was never made binds nothing. -/
def frame (store : Store) (index : Nat) : Frame :=
  store.locals.getD index .empty

def get? (store : Store) (environment : Environment) (key : Symbol) : Option Value :=
  (environment.locals.findSome? fun index => (store.frame index).get? key).or
    (store.globals.get? key)

def contains (store : Store) (environment : Environment) (key : Symbol) : Bool :=
  environment.locals.any (fun index => (store.frame index).contains key) ||
    store.globals.contains key

def owner? (store : Store) (environment : Environment) (key : Symbol) : Option Owner :=
  match environment.locals.find? fun index => (store.frame index).contains key with
  | some index => some (.frame index)
  | none => if store.globals.contains key then some .globals else none

def bind (store : Store) (owner : Owner) (key : Symbol) (value : Value) : Store :=
  match owner with
  | .globals => { store with globals := store.globals.insert key value }
  | .frame index =>
      { store with
        locals := store.locals.setIfInBounds index ((store.frame index).insert key value) }

/-- Binds a name in the global frame, from whatever environment. -/
def define (store : Store) (key : Symbol) (value : Value) : Store :=
  store.bind .globals key value

def assign? (store : Store) (environment : Environment) (key : Symbol) (value : Value) :
    Option Store :=
  (store.owner? environment key).map fun owner => store.bind owner key value

def extend (store : Store) (environment : Environment) (frame : Frame) : Environment × Store :=
  (environment.push store.locals.size, { store with locals := store.locals.push frame })

def frames (store : Store) (environment : Environment) : List Frame :=
  environment.locals.map store.frame ++ [store.globals]

def text (store : Store) (environment : Environment) : String :=
  "#<env " ++
    " | ".intercalate
      ((store.frames environment).map fun frame => " ".intercalate frame.sortedNames) ++
    ">"

end Store

def Environment.summary (environment : Environment) : String :=
  "Environment\x7bdepth: " ++ environment.depth.repr ++ "\x7d"

end Lisplet
