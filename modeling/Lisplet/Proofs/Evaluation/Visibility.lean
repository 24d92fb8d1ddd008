import Lisplet.Proofs.Evaluation.Frames
import Lisplet.Proofs.Evaluation.Scopes

namespace Lisplet

namespace Store

/-! Who sees a write. Environments share the frames that they were put on, so a name that is bound
or rebound in one of them changes in some of the others, and in these only where no nearer frame
binds the name. -/

variable {environments : List Environment} {environment : Environment} {store after : Store}
  {key other : Symbol} {value : Value} {locals : List Nat} {owner : Owner}

/-- All the environments made so far, from the global one on, and the store with their frames. -/
inductive Tree : List Environment → Store → Prop
  | global : Tree [.global] .empty
  | extend {environments : List Environment} {store : Store} {environment : Environment}
      (frame : Frame) : Tree environments store → environment ∈ environments →
        Tree ((store.extend environment frame).1 :: environments) (store.extend environment frame).2
  | define {environments : List Environment} {store : Store} (key : Symbol) (value : Value) :
      Tree environments store → Tree environments (store.define key value)
  | assign {environments : List Environment} {store after : Store} {environment : Environment}
      {key : Symbol} {value : Value} : Tree environments store → environment ∈ environments →
        store.assign? environment key value = some after → Tree environments after

inductive Nearest (store : Store) (key : Symbol) : List Nat → Owner → Prop
  | globals : store.globals.contains key = true → Nearest store key [] .globals
  | here {index : Nat} {rest : List Nat} : (store.frame index).contains key = true →
      Nearest store key (index :: rest) (.frame index)
  | outer {index : Nat} {rest : List Nat} {owner : Owner} :
      (store.frame index).contains key = false → Nearest store key rest owner →
        Nearest store key (index :: rest) owner

theorem owner?_eq_some_iff :
    store.owner? ⟨locals⟩ key = some owner ↔ store.Nearest key locals owner := by
  induction locals with
  | nil =>
      constructor
      · intro h
        cases hglobals : store.globals.contains key with
        | true =>
            simp only [owner?, List.find?_nil, hglobals, if_true] at h
            cases h
            exact .globals hglobals
        | false => simp [owner?, hglobals] at h
      · rintro ⟨hglobals⟩
        simp [owner?, hglobals]
  | cons index rest ih =>
      rw [owner?_cons]
      cases hframe : (store.frame index).contains key with
      | true =>
          constructor
          · intro h
            cases h
            exact .here hframe
          · intro h
            cases h with
            | here => rfl
            | outer hnone => exact absurd hframe (by simp [hnone])
      | false =>
          rw [if_neg (by simp), ih]
          constructor
          · exact .outer hframe
          · intro h
            cases h with
            | here hsome => exact absurd hframe (by simp [hsome])
            | outer _ h => exact h

theorem get?_define_of_ne (h : other ≠ key) (environment : Environment) :
    (store.define key value).get? environment other = store.get? environment other := by
  change ((environment.locals.findSome? fun index => (store.frame index).get? other).or
    ((store.globals.insert key value).get? other)) = _
  rw [Frame.get?_insert, if_neg h]
  rfl

theorem get?_define_of_local
    (h : ∃ index ∈ environment.locals, (store.frame index).contains key = true) :
    (store.define key value).get? environment key = store.get? environment key := by
  obtain ⟨index, hindex, hcontains⟩ := h
  obtain ⟨found, hfound⟩ : ∃ found,
      environment.locals.findSome? (fun index => (store.frame index).get? key) = some found := by
    refine Option.isSome_iff_exists.mp (List.findSome?_isSome_iff.mpr ⟨index, hindex, hcontains⟩)
  change (environment.locals.findSome? fun index => (store.frame index).get? key).or _ =
    (environment.locals.findSome? fun index => (store.frame index).get? key).or _
  rw [hfound, Option.some_or, Option.some_or]

theorem get?_define_of_not_local
    (h : ∀ index ∈ environment.locals, (store.frame index).contains key = false) :
    (store.define key value).get? environment key = some value := by
  have hnone : environment.locals.findSome? (fun index => (store.frame index).get? key) = none := by
    refine List.findSome?_eq_none_iff.mpr fun index hindex => ?_
    simpa [Frame.contains] using h index hindex
  change (environment.locals.findSome? fun index => (store.frame index).get? key).or
    ((store.globals.insert key value).get? key) = _
  rw [hnone, Option.none_or, Frame.get?_insert_self]

theorem assign?_eq_some_iff : store.assign? environment key value = some after ↔
    ∃ owner, store.owner? environment key = some owner ∧ store.bind owner key value = after :=
  Option.map_eq_some_iff

theorem Tree.present (h : Tree environments store) :
    ∀ environment ∈ environments, ∀ index ∈ environment.locals, index < store.locals.size := by
  induction h with
  | global => simp [Environment.global]
  | @extend environments store outer frame _ houter ih =>
      intro environment hmem index hindex
      have hsize : (store.extend outer frame).2.locals.size = store.locals.size + 1 := by
        simp [Store.extend]
      rw [hsize]
      rcases List.mem_cons.mp hmem with rfl | hold
      · rcases List.mem_cons.mp hindex with rfl | hindex
        · exact Nat.lt_succ_self _
        · exact Nat.lt_succ_of_lt (ih outer houter index hindex)
      · exact Nat.lt_succ_of_lt (ih environment hold index hindex)
  | define _ _ _ ih => exact ih
  | assign _ _ hassign ih =>
      obtain ⟨owner, _, rfl⟩ := assign?_eq_some_iff.mp hassign
      intro environment hmem index hindex
      rw [size_bind]
      exact ih environment hmem index hindex

/-- What the operations in one environment of a tree change for another one. -/
structure Effects (store : Store) (writer reader : Environment) (key : Symbol) (value : Value) :
    Prop where
  bound : store.contains writer key = true ↔ ∃ found, store.get? writer key = some found
  assignable : (∃ found, store.get? writer key = some found) ↔
    ∃ after, store.assign? writer key value = some after
  defined : (∀ index ∈ reader.locals, (store.frame index).contains key = false) →
    (store.define key value).get? reader key = some value
  hidden : (∃ index ∈ reader.locals, (store.frame index).contains key = true) →
    (store.define key value).get? reader key = store.get? reader key
  definedAlone : ∀ {other}, other ≠ key →
    (store.define key value).get? reader other = store.get? reader other
  assigned : ∀ {after owner}, store.assign? writer key value = some after →
    store.Nearest key writer.locals owner → store.Nearest key reader.locals owner →
      after.get? reader key = some value
  elsewhere : ∀ {after owner}, store.assign? writer key value = some after →
    store.Nearest key writer.locals owner → ¬ store.Nearest key reader.locals owner →
      after.get? reader key = store.get? reader key
  assignedAlone : ∀ {after other}, store.assign? writer key value = some after → other ≠ key →
    after.get? reader other = store.get? reader other
  assign : ∀ state : State, state.store = store →
    Eval.assign writer key value state =
      match store.assign? writer key value with
      | some after => .ok () { state with store := after }
      | none => .error (.error (.unassignable key)) state
  extended : ∀ frame other,
    (store.extend writer frame).2.get? reader other = store.get? reader other
  inner : ∀ frame other,
    (store.extend writer frame).2.get? (store.extend writer frame).1 other =
      (frame.get? other).or (store.get? writer other)

theorem Tree.effects {writer reader : Environment} (h : Tree environments store)
    (hwriter : writer ∈ environments) (hreader : reader ∈ environments) (key : Symbol)
    (value : Value) : Effects store writer reader key value where
  bound := by rw [← isSome_get?, Option.isSome_iff_exists]
  assignable := by
    rw [← Option.isSome_iff_exists, ← Option.isSome_iff_exists, isSome_get?, assign?,
      Option.isSome_map, isSome_owner?]
  defined := get?_define_of_not_local
  hidden := get?_define_of_local
  definedAlone hother := get?_define_of_ne hother reader
  assigned hassign hnearest hsame := by
    obtain ⟨owner, howner, rfl⟩ := assign?_eq_some_iff.mp hassign
    have hwriter := owner?_eq_some_iff.mpr hnearest
    cases howner.symm.trans hwriter
    rw [get?_bind howner, if_pos ⟨rfl, owner?_eq_some_iff.mpr hsame⟩]
  elsewhere hassign hnearest hother := by
    obtain ⟨owner, howner, rfl⟩ := assign?_eq_some_iff.mp hassign
    have hwriter := owner?_eq_some_iff.mpr hnearest
    cases howner.symm.trans hwriter
    rw [get?_bind howner, if_neg fun hsame => hother (owner?_eq_some_iff.mp hsame.2)]
  assignedAlone hassign hother := by
    obtain ⟨owner, howner, rfl⟩ := assign?_eq_some_iff.mp hassign
    rw [get?_bind howner, if_neg fun hsame => hother hsame.1]
  assign state hstate := by
    subst hstate
    rw [Eval.assign_eq, assign?]
    cases state.store.owner? writer key <;> rfl
  extended frame other := get?_extend (h.present reader hreader) writer frame other
  inner frame other := get?_extend_new (h.present writer hwriter) frame other

/-- Where an inner frame binds `x` as well, an assignment there leaves the outer one as it was, and
what is defined is seen at the top level only. -/
theorem Tree.effects_shadowed :
    let x : Symbol := ⟨"x"⟩
    let outer : Environment := ⟨[0]⟩
    let inner : Environment := ⟨[1, 0]⟩
    let store : Store := ⟨⟨[(x, .int 1)]⟩, #[⟨[(x, .int 2)]⟩, ⟨[(x, .int 3)]⟩]⟩
    let environments := [inner, outer, .global]
    Tree environments store ∧ inner ∈ environments ∧ outer ∈ environments ∧
      (∃ after, store.assign? inner x (.int 4) = some after ∧
        after.get? outer x = some (.int 2) ∧ after.get? inner x = some (.int 4)) ∧
      (store.define x (.int 5)).get? outer x = some (.int 2) ∧
        (store.define x (.int 5)).get? .global x = some (.int 5) := by
  intro x outer inner store environments
  have htree : Tree environments store :=
    .extend ⟨[(x, .int 3)]⟩
      (.extend ⟨[(x, .int 2)]⟩ (.define x (.int 1) .global) (List.mem_singleton_self _))
      List.mem_cons_self
  have hinner : inner ∈ environments := List.mem_cons_self
  have houter : outer ∈ environments := List.mem_cons_of_mem _ List.mem_cons_self
  have hglobal : Environment.global ∈ environments := by simp [environments]
  have hnearest : store.Nearest x inner.locals (.frame 1) := .here rfl
  have hhidden : ¬ store.Nearest x outer.locals (.frame 1) := by
    rintro (_ | _ | ⟨_, ⟨⟩⟩)
  have heffects := htree.effects hinner houter x (.int 4)
  refine ⟨htree, hinner, houter, ⟨_, rfl, ?_, ?_⟩, ?_, ?_⟩
  · exact heffects.elsewhere rfl hnearest hhidden
  · exact (htree.effects hinner hinner x (.int 4)).assigned rfl hnearest hnearest
  · exact (htree.effects hinner houter x (.int 5)).hidden ⟨0, List.mem_cons_self, rfl⟩
  · exact (htree.effects hinner hglobal x (.int 5)).defined (by simp [Environment.global])

end Store

end Lisplet
