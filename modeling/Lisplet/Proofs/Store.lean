import Lisplet.Store

namespace Lisplet

/-! Which names are bound, and what the operations on a store do to them. -/

namespace Frame

theorem contains_insert (frame : Frame) (key other : Symbol) (value : Value) :
    (frame.insert key value).contains other = (decide (other = key) || frame.contains other) := by
  by_cases h : other = key <;> simp [contains, get?_insert, h]

theorem contains_insert_of_contains {frame : Frame} {key : Symbol} (h : frame.contains key = true)
    (value : Value) (other : Symbol) :
    (frame.insert key value).contains other = frame.contains other := by
  by_cases hother : other = key
  · rw [contains_insert, hother, h, Bool.or_true]
  · simp [contains_insert, hother]

def values (frame : Frame) : List Value :=
  frame.bindings.map Prod.snd

theorem mem_insert {frame : Frame} {key : Symbol} {value : Value} {binding : Symbol × Value}
    (h : binding ∈ (frame.insert key value).bindings) :
    binding = (key, value) ∨ binding ∈ frame.bindings := by
  obtain ⟨bindings⟩ := frame
  change binding ∈ insertInto key value bindings at h
  induction bindings with
  | nil => exact .inl (List.mem_singleton.mp h)
  | cons first rest ih =>
      obtain ⟨name, old⟩ := first
      rw [insertInto] at h
      split at h
      · rcases List.mem_cons.mp h with hnew | hrest
        · exact .inl hnew
        · exact .inr (List.mem_cons_of_mem _ hrest)
      · rcases List.mem_cons.mp h with hold | hrest
        · exact .inr (hold ▸ List.mem_cons_self)
        · exact (ih hrest).imp_right (List.mem_cons_of_mem _)

theorem mem_ofPairs {pairs : List (Symbol × Value)} {binding : Symbol × Value}
    (h : binding ∈ (ofPairs pairs).bindings) : binding ∈ pairs := by
  have hfold : ∀ (pairs : List (Symbol × Value)) (frame : Frame),
      binding ∈ (pairs.foldl (fun frame pair => frame.insert pair.1 pair.2) frame).bindings →
        binding ∈ pairs ∨ binding ∈ frame.bindings := by
    intro pairs
    induction pairs with
    | nil => exact fun _ h => .inr h
    | cons pair rest ih =>
        intro frame h
        rcases ih _ h with hrest | hframe
        · exact .inl (List.mem_cons_of_mem _ hrest)
        · rcases mem_insert hframe with rfl | hold
          · exact .inl List.mem_cons_self
          · exact .inr hold
  exact (hfold pairs empty h).resolve_right List.not_mem_nil

/-- The last pair with a name counts. -/
theorem get?_ofPairs_eq_lookup (pairs : List (Symbol × Value)) (key : Symbol) :
    (ofPairs pairs).get? key = pairs.reverse.lookup key := by
  have hfold : ∀ (pairs : List (Symbol × Value)) (frame : Frame),
      (pairs.foldl (fun frame pair => frame.insert pair.1 pair.2) frame).get? key =
        (pairs.reverse.lookup key).or (frame.get? key) := by
    intro pairs
    induction pairs with
    | nil => exact fun _ => rfl
    | cons pair rest ih =>
        obtain ⟨name, value⟩ := pair
        intro frame
        rw [List.foldl_cons, ih, List.reverse_cons, List.lookup_append, Option.or_assoc,
          get?_insert]
        by_cases h : key = name
        · simp [h]
        · simp [h, List.lookup_cons, beq_false_of_ne h]
  rw [ofPairs, hfold, get?_empty, Option.or_none]

theorem contains_ofPairs {pairs : List (Symbol × Value)} {binding : Symbol × Value}
    (h : binding ∈ pairs) : (ofPairs pairs).contains binding.1 = true := by
  rw [contains, get?_ofPairs_eq_lookup]
  exact List.lookup_isSome_iff.mpr ⟨binding, List.mem_reverse.mpr h, beq_self_eq_true _⟩

theorem mem_values_insert {frame : Frame} {key : Symbol} {value other : Value}
    (h : other ∈ (frame.insert key value).values) : other = value ∨ other ∈ frame.values := by
  obtain ⟨binding, hbinding, rfl⟩ := List.mem_map.mp h
  rcases mem_insert hbinding with rfl | hold
  · exact .inl rfl
  · exact .inr (List.mem_map_of_mem hold)

theorem mem_values_of_get? {frame : Frame} {key : Symbol} {value : Value}
    (h : frame.get? key = some value) : value ∈ frame.values := by
  obtain ⟨front, back, hbindings, _⟩ := List.lookup_eq_some_iff.mp h
  rw [values, hbindings]
  simp

end Frame

namespace Store

variable {store : Store}

theorem size_bind (store : Store) (owner : Owner) (key : Symbol) (value : Value) :
    (store.bind owner key value).locals.size = store.locals.size := by
  cases owner with
  | globals => rfl
  | frame index => simp [bind]

theorem frame_bind_frame (store : Store) (owner : Nat) (key : Symbol) (value : Value)
    (index : Nat) :
    (store.bind (.frame owner) key value).frame index =
      if owner = index ∧ index < store.locals.size then (store.frame index).insert key value
      else store.frame index := by
  simp only [bind, frame, Array.getD_eq_getD_getElem?, Array.getElem?_setIfInBounds]
  by_cases howner : owner = index
  · by_cases hsize : index < store.locals.size
    · simp [howner, hsize]
    · simp [howner, hsize]
  · simp [howner]

theorem frame_push (store : Store) (frame : Frame) {index : Nat}
    (h : index < store.locals.size) :
    Store.frame { store with locals := store.locals.push frame } index = store.frame index := by
  simp [Store.frame, Array.getD_eq_getD_getElem?, Array.getElem?_push_lt, h]

theorem isSome_get? (store : Store) (environment : Environment) (key : Symbol) :
    (store.get? environment key).isSome = store.contains environment key := by
  have hlocals : ∀ locals : List Nat,
      (locals.findSome? fun index => (store.frame index).get? key).isSome =
        locals.any fun index => (store.frame index).contains key := by
    intro locals
    induction locals with
    | nil => rfl
    | cons index rest ih =>
        rw [List.findSome?_cons, List.any_cons, Frame.contains, ← ih]
        cases (store.frame index).get? key with
        | none => simp
        | some value => simp
  rw [get?, contains, Option.isSome_or, hlocals, Frame.contains]

theorem isSome_get?_of_globals {key : Symbol} (h : store.globals.contains key = true)
    (environment : Environment) : (store.get? environment key).isSome = true := by
  rw [isSome_get?, contains, h, Bool.or_true]

section Owner

variable {environment : Environment} {key : Symbol} {value : Value} {owner : Owner}

def valueAt (store : Store) (key : Symbol) : Owner → Option Value
  | .globals => store.globals.get? key
  | .frame index => (store.frame index).get? key

theorem get?_eq_bind_owner? (store : Store) (environment : Environment) (key : Symbol) :
    store.get? environment key = (store.owner? environment key).bind (store.valueAt key) := by
  obtain ⟨frames⟩ := environment
  induction frames with
  | nil =>
      cases hglobals : store.globals.get? key with
      | none => simp [get?, owner?, Frame.contains, hglobals]
      | some value => simp [get?, owner?, Frame.contains, hglobals, valueAt]
  | cons index rest ih =>
      cases hframe : (store.frame index).get? key with
      | none => simpa [get?, owner?, Frame.contains, hframe] using ih
      | some value => simp [get?, owner?, Frame.contains, hframe, valueAt]

theorem owner?_cons (store : Store) (index : Nat) (rest : List Nat) (key : Symbol) :
    store.owner? ⟨index :: rest⟩ key =
      if (store.frame index).contains key then some (.frame index)
      else store.owner? ⟨rest⟩ key := by
  cases hframe : (store.frame index).contains key with
  | true => simp [owner?, hframe]
  | false => simp [owner?, hframe]

theorem isSome_owner? (store : Store) (environment : Environment) (key : Symbol) :
    (store.owner? environment key).isSome = store.contains environment key := by
  obtain ⟨locals⟩ := environment
  induction locals with
  | nil => cases hglobals : store.globals.contains key <;> simp [owner?, contains, hglobals]
  | cons index rest ih =>
      rw [owner?_cons, contains, List.any_cons, Bool.or_assoc]
      cases hframe : (store.frame index).contains key with
      | true => rfl
      | false => simpa [contains] using ih

/-! A frame that binds a name is written to. It goes on binding the same names, so every search
ends where it ended before. -/

theorem contains_bind (hbinds : (store.valueAt key owner).isSome = true) (index : Nat)
    (other : Symbol) :
    ((store.bind owner key value).frame index).contains other =
      (store.frame index).contains other := by
  cases owner with
  | globals => rfl
  | frame owner =>
      rw [frame_bind_frame]
      split
      · rename_i h
        rw [valueAt, h.1] at hbinds
        exact Frame.contains_insert_of_contains hbinds value other
      · rfl

theorem contains_globals_bind (hbinds : (store.valueAt key owner).isSome = true) (other : Symbol) :
    (store.bind owner key value).globals.contains other = store.globals.contains other := by
  cases owner with
  | globals => exact Frame.contains_insert_of_contains hbinds value other
  | frame => rfl

theorem owner?_bind (hbinds : (store.valueAt key owner).isSome = true) (environment : Environment)
    (other : Symbol) :
    (store.bind owner key value).owner? environment other = store.owner? environment other := by
  simp only [owner?, contains_bind hbinds, contains_globals_bind hbinds]

theorem valueAt_bind (hbinds : (store.valueAt key owner).isSome = true) (owner' : Owner)
    (other : Symbol) :
    (store.bind owner key value).valueAt other owner' =
      if other = key ∧ owner' = owner then some value else store.valueAt other owner' := by
  cases owner with
  | globals =>
      cases owner' with
      | globals => simp [valueAt, bind, Frame.get?_insert]
      | frame => simp [valueAt, bind, frame]
  | frame index =>
      -- A frame that was never made binds nothing.
      have hpresent : index < store.locals.size := by
        refine Nat.lt_of_not_le fun habsent => ?_
        simp [valueAt, frame, Array.getD, Nat.not_lt.mpr habsent] at hbinds
      cases owner' with
      | globals => simp [valueAt, bind]
      | frame index' =>
          rw [valueAt, frame_bind_frame]
          by_cases hindex : index = index'
          · subst hindex
            simp [hpresent, Frame.get?_insert, valueAt]
          · simp [hindex, Ne.symm hindex, valueAt]

theorem isSome_valueAt_of_owner? (h : store.owner? environment key = some owner) :
    (store.valueAt key owner).isSome = true := by
  have hbound : store.contains environment key = true := by
    rw [← isSome_owner?, h]
    rfl
  rwa [← isSome_get?, get?_eq_bind_owner?, h, Option.bind_some] at hbound

theorem get?_bind (h : store.owner? environment key = some owner) (reader : Environment)
    (other : Symbol) :
    (store.bind owner key value).get? reader other =
      if other = key ∧ store.owner? reader key = some owner then some value
      else store.get? reader other := by
  have hbinds := isSome_valueAt_of_owner? h
  rw [get?_eq_bind_owner?, owner?_bind hbinds, get?_eq_bind_owner? store]
  cases hreader : store.owner? reader other with
  | none =>
      have hother : ¬ (other = key ∧ store.owner? reader key = some owner) := by
        rintro ⟨rfl, hsome⟩
        cases hreader.symm.trans hsome
      rw [if_neg hother]
      rfl
  | some owner' =>
      have hsame : (other = key ∧ store.owner? reader key = some owner) ↔
          other = key ∧ owner' = owner := by
        refine and_congr_right ?_
        rintro rfl
        rw [hreader, Option.some_inj]
      simp only [Option.bind_some, valueAt_bind hbinds, hsame]

end Owner

def values (store : Store) : List Value :=
  store.globals.values ++ store.locals.toList.flatMap Frame.values

theorem mem_values_of_globals {value : Value} (h : value ∈ store.globals.values) :
    value ∈ store.values :=
  List.mem_append_left _ h

theorem mem_values_of_frame {index : Nat} {value : Value} (h : value ∈ (store.frame index).values) :
    value ∈ store.values := by
  by_cases hindex : index < store.locals.size
  · have hframe : store.frame index ∈ store.locals.toList := by
      simp [frame, Array.getD, hindex]
    exact List.mem_append_right _ (List.mem_flatMap.mpr ⟨_, hframe, h⟩)
  · simp [frame, Array.getD, hindex, Frame.values, Frame.empty] at h

theorem mem_values_of_get? {environment : Environment} {key : Symbol} {value : Value}
    (h : store.get? environment key = some value) : value ∈ store.values := by
  rcases Option.or_eq_some_iff.mp h with hlocal | ⟨_, hglobal⟩
  · obtain ⟨index, _, hget⟩ := List.exists_of_findSome?_eq_some hlocal
    exact mem_values_of_frame (Frame.mem_values_of_get? hget)
  · exact mem_values_of_globals (Frame.mem_values_of_get? hglobal)

theorem mem_values_bind {owner : Owner} {key : Symbol} {value other : Value}
    (h : other ∈ (store.bind owner key value).values) : other = value ∨ other ∈ store.values := by
  cases owner with
  | globals =>
      rcases List.mem_append.mp h with hglobal | hlocal
      · exact (Frame.mem_values_insert hglobal).imp_right mem_values_of_globals
      · exact .inr (List.mem_append_right _ hlocal)
  | frame index =>
      rcases List.mem_append.mp h with hglobal | hlocal
      · exact .inr (mem_values_of_globals hglobal)
      · obtain ⟨frame, hframe, hother⟩ := List.mem_flatMap.mp hlocal
        rw [bind, Array.toList_setIfInBounds] at hframe
        rcases List.mem_or_eq_of_mem_set hframe with hold | rfl
        · exact .inr (List.mem_append_right _ (List.mem_flatMap.mpr ⟨frame, hold, hother⟩))
        · exact (Frame.mem_values_insert hother).imp_right mem_values_of_frame

theorem mem_values_extend (environment : Environment) {frame : Frame} {value : Value}
    (h : value ∈ (store.extend environment frame).2.values) :
    value ∈ frame.values ∨ value ∈ store.values := by
  simp only [values, extend, Array.toList_push, List.flatMap_append, List.flatMap_singleton,
    List.mem_append] at h ⊢
  rcases h with hglobal | hlocal | hnew
  · exact .inr (.inl hglobal)
  · exact .inr (.inr hlocal)
  · exact .inl hnew

structure GrowsInto (before after : Store) : Prop where
  size : before.locals.size ≤ after.locals.size
  frames : ∀ {index}, index < before.locals.size → ∀ key,
    (after.frame index).contains key = (before.frame index).contains key
  globals : ∀ {key}, before.globals.contains key = true → after.globals.contains key = true

namespace GrowsInto

theorem refl (store : Store) : store.GrowsInto store :=
  ⟨Nat.le_refl _, fun _ _ => rfl, id⟩

theorem trans {first second third : Store} (hfirst : first.GrowsInto second)
    (hsecond : second.GrowsInto third) : first.GrowsInto third where
  size := Nat.le_trans hfirst.size hsecond.size
  frames hindex key :=
    (hsecond.frames (Nat.lt_of_lt_of_le hindex hfirst.size) key).trans (hfirst.frames hindex key)
  globals h := hsecond.globals (hfirst.globals h)

theorem define (store : Store) (key : Symbol) (value : Value) :
    store.GrowsInto (store.define key value) where
  size := Nat.le_refl _
  frames _ _ := rfl
  globals h := by
    change (store.globals.insert key value).contains _ = true
    rw [Frame.contains_insert, h, Bool.or_true]

theorem bind {environment : Environment} {key : Symbol} {owner : Owner}
    (howner : store.owner? environment key = some owner) (value : Value) :
    store.GrowsInto (store.bind owner key value) := by
  have hbinds := isSome_valueAt_of_owner? howner
  refine ⟨Nat.le_of_eq (size_bind _ _ _ _).symm, fun {index} _ => contains_bind hbinds index, ?_⟩
  intro name hname
  rw [contains_globals_bind hbinds, hname]

theorem extend (store : Store) (environment : Environment) (frame : Frame) :
    store.GrowsInto (store.extend environment frame).2 where
  size := by simp [Store.extend]
  frames hindex key := by rw [Store.extend, frame_push store frame hindex]
  globals := id

theorem contains {before after : Store} (h : before.GrowsInto after) {environment : Environment}
    (hframes : ∀ index ∈ environment.locals, index < before.locals.size) (key : Symbol) :
    after.contains environment key =
      (before.contains environment key || after.globals.contains key) := by
  have hlocals : environment.locals.any (fun index => (after.frame index).contains key) =
      environment.locals.any fun index => (before.frame index).contains key := by
    rw [Bool.eq_iff_iff, List.any_eq_true, List.any_eq_true]
    exact exists_congr fun index => and_congr_right fun hindex => by
      rw [h.frames (hframes index hindex) key]
  rw [Store.contains, Store.contains, hlocals, Bool.or_assoc]
  congr 1
  cases hbefore : before.globals.contains key with
  | false => rfl
  | true => exact h.globals hbefore

end GrowsInto

end Store

end Lisplet
