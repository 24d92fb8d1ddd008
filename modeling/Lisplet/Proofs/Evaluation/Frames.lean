import Lisplet.Evaluation.Closure
import Lisplet.Proofs.Store

namespace Lisplet

/-! Frames that are added beside those that are there, and bindings that keep their values. -/

namespace Store

variable {store before middle after : Store} {environment : Environment} {key : Symbol}
  {value : Value}

theorem get?_push (store : Store) (index : Nat) (environment : Environment) (key : Symbol) :
    store.get? (environment.push index) key =
      ((store.frame index).get? key).or (store.get? environment key) := by
  simp only [get?, Environment.push, List.findSome?_cons]
  cases (store.frame index).get? key with
  | none => rfl
  | some value => rfl

theorem findSome?_frames {locals : List Nat}
    (h : ∀ index ∈ locals, (after.frame index).get? key = (before.frame index).get? key) :
    locals.findSome? (fun index => (after.frame index).get? key) =
      locals.findSome? fun index => (before.frame index).get? key := by
  induction locals with
  | nil => rfl
  | cons index rest ih =>
      rw [List.findSome?_cons, List.findSome?_cons, h index List.mem_cons_self,
        ih fun other hother => h other (List.mem_cons_of_mem index hother)]

/-- A new frame is seen from the environment made with it only. -/
theorem get?_extend {reader : Environment} (hframes : ∀ index ∈ reader.locals,
    index < store.locals.size) (environment : Environment) (frame : Frame) (key : Symbol) :
    (store.extend environment frame).2.get? reader key = store.get? reader key := by
  have hsame : ∀ index ∈ reader.locals,
      ((store.extend environment frame).2.frame index).get? key = (store.frame index).get? key := by
    intro index hindex
    rw [extend, frame_push store frame (hframes index hindex)]
  rw [get?, findSome?_frames hsame]
  rfl

theorem get?_extend_new (hframes : ∀ index ∈ environment.locals, index < store.locals.size)
    (frame : Frame) (key : Symbol) :
    (store.extend environment frame).2.get? (store.extend environment frame).1 key =
      (frame.get? key).or (store.get? environment key) := by
  have hnew : (store.extend environment frame).2.frame store.locals.size = frame := by
    simp [extend, Store.frame, Array.getD_eq_getD_getElem?]
  change (store.extend environment frame).2.get? (environment.push store.locals.size) key = _
  rw [get?_push, hnew, get?_extend hframes]

/-- Only frames have been made, or names bound globally that were not bound. -/
structure Preserves (before after : Store) : Prop where
  size : before.locals.size ≤ after.locals.size
  frames : ∀ {index}, index < before.locals.size → ∀ key,
    (after.frame index).get? key = (before.frame index).get? key
  globals : ∀ {key value}, before.globals.get? key = some value →
    after.globals.get? key = some value

namespace Preserves

theorem refl (store : Store) : store.Preserves store :=
  ⟨Nat.le_refl _, fun _ _ => rfl, id⟩

theorem trans (hfirst : before.Preserves middle) (hlast : middle.Preserves after) :
    before.Preserves after where
  size := Nat.le_trans hfirst.size hlast.size
  frames hindex key :=
    (hlast.frames (Nat.lt_of_lt_of_le hindex hfirst.size) key).trans (hfirst.frames hindex key)
  globals h := hlast.globals (hfirst.globals h)

theorem get? (h : before.Preserves after)
    (hframes : ∀ index ∈ environment.locals, index < before.locals.size)
    (hbound : before.get? environment key = some value) :
    after.get? environment key = some value := by
  rw [Store.get?, findSome?_frames fun index hindex => h.frames (hframes index hindex) key]
  rcases Option.or_eq_some_iff.mp hbound with hlocal | ⟨hnone, hglobal⟩
  · rw [hlocal, Option.some_or]
  · rw [hnone, Option.none_or, h.globals hglobal]

theorem growsInto (h : before.Preserves after) : before.GrowsInto after where
  size := h.size
  frames hindex key := by rw [Frame.contains, Frame.contains, h.frames hindex]
  globals hkey := by
    obtain ⟨value, hvalue⟩ := Option.isSome_iff_exists.mp hkey
    rw [Frame.contains, h.globals hvalue]
    rfl

end Preserves

end Store

namespace State

/-- Frames are added that no environment in use refers to. -/
def aside (state : State) (frames : List Frame) : State :=
  { state with store := { state.store with locals := state.store.locals ++ frames.toArray } }

def made (state : State) : State :=
  { state with names := state.names.push }

variable {state : State}

@[simp] theorem aside_nil (state : State) : state.aside [] = state := by
  simp [aside]

theorem aside_aside (state : State) (frames more : List Frame) :
    (state.aside frames).aside more = state.aside (frames ++ more) := by
  simp [aside, Array.append_assoc]

theorem aside_singleton (state : State) (environment : Environment) (frame : Frame) :
    state.aside [frame] = { state with store := (state.store.extend environment frame).2 } := by
  simp [aside, Store.extend]

theorem frame_aside (state : State) (frames : List Frame) {index : Nat}
    (h : index < state.store.locals.size) :
    (state.aside frames).store.frame index = state.store.frame index := by
  simp [aside, Store.frame, Array.getD_eq_getD_getElem?, Array.getElem?_append_left h]

theorem frame_aside_new (state : State) (frame : Frame) :
    (state.aside [frame]).store.frame state.store.locals.size = frame := by
  simp [aside, Store.frame, Array.getD_eq_getD_getElem?]

theorem preserves_aside (state : State) (frames : List Frame) :
    state.store.Preserves (state.aside frames).store where
  size := by simp [aside]
  frames hindex key := by rw [frame_aside state frames hindex]
  globals := id

theorem within_push (state : State) (frame : Frame) {environment : Environment}
    (hframes : ∀ index ∈ environment.locals, index < state.store.locals.size) :
    ∀ index ∈ (environment.push state.store.locals.size).locals,
      index < (state.aside [frame]).store.locals.size := by
  intro index hindex
  rcases List.mem_cons.mp hindex with rfl | hindex
  · simp [aside]
  · exact Nat.lt_of_lt_of_le (hframes index hindex) (preserves_aside state [frame]).size

theorem get?_aside (state : State) (frame : Frame) {environment : Environment}
    (hframes : ∀ index ∈ environment.locals, index < state.store.locals.size) (key : Symbol) :
    (state.aside [frame]).store.get? (environment.push state.store.locals.size) key =
      (frame.get? key).or (state.store.get? environment key) := by
  rw [aside_singleton state environment]
  exact Store.get?_extend_new hframes frame key

end State

theorem Eval.extend_eq (environment : Environment) (frame : Frame) (state : State) :
    Eval.extend environment frame state =
      .ok (environment.push state.store.locals.size) (state.aside [frame]) := by
  rw [State.aside_singleton state environment]
  rfl

end Lisplet
