import Lisplet.Proofs.Evaluation.Reachable
import Lisplet.Regex.PatternEngine

namespace Lisplet

/-! Bindings last. No evaluation, however it ends, takes a name away from an environment, and only
the global frame comes to bind new names. -/

structure KeepsBindings (seen later : List Closure) (before after : Store) : Prop where
  /-- The same frame never lies on two environments, be they in sight before or only later. -/
  parents : ∀ {frame outer outer'}, Environment.InSight seen ⟨frame :: outer⟩ →
    Environment.InSight later ⟨frame :: outer'⟩ → outer' = outer
  present : ∀ {environment : Environment}, environment.InSight seen →
    ∀ index ∈ environment.locals, index < before.locals.size
  frames : ∀ {index}, index < before.locals.size → ∀ key,
    (after.frame index).contains key = (before.frame index).contains key
  globals : ∀ {key}, before.globals.contains key = true → after.globals.contains key = true
  lookups : ∀ {environment : Environment}, environment.InSight seen → ∀ {key},
    (before.get? environment key).isSome = true → (after.get? environment key).isSome = true
  newNames : ∀ {environment : Environment}, environment.InSight seen → ∀ {key},
    before.get? environment key = none → (after.get? environment key).isSome = true →
      before.globals.contains key = false ∧ after.globals.contains key = true ∧
        ∀ index ∈ environment.locals, (after.frame index).contains key = false

theorem History.Links.outer_unique {history : History} {frame : Nat} {outer outer' : List Nat}
    (h : history.Links (frame :: outer)) (h' : history.Links (frame :: outer')) :
    outer' = outer := by
  have hparent := h'.1.symm.trans h.1
  cases hparent
  rfl

theorem KeepsBindings.of_histories {seen later : List Closure} {before after : Store}
    {history continued : History} (hprecedes : history.Precedes continued)
    (hframes : history.parents.length = before.locals.size)
    (hseen : ∀ closure ∈ seen, history.Holds closure)
    (hlater : ∀ closure ∈ later, continued.Holds closure) (hgrows : before.GrowsInto after) :
    KeepsBindings seen later before after := by
  have hpresent : ∀ {environment : Environment}, environment.InSight seen →
      ∀ index ∈ environment.locals, index < before.locals.size := by
    intro environment henvironment index hindex
    rw [← hframes]
    exact (Reachable.links_of_inSight hseen henvironment).lt index hindex
  have hcontains : ∀ {environment : Environment}, environment.InSight seen → ∀ key,
      after.contains environment key =
        (before.contains environment key || after.globals.contains key) :=
    fun henvironment key => hgrows.contains (hpresent henvironment) key
  refine ⟨?_, hpresent, hgrows.frames, hgrows.globals, ?_, ?_⟩
  · intro frame outer outer' houter houter'
    exact ((Reachable.links_of_inSight hseen houter).mono hprecedes).outer_unique
      (Reachable.links_of_inSight hlater houter')
  · intro environment henvironment key hbound
    rw [Store.isSome_get?] at hbound ⊢
    rw [hcontains henvironment, hbound, Bool.true_or]
  · intro environment henvironment key hunbound hbound
    have hbefore : before.contains environment key = false := by
      rw [← Store.isSome_get?, hunbound]
      rfl
    rw [Store.isSome_get?, hcontains henvironment, hbefore, Bool.false_or] at hbound
    rw [Store.contains, Bool.or_eq_false_iff] at hbefore
    refine ⟨hbefore.2, hbound, fun index hindex => ?_⟩
    rw [hgrows.frames (hpresent henvironment index hindex)]
    exact Bool.eq_false_iff.mpr (List.any_eq_false.mp hbefore.1 index hindex)

section

variable [RegexEngine]

theorem Reachable.run_keepsBindings {seen : List Closure} {state : State}
    (hreachable : Reachable seen state) {request : Request} (hrequest : request.InSight seen)
    (fuel : Nat) :
    KeepsBindings seen (request.revealed fuel state ++ seen) state.store
      (Eval.final (request.run fuel) state).store := by
  obtain ⟨history, hstate, hseen⟩ := hreachable.follows
  obtain ⟨continued, hprecedes, _, hlater⟩ :=
    Reachable.request_continues hstate hseen hrequest fuel
  exact .of_histories hprecedes hstate.frames hseen hlater (Eval.run_grows fuel request state)

end

open scoped Pattern

/-- A call of a function that has captured a frame: it changes a name in that frame, and defines
one that was unbound there. -/
theorem Reachable.run_keepsBindings_captured_frame :
    let body := Value.ofList [.ofList [.symbol ⟨"set!"⟩, .symbol ⟨"x"⟩, .int 2],
      .ofList [.symbol ⟨"def"⟩, .symbol ⟨"y"⟩, .symbol ⟨"x"⟩]]
    let outer := Value.ofList [.symbol ⟨"fn"⟩, .ofList [.symbol ⟨"x"⟩],
      .cons (.symbol ⟨"fn"⟩) (.cons .emptyList body)]
    let making := Request.eval .global (.ofList [outer, .int 1])
    let seen := making.revealed 4 (.initial .empty) ++ []
    let before := Eval.final (making.run 4) (.initial .empty)
    let call := Request.apply (.closure 1 .function ⟨[], none⟩ body ⟨[0]⟩) []
    let after := Eval.final (call.run 6) before
    KeepsBindings seen (call.revealed 6 before ++ seen) before.store after.store ∧
      Environment.InSight seen ⟨[0]⟩ ∧
      (before.store.get? ⟨[0]⟩ ⟨"x"⟩).map (·.inspect before.names) = some "1" ∧
      (after.store.get? ⟨[0]⟩ ⟨"x"⟩).map (·.inspect after.names) = some "2" ∧
      (before.store.get? ⟨[0]⟩ ⟨"y"⟩).isNone ∧
      (after.store.get? ⟨[0]⟩ ⟨"y"⟩).map (·.inspect after.names) = some "2" := by
  intro body outer making seen before call after
  have hmaking : making.InSight [] := ⟨.inl rfl, fun _ hclosure => nomatch hclosure⟩
  have hreachable : Reachable seen before := (Reachable.initial .empty).request 4 hmaking
  have hclosure : ⟨1, .function, ⟨[], none⟩, body, ⟨[0]⟩⟩ ∈ seen := List.mem_cons_self
  have hcall : call.InSight seen := by
    refine ⟨fun closure hmem => ?_, fun _ hargument => nomatch hargument⟩
    rw [List.mem_singleton.mp hmem]
    exact hclosure
  refine ⟨hreachable.run_keepsBindings hcall 6, .inr ⟨_, hclosure, List.suffix_refl [0]⟩, ?_⟩
  decide +kernel +zetaReduce

end Lisplet
