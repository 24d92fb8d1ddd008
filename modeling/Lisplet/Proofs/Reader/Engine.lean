import Lisplet.Proofs.Reader.Frame

namespace Lisplet

/-! What is read with one engine is read alike with any other that accepts as much. -/

namespace RegexEngine

/-- Every source that the first engine accepts, the second accepts, too. -/
def Within (engine engine' : RegexEngine) : Prop :=
  ∀ source settings,
    (engine.compile source settings).isOk = true → (engine'.compile source settings).isOk = true

abbrev refusing : RegexEngine :=
  ⟨fun _ _ => .error ""⟩

theorem refusing_within (engine : RegexEngine) : refusing.Within engine :=
  fun _ _ h => nomatch h

end RegexEngine

namespace Reader

/-- What the first scanner returns, the second returns, too. -/
def Within (scan scan' : Scan α) : Prop :=
  ∀ cursor value after, scan cursor = .ok value after → scan' cursor = .ok value after

namespace Within

theorem refl (scan : Scan α) : Within scan scan :=
  fun _ _ _ hrun => hrun

theorem throw (error : Error) (scan : Scan α) : Within (throw error) scan := by
  intro cursor value after hrun
  cases hrun

theorem bind {scan scan' : Scan α} {next next' : α → Scan β} (hscan : Within scan scan')
    (hnext : ∀ value, Within (next value) (next' value)) :
    Within (scan >>= next) (scan' >>= next') := by
  intro cursor result last hrun
  cases hfirst : scan cursor with
  | error error after => cases (bind_error hfirst).symm.trans hrun
  | ok value after =>
      rw [bind_ok (hscan cursor value after hfirst)]
      exact hnext value after result last ((bind_ok hfirst).symm.trans hrun)

theorem ite {condition : Prop} [Decidable condition] {first first' second second' : Scan α}
    (hfirst : Within first first') (hsecond : Within second second') :
    Within (if condition then first else second) (if condition then first' else second') := by
  split
  · exact hfirst
  · exact hsecond

theorem map {scan scan' : Scan α} (h : Within scan scan') {f : α → β} :
    Within (f <$> scan) (f <$> scan') := by
  rw [map_eq_pure_bind, map_eq_pure_bind]
  exact h.bind fun _ => .refl _

theorem run_eq {scan scan' : Scan α} (h : Within scan scan') {text : List Char}
    (hok : (scan.run text).outcome.isOk = true) : scan'.run text = scan.run text := by
  cases hrun : scan ⟨text, []⟩ with
  | error error after =>
      simp only [Scan.run, EStateM.run, hrun] at hok
      cases hok
  | ok value after => simp only [Scan.run, EStateM.run, hrun, h _ _ _ hrun]

end Within

section Nested

variable {datum datum' : Expected → Scan Value}
  (hdatum : ∀ expected, Within (datum expected) (datum' expected))

include hdatum

theorem within_quoted (sugar : Sugar) : Within (quoted datum sugar) (quoted datum' sugar) :=
  .bind (hdatum _) fun _ => .refl _

theorem within_template : Within (template datum) (template datum') :=
  .bind (hdatum _) fun _ => .refl _

theorem within_unquoted : Within (unquoted datum) (unquoted datum') :=
  .bind (.refl _) fun _ =>
    .ite (.bind (.refl _) fun _ => within_quoted hdatum _) (within_quoted hdatum _)

end Nested

section Engines

variable {engine engine' : RegexEngine} (h : engine.Within engine')

include h

theorem within_regex (close : Char) : Within (@regex engine close) (@regex engine' close) := by
  rw [@regex_eq engine, @regex_eq engine']
  refine .bind (.refl _) fun source => .bind (.refl _) fun options => ?_
  split
  · exact .throw _ _
  · cases hcompile : @Regex.compile engine ⟨String.ofList source, String.ofList options⟩ with
    | error message => exact .throw _ _
    | ok find =>
        have haccepts := h _ _ (congrArg Except.isOk hcompile)
        cases hcompile' : @Regex.compile engine' ⟨String.ofList source, String.ofList options⟩ with
        | error message => cases (congrArg Except.isOk hcompile').symm.trans haccepts
        | ok find => exact .refl _

theorem within_slash : Within (@slash engine) (@slash engine') :=
  .bind (.refl _) fun _ => .ite (.refl _) (within_regex h '/')

theorem within_percent : Within (@percent engine) (@percent engine') :=
  .bind (.refl _) fun _ => .ite
    (.bind (.refl _) fun _ => .bind (.refl _) fun _ =>
      .ite (.bind (.refl _) fun _ => within_regex h '\x7d') (.refl _))
    (.refl _)

theorem within_begins {datum datum' : Expected → Scan Value} {list list' : Scan Value}
    (hdatum : ∀ expected, Within (datum expected) (datum' expected)) (hlist : Within list list')
    (c : Char) : Within (@begins engine datum list c) (@begins engine' datum' list' c) := by
  refine .bind (.refl _) fun following => ?_
  refine .ite (.refl _) (.ite (.refl _) (.ite (.refl _) ?_))
  split
  · exact hlist
  · exact .refl _
  · exact .refl _
  · exact within_quoted hdatum _
  · exact within_template hdatum
  · exact within_unquoted hdatum
  · exact within_unquoted hdatum
  · exact within_slash h
  · exact within_percent h
  · exact .refl _

theorem within_datum_list (fuel : Nat) :
    (∀ expected, Within (@datum engine fuel expected) (@datum engine' fuel expected)) ∧
      ∀ items, Within (@list engine fuel items) (@list engine' fuel items) := by
  induction fuel with
  | zero => exact ⟨fun _ => .refl _, fun _ => .refl _⟩
  | succ fuel ih =>
      have hbegins : ∀ c, Within (@begins engine (@datum engine fuel) (@list engine fuel []) c)
          (@begins engine' (@datum engine' fuel) (@list engine' fuel []) c) :=
        within_begins h ih.1 (ih.2 [])
      refine ⟨fun expected => .bind (.refl _) fun visible => ?_,
        fun items => .bind (.refl _) fun visible => ?_⟩
      · cases visible with
        | none => exact .refl _
        | some c => exact hbegins c
      · split
        · exact .refl _
        · exact .refl _
        · have hpair : Within
              (@datum engine fuel .dottedPair >>= fun tail => closePair >>= fun _ =>
                pure (Value.ofDotted items.reverse tail))
              (@datum engine' fuel .dottedPair >>= fun tail => closePair >>= fun _ =>
                pure (Value.ofDotted items.reverse tail)) :=
            .bind (ih.1 _) fun _ => .refl _
          refine .bind (.refl _) fun following => .ite (.refl _) (.ite (.ite ?_ hpair) ?_)
          · exact .bind (.refl _) fun _ => hpair
          · exact .bind (hbegins _) fun item => ih.2 (item :: items)

theorem read_eq_of_isOk {text : List Char} (hok : (@read engine text).outcome.isOk = true) :
    @read engine' text = @read engine text := by
  unfold read at hok ⊢
  split
  · rfl
  · rename_i hvisible
    rw [if_neg hvisible] at hok
    exact ((within_datum_list h _).1 .datum).map.run_eq hok

theorem readMany_eq_of_isOk (fuel : Nat) {text : List Char}
    (hok : (@readMany engine fuel text).outcome.isOk = true) :
    @readMany engine' fuel text = @readMany engine fuel text := by
  induction fuel generalizing text with
  | zero => rfl
  | succ fuel ih =>
      simp only [readMany] at hok ⊢
      cases hread : @read engine text with
      | mk outcome rest met =>
          rw [hread] at hok
          cases outcome with
          | error error => cases hok
          | ok value? =>
              have hsame := read_eq_of_isOk h (congrArg (fun reading => reading.outcome.isOk) hread)
              rw [hsame, hread]
              cases value? with
              | none => rfl
              | some value =>
                  have hmore : (@readMany engine fuel rest).outcome.isOk = true := by
                    cases houtcome : (@readMany engine fuel rest).outcome with
                    | error error => simp only [houtcome] at hok; exact hok
                    | ok values => rfl
                  simp only [ih hmore]

/-- A text that is read with one engine is read alike with any other that accepts as much. -/
theorem readAll_eq_of_isOk {text : List Char} (hok : (@readAll engine text).outcome.isOk = true) :
    @readAll engine' text = @readAll engine text :=
  readMany_eq_of_isOk h _ hok

end Engines

end Reader

end Lisplet
