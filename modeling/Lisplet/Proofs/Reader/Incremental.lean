import Lisplet.Proofs.Reader.Frame

namespace Lisplet.Reader

/-! Reading can go on where the text at hand stops. Unless a call came to the end of its text, more
text behind changes nothing but what is left; and only at the end can a text turn out unfinished. -/

section Run

variable {text rest : List Char} {scan deeper : Scan α} {outcome : Except Error α}
  {added : List Symbol}

theorem Frame.run (h : Frame ⟨text, []⟩ scan deeper outcome rest added) :
    scan.run text = ⟨outcome, rest, added.reverse⟩ := by
  have hscan : EStateM.run scan ⟨text, []⟩ = ending outcome ⟨rest, added ++ []⟩ := h.scans
  rw [List.append_nil] at hscan
  rw [Scan.run, hscan]
  cases outcome <;> rfl

theorem Frame.run_append (h : Frame ⟨text, []⟩ scan deeper outcome rest added)
    {behind : List Char} (hbehind : behind = [] ∨ rest ≠ []) :
    deeper.run (text ++ behind) = ⟨outcome, rest ++ behind, added.reverse⟩ := by
  have hscan : EStateM.run deeper ⟨text ++ behind, []⟩ =
      ending outcome ⟨rest ++ behind, added ++ []⟩ := h.deepens behind [] hbehind
  rw [List.append_nil] at hscan
  rw [Scan.run, hscan]
  cases outcome <;> rfl

end Run

/-- Text that comes in later leaves the outcome of a call as it is, unless the call came to the end
of the text at hand; and a call that finds its text unfinished has come to the end. -/
structure Incremental (reading : List Char → Reading α) : Prop where
  append : ∀ text behind, (reading text).rest ≠ [] →
    reading (text ++ behind) = { reading text with rest := (reading text).rest ++ behind }
  unfinished : ∀ text error, (reading text).outcome = .error error →
    error.isUnfinished = true → (reading text).rest = []

theorem incremental_run (scan : Nat → Scan α)
    (hscan : ∀ text behind,
      Framed ⟨text, []⟩ (scan (enough text)) (scan (enough (text ++ behind)))) :
    Incremental fun text => (scan (enough text)).run text where
  append text behind hrest := by
    obtain ⟨outcome, rest, added, hframe⟩ := hscan text behind
    rw [hframe.run] at hrest ⊢
    exact hframe.run_append (.inr hrest)
  unfinished text error herror hunfinished := by
    obtain ⟨outcome, rest, added, hframe⟩ := hscan text []
    rw [hframe.run] at herror ⊢
    exact hframe.unfinished error herror hunfinished

section Literals

variable {cursor : Cursor}

theorem framed_atom (start : List Char) : Framed cursor (atom start) (atom start) :=
  .bind framed_takeToken fun _ _ _ _ => framed_meet _

theorem framed_number (first : Char) : Framed cursor (number first) (number first) := by
  refine .bind framed_takeToken fun token _ _ _ => ?_
  dsimp only
  split
  · exact .pure _
  · exact .throw (fun h => nomatch h)

theorem framed_string : Framed cursor string string := by
  rw [string_eq]
  exact .bind (framed_enclosed isBody_readBody _) fun _ _ _ _ => .pure _

theorem framed_keyword : Framed cursor keyword keyword := by
  refine .bind framed_peek fun following _ _ _ => ?_
  split
  · exact .bind framed_take fun _ _ _ _ => framed_atom _
  · refine .bind framed_takeToken fun name _ _ _ => ?_
    split
    · exact .bind (.throw fun h => nomatch h) fun _ _ _ _ => .pure _
    · exact .pure _

variable [RegexEngine]

theorem framed_regex (close : Char) : Framed cursor (regex close) (regex close) := by
  rw [regex_eq]
  refine .bind (framed_enclosed (isBody_regexBody close) _) fun source _ _ _ => ?_
  refine .bind framed_takeToken fun options _ _ _ => ?_
  split
  · exact .throw fun h => nomatch h
  · split
    · exact .throw fun h => nomatch h
    · exact .pure _

theorem framed_slash : Framed cursor slash slash := by
  refine .bind framed_peek fun following _ _ _ => ?_
  split
  · exact framed_meet _
  · exact framed_regex _

theorem framed_percent : Framed cursor percent percent := by
  refine .bind framed_peek fun following _ _ _ => ?_
  split
  · refine .bind framed_take fun _ _ _ _ => .bind framed_peek fun opening _ _ _ => ?_
    split
    · exact .bind framed_take fun _ _ _ _ => framed_regex _
    · exact framed_atom _
  · exact framed_atom _

end Literals

section Nested

variable {cursor : Cursor} {datum datum' : Expected → Scan Value} {list list' : Scan Value}
  (hdatum : ∀ expected (place : Cursor), place.rest <:+ cursor.rest →
    Framed place (datum expected) (datum' expected))

include hdatum

theorem framed_quoted (sugar : Sugar) {place : Cursor} (hplace : place.rest <:+ cursor.rest) :
    Framed place (quoted datum sugar) (quoted datum' sugar) :=
  .bind (hdatum _ place hplace) fun _ _ _ _ => .pure _

theorem framed_template : Framed cursor (template datum) (template datum') := by
  refine .bind (hdatum _ cursor (List.suffix_refl _)) fun operand _ _ _ => ?_
  split
  · exact .bind (.throw fun h => nomatch h) fun _ _ _ _ => .pure _
  · exact .pure _

theorem framed_unquoted : Framed cursor (unquoted datum) (unquoted datum') := by
  refine .bind framed_peek fun following middle _ hmiddle => ?_
  split
  · refine .bind framed_take fun _ after _ hafter => ?_
    exact framed_quoted hdatum _ (hafter.trans hmiddle)
  · exact framed_quoted hdatum _ hmiddle

variable [RegexEngine]

theorem framed_begins (hlist : Framed cursor list list') (c : Char) :
    Framed cursor (begins datum list c) (begins datum' list' c) := by
  refine .bind framed_peek fun following after hpeek _ => ?_
  obtain rfl : cursor = after := by
    cases hpeek
    rfl
  split
  · exact .throw fun h => nomatch h
  · split
    · exact .throw fun h => nomatch h
    · split
      · exact framed_number _
      · split
        · exact hlist
        · exact framed_string
        · exact framed_keyword
        · exact framed_quoted hdatum _ (List.suffix_refl _)
        · exact framed_template hdatum
        · exact framed_unquoted hdatum
        · exact framed_unquoted hdatum
        · exact framed_slash
        · exact framed_percent
        · exact framed_atom _

end Nested

theorem length_lt_of_takeVisible {cursor after : Cursor} {c : Char}
    (h : takeVisible cursor = .ok (some c) after) : after.rest.length < cursor.rest.length := by
  have hlength := (dropLayout_suffix false cursor.rest).length_le
  rw [takeVisible_eq_some h] at hlength
  exact hlength

theorem framed_closePair {cursor : Cursor} : Framed cursor closePair closePair := by
  refine .bind framed_takeVisible fun visible after hvisible _ => ?_
  split
  · exact .pure _
  · exact .throw fun h => nomatch h
  · exact .throw fun _ => takeVisible_eq_none hvisible

variable [RegexEngine]

/-! Scanners in layers, each of which has what it holds read by the layer below it. -/

structure Scanners where
  datum : Expected → Scan Value
  list : List Value → Scan Value

namespace Scanners

def layer (below : Scanners) : Scanners where
  datum expected := do
    match ← takeVisible with
    | none => throw (.unexpectedEnd expected)
    | some c => begins below.datum (below.list []) c
  list items := do
    match ← takeVisible with
    | none => throw (.unexpectedEnd .list)
    | some ')' => return Value.ofList items.reverse
    | some c =>
        let following ← peek
        if c = '.' ∧ following = none then throw (.unexpectedEnd .dottedPair)
        else if c = '.' ∧ following.any isWhitespace then
          if items.isEmpty then throw .dotOutsidePair
          let tail ← below.datum .dottedPair
          closePair
          return Value.ofDotted items.reverse tail
        else
          let item ← begins below.datum (below.list []) c
          below.list (item :: items)

def layers (bottom : Scanners) : Nat → Scanners
  | 0 => bottom
  | depth + 1 => (bottom.layers depth).layer

def exhausted : Scanners where
  datum expected := throw (.unexpectedEnd expected)
  list _ := throw (.unexpectedEnd .list)

theorem layers_exhausted (fuel : Nat) :
    exhausted.layers fuel = ⟨Reader.datum fuel, Reader.list fuel⟩ := by
  induction fuel with
  | zero => rfl
  | succ fuel ih =>
      rw [layers, ih]
      rfl

/-- Each layer takes a character, so with more layers than characters neither run comes to its
bottom, whatever that is. -/
theorem framed_layers (bottom bottom' : Scanners) (depth depth' : Nat) (hle : depth ≤ depth') :
    (∀ expected (cursor : Cursor), cursor.rest.length < depth →
      Framed cursor ((bottom.layers depth).datum expected)
        ((bottom'.layers depth').datum expected)) ∧
    ∀ items (cursor : Cursor), cursor.rest.length < depth →
      Framed cursor ((bottom.layers depth).list items) ((bottom'.layers depth').list items) := by
  induction depth generalizing depth' with
  | zero =>
      exact ⟨fun _ _ hcursor => absurd hcursor (Nat.not_lt_zero _),
        fun _ _ hcursor => absurd hcursor (Nat.not_lt_zero _)⟩
  | succ depth ih =>
      obtain ⟨depth', rfl⟩ : ∃ deeper, depth' = deeper + 1 := ⟨depth' - 1, by omega⟩
      obtain ⟨hdatum, hlist⟩ := ih depth' (by omega)
      have hinside : ∀ {cursor : Cursor}, cursor.rest.length < depth →
          ∀ expected (place : Cursor), place.rest <:+ cursor.rest →
            Framed place ((bottom.layers depth).datum expected)
              ((bottom'.layers depth').datum expected) := by
        intro cursor hcursor expected place hplace
        exact hdatum expected place (Nat.lt_of_le_of_lt hplace.length_le hcursor)
      refine ⟨fun expected cursor hcursor => ?_, fun items cursor hcursor => ?_⟩
      · refine .bind framed_takeVisible fun visible after hvisible _ => ?_
        cases visible with
        | none => exact .throw fun _ => takeVisible_eq_none hvisible
        | some c =>
            have hafter : after.rest.length < depth := by
              have := length_lt_of_takeVisible hvisible
              omega
            exact framed_begins (hinside hafter) (hlist [] after hafter) c
      · refine .bind framed_takeVisible fun visible after hvisible _ => ?_
        split
        · exact .throw fun _ => takeVisible_eq_none hvisible
        · exact .pure _
        · rename_i c _
          have hafter : after.rest.length < depth := by
            have := length_lt_of_takeVisible hvisible
            omega
          refine .bind framed_peek fun following place hpeek _ => ?_
          obtain ⟨hfollowing, rfl⟩ : after.rest.head? = following ∧ after = place := by
            cases hpeek
            exact ⟨rfl, rfl⟩
          split
          · rename_i hend
            refine .throw fun _ => ?_
            rw [hend.2] at hfollowing
            exact List.head?_eq_none_iff.mp hfollowing
          · split
            · split
              · exact .bind (.throw fun h => nomatch h) fun _ _ h _ => nomatch h
              · refine .bind (hinside hafter _ _ (List.suffix_refl _)) fun tail _ _ _ => ?_
                exact .bind framed_closePair fun _ _ _ _ => .pure _
            · refine .bind (framed_begins (hinside hafter) (hlist [] after hafter) c) ?_
              intro item last _ hlast
              exact hlist _ last (Nat.lt_of_le_of_lt hlast.length_le hafter)

end Scanners

theorem framed_datum_list (fuel fuel' : Nat) (hle : fuel ≤ fuel') :
    (∀ expected (cursor : Cursor), cursor.rest.length < fuel →
      Framed cursor (datum fuel expected) (datum fuel' expected)) ∧
    ∀ items (cursor : Cursor), cursor.rest.length < fuel →
      Framed cursor (list fuel items) (list fuel' items) := by
  have hlayers := Scanners.framed_layers .exhausted .exhausted fuel fuel' hle
  rwa [Scanners.layers_exhausted, Scanners.layers_exhausted] at hlayers

theorem framed_datum_enough (text behind : List Char) :
    Framed ⟨text, []⟩ (datum (enough text) .datum) (datum (enough (text ++ behind)) .datum) := by
  have hle : enough text ≤ enough (text ++ behind) := by
    simp [enough]
  exact (framed_datum_list _ _ hle).1 .datum ⟨text, []⟩ (Nat.lt_succ_self _)

theorem incremental_require : Incremental require :=
  incremental_run (fun fuel => datum fuel .datum) framed_datum_enough

theorem incremental_read : Incremental read := by
  constructor
  · intro text behind hrest
    cases hlayout : dropLayout false text with
    | nil =>
        rw [read, if_pos hlayout] at hrest
        exact absurd rfl hrest
    | cons c visible =>
        have htext : dropLayout false text ≠ [] := by simp [hlayout]
        have hlonger : dropLayout false (text ++ behind) ≠ [] := by
          rw [dropLayout_append htext]
          simp [hlayout]
        rw [read_of_visible htext] at hrest ⊢
        rw [read_of_visible hlonger, incremental_require.append text behind hrest]
  · intro text error herror hunfinished
    cases hlayout : dropLayout false text with
    | nil => rw [read, if_pos hlayout]
    | cons c visible =>
        have htext : dropLayout false text ≠ [] := by simp [hlayout]
        rw [read_of_visible htext] at herror ⊢
        refine incremental_require.unfinished text error ?_ hunfinished
        cases houtcome : (require text).outcome with
        | error other =>
            rw [houtcome] at herror
            cases herror
            rfl
        | ok value =>
            rw [houtcome] at herror
            cases herror

theorem reading_incremental : Incremental read ∧ Incremental require :=
  ⟨incremental_read, incremental_require⟩

end Lisplet.Reader
