import Lisplet.Proofs.Reader.ListSyntax

namespace Lisplet.Reader

/-! Each call comes to an end. It finds nothing only where whitespace and comments are left, and
takes at least one character everywhere else. -/

/-- Whitespace and comments; a comment at the end may lack its newline. -/
def OnlyLayout (text : List Char) : Prop :=
  IsLayout (text ++ ['\n'])

theorem isLayout_of_dropLayout {text : List Char} :
    (dropLayout false text = [] → OnlyLayout text) ∧
      (dropLayout true text = [] → ∃ body rest, text ++ ['\n'] = body ++ '\n' :: rest ∧
        '\n' ∉ body ∧ IsLayout rest) := by
  induction text with
  | nil => exact ⟨fun _ => .blank rfl .nil, fun _ => ⟨[], [], rfl, by simp, .nil⟩⟩
  | cons c text ih =>
      obtain ⟨hlayout, hcomment⟩ := ih
      refine ⟨fun h => ?_, fun h => ?_⟩
      · rw [dropLayout, if_neg (by simp)] at h
        split at h
        · rename_i hblank
          exact .blank hblank (hlayout h)
        · split at h
          · rename_i hsemicolon
            obtain ⟨body, rest, heq, hbody, hrest⟩ := hcomment h
            rw [OnlyLayout, List.cons_append, heq, hsemicolon]
            exact .comment body hbody hrest
          · cases h
      · rw [dropLayout, if_pos rfl] at h
        by_cases hc : c = '\n'
        · subst hc
          exact ⟨[], text ++ ['\n'], rfl, by simp, hlayout (by simpa using h)⟩
        · obtain ⟨body, rest, heq, hbody, hrest⟩ := hcomment (by simpa [hc] using h)
          refine ⟨c :: body, rest, by simp [heq], ?_, hrest⟩
          simpa using ⟨Ne.symm hc, hbody⟩

theorem dropLayout_eq_nil_iff {text : List Char} :
    dropLayout false text = [] ↔ OnlyLayout text := by
  refine ⟨isLayout_of_dropLayout.1, fun h => ?_⟩
  have hended := h.dropLayout_append []
  rw [List.append_nil] at hended
  cases hvisible : dropLayout false text with
  | nil => rfl
  | cons c visible =>
      rw [dropLayout_append (by simp [hvisible]), hvisible] at hended
      cases hended

/-! Inside a datum something else is missing than a datum as such. -/

abbrev missing : Error :=
  .unexpectedEnd .datum

def isInner : Error → Bool
  | .unexpectedEnd expected => expected ≠ .datum
  | .strayClose | .dotOutsidePair | .badDottedTail | .badNumber _ | .unterminatedString
  | .unterminatedRegex | .unknownRegexOption _ | .badRegex _ | .emptyKeyword
  | .spliceOutsideList => true
  | _ => false

def FailsInside (scan : Scan α) : Prop :=
  ∀ cursor error after, scan cursor = .error error after → isInner error = true

namespace FailsInside

theorem of_ok {scan : Scan α} (h : ∀ cursor, ∃ value after, scan cursor = .ok value after) :
    FailsInside scan := by
  intro cursor error after hrun
  obtain ⟨value, last, hok⟩ := h cursor
  cases hok.symm.trans hrun

theorem pure (value : α) : FailsInside (pure value) :=
  of_ok fun cursor => ⟨value, cursor, rfl⟩

theorem throw {error : Error} (h : isInner error = true) :
    FailsInside (throw error : Scan α) := by
  intro cursor failure after hrun
  cases hrun
  exact h

theorem bind {scan : Scan α} {next : α → Scan β} (hscan : FailsInside scan)
    (hnext : ∀ value, FailsInside (next value)) : FailsInside (scan >>= next) := by
  intro cursor error last hrun
  cases hfirst : scan cursor with
  | ok value after => exact hnext value after error last ((bind_ok hfirst).symm.trans hrun)
  | error failure after =>
      cases (bind_error hfirst).symm.trans hrun
      exact hscan cursor _ _ hfirst

theorem get_bind {next : Cursor → Scan α} (hnext : ∀ cursor, FailsInside (next cursor)) :
    FailsInside (get >>= next) :=
  bind (of_ok fun cursor => ⟨cursor, cursor, rfl⟩) hnext

theorem peek : FailsInside peek :=
  of_ok fun cursor => ⟨_, cursor, rfl⟩

theorem take : FailsInside take := by
  refine of_ok fun cursor => ?_
  obtain ⟨rest, met⟩ := cursor
  cases rest with
  | nil => exact ⟨none, _, rfl⟩
  | cons c rest => exact ⟨some c, _, rfl⟩

theorem takeVisible : FailsInside takeVisible :=
  get_bind fun _ => bind (of_ok fun _ => ⟨(), _, rfl⟩) fun _ => take

theorem takeToken : FailsInside takeToken :=
  of_ok fun _ => ⟨_, _, rfl⟩

theorem meet (value : Value) : FailsInside (meet value) := by
  refine of_ok fun cursor => ?_
  cases value <;> exact ⟨_, _, rfl⟩

theorem atom (start : List Char) : FailsInside (atom start) :=
  bind takeToken fun _ => meet _

end FailsInside

theorem failsInside_number (first : Char) : FailsInside (number first) := by
  refine .bind .takeToken fun token => ?_
  dsimp only
  split
  · exact .pure _
  · exact .throw rfl

theorem failsInside_enclosed (body : List Char → Option (List Char × List Char))
    {unterminated : Error} (h : isInner unterminated = true) :
    FailsInside (enclosed body unterminated) := by
  refine .get_bind fun _ => ?_
  split
  · exact .bind (.of_ok fun _ => ⟨(), _, rfl⟩) fun _ => .pure _
  · exact .bind (.of_ok fun _ => ⟨(), _, rfl⟩) fun _ => .throw h

theorem failsInside_string : FailsInside string := by
  rw [string_eq]
  exact .bind (failsInside_enclosed _ rfl) fun _ => .pure _

theorem failsInside_keyword : FailsInside keyword := by
  refine .bind .peek fun following => ?_
  split
  · exact .bind .take fun _ => .atom _
  · refine .bind .takeToken fun name => ?_
    split
    · exact .bind (.throw rfl) fun _ => .pure _
    · exact .pure _

theorem failsInside_closePair : FailsInside closePair := by
  refine .bind .takeVisible fun visible => ?_
  split
  · exact .pure _
  · exact .throw rfl
  · exact .throw rfl

section Nested

variable {datum : Expected → Scan Value}
  (hdatum : ∀ expected, expected ≠ .datum → FailsInside (datum expected))

include hdatum

theorem failsInside_quoted (sugar : Sugar) : FailsInside (quoted datum sugar) :=
  .bind (hdatum _ (by simp)) fun _ => .pure _

theorem failsInside_template : FailsInside (template datum) := by
  refine .bind (hdatum _ (by simp)) fun operand => ?_
  split
  · exact .bind (.throw rfl) fun _ => .pure _
  · exact .pure _

theorem failsInside_unquoted : FailsInside (unquoted datum) := by
  refine .bind .peek fun following => ?_
  split
  · exact .bind .take fun _ => failsInside_quoted hdatum _
  · exact failsInside_quoted hdatum _

end Nested

variable [RegexEngine]

/-! From the first visible character on, the layout before it and the number of steps make no
difference, as long as there are more steps than characters. -/

section Visible

variable {text visible : List Char} {c : Char}

theorem framed_begins_fuel {fuel fuel' : Nat} {met : List Symbol} (hvisible : visible.length < fuel)
    (hle : fuel ≤ fuel') (c : Char) :
    Framed ⟨visible, met⟩ (begins (datum fuel) (list fuel []) c)
      (begins (datum fuel') (list fuel' []) c) := by
  obtain ⟨hdatum, hlist⟩ := framed_datum_list fuel fuel' hle
  refine framed_begins (fun expected place hplace => ?_) (hlist [] _ hvisible) c
  exact hdatum expected place (Nat.lt_of_le_of_lt hplace.length_le hvisible)

/-- The reading of a datum from behind its first character. -/
def readBehind (c : Char) (visible : List Char) : Reading Value :=
  (begins (datum (enough visible)) (list (enough visible) []) c).run visible

theorem readBehind_suffix (c : Char) (visible : List Char) :
    (readBehind c visible).rest <:+ visible := by
  obtain ⟨outcome, rest, added, hframe⟩ :=
    framed_begins_fuel (Nat.lt_succ_self visible.length) (Nat.le_refl _) c
  rw [readBehind, enough, hframe.run]
  exact hframe.suffix

theorem require_of_visible (h : dropLayout false text = c :: visible) :
    require text = readBehind c visible := by
  have hlength : visible.length + 1 ≤ text.length := by
    have hsuffix := (dropLayout_suffix false text).length_le
    rwa [h] at hsuffix
  have hrun : require text = (begins (datum text.length) (list text.length []) c).run visible := by
    have hdatum : datum (enough text) .datum ⟨text, []⟩ =
        begins (datum text.length) (list text.length []) c ⟨visible, []⟩ :=
      bind_ok (takeVisible_of_cons h [])
    rw [require, Scan.run, Scan.run, EStateM.run, hdatum]
    rfl
  obtain ⟨outcome, rest, added, hframe⟩ :=
    framed_begins_fuel (Nat.lt_succ_self visible.length) hlength c
  have hmore := hframe.run_append (.inl rfl)
  rw [List.append_nil, List.append_nil] at hmore
  rw [hrun, hmore, readBehind, enough, hframe.run]

theorem require_of_layout (h : dropLayout false text = []) :
    require text = ⟨.error (.unexpectedEnd .datum), [], []⟩ := by
  have hdatum : datum (enough text) .datum ⟨text, []⟩ =
      .error (.unexpectedEnd .datum) ⟨[], []⟩ := bind_ok (takeVisible_of_nil h [])
  exact Scan.run_of_error hdatum

theorem read_of_layout (h : dropLayout false text = []) : read text = ⟨.ok none, [], []⟩ := by
  rw [read, if_pos h]

theorem read_congr {text' : List Char} (h : dropLayout false text = dropLayout false text') :
    read text = read text' := by
  cases hvisible : dropLayout false text' with
  | nil => rw [read_of_layout (h.trans hvisible), read_of_layout hvisible]
  | cons c visible =>
      have htext := h.trans hvisible
      rw [read_of_visible (by simp [htext]), read_of_visible (by simp [hvisible]),
        require_of_visible htext, require_of_visible hvisible]

end Visible

theorem require_suffix (text : List Char) : (require text).rest <:+ text := by
  cases hvisible : dropLayout false text with
  | nil =>
      rw [require_of_layout hvisible]
      exact List.nil_suffix
  | cons c visible =>
      have htext := dropLayout_suffix false text
      rw [hvisible] at htext
      rw [require_of_visible hvisible]
      exact ((readBehind_suffix c visible).trans (List.suffix_cons c visible)).trans htext

theorem require_length_lt {text : List Char} (h : ¬ OnlyLayout text) :
    (require text).rest.length < text.length := by
  rw [← dropLayout_eq_nil_iff] at h
  obtain ⟨c, visible, hvisible⟩ := List.exists_cons_of_ne_nil h
  have htext := (dropLayout_suffix false text).length_le
  rw [hvisible, List.length_cons] at htext
  rw [require_of_visible hvisible]
  have hrest := (readBehind_suffix c visible).length_le
  omega

theorem read_of_not_onlyLayout {text : List Char} (h : ¬ OnlyLayout text) :
    read text = ⟨(require text).outcome.map some, (require text).rest, (require text).met⟩ :=
  read_of_visible (mt dropLayout_eq_nil_iff.mp h)

theorem read_of_onlyLayout {text : List Char} (h : OnlyLayout text) :
    read text = ⟨.ok none, [], []⟩ :=
  read_of_layout (dropLayout_eq_nil_iff.mpr h)

theorem read_suffix (text : List Char) : (read text).rest <:+ text := by
  by_cases h : OnlyLayout text
  · rw [read_of_onlyLayout h]
    exact List.nil_suffix
  · rw [read_of_not_onlyLayout h]
    exact require_suffix text

theorem read_length_lt {text : List Char} (h : ¬ OnlyLayout text) :
    (read text).rest.length < text.length := by
  rw [read_of_not_onlyLayout h]
  exact require_length_lt h

theorem read_eq_none_iff {text : List Char} :
    (read text).outcome = .ok none ↔ OnlyLayout text := by
  by_cases h : OnlyLayout text
  · simp [read_of_onlyLayout h, h]
  · rw [read_of_not_onlyLayout h]
    cases (require text).outcome <;> simp [Except.map, h]

/-! The number of layers is no limit: no run gets to what lies at their bottom. -/

theorem require_eq_layers (text : List Char) (bottom : Scanners) {depth : Nat}
    (hdepth : enough text ≤ depth) :
    require text = ((bottom.layers depth).datum .datum).run text := by
  obtain ⟨hdatum, _⟩ := Scanners.framed_layers .exhausted bottom (enough text) depth hdepth
  rw [Scanners.layers_exhausted] at hdatum
  obtain ⟨outcome, rest, added, hframe⟩ := hdatum .datum ⟨text, []⟩ (Nat.lt_succ_self _)
  have hdeeper := hframe.run_append (.inl rfl)
  rw [List.append_nil, List.append_nil] at hdeeper
  rw [require, hdeeper]
  exact hframe.run

/-! No failure of the scanner is about a datum as such. -/

theorem failsInside_regex (close : Char) : FailsInside (regex close) := by
  rw [regex_eq]
  refine .bind (failsInside_enclosed _ rfl) fun source => .bind .takeToken fun options => ?_
  split
  · exact .throw rfl
  · split
    · exact .throw rfl
    · exact .pure _

theorem failsInside_slash : FailsInside slash := by
  refine .bind .peek fun following => ?_
  split
  · exact .meet _
  · exact failsInside_regex _

theorem failsInside_percent : FailsInside percent := by
  refine .bind .peek fun following => ?_
  split
  · refine .bind .take fun _ => .bind .peek fun opening => ?_
    split
    · exact .bind .take fun _ => failsInside_regex _
    · exact .atom _
  · exact .atom _

theorem failsInside_begins {datum : Expected → Scan Value} {list : Scan Value}
    (hdatum : ∀ expected, expected ≠ .datum → FailsInside (datum expected))
    (hlist : FailsInside list) (c : Char) : FailsInside (begins datum list c) := by
  refine .bind .peek fun following => ?_
  split
  · exact .throw rfl
  · split
    · exact .throw rfl
    · split
      · exact failsInside_number _
      · split
        · exact hlist
        · exact failsInside_string
        · exact failsInside_keyword
        · exact failsInside_quoted hdatum _
        · exact failsInside_template hdatum
        · exact failsInside_unquoted hdatum
        · exact failsInside_unquoted hdatum
        · exact failsInside_slash
        · exact failsInside_percent
        · exact .atom _

theorem failsInside_datum_list (fuel : Nat) :
    (∀ expected, expected ≠ .datum → FailsInside (datum fuel expected)) ∧
      ∀ items, FailsInside (list fuel items) := by
  induction fuel with
  | zero =>
      exact ⟨fun _ hexpected => .throw (by simpa [isInner] using hexpected), fun _ => .throw rfl⟩
  | succ fuel ih =>
      obtain ⟨hdatum, hlist⟩ := ih
      refine ⟨fun expected hexpected => ?_, fun items => ?_⟩
      · refine .bind .takeVisible fun visible => ?_
        cases visible with
        | none => exact .throw (by simpa [isInner] using hexpected)
        | some c => exact failsInside_begins hdatum (hlist []) c
      · refine .bind .takeVisible fun visible => ?_
        split
        · exact .throw rfl
        · exact .pure _
        · refine .bind .peek fun following => ?_
          split
          · exact .throw rfl
          · split
            · split
              · exact .bind (.throw rfl) fun _ => .bind (hdatum _ (by simp)) fun _ =>
                  .bind failsInside_closePair fun _ => .pure _
              · exact .bind (hdatum _ (by simp)) fun _ =>
                  .bind failsInside_closePair fun _ => .pure _
            · exact .bind (failsInside_begins hdatum (hlist []) _) fun _ => hlist _

theorem isInner_of_readBehind {c : Char} {visible : List Char} {error : Error}
    (h : (readBehind c visible).outcome = .error error) : isInner error = true := by
  obtain ⟨hdatum, hlist⟩ := failsInside_datum_list (enough visible)
  rw [readBehind, Scan.run] at h
  split at h
  · cases h
  · rename_i failure after hrun
    cases h
    exact failsInside_begins hdatum (hlist []) c _ _ _ hrun

theorem require_eq_missing_iff {text : List Char} :
    (require text).outcome = .error missing ↔ OnlyLayout text := by
  cases hvisible : dropLayout false text with
  | nil => simp [require_of_layout hvisible, ← dropLayout_eq_nil_iff, hvisible]
  | cons c visible =>
      have hlayout : ¬ OnlyLayout text := by simp [← dropLayout_eq_nil_iff, hvisible]
      refine iff_of_false (fun hmissing => ?_) hlayout
      rw [require_of_visible hvisible] at hmissing
      cases isInner_of_readBehind hmissing

/-- Where nothing has to be there, nothing is missing. -/
theorem isInner_of_read {text : List Char} {error : Error}
    (h : (read text).outcome = .error error) : isInner error = true := by
  cases hvisible : dropLayout false text with
  | nil =>
      rw [read_of_layout hvisible] at h
      cases h
  | cons c visible =>
      rw [read_of_visible (by simp [hvisible]), require_of_visible hvisible] at h
      cases hbehind : (readBehind c visible).outcome with
      | ok value =>
          simp only [hbehind] at h
          cases h
      | error failure =>
          simp only [hbehind] at h
          cases h
          exact isInner_of_readBehind hbehind

theorem isInner_of_readMany {fuel : Nat} {text : List Char} {error : Error}
    (h : (readMany fuel text).outcome = .error error) : isInner error = true := by
  induction fuel generalizing text with
  | zero => cases h
  | succ fuel ih =>
      rw [readMany] at h
      split at h
      · rename_i hread
        cases h
        exact isInner_of_read (congrArg Reading.outcome hread)
      · cases h
      · rename_i value rest met _
        cases hmore : (readMany fuel rest).outcome with
        | ok values =>
            simp only [hmore] at h
            cases h
        | error failure =>
            simp only [hmore] at h
            cases h
            exact ih hmore

theorem isInner_of_readAll {text : List Char} {error : Error}
    (h : (readAll text).outcome = .error error) : isInner error = true :=
  isInner_of_readMany h

end Lisplet.Reader
