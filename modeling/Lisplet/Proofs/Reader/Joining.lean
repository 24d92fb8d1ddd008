import Lisplet.Proofs.Reader.Progress
import Lisplet.Regex.PatternEngine

namespace Lisplet.Reader

/-! Texts joined by a newline are read one after the other. A scanner that succeeds at the end of a
text cannot tell the end from a newline. -/

def Cursor.followedBy (cursor : Cursor) (behind : List Char) : Cursor :=
  { cursor with rest := cursor.rest ++ '\n' :: behind }

/-- Where the scanner succeeds it still does if the text goes on in a new line, and leaves all of
what is added. -/
def Delimited (scan : Scan α) : Prop :=
  ∀ cursor value after behind, scan cursor = .ok value after →
    scan (cursor.followedBy behind) = .ok value (after.followedBy behind)

def Fails (scan : Scan α) : Prop :=
  ∀ cursor value after, scan cursor ≠ .ok value after

theorem fails_throw (error : Error) : Fails (throw error : Scan α) :=
  fun _ _ _ hrun => nomatch hrun

namespace Delimited

theorem pure (value : α) : Delimited (pure value) := by
  intro cursor result after behind hrun
  cases hrun
  rfl

theorem of_fails {scan : Scan α} (h : Fails scan) : Delimited scan :=
  fun cursor value after _ hrun => absurd hrun (h cursor value after)

theorem throw (error : Error) : Delimited (throw error : Scan α) :=
  of_fails (fails_throw error)

theorem bind {scan : Scan α} {next : α → Scan β} (hscan : Delimited scan)
    (hnext : ∀ value, Delimited (next value)) : Delimited (scan >>= next) := by
  intro cursor result last behind hrun
  cases hfirst : scan cursor with
  | error error after => cases (bind_error hfirst).symm.trans hrun
  | ok value after =>
      rw [bind_ok (hscan cursor value after behind hfirst)]
      exact hnext value after result last behind ((bind_ok hfirst).symm.trans hrun)

theorem peek_bind {next : Option Char → Scan α} (hnext : ∀ following, Delimited (next following))
    (hend : Fails (next none) ∨ next (some '\n') = next none) : Delimited (peek >>= next) := by
  intro cursor value after behind hrun
  obtain ⟨rest, met⟩ := cursor
  cases rest with
  | nil =>
      change next none ⟨[], met⟩ = _ at hrun
      change next (some '\n') (Cursor.followedBy ⟨[], met⟩ behind) = _
      rw [hend.resolve_left fun hfails => hfails _ _ _ hrun]
      exact hnext none _ value after behind hrun
  | cons c rest => exact hnext (some c) _ value after behind hrun

theorem mark {mark : Char} (hmark : mark ≠ '\n') {next : Option Char → Scan α} {other : Scan α}
    (hnext : ∀ c, Delimited (next c)) (hother : Delimited other) :
    Delimited
      (peek >>= fun following => if following = some mark then take >>= next else other) := by
  intro cursor value after behind hrun
  obtain ⟨rest, met⟩ := cursor
  by_cases hhead : rest.head? = some mark
  · obtain ⟨rest, rfl⟩ := List.head?_eq_some_iff.mp hhead
    change (if some mark = some mark then take >>= next else other) ⟨mark :: rest, met⟩ = _ at hrun
    change (if some mark = some mark then take >>= next else other)
      (Cursor.followedBy ⟨mark :: rest, met⟩ behind) = _
    rw [if_pos rfl] at hrun ⊢
    exact hnext (some mark) ⟨rest, met⟩ value after behind hrun
  · have hlonger : (rest ++ '\n' :: behind).head? ≠ some mark := by
      cases rest with
      | nil => simpa using Ne.symm hmark
      | cons c rest => exact hhead
    change (if rest.head? = some mark then take >>= next else other) ⟨rest, met⟩ = _ at hrun
    change (if (rest ++ '\n' :: behind).head? = some mark then take >>= next else other)
      (Cursor.followedBy ⟨rest, met⟩ behind) = _
    rw [if_neg hhead] at hrun
    rw [if_neg hlonger]
    exact hother _ value after behind hrun

theorem takeVisible_bind {next : Option Char → Scan α} (hnone : Fails (next none))
    (hsome : ∀ c, Delimited (next (some c))) : Delimited (takeVisible >>= next) := by
  intro cursor value after behind hrun
  obtain ⟨text, met⟩ := cursor
  cases hvisible : dropLayout false text with
  | nil =>
      rw [bind_ok (takeVisible_of_nil hvisible met)] at hrun
      exact absurd hrun (hnone _ _ _)
  | cons c rest =>
      have hlonger : dropLayout false (text ++ '\n' :: behind) = c :: (rest ++ '\n' :: behind) := by
        rw [dropLayout_append (by simp [hvisible]), hvisible]
        rfl
      rw [bind_ok (takeVisible_of_cons hvisible met)] at hrun
      exact (bind_ok (takeVisible_of_cons hlonger met)).trans (hsome c _ value after behind hrun)

theorem takeToken : Delimited takeToken := by
  intro cursor token after behind hrun
  obtain ⟨text, met⟩ := cursor
  cases hrun
  change EStateM.Result.ok ((text ++ '\n' :: behind).takeWhile isTokenChar)
    (Cursor.mk ((text ++ '\n' :: behind).dropWhile isTokenChar) met) = _
  cases hrest : text.dropWhile isTokenChar with
  | nil =>
      have htoken : text.takeWhile isTokenChar = text := by
        have hsplit := List.takeWhile_append_dropWhile (p := isTokenChar) (l := text)
        rwa [hrest, List.append_nil] at hsplit
      have hchars : ∀ c ∈ text, isTokenChar c = true :=
        List.all_eq_true.mp (htoken ▸ List.all_takeWhile)
      have hends : Ends ('\n' :: behind) := rfl
      rw [takeWhile_token hchars hends, dropWhile_token hchars hends, htoken]
      rfl
  | cons c rest =>
      have hne : text.dropWhile isTokenChar ≠ [] := by simp [hrest]
      obtain ⟨htake, hdrop⟩ := takeWhile_append_of_dropWhile_ne_nil hne ('\n' :: behind)
      rw [htake, hdrop, hrest]
      rfl

theorem meet (value : Value) : Delimited (meet value) := by
  intro cursor result after behind hrun
  cases value <;>
    · cases hrun
      rfl

theorem enclosed {body : List Char → Option (List Char × List Char)} (hbody : IsBody body)
    (unterminated : Error) : Delimited (enclosed body unterminated) := by
  intro cursor value after behind hrun
  obtain ⟨text, met⟩ := cursor
  cases hresult : body text with
  | none => cases (enclosed_of_none hresult unterminated met).symm.trans hrun
  | some result =>
      obtain ⟨content, rest⟩ := result
      cases (enclosed_of_some hresult unterminated met).symm.trans hrun
      obtain ⟨taken, rfl, htaken⟩ := hbody _ _ _ hresult
      have hlonger := enclosed_of_some (htaken (rest ++ '\n' :: behind)) unterminated met
      rwa [← List.append_assoc] at hlonger

end Delimited

section Literals

theorem delimited_atom (start : List Char) : Delimited (atom start) :=
  .bind .takeToken fun _ => .meet _

theorem delimited_number (first : Char) : Delimited (number first) := by
  refine .bind .takeToken fun token => ?_
  dsimp only
  split
  · exact .pure _
  · exact .throw _

theorem delimited_string : Delimited string := by
  rw [string_eq]
  exact .bind (.enclosed isBody_readBody _) fun _ => .pure _

theorem delimited_keyword : Delimited keyword := by
  refine .mark (by decide) (fun _ => delimited_atom _) (.bind .takeToken fun name => ?_)
  split
  · exact .bind (.throw _) fun _ => .pure _
  · exact .pure _

variable [RegexEngine]

theorem delimited_regex (close : Char) : Delimited (regex close) := by
  rw [regex_eq]
  refine .bind (.enclosed (isBody_regexBody close) _) fun source => ?_
  refine .bind .takeToken fun options => ?_
  split
  · exact .throw _
  · split
    · exact .throw _
    · exact .pure _

theorem delimited_slash : Delimited slash := by
  refine .peek_bind (fun following => ?_) (.inr rfl)
  split
  · exact .meet _
  · exact delimited_regex _

theorem delimited_percent : Delimited percent := by
  refine .mark (by decide) (fun _ => ?_) (delimited_atom _)
  exact .mark (by decide) (fun _ => delimited_regex _) (delimited_atom _)

omit [RegexEngine] in
theorem delimited_closePair : Delimited closePair := by
  refine .takeVisible_bind (fails_throw _) fun c => ?_
  split
  · exact .pure _
  · exact .throw _
  · exact .throw _

end Literals

section Nested

variable {datum : Expected → Scan Value} {list : Scan Value}
  (hdatum : ∀ expected, Delimited (datum expected))

include hdatum

theorem delimited_quoted (sugar : Sugar) : Delimited (quoted datum sugar) :=
  .bind (hdatum _) fun _ => .pure _

theorem delimited_template : Delimited (template datum) := by
  refine .bind (hdatum _) fun operand => ?_
  split
  · exact .bind (.throw _) fun _ => .pure _
  · exact .pure _

theorem delimited_unquoted : Delimited (unquoted datum) :=
  .mark (by decide) (fun _ => delimited_quoted hdatum _) (delimited_quoted hdatum _)

variable [RegexEngine]

theorem delimited_begins (hlist : Delimited list) (c : Char) : Delimited (begins datum list c) := by
  refine .peek_bind (fun following => ?_) (.inr rfl)
  split
  · exact .throw _
  · split
    · exact .throw _
    · split
      · exact delimited_number _
      · split
        · exact hlist
        · exact delimited_string
        · exact delimited_keyword
        · exact delimited_quoted hdatum _
        · exact delimited_template hdatum
        · exact delimited_unquoted hdatum
        · exact delimited_unquoted hdatum
        · exact delimited_slash
        · exact delimited_percent
        · exact delimited_atom _

end Nested

section

variable [RegexEngine]

theorem delimited_datum_list (fuel : Nat) :
    (∀ expected, Delimited (datum fuel expected)) ∧ ∀ items, Delimited (list fuel items) := by
  induction fuel with
  | zero => exact ⟨fun _ => .throw _, fun _ => .throw _⟩
  | succ fuel ih =>
      obtain ⟨hdatum, hlist⟩ := ih
      refine ⟨fun expected => ?_, fun items => ?_⟩
      · exact .takeVisible_bind (fails_throw _) fun c => delimited_begins hdatum (hlist []) c
      · refine .takeVisible_bind (fails_throw _) fun c => ?_
        split
        · exact .throw _
        · exact .pure _
        · rename_i hclose heq
          cases heq
          refine .peek_bind (fun following => ?_) ?_
          · split
            · exact .throw _
            · split
              · split
                · exact .bind (.throw _) fun _ => .bind (hdatum _) fun _ =>
                    .bind delimited_closePair fun _ => .pure _
                · exact .bind (hdatum _) fun _ => .bind delimited_closePair fun _ => .pure _
              · exact .bind (delimited_begins hdatum (hlist []) _) fun _ => hlist _
          · by_cases hdot : c = '.'
            · left
              rw [if_pos ⟨hdot, rfl⟩]
              exact fails_throw _
            · right
              simp only [hdot, false_and, if_false]

theorem read_append_newline {text : List Char} {value : Value}
    (h : (read text).outcome = .ok (some value)) (behind : List Char) :
    (read (text ++ '\n' :: behind)).outcome = .ok (some value) ∧
      (read (text ++ '\n' :: behind)).rest = (read text).rest ++ '\n' :: behind := by
  obtain ⟨hvalue, hrest⟩ := require_of_read h
  have hlayout : dropLayout false text ≠ [] := by
    intro hnil
    rw [read_of_layout hnil] at h
    cases h
  have hlonger : dropLayout false (text ++ '\n' :: behind) ≠ [] := by
    rw [dropLayout_append hlayout]
    simp
  -- First more steps on the same text, then more text with the same steps.
  have hle : enough text ≤ enough (text ++ '\n' :: behind) := by simp [enough]
  obtain ⟨outcome, rest, added, hframe⟩ :=
    (framed_datum_list _ _ hle).1 .datum ⟨text, []⟩ (Nat.lt_succ_self _)
  rw [require, hframe.run] at hvalue hrest
  obtain rfl : outcome = .ok value := hvalue
  have hdeeper := hframe.deepens [] [] (.inl rfl)
  rw [List.append_nil, List.append_nil, List.append_nil] at hdeeper
  have hrun := (delimited_datum_list _).1 .datum _ _ _ behind hdeeper
  have hrequire : require (text ++ '\n' :: behind) =
      ⟨.ok value, rest ++ '\n' :: behind, added.reverse⟩ := Scan.run_of_ok hrun
  rw [read_of_visible hlonger, hrequire, ← hrest]
  exact ⟨rfl, rfl⟩

theorem length_lt_of_read {text : List Char} {value : Value}
    (h : (read text).outcome = .ok (some value)) : (read text).rest.length < text.length := by
  apply read_length_lt
  intro hlayout
  rw [read_eq_none_iff.mpr hlayout] at h
  cases h

def gather (first : Except Error (Option Value)) (more : Except Error (List Value)) :
    Except Error (List Value) :=
  match first with
  | .error error => .error error
  | .ok none => .ok []
  | .ok (some value) => more.map (value :: ·)

omit [RegexEngine] in
/-- Only behind a datum does it matter what more there is. -/
theorem gather_congr {first : Except Error (Option Value)} {more more' : Except Error (List Value)}
    (h : ∀ value, first = .ok (some value) → more = more') :
    gather first more = gather first more' := by
  rcases first with error | _ | value
  · rfl
  · rfl
  · rw [h value rfl]

theorem readMany_succ (fuel : Nat) (text : List Char) :
    (readMany (fuel + 1) text).outcome =
      gather (read text).outcome (readMany fuel (read text).rest).outcome := by
  rw [readMany]
  split <;> simp_all [gather]

theorem readMany_fuel {fuel fuel' : Nat} {text : List Char} (hfuel : text.length < fuel)
    (hfuel' : text.length < fuel') :
    (readMany fuel text).outcome = (readMany fuel' text).outcome := by
  induction fuel generalizing fuel' text with
  | zero => omega
  | succ fuel ih =>
      obtain ⟨fuel', rfl⟩ : ∃ steps, fuel' = steps + 1 := ⟨fuel' - 1, by omega⟩
      rw [readMany_succ, readMany_succ]
      refine gather_congr fun value hread => ?_
      have hrest := length_lt_of_read hread
      exact ih (by omega) (by omega)

theorem readAll_eq (text : List Char) :
    (readAll text).outcome = gather (read text).outcome (readAll (read text).rest).outcome := by
  rw [readAll, enough, readMany_succ]
  exact gather_congr fun value hread =>
    readMany_fuel (length_lt_of_read hread) (Nat.lt_succ_self _)

/-- The data of the second text come behind those of the first, and a failure in it is what the
whole comes to. -/
theorem readAll_append_newline {first : List Char} {data : List Value}
    (h : (readAll first).outcome = .ok data) (second : List Char) :
    (readAll (first ++ '\n' :: second)).outcome = (readAll second).outcome.map (data ++ ·) := by
  generalize hlength : first.length = length
  induction length using Nat.strongRecOn generalizing first data with
  | ind length ih =>
      rw [readAll_eq] at h
      rw [readAll_eq]
      cases hread : (read first).outcome with
      | error error => simp [hread, gather] at h
      | ok result =>
          cases result with
          | none =>
              -- Only layout is left of the first text, and the newline ends its last comment.
              have hlayout : IsLayout (first ++ ['\n']) := read_eq_none_iff.mp hread
              have hsecond : read (first ++ '\n' :: second) = read second := by
                apply read_congr
                rw [← hlayout.dropLayout_append second, List.append_assoc]
                rfl
              obtain rfl : data = [] := by simpa [hread, gather] using h.symm
              rw [hsecond, ← readAll_eq]
              cases (readAll second).outcome <;> rfl
          | some value =>
              obtain ⟨hvalue, hrest⟩ := read_append_newline hread second
              rw [hread, gather] at h
              cases hmore : (readAll (read first).rest).outcome with
              | error error => simp [hmore, Except.map] at h
              | ok more =>
                  obtain rfl : data = value :: more := by
                    simpa [hmore, Except.map] using h.symm
                  have hshorter := length_lt_of_read hread
                  rw [hvalue, hrest, gather, ih _ (by omega) hmore rfl]
                  cases (readAll second).outcome <;> rfl

end

open scoped Pattern

/-- The name `%r` ends at the newline as it does at the end. -/
theorem readAll_append_newline_percent :
    (readAll ['%', 'r']).outcome = .ok [.symbol ⟨"%r"⟩] ∧
      (readAll (['%', 'r'] ++ '\n' :: [':', 'a'])).outcome =
        .ok [.symbol ⟨"%r"⟩, .keyword "a"] ∧
      (readAll (['%', 'r'] ++ '\n' :: ['('])).outcome = .error (.unexpectedEnd .list) := by
  have hfirst : (readAll ['%', 'r']).outcome = .ok [.symbol ⟨"%r"⟩] := rfl
  exact ⟨hfirst, readAll_append_newline hfirst [':', 'a'], readAll_append_newline hfirst ['(']⟩

end Lisplet.Reader
