import Lisplet.Proofs.Reader.Consumption
import Lisplet.Reader.Tape

namespace Lisplet.Reader.Tape

/-! Whatever is put back is the character drawn just before, and nothing was put back in between; so
a tape is always at a place of its text, and knows whether a line starts there. -/

def Orderly : List Access → Prop
  | [] => True
  | .drawn _ :: before => Orderly before
  | .putBack c :: before => before.head? = some (.drawn (some c)) ∧ Orderly before

/-- The tape has come as far in the text as the cursor. -/
structure At (text : List Char) (tape : Tape) (cursor : Cursor) : Prop where
  text_eq : tape.text = text
  place_le : tape.place ≤ tape.text.length
  unread_eq : tape.unread = cursor.rest
  met_eq : tape.met = cursor.met
  line : tape.lineStart = lineStartAfter true (tape.text.take tape.place)
  orderly : Orderly tape.accesses

theorem lineStartAfter_concat (before : Bool) (taken : List Char) (c : Char) :
    lineStartAfter before (taken ++ [c]) = decide (c = '\n') := by
  simp [lineStartAfter]

section Characters

variable {text rest : List Char} {met : List Symbol} {tape : Tape}

theorem draw_eq (tape : Tape) : draw tape =
    match tape.text[tape.place]? with
    | none => .ok none { tape with
        lineStartBefore := tape.lineStart
        accesses := .drawn none :: tape.accesses }
    | some c => .ok (some c) { tape with
        place := tape.place + 1
        lineStart := c = '\n'
        lineStartBefore := tape.lineStart
        accesses := .drawn c :: tape.accesses } := by
  change (match tape.text[tape.place]? with
    | none => _
    | some c => _ : Pull (Option Char)) tape = _
  cases tape.text[tape.place]? <;> rfl

theorem putBack_eq (c : Char) (tape : Tape) : putBack c tape =
    if 0 < tape.place ∧ tape.text[tape.place - 1]? = some c then
      .ok () { tape with
        place := tape.place - 1
        lineStart := tape.lineStartBefore
        accesses := .putBack c :: tape.accesses }
    else .error .misplaced tape := by
  change (if _ ∧ _ then _ else _ : Pull Unit) tape = _
  split <;> rfl

theorem draw_nil (h : At text tape ⟨[], met⟩) :
    ∃ after, draw tape = .ok none after ∧ At text after ⟨[], met⟩ := by
  obtain ⟨rfl, hplace, hrest, hmet, hline, horderly⟩ := h
  have hnone : tape.text[tape.place]? = none := by
    rw [← List.head?_drop, ← unread, hrest]
    rfl
  refine ⟨{ tape with
    lineStartBefore := tape.lineStart
    accesses := .drawn none :: tape.accesses }, ?_, rfl, hplace, hrest, hmet, hline, horderly⟩
  rw [draw_eq, hnone]

theorem draw_cons {c : Char} (h : At text tape ⟨c :: rest, met⟩) :
    ∃ after, draw tape = .ok (some c) after ∧ At text after ⟨rest, met⟩ ∧
      ∃ restored, putBack c after = .ok () restored ∧ At text restored ⟨c :: rest, met⟩ := by
  obtain ⟨rfl, hplace, hrest, hmet, hline, horderly⟩ := h
  have hsome : tape.text[tape.place]? = some c := by
    rw [← List.head?_drop, ← unread, hrest]
    rfl
  have hlength : tape.place < tape.text.length := (List.getElem?_eq_some_iff.mp hsome).1
  have htail : tape.text.drop (tape.place + 1) = rest := by
    rw [← List.drop_drop, ← unread, hrest]
    rfl
  have htaken : tape.text.take (tape.place + 1) = tape.text.take tape.place ++ [c] := by
    rw [List.take_add_one, hsome]
    rfl
  let after : Tape := { tape with
    place := tape.place + 1
    lineStart := c = '\n'
    lineStartBefore := tape.lineStart
    accesses := .drawn c :: tape.accesses }
  have hdraw : draw tape = .ok (some c) after := by
    rw [draw_eq, hsome]
  have hafter : At tape.text after ⟨rest, met⟩ := by
    refine ⟨rfl, hlength, htail, hmet, ?_, horderly⟩
    exact (htaken ▸ lineStartAfter_concat true (tape.text.take tape.place) c).symm
  refine ⟨after, hdraw, hafter, { tape with
    lineStartBefore := tape.lineStart
    accesses := .putBack c :: .drawn c :: tape.accesses }, ?_, rfl, hplace, hrest, hmet, hline,
    rfl, horderly⟩
  rw [putBack_eq, if_pos ⟨Nat.succ_pos _, hsome⟩]
  rfl

end Characters

inductive EndAlike (text : List Char) :
    EStateM.Result Halt Tape α → EStateM.Result Error Cursor α → Prop
  | ok {tape : Tape} {cursor : Cursor} (value : α) :
      At text tape cursor → EndAlike text (.ok value tape) (.ok value cursor)
  | error {tape : Tape} {cursor : Cursor} (error : Error) :
      At text tape cursor → EndAlike text (.error (.error error) tape) (.error error cursor)

/-- From any tape at the cursor the pull comes to the result. -/
def Follows (text : List Char) (pull : Pull α) (cursor : Cursor)
    (result : EStateM.Result Error Cursor α) : Prop :=
  ∀ tape, At text tape cursor → EndAlike text (pull tape) result

namespace EndAlike

variable {text : List Char} {cursor : Cursor} {run : EStateM.Result Halt Tape α}

theorem exists_ok {value : α} (h : EndAlike text run (.ok value cursor)) :
    ∃ tape, run = .ok value tape ∧ At text tape cursor := by
  cases h with
  | ok _ hat => exact ⟨_, rfl, hat⟩

theorem exists_error {error : Error} (h : EndAlike text run (.error error cursor)) :
    ∃ tape, run = .error (.error error) tape ∧ At text tape cursor := by
  cases h with
  | error _ hat => exact ⟨_, rfl, hat⟩

end EndAlike

namespace Follows

variable {text rest : List Char} {met : List Symbol} {cursor after : Cursor}

theorem pure (value : α) (cursor : Cursor) : Follows text (pure value) cursor (.ok value cursor) :=
  fun _ hat => .ok value hat

theorem fail (error : Error) (cursor : Cursor) :
    Follows text (fail error : Pull α) cursor (.error error cursor) :=
  fun _ hat => .error error hat

theorem ok_bind {pull : Pull α} {next : α → Pull β} {value : α}
    {result : EStateM.Result Error Cursor β} (hpull : Follows text pull cursor (.ok value after))
    (hnext : Follows text (next value) after result) :
    Follows text (pull >>= next) cursor result := by
  intro tape hat
  obtain ⟨middle, hrun, hmiddle⟩ := (hpull tape hat).exists_ok
  rw [bind_ok hrun]
  exact hnext middle hmiddle

theorem error_bind {pull : Pull α} {next : α → Pull β} {error : Error}
    (hpull : Follows text pull cursor (.error error after)) :
    Follows text (pull >>= next) cursor (.error error after) := by
  intro tape hat
  obtain ⟨middle, hrun, hmiddle⟩ := (hpull tape hat).exists_error
  rw [bind_error hrun]
  exact .error error hmiddle

theorem bind {pull : Pull α} {scan : Scan α} {next : α → Pull β} {next' : α → Scan β}
    (hpull : Follows text pull cursor (scan cursor))
    (hnext : ∀ value after, scan cursor = .ok value after →
      Follows text (next value) after (next' value after)) :
    Follows text (pull >>= next) cursor ((scan >>= next') cursor) := by
  cases hscan : scan cursor with
  | ok value after =>
      rw [hscan] at hpull
      rw [bind_ok hscan]
      exact hpull.ok_bind (hnext value after hscan)
  | error error after =>
      rw [hscan] at hpull
      rw [bind_error hscan]
      exact hpull.error_bind

theorem begun {pull : Pull (Option α)} {scan : Scan α} {next : Option α → Pull β}
    {next' : α → Scan β}
    (hpull : Follows text pull cursor ((scan >>= fun value => Pure.pure (some value)) cursor))
    (hnext : ∀ value after, scan cursor = .ok value after →
      Follows text (next (some value)) after (next' value after)) :
    Follows text (pull >>= next) cursor ((scan >>= next') cursor) := by
  cases hscan : scan cursor with
  | ok value after =>
      rw [bind_ok hscan] at hpull ⊢
      exact hpull.ok_bind (hnext value after hscan)
  | error error after =>
      rw [bind_error hscan] at hpull ⊢
      exact hpull.error_bind

theorem draw_none {next : Option Char → Pull α} {result : EStateM.Result Error Cursor α}
    (hnext : Follows text (next none) ⟨[], met⟩ result) :
    Follows text (draw >>= next) ⟨[], met⟩ result := by
  intro tape hat
  obtain ⟨after, hdraw, hafter⟩ := draw_nil hat
  rw [bind_ok hdraw]
  exact hnext after hafter

theorem draw_some {next : Option Char → Pull α} {c : Char} {result : EStateM.Result Error Cursor α}
    (hnext : Follows text (next (some c)) ⟨rest, met⟩ result) :
    Follows text (draw >>= next) ⟨c :: rest, met⟩ result := by
  intro tape hat
  obtain ⟨after, hdraw, hafter, -⟩ := draw_cons hat
  rw [bind_ok hdraw]
  exact hnext after hafter

theorem draw_back {next : Option Char → Pull α} {later : Pull α} {c : Char}
    {result : EStateM.Result Error Cursor α} (hback : next (some c) = putBack c >>= fun _ => later)
    (hlater : Follows text later ⟨c :: rest, met⟩ result) :
    Follows text (draw >>= next) ⟨c :: rest, met⟩ result := by
  intro tape hat
  obtain ⟨after, hdraw, -, restored, hput, hrestored⟩ := draw_cons hat
  rw [bind_ok hdraw, hback, bind_ok hput]
  exact hlater restored hrestored

end Follows

def behindComment (text : List Char) : List Char :=
  (text.dropWhile fun c => c ≠ '\n').tail

theorem behindComment_suffix (text : List Char) : behindComment text <:+ text :=
  (List.tail_suffix _).trans (List.dropWhile_suffix _)

section Loops

variable {text rest : List Char} {met : List Symbol} {steps : Nat}

theorem follows_peek (cursor : Cursor) :
    Follows text peek cursor (.ok cursor.rest.head? cursor) := by
  obtain ⟨rest, met⟩ := cursor
  cases rest with
  | nil => exact .draw_none (.pure none _)
  | cons c rest => exact .draw_back rfl (.pure (some c) _)

theorem follows_meet (value : Value) (cursor : Cursor) :
    Follows text (meet value) cursor (Reader.meet value cursor) := by
  intro tape hat
  cases value with
  | symbol symbol =>
      obtain ⟨htext, hplace, hrest, hmet, hline, horderly⟩ := hat
      exact .ok _ ⟨htext, hplace, hrest, congrArg (symbol :: ·) hmet, hline, horderly⟩
  | _ => exact .ok _ hat

theorem follows_drawInk (hsteps : rest.length < steps) :
    Follows text (drawInk steps) ⟨rest, met⟩
      (.ok (rest.dropWhile isWhitespace).head? ⟨(rest.dropWhile isWhitespace).tail, met⟩) := by
  -- By induction on the steps: each but the last one makes the text shorter.
  induction steps generalizing rest with
  | zero => exact absurd hsteps (Nat.not_lt_zero _)
  | succ steps ih =>
      cases rest with
      | nil => exact .draw_none (.pure none _)
      | cons c rest =>
          apply Follows.draw_some
          dsimp only
          cases hc : isWhitespace c with
          | true =>
              rw [List.dropWhile_cons_of_pos hc]
              exact ih (Nat.lt_of_succ_lt_succ hsteps)
          | false =>
              rw [List.dropWhile_cons_of_neg (by simp [hc])]
              exact .pure (some c) _

theorem follows_skipComment (hsteps : rest.length < steps) :
    Follows text (skipComment steps) ⟨rest, met⟩
      (.ok () ⟨behindComment rest, met⟩) := by
  induction steps generalizing rest with
  | zero => exact absurd hsteps (Nat.not_lt_zero _)
  | succ steps ih =>
      cases rest with
      | nil => exact .draw_none (.pure () _)
      | cons c rest =>
          apply Follows.draw_some
          dsimp only
          by_cases hc : c = '\n'
          · rw [if_pos hc, behindComment, List.dropWhile_cons_of_neg (by simp [hc])]
            exact .pure () _
          · rw [if_neg hc, behindComment, List.dropWhile_cons_of_pos (by simp [hc])]
            exact ih (Nat.lt_of_succ_lt_succ hsteps)

theorem follows_token (hsteps : rest.length < steps) :
    Follows text (token steps) ⟨rest, met⟩ (takeToken ⟨rest, met⟩) := by
  change Follows text _ _ (.ok (rest.takeWhile isTokenChar) ⟨rest.dropWhile isTokenChar, met⟩)
  induction steps generalizing rest with
  | zero => exact absurd hsteps (Nat.not_lt_zero _)
  | succ steps ih =>
      cases rest with
      | nil => exact .draw_none (.pure [] _)
      | cons c rest =>
          cases hc : isTerminator (some c) with
          | true =>
              have hstop : ¬ isTokenChar c = true := by simp [isTokenChar, hc]
              rw [List.takeWhile_cons_of_neg hstop, List.dropWhile_cons_of_neg hstop]
              exact .draw_back (if_pos hc) (.pure [] _)
          | false =>
              have hgo : isTokenChar c = true := by simp [isTokenChar, hc]
              rw [List.takeWhile_cons_of_pos hgo, List.dropWhile_cons_of_pos hgo]
              apply Follows.draw_some
              dsimp only
              rw [hc, if_neg Bool.false_ne_true]
              exact (ih (Nat.lt_of_succ_lt_succ hsteps)).ok_bind (.pure _ _)

theorem follows_skipBlankLine (hsteps : rest.length < steps) :
    Follows text (skipBlankLine steps) ⟨rest, met⟩
      (.ok (dropBlankLine? rest).isSome ⟨behindBlanks rest, met⟩) := by
  induction steps generalizing rest with
  | zero => exact absurd hsteps (Nat.not_lt_zero _)
  | succ steps ih =>
      cases rest with
      | nil => exact .draw_none (.pure false _)
      | cons c rest =>
          by_cases hnewline : c = '\n'
          · subst hnewline
            exact .draw_some (.pure true _)
          · cases hc : isWhitespace c with
            | true =>
                have hdrop : dropBlankLine? (c :: rest) = dropBlankLine? rest := by
                  rw [dropBlankLine?, if_neg hnewline, if_pos hc]
                rw [behindBlanks, hdrop, List.dropWhile_cons_of_pos hc]
                apply Follows.draw_some
                dsimp only
                rw [if_neg hnewline, if_pos hc]
                exact ih (Nat.lt_of_succ_lt_succ hsteps)
            | false =>
                have hdrop : dropBlankLine? (c :: rest) = none := by
                  rw [dropBlankLine?, if_neg hnewline, hc, if_neg Bool.false_ne_true]
                rw [behindBlanks, hdrop, List.dropWhile_cons_of_neg (by simp [hc])]
                refine .draw_back ?_ (.pure false _)
                dsimp only
                rw [if_neg hnewline, hc, if_neg Bool.false_ne_true]

end Loops

end Lisplet.Reader.Tape
