import Lisplet.Source

namespace Lisplet.Source

/-! A source is a stream: what can still be taken from it says what it delivers next, whichever way
its lines come in. -/

def filled (source : Source) : Source :=
  if source.buffer = [] then source.fetch else source

theorem get_of_filled_nil {source : Source} (h : source.filled.buffer = []) :
    source.get = (none, source.filled) := by
  rw [filled] at h ⊢
  simp only [get, h]

theorem get_of_filled_cons {source : Source} {c : Char} {buffer : List Char}
    (h : source.filled.buffer = c :: buffer) :
    source.get = (some c, { source.filled with buffer := buffer }) := by
  rw [filled] at h ⊢
  simp only [get, h]

/-- A character that is put back leaves only its line behind. -/
theorem probe_eq_filled (source : Source) : source.probe = source.filled := by
  cases hbuffer : source.filled.buffer with
  | nil => rw [probe, get_of_filled_nil hbuffer]
  | cons c buffer =>
      rw [probe, get_of_filled_cons hbuffer]
      exact congrArg (fun held => { source.filled with buffer := held }) hbuffer.symm

structure Invariant (P : Source → Prop) : Prop where
  fetch : ∀ source, P source → P source.fetch
  buffer : ∀ source buffer, P source → P { source with buffer := buffer }

namespace Invariant

variable {P : Source → Prop} {source : Source}

theorem filled (h : Invariant P) (hsource : P source) : P source.filled := by
  rw [Source.filled]
  split
  · exact h.fetch source hsource
  · exact hsource

theorem get (h : Invariant P) (hsource : P source) : P source.get.2 := by
  have hfilled := h.filled hsource
  cases hbuffer : source.filled.buffer with
  | nil =>
      rw [get_of_filled_nil hbuffer]
      exact hfilled
  | cons c buffer =>
      rw [get_of_filled_cons hbuffer]
      exact h.buffer _ _ hfilled

theorem advance (h : Invariant P) (hsource : P source) (count : Nat) :
    P (Source.advance count source) := by
  induction count generalizing source with
  | zero => exact hsource
  | succ count ih => exact ih (h.get hsource)

theorem probe (h : Invariant P) (hsource : P source) : P source.probe := by
  rw [probe_eq_filled]
  exact h.filled hsource

end Invariant

/-- No line is empty, and nothing comes behind the end: a line that is no text ends a plain source
for good, and a prompted one has no such line. -/
structure Steady (source : Source) : Prop where
  nonempty : some "" ∉ source.lines
  texts : source.supply = .plain ∨ none ∉ source.lines

theorem steady_ofText (text : List Char) : (ofText text).Steady :=
  ⟨List.not_mem_nil, .inl rfl⟩

theorem Steady.tail {source : Source} (h : source.Steady) {line : Line} {lines : List Line}
    (hlines : source.lines = line :: lines) (buffer : List Char) (prompts : String)
    {supply : Supply} (hsupply : source.supply = .plain → supply = .plain) :
    Steady ⟨buffer, lines, supply, prompts⟩ := by
  obtain ⟨hnonempty, htexts⟩ := h
  rw [hlines, List.mem_cons, not_or] at hnonempty
  rw [hlines, List.mem_cons, not_or] at htexts
  exact ⟨hnonempty.2, htexts.imp hsupply And.right⟩

theorem steady_invariant : Invariant Steady where
  buffer _ _ h := ⟨h.nonempty, h.texts⟩
  fetch source h := by
    rw [fetch]
    split
    · exact ⟨h.nonempty, h.texts⟩
    · exact ⟨List.not_mem_nil, .inr List.not_mem_nil⟩
    · rename_i hlines _
      exact h.tail hlines _ _ id
    · rename_i hlines hsupply
      exact h.tail hlines _ _ fun _ => hsupply
    · rename_i hlines hsupply
      exact h.tail hlines _ _ fun hplain => nomatch hsupply.symm.trans hplain

theorem Steady.resetPrompt {source : Source} (h : source.Steady) : source.resetPrompt.Steady := by
  rw [Source.resetPrompt]
  split
  · exact h
  · rename_i hsupply
    refine ⟨h.nonempty, .inr ?_⟩
    exact h.texts.resolve_left fun hplain => nomatch hsupply.symm.trans hplain

@[simp] theorem rest_ofText (text : List Char) : (ofText text).rest = text := by
  simp [rest, ofText]

@[simp] theorem rest_unget (source : Source) (c : Char) :
    (source.unget c).rest = c :: source.rest :=
  rfl

@[simp] theorem rest_resetPrompt (source : Source) : source.resetPrompt.rest = source.rest := by
  rw [resetPrompt]
  split
  · rfl
  · rename_i hsupply
    rw [rest, rest, hsupply]
    rfl

@[simp] theorem rest_clearPrompts (source : Source) : source.clearPrompts.rest = source.rest :=
  rfl

/-- Fetching a line makes a difference only to where the characters are kept. -/
theorem Steady.fetch {source : Source} (h : source.Steady) (hbuffer : source.buffer = []) :
    source.fetch.rest = source.rest ∧ (source.fetch.buffer = [] → source.rest = []) := by
  obtain ⟨hnonempty, htexts⟩ := h
  rw [Source.fetch, rest, hbuffer]
  split
  · rename_i hlines
    simp [rest, hbuffer, hlines]
  · rename_i hlines _
    simp [rest, hbuffer, hlines]
  · rename_i hlines hsupply
    simp [hlines, hsupply] at htexts
  · rename_i line lines hlines hsupply
    have hline : line ≠ "" := by
      rintro rfl
      simp [hlines] at hnonempty
    have hdelivered : deliver .plain line.toList ≠ [] := by simpa [deliver] using hline
    simp [rest, hbuffer, hlines, hsupply, hdelivered]
  · rename_i line lines continuing hlines hsupply
    have hdelivered : deliver (.prompted continuing) line.toList ≠ [] := by simp [deliver]
    simp only [rest, hbuffer, hlines, hsupply, hdelivered, false_implies, and_true]
    rfl

theorem Steady.filled {source : Source} (h : source.Steady) :
    source.filled.rest = source.rest ∧ (source.filled.buffer = [] → source.rest = []) := by
  rw [Source.filled]
  split
  · rename_i hbuffer
    exact h.fetch hbuffer
  · rename_i hbuffer
    exact ⟨rfl, fun hnil => absurd hnil hbuffer⟩

theorem Steady.get {source : Source} (h : source.Steady) :
    source.get.1 = source.rest.head? ∧ source.get.2.rest = source.rest.tail := by
  obtain ⟨hrest, hnil⟩ := h.filled
  cases hbuffer : source.filled.buffer with
  | nil =>
      rw [get_of_filled_nil hbuffer, hrest, hnil hbuffer]
      exact ⟨rfl, rfl⟩
  | cons c buffer =>
      have hcons : source.rest = c :: { source.filled with buffer := buffer }.rest := by
        rw [← hrest, rest, hbuffer]
        rfl
      rw [get_of_filled_cons hbuffer, hcons]
      exact ⟨rfl, rfl⟩

theorem Steady.rest_advance {source : Source} (h : source.Steady) (count : Nat) :
    (advance count source).rest = source.rest.drop count := by
  induction count generalizing source with
  | zero => rfl
  | succ count ih =>
      rw [advance, ih (steady_invariant.get h), h.get.2, List.drop_tail, Nat.add_comm]

theorem Steady.rest_probe {source : Source} (h : source.Steady) :
    source.probe.rest = source.rest := by
  rw [probe_eq_filled]
  exact h.filled.1

inductive IsPrompting : String → Prop
  | nil : IsPrompting ""
  | snoc {text : String} (supply : Supply) : IsPrompting text → IsPrompting (text ++ prompt supply)

theorem prompts_fetch (source : Source) :
    source.fetch.prompts = source.prompts ++ prompt source.supply := by
  rw [fetch]
  split <;> rfl

theorem prompts_resetPrompt (source : Source) : source.resetPrompt.prompts = source.prompts := by
  rw [resetPrompt]
  split <;> rfl

theorem prompting_invariant : Invariant fun source => IsPrompting source.prompts where
  fetch source h := by
    rw [prompts_fetch]
    exact .snoc source.supply h
  buffer _ _ h := h

def Silent (source : Source) : Prop :=
  source.supply = .plain ∧ source.prompts = ""

theorem silent_invariant : Invariant Silent where
  fetch source h := by
    obtain ⟨hsupply, hprompts⟩ := h
    refine ⟨?_, ?_⟩
    · rw [fetch]
      split
      · exact hsupply
      · exact hsupply
      · rename_i hprompted
        exact nomatch hprompted.symm.trans hsupply
      · exact hsupply
      · rename_i hprompted
        exact nomatch hprompted.symm.trans hsupply
    · rw [prompts_fetch, hsupply, hprompts]
      rfl
  buffer _ _ h := h

end Lisplet.Source
