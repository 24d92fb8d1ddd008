import Lisplet.Proofs.Source.Stream

namespace Lisplet.Source

/-! Lines behind prompts, one line at a time: the buffer holds what is left of the last one. -/

/-- Nothing, or characters up to their only newline. -/
def IsLine (text : List Char) : Prop :=
  text = [] ∨ ∃ front, text = front ++ ['\n'] ∧ '\n' ∉ front

theorem IsLine.tail {c : Char} {text : List Char} (h : IsLine (c :: text)) :
    IsLine text ∧ (text = [] ↔ c = '\n') := by
  obtain hnil | ⟨front, hfront, hnewline⟩ := h
  · cases hnil
  · cases front with
    | nil =>
        cases hfront
        exact ⟨.inl rfl, by simp⟩
    | cons first front =>
        obtain ⟨rfl, rfl⟩ := List.cons_eq_cons.mp hfront
        rw [List.mem_cons, not_or] at hnewline
        exact ⟨.inr ⟨front, rfl, hnewline.2⟩, by simp [Ne.symm hnewline.1]⟩

theorem newline_not_mem_chomp {line : List Char} (h : '\n' ∉ line.dropLast) :
    '\n' ∉ chomp line := by
  rw [chomp]
  split
  · exact h
  · rename_i hlast
    intro hmem
    have hline := List.ne_nil_of_mem hmem
    rw [← List.dropLast_concat_getLast hline, List.mem_append, List.mem_singleton] at hmem
    obtain hfront | hend := hmem
    · exact h hfront
    · exact hlast (by rw [List.getLast?_eq_some_getLast hline, ← hend])

structure Tidy (source : Source) : Prop where
  prompted : source.supply ≠ .plain
  lines : ∀ line, some line ∈ source.lines → '\n' ∉ line.toList.dropLast
  buffer : IsLine source.buffer
  continuing : source.buffer ≠ [] → source.supply = .prompted true

namespace Tidy

variable {source : Source}

theorem with_buffer (h : source.Tidy) {buffer : List Char} (hbuffer : IsLine buffer)
    (hcontinuing : buffer ≠ [] → source.supply = .prompted true) :
    Tidy { source with buffer } :=
  ⟨h.prompted, h.lines, hbuffer, hcontinuing⟩

theorem fetch (h : source.Tidy) (hbuffer : source.buffer = []) : source.fetch.Tidy ∧
    (source.fetch.buffer = [] → source.rest = [] ∧ source.fetch.supply = source.supply) ∧
    (source.fetch.buffer ≠ [] → source.fetch.rest = source.rest) := by
  obtain ⟨hprompted, hlines, -, -⟩ := h
  obtain ⟨buffer, lines, supply, prompts⟩ := source
  cases hbuffer
  cases supply with
  | plain => exact absurd rfl hprompted
  | prompted continuing =>
      cases lines with
      | nil => exact ⟨⟨hprompted, hlines, .inl rfl, absurd rfl⟩, fun _ => ⟨rfl, rfl⟩, absurd rfl⟩
      | cons line lines =>
          have hlater : ∀ text, some text ∈ lines → '\n' ∉ text.toList.dropLast :=
            fun text htext => hlines text (List.mem_cons_of_mem line htext)
          cases line with
          | none =>
              exact ⟨⟨hprompted, hlater, .inl rfl, absurd rfl⟩, fun _ => ⟨rfl, rfl⟩, absurd rfl⟩
          | some text =>
              have hnewline := newline_not_mem_chomp (hlines text List.mem_cons_self)
              have hdelivered : IsLine (chomp text.toList ++ ['\n']) :=
                .inr ⟨chomp text.toList, rfl, hnewline⟩
              have htidy : Tidy ⟨chomp text.toList ++ ['\n'], lines, .prompted true,
                  prompts ++ prompt (.prompted continuing)⟩ :=
                ⟨Supply.noConfusion, hlater, hdelivered, fun _ => rfl⟩
              exact ⟨htidy, fun hnil => by simp [Source.fetch, deliver] at hnil, fun _ => rfl⟩

theorem filled (h : source.Tidy) : source.filled.Tidy ∧
    (source.filled.buffer = [] →
      source.rest = [] ∧ source.buffer = [] ∧ source.filled.supply = source.supply) ∧
    (source.filled.buffer ≠ [] → source.filled.rest = source.rest) := by
  rw [Source.filled]
  split
  · rename_i hbuffer
    obtain ⟨htidy, hnil, hheld⟩ := h.fetch hbuffer
    exact ⟨htidy, fun hfetched => ⟨(hnil hfetched).1, hbuffer, (hnil hfetched).2⟩, hheld⟩
  · rename_i hbuffer
    exact ⟨h, fun hnil => absurd hnil hbuffer, fun _ => rfl⟩

theorem get_cons (h : source.Tidy) {c : Char} {rest : List Char} (hrest : source.rest = c :: rest) :
    source.get.1 = some c ∧ source.get.2.rest = rest ∧ source.get.2.Tidy ∧
      source.get.2.supply = .prompted true ∧ (source.get.2.buffer = [] ↔ c = '\n') := by
  obtain ⟨htidy, hnil, hheld⟩ := h.filled
  cases hbuffer : source.filled.buffer with
  | nil =>
      have hended := (hnil hbuffer).1
      rw [hrest] at hended
      cases hended
  | cons first buffer =>
      have hnonempty : source.filled.buffer ≠ [] := by simp [hbuffer]
      have hsupply := htidy.continuing hnonempty
      have hrest' := (hheld hnonempty).trans hrest
      rw [Source.rest, hbuffer, List.cons_append, List.cons_eq_cons] at hrest'
      obtain ⟨rfl, hrest'⟩ := hrest'
      have hline := htidy.buffer
      rw [hbuffer] at hline
      rw [get_of_filled_cons hbuffer]
      exact ⟨rfl, hrest', htidy.with_buffer hline.tail.1 fun _ => hsupply, hsupply, hline.tail.2⟩

theorem filled_buffer (h : source.Tidy) (hrest : source.rest = []) :
    source.filled.buffer = [] := by
  obtain ⟨-, -, hheld⟩ := h.filled
  by_cases hempty : source.filled.buffer = []
  · exact hempty
  · exact (List.append_eq_nil_iff.mp ((hheld hempty).trans hrest)).1

theorem get_nil (h : source.Tidy) (hrest : source.rest = []) :
    source.get.1 = none ∧ source.get.2.Tidy ∧ source.buffer = [] ∧
      source.get.2.supply = source.supply := by
  obtain ⟨htidy, hnil, -⟩ := h.filled
  have hbuffer := h.filled_buffer hrest
  rw [get_of_filled_nil hbuffer]
  exact ⟨rfl, htidy, (hnil hbuffer).2⟩

end Tidy

/-! A watch beside a source: what was taken since the watch was set, and each request for a line. -/

structure Fetch where
  taken : List Char
  prompt : String
deriving DecidableEq

/-- The first request gets the primary prompt, and so does the next one if nothing came of it. -/
def Fetch.Lawful (fetch : Fetch) : Prop :=
  fetch.prompt = if fetch.taken = [] then primaryPrompt else secondaryPrompt

structure Watch where
  source : Source
  taken : List Char := []
  fetches : List Fetch := []

namespace Watch

def request (watch : Watch) : List Fetch :=
  if watch.source.buffer = [] then [⟨watch.taken, prompt watch.source.supply⟩] else []

def get (watch : Watch) : Watch where
  source := watch.source.get.2
  taken := watch.taken ++ watch.source.get.1.toList
  fetches := watch.fetches ++ watch.request

def advance : Nat → Watch → Watch
  | 0, watch => watch
  | count + 1, watch => advance count watch.get

def probe (watch : Watch) : Watch where
  source := watch.source.probe
  taken := watch.taken
  fetches := watch.fetches ++ watch.request

def written (watch : Watch) : String :=
  String.join (watch.fetches.map Fetch.prompt)

@[simp] theorem source_advance (count : Nat) (watch : Watch) :
    (watch.advance count).source = watch.source.advance count := by
  induction count generalizing watch with
  | zero => rfl
  | succ count ih => exact ih watch.get

structure Invariant (P : Watch → Prop) : Prop where
  get : ∀ watch, P watch → P watch.get
  probe : ∀ watch, P watch → P watch.probe

theorem Invariant.advance {P : Watch → Prop} (h : Invariant P) {watch : Watch} (hwatch : P watch)
    (count : Nat) : P (watch.advance count) := by
  induction count generalizing watch with
  | zero => exact hwatch
  | succ count ih => exact ih (h.get watch hwatch)

/-! The requests account for the prompts that the source writes. -/

def Accounts (before : String) (watch : Watch) : Prop :=
  watch.source.prompts = before ++ watch.written

theorem prompts_filled (watch : Watch) : watch.source.filled.prompts =
    watch.source.prompts ++ String.join (watch.request.map Fetch.prompt) := by
  rw [filled, request]
  split
  · simp [prompts_fetch, String.join]
  · simp [String.join]

theorem prompts_get (source : Source) : source.get.2.prompts = source.filled.prompts := by
  cases hbuffer : source.filled.buffer with
  | nil => rw [get_of_filled_nil hbuffer]
  | cons c buffer => rw [get_of_filled_cons hbuffer]

theorem accounts_invariant (before : String) : Invariant (Accounts before) where
  get watch h := by
    rw [Accounts] at h ⊢
    rw [Watch.get, written, prompts_get, prompts_filled, h, List.map_append, String.join_append,
      written, String.append_assoc]
  probe watch h := by
    rw [Accounts] at h ⊢
    rw [Watch.probe, written, probe_eq_filled, prompts_filled, h, List.map_append,
      String.join_append, written, String.append_assoc]

/-- The prompt is the secondary one from the first character on. -/
structure Sound (watch : Watch) : Prop where
  tidy : watch.source.Tidy
  continuing : watch.taken ≠ [] → watch.source.supply = .prompted true
  waiting : watch.taken = [] → watch.source.buffer = [] → watch.source.supply = .prompted false
  lawful : ∀ fetch ∈ watch.fetches, fetch.Lawful

section Sound

variable {watch : Watch}

theorem Sound.request (h : watch.Sound) : ∀ fetch ∈ watch.request, fetch.Lawful := by
  intro fetch hfetch
  rw [Watch.request] at hfetch
  split at hfetch
  · rename_i hbuffer
    rw [List.mem_singleton.mp hfetch, Fetch.Lawful]
    dsimp only
    split
    · rename_i htaken
      rw [h.waiting htaken hbuffer]
      rfl
    · rename_i htaken
      rw [h.continuing htaken]
      rfl
  · cases hfetch

theorem Sound.requested (h : watch.Sound) :
    ∀ fetch ∈ watch.fetches ++ watch.request, fetch.Lawful := by
  intro fetch hfetch
  obtain hbefore | hnow := List.mem_append.mp hfetch
  · exact h.lawful fetch hbefore
  · exact h.request fetch hnow

theorem Sound.get (h : watch.Sound) : watch.get.Sound := by
  cases hrest : watch.source.rest with
  | nil =>
      obtain ⟨hnone, htidy, hbuffer, hsupply⟩ := h.tidy.get_nil hrest
      have htaken : watch.get.taken = watch.taken := by simp [Watch.get, hnone]
      refine ⟨htidy, ?_, ?_, h.requested⟩
      · rw [htaken]
        exact fun hsome => hsupply.trans (h.continuing hsome)
      · rw [htaken]
        exact fun hnil _ => hsupply.trans (h.waiting hnil hbuffer)
  | cons c rest =>
      obtain ⟨hsome, -, htidy, hsupply, -⟩ := h.tidy.get_cons hrest
      refine ⟨htidy, fun _ => hsupply, ?_, h.requested⟩
      intro hnil
      simp [Watch.get, hsome] at hnil

theorem Sound.probe (h : watch.Sound) : watch.probe.Sound := by
  obtain ⟨htidy, hnil, -⟩ := h.tidy.filled
  rw [← probe_eq_filled] at htidy hnil
  refine ⟨htidy, ?_, ?_, h.requested⟩
  · intro htaken
    by_cases hbuffer : watch.source.probe.buffer = []
    · exact (hnil hbuffer).2.2.trans (h.continuing htaken)
    · exact htidy.continuing hbuffer
  · intro htaken hbuffer
    obtain ⟨-, hempty, hsupply⟩ := hnil hbuffer
    exact hsupply.trans (h.waiting htaken hempty)

theorem sound_invariant : Invariant Sound :=
  ⟨fun _ h => h.get, fun _ h => h.probe⟩

theorem advance_eq (htidy : watch.source.Tidy) {front rest : List Char}
    (hrest : watch.source.rest = front ++ rest) :
    (watch.advance front.length).taken = watch.taken ++ front ∧
      (watch.advance front.length).source.Tidy ∧
      (watch.advance front.length).source.rest = rest ∧
      (front ≠ [] → ((watch.advance front.length).source.buffer = [] ↔
        front.getLast? = some '\n')) := by
  -- Whether the buffer is empty in the end depends on the last character only.
  induction front generalizing watch with
  | nil => exact ⟨(List.append_nil _).symm, htidy, hrest, absurd rfl⟩
  | cons c front ih =>
      obtain ⟨hsome, hlater, hnext, -, hnewline⟩ := htidy.get_cons hrest
      obtain ⟨htaken, hafter, hleft, hline⟩ := @ih watch.get hnext hlater
      refine ⟨?_, hafter, hleft, fun _ => ?_⟩
      · rw [List.length_cons, Watch.advance, htaken, Watch.get, hsome]
        simp
      · cases front with
        | nil => simpa [Source.advance] using hnewline
        | cons next front =>
            rw [List.getLast?_cons_cons]
            exact hline (List.cons_ne_nil next front)

end Sound

end Watch

end Lisplet.Source
