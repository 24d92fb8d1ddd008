import Lisplet.CommandLine

namespace Lisplet

/-! Arguments as they are meant. The option for the library takes the next argument for its path,
whatever that looks like, so what an argument means depends on all before it. -/

inductive Directive where
  | batch
  | simple
  | library (path : String)
  | file (path : String) (plain : Options.isOption path = false)

namespace Directive

def words : Directive → List String
  | batch => ["--no-prompt"]
  | simple => ["--simple"]
  | library path => ["--stdlib", path]
  | file path _ => [path]

def mode? : Directive → Option Mode
  | batch => some .batch
  | simple => some .simple
  | library _ | file _ _ => none

def library? : Directive → Option LibraryPath
  | library path => some (.file path)
  | batch | simple | file _ _ => none

def file? : Directive → Option String
  | file path _ => some path
  | batch | simple | library _ => none

end Directive

namespace Options

def wordsOf (directives : List Directive) : List String :=
  directives.flatMap Directive.words

def follow (options : Options) (directives : List Directive) : Options where
  mode := (directives.filterMap Directive.mode?).getLastD options.mode
  library := (directives.filterMap Directive.library?).getLastD options.library
  files := options.files ++ directives.filterMap Directive.file?

/-- Whether the argument at a place is the path of a library: the one before it is the option, and
not a path itself. -/
def isPath (arguments : List String) : Nat → Bool
  | 0 => false
  | place + 1 => arguments[place]? = some "--stdlib" && !isPath arguments place

def known : List String :=
  ["--no-prompt", "--simple", "--stdlib"]

def isUnknown (argument : String) : Bool :=
  isOption argument && !known.contains argument

structure RefusedAt (arguments : List String) (place : Nat) (argument : String) : Prop where
  at_place : arguments[place]? = some argument
  unknown : isUnknown argument = true
  not_path : isPath arguments place = false

/-- What there is to refuse in arguments. -/
inductive Refusal (arguments : List String) : UsageError → Prop
  | unknown {place : Nat} {argument : String} : RefusedAt arguments place argument →
      (∀ earlier < place, ∀ other, ¬ RefusedAt arguments earlier other) →
        Refusal arguments (.unknownOption argument)
  | unfinished : (∀ place argument, ¬ RefusedAt arguments place argument) →
      isPath arguments arguments.length = true → Refusal arguments .missingLibraryPath

theorem parseFrom_of_not_known {argument : String} (h : argument ∉ known) (options : Options)
    (rest : List String) :
    parseFrom options (argument :: rest) =
      if isOption argument then .error (.unknownOption argument)
      else parseFrom { options with files := options.files ++ [argument] } rest := by
  have hne : ∀ name ∈ known, argument ≠ name := by
    rintro name hname rfl
    exact h hname
  rw [parseFrom]
  · exact hne "--no-prompt" (by simp [known])
  · exact hne "--simple" (by simp [known])
  · exact fun heq _ => hne "--stdlib" (by simp [known]) heq
  · exact fun _ _ heq _ => hne "--stdlib" (by simp [known]) heq

theorem isOption_of_known : ∀ name ∈ known, isOption name = true := by
  decide

theorem not_known_of_plain {argument : String} (h : isOption argument = false) :
    argument ∉ known := by
  intro hknown
  rw [isOption_of_known argument hknown] at h
  cases h

theorem parseFrom_file {argument : String} (h : isOption argument = false) (options : Options)
    (rest : List String) :
    parseFrom options (argument :: rest) =
      parseFrom { options with files := options.files ++ [argument] } rest := by
  rw [parseFrom_of_not_known (not_known_of_plain h), h]
  rfl

theorem parseFrom_unknown {argument : String} (h : isUnknown argument = true) (options : Options)
    (rest : List String) :
    parseFrom options (argument :: rest) = .error (.unknownOption argument) := by
  rw [isUnknown, Bool.and_eq_true] at h
  have hknown : argument ∉ known := by simpa using h.2
  rw [parseFrom_of_not_known hknown, if_pos h.1]

theorem follow_nil (options : Options) : options.follow [] = options := by
  simp [follow]

theorem follow_cons (options : Options) (directive : Directive) (directives : List Directive) :
    options.follow (directive :: directives) = (options.follow [directive]).follow directives := by
  cases directive <;>
    simp only [follow, List.filterMap_cons, List.filterMap_nil, Directive.mode?,
      Directive.library?, Directive.file?, List.getLastD_cons, List.getLastD_nil, List.append_nil,
      List.append_assoc, List.singleton_append]

theorem parseFrom_words (options : Options) (directive : Directive) (rest : List String) :
    parseFrom options (directive.words ++ rest) =
      parseFrom (options.follow [directive]) rest := by
  cases directive with
  | file path plain => exact parseFrom_file plain options rest
  | _ =>
      simp [Directive.words, parseFrom, follow, List.filterMap_cons, Directive.mode?,
        Directive.library?, Directive.file?]

theorem parseFrom_wordsOf (options : Options) (directives : List Directive) (rest : List String) :
    parseFrom options (wordsOf directives ++ rest) =
      parseFrom (options.follow directives) rest := by
  induction directives generalizing options with
  | nil => rw [follow_nil, wordsOf, List.flatMap_nil, List.nil_append]
  | cons directive directives ih =>
      rw [wordsOf, List.flatMap_cons, List.append_assoc, parseFrom_words, ← wordsOf, ih,
        ← follow_cons]

section Behind

variable {front rest : List String} (h : isPath (front ++ rest) front.length = false)

include h

theorem isPath_behind (place : Nat) :
    isPath (front ++ rest) (front.length + place) = isPath rest place := by
  induction place with
  | zero => exact h
  | succ place ih =>
      rw [← Nat.add_assoc, isPath, isPath, ih, List.getElem?_append_right (Nat.le_add_right _ _),
        Nat.add_sub_cancel_left]

theorem refusedAt_behind (place : Nat) (argument : String) :
    RefusedAt (front ++ rest) (front.length + place) argument ↔ RefusedAt rest place argument := by
  have hplace : (front ++ rest)[front.length + place]? = rest[place]? := by
    rw [List.getElem?_append_right (Nat.le_add_right _ _), Nat.add_sub_cancel_left]
  have hpath := isPath_behind h place
  constructor
  · rintro ⟨hat, hunknown, hfree⟩
    exact ⟨hplace.symm.trans hat, hunknown, hpath.symm.trans hfree⟩
  · rintro ⟨hat, hunknown, hfree⟩
    exact ⟨hplace.trans hat, hunknown, hpath.trans hfree⟩

end Behind

theorem isPath_words (directive : Directive) (rest : List String) :
    isPath (directive.words ++ rest) directive.words.length = false := by
  cases directive with
  | file path plain =>
      have hlibrary : path ≠ "--stdlib" := by
        rintro rfl
        exact not_known_of_plain plain (by simp [known])
      simp [Directive.words, isPath, hlibrary]
  | _ => simp [Directive.words, isPath]

theorem isUnknown_of_known : ∀ name ∈ known, isUnknown name = false := by
  decide

theorem accepted_words (directive : Directive) (rest : List String) {place : Nat}
    (hplace : place < directive.words.length) (argument : String) :
    ¬ RefusedAt (directive.words ++ rest) place argument := by
  rintro ⟨hat, hunknown, hpath⟩
  rw [List.getElem?_append_left hplace] at hat
  cases directive with
  | library path =>
      match place, hplace with
      | 0, _ =>
          cases hat
          exact Bool.false_ne_true ((isUnknown_of_known _ (by simp [known])).symm.trans hunknown)
      | 1, _ => simp [Directive.words, isPath] at hpath
  | file path plain =>
      obtain rfl : place = 0 := Nat.lt_one_iff.mp hplace
      cases hat
      rw [isUnknown, plain] at hunknown
      cases hunknown
  | _ =>
      obtain rfl : place = 0 := Nat.lt_one_iff.mp hplace
      cases hat
      exact Bool.false_ne_true ((isUnknown_of_known _ (by simp [known])).symm.trans hunknown)

theorem isPath_wordsOf (directives : List Directive) (rest : List String) :
    isPath (wordsOf directives ++ rest) (wordsOf directives).length = false := by
  induction directives with
  | nil => rfl
  | cons directive directives ih =>
      rw [wordsOf, List.flatMap_cons, ← wordsOf, List.append_assoc, List.length_append,
        isPath_behind (isPath_words directive _), ih]

theorem accepted_wordsOf (directives : List Directive) (rest : List String) {place : Nat}
    (hplace : place < (wordsOf directives).length) (argument : String) :
    ¬ RefusedAt (wordsOf directives ++ rest) place argument := by
  induction directives generalizing place with
  | nil => exact absurd hplace (Nat.not_lt_zero _)
  | cons directive directives ih =>
      rw [wordsOf, List.flatMap_cons, ← wordsOf] at hplace ⊢
      rw [List.append_assoc]
      by_cases hfirst : place < directive.words.length
      · exact accepted_words directive _ hfirst argument
      · obtain ⟨later, rfl⟩ := Nat.exists_eq_add_of_le (Nat.le_of_not_lt hfirst)
        rw [List.length_append, Nat.add_lt_add_iff_left] at hplace
        rw [refusedAt_behind (isPath_words directive _)]
        exact ih hplace

theorem unknown_or_words {argument : String} (h : argument ≠ "--stdlib") :
    isUnknown argument = true ∨ ∃ directive : Directive, directive.words = [argument] := by
  by_cases hbatch : argument = "--no-prompt"
  · exact .inr ⟨.batch, by rw [hbatch]; rfl⟩
  · by_cases hsimple : argument = "--simple"
    · exact .inr ⟨.simple, by rw [hsimple]; rfl⟩
    · cases hoption : isOption argument with
      | true => exact .inl (by simp [isUnknown, hoption, known, hbatch, hsimple, h])
      | false => exact .inr ⟨.file argument hoption, rfl⟩

inductive Stuck : List String → Prop
  | unknown {argument : String} (rest : List String) :
      isUnknown argument = true → Stuck (argument :: rest)
  | unfinished : Stuck ["--stdlib"]

def Splits (arguments : List String) : Prop :=
  ∃ directives rest, arguments = wordsOf directives ++ rest ∧ (rest = [] ∨ Stuck rest)

theorem Splits.behind (directive : Directive) {rest : List String} (h : Splits rest) :
    Splits (directive.words ++ rest) := by
  obtain ⟨directives, last, rfl, hlast⟩ := h
  exact ⟨directive :: directives, last, by simp [wordsOf], hlast⟩

theorem splits : ∀ arguments, Splits arguments
  | [] => ⟨[], [], rfl, .inl rfl⟩
  | argument :: rest => by
      by_cases hlibrary : argument = "--stdlib"
      · subst hlibrary
        cases rest with
        | nil => exact ⟨[], _, rfl, .inr .unfinished⟩
        | cons path rest => exact (splits rest).behind (.library path)
      · rcases unknown_or_words hlibrary with hunknown | ⟨directive, hwords⟩
        · exact ⟨[], _, rfl, .inr (.unknown rest hunknown)⟩
        · have hbehind := (splits rest).behind directive
          rwa [hwords] at hbehind

theorem refusal_of_stuck (directives : List Directive) {rest : List String} (h : Stuck rest)
    (options : Options) :
    ∃ error, parseFrom options rest = .error error ∧
      Refusal (wordsOf directives ++ rest) error := by
  have hstart := isPath_wordsOf directives rest
  have haccepted : ∀ earlier < (wordsOf directives).length, ∀ other,
      ¬ RefusedAt (wordsOf directives ++ rest) earlier other :=
    fun earlier hearlier other => accepted_wordsOf directives rest hearlier other
  cases h with
  | unknown more hunknown =>
      refine ⟨_, parseFrom_unknown hunknown options more, .unknown ?_ haccepted⟩
      exact (refusedAt_behind hstart 0 _).mpr ⟨rfl, hunknown, rfl⟩
  | unfinished =>
      refine ⟨_, rfl, .unfinished (fun place argument hrefused => ?_) ?_⟩
      · have hplace := Nat.le_of_not_lt fun hearlier =>
          haccepted place hearlier argument hrefused
        obtain ⟨later, rfl⟩ := Nat.exists_eq_add_of_le hplace
        obtain ⟨hat, hunknown, -⟩ := (refusedAt_behind hstart later argument).mp hrefused
        obtain rfl : argument = "--stdlib" :=
          List.mem_singleton.mp (List.mem_of_getElem? hat)
        rw [isUnknown_of_known _ (by simp [known])] at hunknown
        cases hunknown
      · rw [List.length_append, isPath_behind hstart]
        rfl

/-- Arguments that give directives are understood, in whatever order these come; all others are
refused for what stands first among them, or else for the path that is missing. -/
theorem parse_arguments (library : LibraryPath) :
    (∀ directives, parse library (wordsOf directives) =
      .ok { mode := (directives.filterMap Directive.mode?).getLastD .interactive
            library := (directives.filterMap Directive.library?).getLastD library
            files := directives.filterMap Directive.file? }) ∧
    ∀ arguments, (∀ directives, arguments ≠ wordsOf directives) →
      ∃ error, parse library arguments = .error error ∧ Refusal arguments error := by
  constructor
  · intro directives
    have hparse := parseFrom_wordsOf ⟨.interactive, library, []⟩ directives []
    rw [List.append_nil] at hparse
    rw [parse, hparse, parseFrom, follow, List.nil_append]
  · intro arguments harguments
    obtain ⟨directives, rest, rfl, hrest⟩ := splits arguments
    rcases hrest with rfl | hstuck
    · exact absurd (List.append_nil _) (harguments directives)
    · rw [parse, parseFrom_wordsOf]
      exact refusal_of_stuck directives hstuck _

/-- A path that looks like an option is taken for a path; one such argument more is refused. -/
theorem parse_arguments_interleaved :
    parse .builtin ["a", "--stdlib", "--simple", "--no-prompt", "b"] =
        .ok ⟨.batch, .file "--simple", ["a", "b"]⟩ ∧
      Refusal ["--stdlib", "--odd", "a", "--even", "--odd"] (.unknownOption "--even") ∧
      Refusal ["--simple", "a", "--stdlib"] .missingLibraryPath := by
  obtain ⟨haccepted, hrefused⟩ := parse_arguments .builtin
  have hrefusal : ∀ arguments error, parse .builtin arguments = .error error →
      Refusal arguments error := by
    intro arguments error hparse
    obtain ⟨other, hother, h⟩ := hrefused arguments fun directives hwords => by
      rw [hwords, haccepted] at hparse
      cases hparse
    cases hparse.symm.trans hother
    exact h
  refine ⟨?_, hrefusal _ _ rfl, hrefusal _ _ rfl⟩
  exact haccepted [.file "a" rfl, .library "--simple", .batch, .file "b" rfl]

end Options

end Lisplet
