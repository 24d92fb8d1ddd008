import Lisplet.Proofs.Reader.Frame
import Lisplet.Proofs.Symbol.Object
import Lisplet.Reader.Interned

namespace Lisplet

def Value.isAtom : Value → Bool
  | .symbol _ | .cons _ _ | .closure _ _ _ _ _ => false
  | _ => true

/-- The object is in the table, where it stands for the value. -/
structure Object.Means (interner : Interner) (object : Object) (value : Value) : Prop where
  known : object.Known interner
  value_eq : object.value interner = value

namespace Object.Means

variable {interner later : Interner}

theorem value_later {object : Object} (h : object.Known interner)
    (hlater : interner.Precedes later) : object.value later = object.value interner := by
  have hsymbol : ∀ handle, (∃ name, interner.name? handle = some name) →
      later.symbol handle = interner.symbol handle := by
    rintro handle ⟨name, hname⟩
    rw [interner.symbol_eq hname, later.symbol_eq (hlater.name? hname)]
  induction object with
  | symbol handle => exact congrArg Value.symbol (hsymbol handle (known_symbol.mp h))
  | cons first rest ihFirst ihRest =>
      rw [value, value, ihFirst (known_cons.mp h).1, ihRest (known_cons.mp h).2]
  | closure id kind positional others body scope ih =>
      have hbody : body.Known interner := fun handle hhandle =>
        h handle (List.mem_append_right _ hhandle)
      have hpositional : positional.map later.symbol = positional.map interner.symbol :=
        List.map_congr_left fun handle hhandle => hsymbol handle
          (h handle (List.mem_append_left _ (List.mem_append_left _ hhandle)))
      have hothers : others.map later.symbol = others.map interner.symbol :=
        Option.map_congr fun handle hhandle => hsymbol handle
          (h handle (List.mem_append_left _ (List.mem_append_right _ (by simp [hhandle]))))
      rw [value, value, hpositional, hothers, ih hbody]
  | _ => rfl

theorem mono {object : Object} {value : Value} (h : object.Means interner value)
    (hlater : interner.Precedes later) : object.Means later value :=
  ⟨h.known.mono hlater, (value_later h.known hlater).trans h.value_eq⟩

theorem of_handles_eq_nil {object : Object} {value : Value} (hhandles : object.handles = [])
    (hvalue : object.value interner = value) : object.Means interner value := by
  refine ⟨fun handle hhandle => ?_, hvalue⟩
  rw [hhandles] at hhandle
  cases hhandle

theorem ofAtom {value : Value} (h : value.isAtom = true) :
    (Object.ofAtom value).Means interner value := by
  cases value with
  | symbol => cases h
  | cons => cases h
  | closure => cases h
  | _ => exact of_handles_eq_nil rfl rfl

theorem symbol {handle : Handle} {name : String} (h : interner.name? handle = some name) :
    (Object.symbol handle).Means interner (.symbol ⟨name⟩) :=
  ⟨known_symbol.mpr ⟨name, h⟩, congrArg Value.symbol (interner.symbol_eq h)⟩

theorem cons {first rest : Object} {value other : Value} (hfirst : first.Means interner value)
    (hrest : rest.Means interner other) :
    (Object.cons first rest).Means interner (.cons value other) := by
  refine ⟨known_cons.mpr ⟨hfirst.known, hrest.known⟩, ?_⟩
  rw [Object.value, hfirst.value_eq, hrest.value_eq]

inductive Each (interner : Interner) : List Object → List Value → Prop
  | nil : Each interner [] []
  | cons {object : Object} {value : Value} {objects : List Object} {values : List Value} :
      object.Means interner value → Each interner objects values →
        Each interner (object :: objects) (value :: values)

namespace Each

variable {objects : List Object} {values : List Value}

theorem mono (h : Each interner objects values) (hlater : interner.Precedes later) :
    Each later objects values := by
  induction h with
  | nil => exact .nil
  | cons hfirst _ ih => exact .cons (hfirst.mono hlater) ih

theorem isEmpty_eq (h : Each interner objects values) : objects.isEmpty = values.isEmpty := by
  cases h <;> rfl

theorem reverse_ofDotted (h : Each interner objects values) {tail : Object} {last : Value}
    (htail : tail.Means interner last) :
    (Object.ofDotted objects.reverse tail).Means interner (.ofDotted values.reverse last) := by
  induction h generalizing tail last with
  | nil => exact htail
  | @cons object value objects values hfirst _ ih =>
      have hsame : ∀ items : List Object, Object.ofDotted (items ++ [object]) tail =
          .ofDotted items (.cons object tail) := by
        intro items
        induction items with
        | nil => rfl
        | cons item items ih => exact congrArg (Object.cons item) ih
      rw [List.reverse_cons, List.reverse_cons, hsame, Value.ofDotted_append]
      exact ih (hfirst.cons htail)

end Each

end Object.Means

namespace Reader

/-- The scan meets no symbol, and what it returns is allowed. -/
def Quiet (scan : Scan α) (Allows : α → Prop) : Prop :=
  ∀ cursor : Cursor, match scan cursor with
    | .ok value after => after.met = cursor.met ∧ Allows value
    | .error _ after => after.met = cursor.met

namespace Quiet

variable {Allows : α → Prop}

theorem pure {value : α} (h : Allows value) : Quiet (pure value) Allows :=
  fun _ => ⟨rfl, h⟩

theorem throw (error : Error) : Quiet (throw error : Scan α) Allows :=
  fun _ => rfl

theorem get {next : Cursor → Scan α} (hnext : ∀ cursor, Quiet (next cursor) Allows) :
    Quiet (MonadState.get >>= next) Allows :=
  fun cursor => hnext cursor cursor

theorem bind {Goal : β → Prop} {first : Scan α} {next : α → Scan β} (hfirst : Quiet first Allows)
    (hnext : ∀ value, Allows value → Quiet (next value) Goal) : Quiet (first >>= next) Goal := by
  intro cursor
  have hstart := hfirst cursor
  cases hrun : first cursor with
  | error error after =>
      rw [hrun] at hstart
      rw [bind_error hrun]
      exact hstart
  | ok value middle =>
      rw [hrun] at hstart
      have hend := hnext value hstart.2 middle
      rw [hstart.1] at hend
      rw [bind_ok hrun]
      exact hend

theorem moveTo (rest : List Char) : Quiet (moveTo rest) fun _ => True :=
  fun _ => ⟨rfl, trivial⟩

theorem peek : Quiet peek fun _ => True :=
  fun _ => ⟨rfl, trivial⟩

theorem take : Quiet take fun _ => True := by
  refine get fun cursor => ?_
  cases cursor.rest with
  | nil => exact pure trivial
  | cons c rest => exact bind (moveTo rest) fun _ _ => pure trivial

theorem takeVisible : Quiet takeVisible fun _ => True :=
  get fun _ => bind (moveTo _) fun _ _ => take

theorem takeToken : Quiet takeToken fun _ => True :=
  get fun _ => bind (moveTo _) fun _ _ => pure trivial

theorem closePair : Quiet closePair fun _ => True := by
  refine bind takeVisible fun next _ => ?_
  split
  · exact pure trivial
  · exact throw _
  · exact throw _

theorem isAtom_numberOfToken? {token : List Char} {value : Value}
    (h : numberOfToken? token = some value) : value.isAtom = true := by
  simp only [numberOfToken?] at h
  split at h
  · cases h
  · split at h
    · obtain ⟨number, _, rfl⟩ := Option.map_eq_some_iff.mp h
      rfl
    · split at h
      · obtain ⟨number, _, rfl⟩ := Option.map_eq_some_iff.mp h
        rfl
      · cases h

theorem number (first : Char) : Quiet (number first) fun value => value.isAtom = true := by
  refine bind takeToken fun token _ => ?_
  dsimp only
  split
  · rename_i value hnumber
    exact pure (isAtom_numberOfToken? hnumber)
  · exact throw _

theorem string : Quiet string fun value => value.isAtom = true := by
  refine get fun cursor => ?_
  split
  · exact bind (moveTo _) fun _ _ => pure rfl
  · exact bind (moveTo _) fun _ _ => throw _

variable [RegexEngine]

theorem regex (close : Char) : Quiet (regex close) fun value => value.isAtom = true := by
  refine get fun cursor => ?_
  split
  · exact bind (moveTo _) fun _ _ => throw _
  · refine bind (moveTo _) fun _ _ => bind takeToken fun options _ => ?_
    split
    · exact throw _
    · split
      · exact throw _
      · exact pure rfl

end Quiet

/-! The reader with symbols by identity does what the reader does. -/

namespace Interning

def Advances (desk after : Desk) : Prop :=
  ∃ added : List Symbol, after.cursor.met = added ++ desk.cursor.met ∧
    after.interner = desk.interner.internAll (added.reverse.map Symbol.name)

namespace Advances

theorem of_met_eq {desk : Desk} {cursor : Cursor} (h : cursor.met = desk.cursor.met) :
    Advances desk { desk with cursor } :=
  ⟨[], h, rfl⟩

theorem trans {first second third : Desk} (hfirst : Advances first second)
    (hsecond : Advances second third) : Advances first third := by
  obtain ⟨added, hadded, hinterner⟩ := hfirst
  obtain ⟨more, hmore, hlater⟩ := hsecond
  refine ⟨more ++ added, ?_, ?_⟩
  · rw [hmore, hadded, List.append_assoc]
  · rw [hlater, hinterner, ← Interner.internAll_append, ← List.map_append, List.reverse_append]

theorem precedes {desk after : Desk} (h : Advances desk after) :
    desk.interner.Precedes after.interner := by
  obtain ⟨added, _, hinterner⟩ := h
  rw [hinterner]
  exact Interner.precedes_internAll _ _

end Advances

inductive EndAlike (desk : Desk) :
    EStateM.Result Error Desk Object → EStateM.Result Error Cursor Value → Prop
  | ok {object : Object} {value : Value} {after : Desk} : Advances desk after →
      object.Means after.interner value →
        EndAlike desk (.ok object after) (.ok value after.cursor)
  | error {error : Error} {after : Desk} : Advances desk after →
      EndAlike desk (.error error after) (.error error after.cursor)

/-- From the desk the one comes to the object where the other comes to the value. -/
def Mirrors (desk : Desk) (scan : Interning Object) (model : Scan Value) : Prop :=
  EndAlike desk (scan desk) (model desk.cursor)

namespace Mirrors

variable {desk : Desk}

theorem throw (error : Error) : Mirrors desk (throw error) (throw error) :=
  .error (.of_met_eq rfl)

theorem pure {object : Object} {value : Value} (h : object.Means desk.interner value) :
    Mirrors desk (pure object) (pure value) :=
  .ok (.of_met_eq rfl) h

theorem bind {scan : Interning Object} {model : Scan Value} {next : Object → Interning Object}
    {next' : Value → Scan Value} (hscan : Mirrors desk scan model)
    (hnext : ∀ object value after, Advances desk after → object.Means after.interner value →
      Mirrors after (next object) (next' value)) :
    Mirrors desk (scan >>= next) (model >>= next') := by
  rw [Mirrors] at hscan ⊢
  generalize hrun : scan desk = run at hscan
  generalize hrun' : model desk.cursor = run' at hscan
  cases hscan with
  | error hadvances =>
      rw [bind_error hrun, bind_error hrun']
      exact .error hadvances
  | @ok object value after hadvances hmeans =>
      rw [bind_ok hrun, bind_ok hrun']
      have hlater := hnext object value after hadvances hmeans
      rw [Mirrors] at hlater
      generalize next object after = last at hlater ⊢
      generalize next' value after.cursor = last' at hlater ⊢
      cases hlater with
      | ok hmore hresult => exact .ok (hadvances.trans hmore) hresult
      | error hmore => exact .error (hadvances.trans hmore)

theorem plain_bind {scan : Scan α} {Allows : α → Prop} {next : α → Interning Object}
    {next' : α → Scan Value} (hscan : Quiet scan Allows)
    (hnext : ∀ value cursor, Allows value →
      Mirrors { desk with cursor } (next value) (next' value)) :
    Mirrors desk (plain scan >>= next) (scan >>= next') := by
  have hquiet := hscan desk.cursor
  rw [Mirrors]
  cases hrun : scan desk.cursor with
  | error error after =>
      rw [hrun] at hquiet
      have hplain : plain scan desk = .error error { desk with cursor := after } := by
        rw [plain, hrun]
      rw [bind_error hrun, bind_error hplain]
      exact .error (.of_met_eq hquiet)
  | ok value after =>
      rw [hrun] at hquiet
      have hplain : plain scan desk = .ok value { desk with cursor := after } := by
        rw [plain, hrun]
      rw [bind_ok hrun, bind_ok hplain]
      have hlater := hnext value after hquiet.2
      rw [Mirrors] at hlater
      have hstart : Advances desk { desk with cursor := after } := .of_met_eq hquiet.1
      generalize next value { desk with cursor := after } = last at hlater ⊢
      generalize next' value after = last' at hlater ⊢
      cases hlater with
      | ok hmore hresult => exact .ok (hstart.trans hmore) hresult
      | error hmore => exact .error (hstart.trans hmore)

theorem ite {condition : Prop} [Decidable condition] {scan scan' : Interning Object}
    {model model' : Scan Value} (hscan : Mirrors desk scan model)
    (hscan' : Mirrors desk scan' model') :
    Mirrors desk (if condition then scan else scan') (if condition then model else model') := by
  split
  · exact hscan
  · exact hscan'

theorem meet (name : String) : Mirrors desk (meet name) (Reader.meet (.symbol ⟨name⟩)) :=
  .ok ⟨[⟨name⟩], rfl, rfl⟩ (.symbol (Interner.name?_intern name desk.interner))

theorem isAtom_or_symbol (token : List Char) :
    (atomOfToken token).isAtom = true ∨ ∃ name, atomOfToken token = .symbol ⟨name⟩ := by
  rw [atomOfToken]
  split
  · exact .inl rfl
  · exact .inl rfl
  · exact .inl rfl
  · exact .inr ⟨_, rfl⟩

theorem atom (start : List Char) : Mirrors desk (atom start) (Reader.atom start) := by
  refine plain_bind .takeToken fun token cursor _ => ?_
  have hcases := isAtom_or_symbol (start ++ token)
  generalize atomOfToken (start ++ token) = value at hcases
  rcases hcases with hatom | ⟨name, rfl⟩
  · cases value with
    | symbol => cases hatom
    | _ => exact pure (.ofAtom hatom)
  · exact meet name

theorem literal {scan : Scan Value} (h : Quiet scan fun value => value.isAtom = true) :
    Mirrors desk (literal scan) scan := by
  have hmirrors := @plain_bind desk Value scan _ (fun value => Pure.pure (.ofAtom value))
    (fun value => Pure.pure value) h fun value cursor hatom => pure (.ofAtom hatom)
  rwa [bind_pure] at hmirrors

theorem keyword : Mirrors desk keyword Reader.keyword := by
  refine plain_bind .peek fun next cursor _ => ?_
  split
  · exact plain_bind .take fun _ _ _ => atom _
  · refine plain_bind .takeToken fun name cursor _ => ?_
    split
    · exact throw _
    · exact pure (.of_handles_eq_nil rfl rfl)

/-! Quotation marks, whose symbols are in the table from the start. -/

section Names

variable {names : Names} {interner : Interner} {cursor : Cursor}
  {datum : Expected → Interning Object} {datum' : Expected → Scan Value}
  {list : Interning Object} {list' : Scan Value}

theorem means_emptyList : Object.emptyList.Means interner .emptyList :=
  .of_handles_eq_nil rfl rfl

theorem means_quoted (hnames : names.Known interner) (sugar : Sugar) {operand : Object}
    {value : Value} (h : operand.Means interner value) :
    (Object.ofList [.symbol (names.sugar sugar), operand]).Means interner
      (.ofList [.symbol sugar.symbol, value]) :=
  .cons (.symbol (hnames.sugar sugar)) (.cons h means_emptyList)

theorem quoted (hnames : names.Known interner)
    (hdatum : ∀ cursor expected, Mirrors ⟨cursor, interner⟩ (datum expected) (datum' expected))
    (sugar : Sugar) :
    Mirrors ⟨cursor, interner⟩ (quoted names datum sugar) (Reader.quoted datum' sugar) :=
  bind (hdatum _ _) fun _ _ _ hadvances hoperand =>
    pure (means_quoted (hnames.mono hadvances.precedes) sugar hoperand)

theorem template (hnames : names.Known interner)
    (hdatum : ∀ cursor expected, Mirrors ⟨cursor, interner⟩ (datum expected) (datum' expected)) :
    Mirrors ⟨cursor, interner⟩ (template names datum) (Reader.template datum') := by
  refine bind (hdatum _ _) fun operand value after hadvances hoperand => ?_
  have hafter := hnames.mono hadvances.precedes
  have htagged := Object.isTagged_sugar hafter hoperand.known .splice
  rw [hoperand.value_eq] at htagged
  change operand.isTagged names.splice = _ at htagged
  rw [htagged]
  split
  · exact throw _
  · exact pure (means_quoted hafter .quasiquote hoperand)

theorem unquoted (hnames : names.Known interner)
    (hdatum : ∀ cursor expected, Mirrors ⟨cursor, interner⟩ (datum expected) (datum' expected)) :
    Mirrors ⟨cursor, interner⟩ (unquoted names datum) (Reader.unquoted datum') := by
  refine plain_bind .peek fun next cursor _ => ?_
  split
  · exact plain_bind .take fun _ _ _ => quoted hnames hdatum .splice
  · exact quoted hnames hdatum .unquote

variable [RegexEngine]

theorem slash : Mirrors desk slash Reader.slash := by
  refine plain_bind .peek fun next cursor _ => ?_
  split
  · exact meet "/"
  · exact literal (.regex '/')

theorem percent : Mirrors desk percent Reader.percent := by
  refine plain_bind .peek fun next cursor _ => ?_
  split
  · refine plain_bind .take fun _ cursor _ => plain_bind .peek fun following cursor _ => ?_
    split
    · exact plain_bind .take fun _ _ _ => literal (.regex '\x7d')
    · exact atom _
  · exact atom _

theorem marked (hnames : names.Known interner)
    (hdatum : ∀ cursor expected, Mirrors ⟨cursor, interner⟩ (datum expected) (datum' expected))
    (hlist : ∀ cursor, Mirrors ⟨cursor, interner⟩ list list') (c : Char) :
    Mirrors ⟨cursor, interner⟩ (marked names datum list c)
      (match c with
        | '(' => list'
        | '"' => Reader.string
        | ':' => Reader.keyword
        | '\'' => Reader.quoted datum' .quote
        | '\x60' => Reader.template datum'
        | '~' | ',' => Reader.unquoted datum'
        | '/' => Reader.slash
        | '%' => Reader.percent
        | c => Reader.atom [c]) := by
  split
  · exact hlist _
  · exact literal .string
  · exact keyword
  · exact quoted hnames hdatum .quote
  · exact template hnames hdatum
  · exact unquoted hnames hdatum
  · exact unquoted hnames hdatum
  · exact slash
  · exact percent
  · rw [Interning.marked]
    · exact atom _
    all_goals assumption

theorem begins (hnames : names.Known interner)
    (hdatum : ∀ cursor expected, Mirrors ⟨cursor, interner⟩ (datum expected) (datum' expected))
    (hlist : ∀ cursor, Mirrors ⟨cursor, interner⟩ list list') (c : Char) :
    Mirrors ⟨cursor, interner⟩ (begins names datum list c) (Reader.begins datum' list' c) := by
  refine plain_bind .peek fun following cursor _ => ite (throw _) (ite (throw _) ?_)
  exact ite (literal (.number c)) (marked hnames hdatum hlist c)

/-! Data and lists, by induction on the steps. -/

theorem datum_and_list (names : Names) (fuel : Nat) :
    (∀ interner, names.Known interner → ∀ cursor expected,
      Mirrors ⟨cursor, interner⟩ (Interning.datum names fuel expected)
        (Reader.datum fuel expected)) ∧
    ∀ interner, names.Known interner → ∀ cursor objects values,
      Object.Means.Each interner objects values →
        Mirrors ⟨cursor, interner⟩ (Interning.list names fuel objects)
          (Reader.list fuel values) := by
  induction fuel with
  | zero => exact ⟨fun _ _ _ _ => throw _, fun _ _ _ _ _ _ => throw _⟩
  | succ fuel ih =>
      obtain ⟨hdatum, hlist⟩ := ih
      have hbegins : ∀ interner, names.Known interner → ∀ cursor c,
          Mirrors ⟨cursor, interner⟩
            (Interning.begins names (Interning.datum names fuel) (Interning.list names fuel []) c)
            (Reader.begins (Reader.datum fuel) (Reader.list fuel []) c) :=
        fun interner hnames cursor => begins hnames (hdatum interner hnames)
          fun cursor => hlist interner hnames cursor [] [] .nil
      constructor
      · intro interner hnames cursor expected
        refine plain_bind .takeVisible fun next cursor _ => ?_
        cases next with
        | none => exact throw _
        | some c => exact hbegins interner hnames cursor c
      · intro interner hnames cursor objects values hitems
        refine plain_bind .takeVisible fun next cursor _ => ?_
        cases next with
        | none => exact throw _
        | some c =>
            by_cases hclose : c = ')'
            · subst hclose
              exact pure (hitems.reverse_ofDotted means_emptyList)
            · simp only
              refine plain_bind .peek fun following cursor _ => ite (throw _) (ite ?_ ?_)
              · rw [hitems.isEmpty_eq]
                refine ite ?_ ?_
                · exact throw _
                · refine bind (hdatum interner hnames _ _) fun tail value _ hadvances htail => ?_
                  refine plain_bind .closePair fun _ _ _ => pure ?_
                  exact (hitems.mono hadvances.precedes).reverse_ofDotted htail
              · refine bind (hbegins interner hnames _ c) fun item value after hadvances hitem => ?_
                have hprecedes := hadvances.precedes
                exact hlist after.interner (hnames.mono hprecedes) after.cursor _ _
                  (.cons hitem (hitems.mono hprecedes))

end Names

end Mirrors

structure Alike (Means : α → β → Prop) (reading : Reading α) (model : Reading β) : Prop where
  rest_eq : reading.rest = model.rest
  met_eq : reading.met = model.met
  outcome : match reading.outcome, model.outcome with
    | .ok value, .ok value' => Means value value'
    | .error error, .error error' => error = error'
    | _, _ => False

theorem Alike.exists_of_ok {Means : α → β → Prop} {reading : Reading α} {model : Reading β}
    (h : Alike Means reading model) {value : α} (hvalue : reading.outcome = .ok value) :
    ∃ value', model.outcome = .ok value' ∧ Means value value' := by
  have houtcome := h.outcome
  rw [hvalue] at houtcome
  cases hmodel : model.outcome with
  | ok value' =>
      rw [hmodel] at houtcome
      exact ⟨value', rfl, houtcome⟩
  | error error =>
      rw [hmodel] at houtcome
      cases houtcome

variable {names : Names} {interner : Interner}

theorem Advances.interner_eq {text : List Char} {after : Desk}
    (h : Advances ⟨⟨text, []⟩, interner⟩ after) :
    after.interner = interner.internAll (after.cursor.met.reverse.map Symbol.name) := by
  obtain ⟨added, hadded, hinterner⟩ := h
  rw [hadded, List.append_nil]
  exact hinterner

theorem run_of_ok {scan : Interning α} {text : List Char} {value : α} {after : Desk}
    (h : scan ⟨⟨text, []⟩, interner⟩ = .ok value after) :
    run scan text interner =
      (⟨.ok value, after.cursor.rest, after.cursor.met.reverse⟩, after.interner) := by
  simp only [run, EStateM.run, h]

theorem run_of_error {scan : Interning α} {text : List Char} {error : Error} {after : Desk}
    (h : scan ⟨⟨text, []⟩, interner⟩ = .error error after) :
    run scan text interner =
      (⟨.error error, after.cursor.rest, after.cursor.met.reverse⟩, after.interner) := by
  simp only [run, EStateM.run, h]

theorem run_alike {text : List Char} {scan : Interning Object} {model : Scan Value}
    (h : Mirrors ⟨⟨text, []⟩, interner⟩ scan model) :
    let after := (run scan text interner).2
    Alike (Object.Means after) (run scan text interner).1 (model.run text) ∧
      after = interner.internAll ((model.run text).met.map Symbol.name) := by
  rw [Mirrors] at h
  generalize hrun : scan ⟨⟨text, []⟩, interner⟩ = ran at h
  generalize hmodel : model ⟨text, []⟩ = modelled at h
  cases h with
  | ok hadvances hmeans =>
      rw [run_of_ok hrun, Scan.run_of_ok hmodel]
      exact ⟨⟨rfl, rfl, hmeans⟩, hadvances.interner_eq⟩
  | error hadvances =>
      rw [run_of_error hrun, Scan.run_of_error hmodel]
      exact ⟨⟨rfl, rfl, rfl⟩, hadvances.interner_eq⟩

variable [RegexEngine]

theorem require_alike (hnames : names.Known interner) (text : List Char) :
    let after := (require names text interner).2
    Alike (Object.Means after) (require names text interner).1 (Reader.require text) ∧
      after = interner.internAll ((Reader.require text).met.map Symbol.name) :=
  run_alike ((Mirrors.datum_and_list names (enough text)).1 interner hnames ⟨text, []⟩ .datum)

/-- What was met was interned, and all else is as in a reading without a table. -/
theorem read_alike (hnames : names.Known interner) (text : List Char) :
    let after := (read names text interner).2
    Alike (Option.Rel (Object.Means after)) (read names text interner).1 (Reader.read text) ∧
      after = interner.internAll ((Reader.read text).met.map Symbol.name) := by
  by_cases hlayout : dropLayout false text = []
  · rw [read, Reader.read, if_pos hlayout, if_pos hlayout]
    exact ⟨⟨rfl, rfl, .none⟩, rfl⟩
  · obtain ⟨⟨hrest, hmet, houtcome⟩, hinterner⟩ := require_alike hnames text
    have hmodel : Reader.read text = ⟨(Reader.require text).outcome.map some,
        (Reader.require text).rest, (Reader.require text).met⟩ := by
      rw [Reader.read, if_neg hlayout, Scan.run_map]
      rfl
    have hread : read names text interner =
        (⟨(require names text interner).1.outcome.map some, (require names text interner).1.rest,
          (require names text interner).1.met⟩, (require names text interner).2) := by
      rw [read, if_neg hlayout]
      rfl
    rw [hread, hmodel]
    refine ⟨⟨hrest, hmet, ?_⟩, hinterner⟩
    dsimp only at houtcome ⊢
    split at houtcome
    · rename_i object value hobject hvalue
      rw [hobject, hvalue]
      exact .some houtcome
    · rename_i error error' hfailure hfailure'
      rw [hfailure, hfailure']
      exact houtcome
    · cases houtcome

end Interning

end Reader

end Lisplet
