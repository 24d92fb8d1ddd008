import Lisplet.Proofs.Reader.Spelling
import Lisplet.Regex.PatternEngine

namespace Lisplet

/-! The readable text of a value is read back as that value. -/

namespace Value

/-- A list that is written with a mark and read as something else: an unquoted symbol with an at
sign in front looks like a splice, and a template must not be a splice. -/
def isAmbiguous : Value → Bool
  | cons (symbol head) (cons operand emptyList) =>
      (head = Sugar.unquote.symbol &&
          operand.symbol?.any fun name => name.name.toList.head? = some '@') ||
        (head = Sugar.quasiquote.symbol && operand.isTagged Sugar.splice.symbol)
  | _ => false

/-- Built from what reading can give apart from floats and regular expressions, with no ambiguous
list alone or among the items of a list. The cells that follow the first one of a list are no items
of it, so only their own items count. -/
def Readable : Position → Value → Prop
  | _, nil | _, bool _ | _, int _ | _, str _ | _, emptyList => True
  | _, symbol name => Reader.IsSymbolName name.name.toList
  | _, keyword name => Reader.IsKeywordName name.toList
  | .alone, cons first rest =>
      (cons first rest).isAmbiguous = false ∧ first.Readable .alone ∧ rest.Readable .following
  | .following, cons first rest => first.Readable .alone ∧ rest.Readable .following
  | _, _ => False

instance decidableReadable : (position : Position) → (value : Value) →
    Decidable (value.Readable position)
  | _, nil | _, bool _ | _, int _ | _, str _ | _, emptyList => inferInstanceAs (Decidable True)
  | _, symbol name => inferInstanceAs (Decidable (Reader.IsSymbolName name.name.toList))
  | _, keyword name => inferInstanceAs (Decidable (Reader.IsKeywordName name.toList))
  | .alone, cons first rest =>
      have := decidableReadable .alone first
      have := decidableReadable .following rest
      inferInstanceAs (Decidable (_ ∧ _ ∧ _))
  | .following, cons first rest =>
      have := decidableReadable .alone first
      have := decidableReadable .following rest
      inferInstanceAs (Decidable (_ ∧ _))
  | _, float _ | _, regex _ | _, closure _ _ _ _ _ | _, primitive _ | _, special _ =>
      inferInstanceAs (Decidable False)

end Value

namespace Reader

open Value (Position)

variable {fuel : Nat}

theorem isVisible_of_isTokenChar {c : Char} (htoken : isTokenChar c = true) (hcomment : c ≠ ';') :
    isVisible c = true := by
  simp only [isTokenChar, isTerminator, Bool.not_eq_true', Bool.or_eq_false_iff] at htoken
  simp [isVisible, htoken.1, hcomment]

theorem isVisible_of_startsNumber {c : Char} {body : List Char}
    (hstart : startsNumber (c :: body) = true) (htoken : ∀ d ∈ c :: body, isTokenChar d = true) :
    isVisible c = true := by
  refine isVisible_of_isTokenChar (htoken c (by simp)) ?_
  rintro rfl
  exact absurd hstart (by simp [startsNumber, NumberText.isDigit])

theorem ends_write_following (names : ClosureNames) (value : Value) (rest : List Char) :
    Ends ((value.write names .following).toList ++ ')' :: rest) := by
  cases value <;> simp [Value.write, Value.Position.place]

theorem toList_write_following_cons (names : ClosureNames) (first rest : Value) :
    (Value.write names .following (.cons first rest)).toList =
      ' ' :: (first.write names .alone).toList ++ (rest.write names .following).toList := by
  simp [Value.write]

theorem toList_write_sugar (names : ClosureNames) (sugar : Sugar) (operand : Value) :
    (Value.write names .alone (.ofList [.symbol sugar.symbol, operand])).toList =
      sugar.mark.toList ++ (operand.write names .alone).toList := by
  simp [Value.ofList, Value.write]

theorem exists_steps_of_sugar {names : ClosureNames} {sugar : Sugar} {operand : Value} {fuel : Nat}
    (h : (Value.write names .alone (.ofList [.symbol sugar.symbol, operand])).toList.length ≤ fuel) :
    ∃ steps, fuel = steps + 1 ∧ (operand.write names .alone).toList.length ≤ steps := by
  have hmark : 0 < sugar.mark.toList.length := by cases sugar <;> decide
  rw [toList_write_sugar, List.length_append] at h
  exact ⟨fuel - 1, by omega, by omega⟩

theorem Yields.run {scan : Scan α} {text rest : List Char} {value : α}
    (h : Yields scan text value rest) :
    (scan.run text).outcome = .ok value ∧ (scan.run text).rest = rest := by
  obtain ⟨met, hrun⟩ := h []
  have hrun' : EStateM.run scan ⟨text, []⟩ = .ok value ⟨rest, met⟩ := hrun
  simp [Scan.run, hrun']

section

variable [RegexEngine]

theorem spells_nil : Spells fuel ['n', 'i', 'l'] .nil :=
  ⟨'n', ['i', 'l'], rfl, rfl, fun _ hrest =>
    yields_begins_token rfl (by decide) rfl rfl (List.all_eq_true.mp rfl) hrest⟩

theorem spells_true : Spells fuel ['t', 'r', 'u', 'e'] (.bool true) :=
  ⟨'t', ['r', 'u', 'e'], rfl, rfl, fun _ hrest =>
    yields_begins_token rfl (by decide) rfl rfl (List.all_eq_true.mp rfl) hrest⟩

theorem spells_false : Spells fuel ['f', 'a', 'l', 's', 'e'] (.bool false) :=
  ⟨'f', ['a', 'l', 's', 'e'], rfl, rfl, fun _ hrest =>
    yields_begins_token rfl (by decide) rfl rfl (List.all_eq_true.mp rfl) hrest⟩

theorem spells_int (value : Int64) : Spells fuel (NumberText.ofInt value).toList (.int value) := by
  have hvalue := numberOfToken?_ofInt value
  have hstart := startsNumber_ofInt value
  have htoken : ∀ c ∈ (NumberText.ofInt value).toList, isTokenChar c = true :=
    fun c hc => isTokenChar_of_mem_ofInt hc
  cases htext : (NumberText.ofInt value).toList with
  | nil =>
      rw [htext] at hstart
      cases hstart
  | cons c body =>
      rw [htext] at hvalue hstart htoken
      exact ⟨c, body, rfl, isVisible_of_startsNumber hstart htoken,
        fun _ hrest => yields_begins_number hvalue hstart htoken hrest⟩

theorem spells_str (literal : String) :
    Spells fuel (StringLiteral.write literal).toList (.str literal) := by
  refine ⟨'"', StringLiteral.writeBody literal.toList ++ ['"'], by simp [StringLiteral.write], rfl,
    ?_⟩
  intro rest _
  rw [begins_doubleQuote, List.append_assoc]
  exact yields_string literal

theorem spells_keyword {name : String} (hname : IsKeywordName name.toList) :
    Spells fuel (":" ++ name).toList (.keyword name) := by
  refine ⟨':', name.toList, by simp, rfl, ?_⟩
  intro rest hrest
  simpa using yields_keyword hname hrest

theorem spells_symbol {name : Symbol} (hname : IsSymbolName name.name.toList) :
    Spells fuel name.name.toList (.symbol name) := by
  have hatom : atomOfToken name.name.toList = .symbol name := by
    rw [atomOfToken_of_not_literal hname.not_literal, String.ofList_toList]
  cases htext : name.name.toList with
  | nil => exact absurd htext hname.nonempty
  | cons c body =>
      rw [htext] at hname hatom
      have hcomment : c ≠ ';' := by
        rintro rfl
        exact absurd (hname.marked rfl) (by simp [isMarkedName])
      refine ⟨c, body, rfl, isVisible_of_isTokenChar (hname.token c (by simp)) hcomment, ?_⟩
      intro rest hrest
      have hbody : ∀ d ∈ body, isTokenChar d = true :=
        fun d hd => hname.token d (by simp [hd])
      cases hmark : isMark c with
      | true => exact yields_begins_marked (hname.marked hmark) hatom hbody hrest
      | false =>
          exact yields_begins_token hmark hname.not_dot hname.not_number hatom hname.token hrest

theorem spells_emptyList : Spells (fuel + 1) ['(', ')'] .emptyList :=
  ⟨'(', [')'], rfl, rfl, fun _ _ => yields_list_close rfl⟩

theorem spells_write_atom (names : ClosureNames) {position : Position} {value : Value}
    (hatom : value.isList = false) (h : value.Readable position) :
    Spells fuel (value.write names .alone).toList value := by
  cases value with
  | nil => simpa [Value.write, Position.place] using spells_nil
  | bool value =>
      cases value with
      | true => simpa [Value.write, Position.place] using spells_true
      | false => simpa [Value.write, Position.place] using spells_false
  | int value => simpa [Value.write, Position.place] using spells_int value
  | str literal => simpa [Value.write, Position.place] using spells_str literal
  | symbol name =>
      rw [Value.Readable] at h
      simpa [Value.write, Position.place] using spells_symbol h
  | keyword name =>
      rw [Value.Readable] at h
      simpa [Value.write, Position.place] using spells_keyword h
  | emptyList => cases hatom
  | cons first rest => cases hatom
  | _ => simp [Value.Readable] at h

/-! What an induction along the printer shows: a value alone is spelled by its text, and what
follows the items of a list is read as the rest of that list. The length of the text bounds the
steps that are needed. -/

def ReadsBack (names : ClosureNames) : Position → Value → Prop
  | .alone, value =>
      ∀ fuel, (value.write names .alone).toList.length ≤ fuel →
        Spells fuel (value.write names .alone).toList value
  | .following, value =>
      ∀ fuel items rest, items ≠ [] → (value.write names .following).toList.length < fuel →
        Yields (list fuel items) ((value.write names .following).toList ++ ')' :: rest)
          (.ofDotted items.reverse value) rest

theorem readsBack_atom {names : ClosureNames} {position : Position} {value : Value}
    (hatom : value.isList = false) (h : value.Readable position) :
    ReadsBack names position value := by
  have hspells : ∀ fuel, Spells fuel (value.write names .alone).toList value :=
    fun _ => spells_write_atom names hatom h
  cases position with
  | alone => exact fun fuel _ => hspells fuel
  | following =>
      have hwrite : (value.write names .following).toList =
          ' ' :: '.' :: ' ' :: (value.write names .alone).toList := by
        cases value with
        | emptyList => cases hatom
        | cons => cases hatom
        | _ => simp [Value.write, Position.place]
      intro fuel items rest hitems hfuel
      rw [hwrite] at hfuel ⊢
      obtain ⟨steps, rfl⟩ : ∃ steps, fuel = steps + 2 :=
        ⟨fuel - 2, by simp only [List.length_cons] at hfuel; omega⟩
      have htail := (hspells steps).yields_datum .dottedPair
        ((hspells steps).dropLayout_append (')' :: rest)) rfl
      exact yields_list_tail hitems rfl rfl htail rfl

theorem readsBack_following_emptyList (names : ClosureNames) :
    ReadsBack names .following .emptyList := by
  intro fuel items rest _ hfuel
  obtain ⟨steps, rfl⟩ : ∃ steps, fuel = steps + 1 := ⟨fuel - 1, by omega⟩
  exact yields_list_close rfl

theorem readsBack_following_cons {names : ClosureNames} {first rest : Value}
    (hfirst : ReadsBack names .alone first) (hrest : ReadsBack names .following rest) :
    ReadsBack names .following (.cons first rest) := by
  intro fuel items behind _ hfuel
  rw [toList_write_following_cons] at hfuel ⊢
  simp only [List.cons_append, List.length_cons, List.length_append] at hfuel
  obtain ⟨steps, rfl⟩ : ∃ steps, fuel = steps + 1 := ⟨fuel - 1, by omega⟩
  have hspells := hfirst steps (by omega)
  have hmore := hrest steps (first :: items) behind (by simp) (by omega)
  rw [List.reverse_cons, Value.ofDotted_append] at hmore
  simp only [List.cons_append, List.append_assoc]
  exact hspells.yields_list_item (hspells.dropLayout_append _)
    (ends_write_following names rest behind) hmore

theorem readsBack_alone_cons {names : ClosureNames} {first rest : Value}
    (hwrite : (Value.write names .alone (.cons first rest)).toList =
      '(' :: (first.write names .alone).toList ++ (rest.write names .following).toList ++ [')'])
    (hfirst : ReadsBack names .alone first) (hrest : ReadsBack names .following rest) :
    ReadsBack names .alone (.cons first rest) := by
  intro fuel hfuel
  rw [hwrite] at hfuel ⊢
  simp only [List.cons_append, List.length_cons, List.length_append, List.length_nil] at hfuel
  obtain ⟨steps, rfl⟩ : ∃ steps, fuel = steps + 1 := ⟨fuel - 1, by omega⟩
  refine (hfirst steps (by omega)).cons (ends_write_following names rest) ?_
  intro behind
  exact hrest steps [first] behind (by simp) (by omega)

theorem head?_ne_at_of_not_isAmbiguous {text : List Char} {operand : Value}
    (hspells : Spells fuel text operand)
    (hplain : Value.isAmbiguous (.ofList [.symbol Sugar.unquote.symbol, operand]) = false) :
    text.head? ≠ some '@' := by
  intro hat
  obtain ⟨body, rfl⟩ : ∃ body, text = '@' :: body := List.head?_eq_some_iff.mp hat
  obtain ⟨name, rfl, hname⟩ := hspells.exists_symbol_of_at
  simp [Value.ofList, Value.isAmbiguous, Value.symbol?, hname] at hplain

theorem readsBack_sugar {names : ClosureNames} {sugar : Sugar} {operand : Value}
    (hplain : Value.isAmbiguous (.ofList [.symbol sugar.symbol, operand]) = false)
    (hoperand : ReadsBack names .alone operand) :
    ReadsBack names .alone (.ofList [.symbol sugar.symbol, operand]) := by
  intro fuel hfuel
  obtain ⟨steps, rfl, hsteps⟩ := exists_steps_of_sugar hfuel
  rw [toList_write_sugar]
  have hspells := hoperand steps hsteps
  cases sugar with
  | quote => exact hspells.quoted
  | quasiquote =>
      refine hspells.template ?_
      simp only [Value.ofList, Value.ofDotted, Value.isAmbiguous, decide_true, Bool.true_and,
        Bool.or_eq_false_iff] at hplain
      exact hplain.2
  | unquote => exact hspells.unquoted (head?_ne_at_of_not_isAmbiguous hspells hplain)
  | splice => exact hspells.spliced

theorem readsBack_alone_emptyList (names : ClosureNames) : ReadsBack names .alone .emptyList := by
  intro fuel hfuel
  have hwrite : (Value.write names .alone .emptyList).toList = ['(', ')'] := by
    simp [Value.write]
  rw [hwrite] at hfuel ⊢
  obtain ⟨steps, rfl⟩ : ∃ steps, fuel = steps + 1 :=
    ⟨fuel - 1, by simp only [List.length_cons] at hfuel; omega⟩
  exact spells_emptyList

theorem readsBack (names : ClosureNames) {position : Position} {value : Value}
    (h : value.Readable position) : ReadsBack names position value := by
  induction position, value using Value.write.induct with
  | case9 => exact readsBack_alone_emptyList names
  | case10 => exact readsBack_following_emptyList names
  | case11 head operand sugar hsugar ih =>
      obtain rfl := Sugar.symbol_of_ofSymbol? hsugar
      simp only [Value.Readable, and_true] at h
      exact readsBack_sugar h.1 (ih h.2.2)
  | case12 head operand hsugar ih =>
      simp only [Value.Readable, and_true] at h
      refine readsBack_alone_cons (by simp [Value.write, hsugar, Position.place])
        (readsBack_atom rfl h.2.1) ?_
      exact readsBack_following_cons (ih h.2.2) (readsBack_following_emptyList names)
  | case13 first rest hshape ihFirst ihRest =>
      rw [Value.Readable] at h
      have hwrite : Value.write names .alone (.cons first rest) =
          "(" ++ first.write names .alone ++ rest.write names .following ++ ")" := by
        rw [Value.write]
        exact hshape
      refine readsBack_alone_cons ?_ (ihFirst h.2.1) (ihRest h.2.2)
      simp [hwrite]
  | case14 first rest ihFirst ihRest =>
      rw [Value.Readable] at h
      exact readsBack_following_cons (ihFirst h.1) (ihRest h.2)
  | _ => exact readsBack_atom rfl h

theorem Spells.read {text rest : List Char} {value : Value} (h : Spells fuel text value)
    (hfuel : (text ++ rest).length = fuel) (hrest : Ends rest) :
    (read (text ++ rest)).outcome = .ok (some value) ∧ (read (text ++ rest)).rest = rest := by
  subst hfuel
  have hlayout := h.dropLayout_append rest
  have hsome : dropLayout false (text ++ rest) ≠ [] := by
    obtain ⟨c, body, rfl, -, -⟩ := h
    rw [hlayout]
    simp
  have hdatum : Yields (datum (enough (text ++ rest)) .datum) (text ++ rest) value rest :=
    h.yields_datum .datum hlayout hrest
  rw [Reader.read, if_neg hsome]
  exact (hdatum.map some).run

/-- Reading the text of a readable value gives that value back and stops right behind its text. -/
theorem read_inspect (names : ClosureNames) {value : Value} (hvalue : value.Readable .alone)
    {rest : List Char} (hrest : Ends rest) :
    (read ((value.inspect names).toList ++ rest)).outcome = .ok (some value) ∧
      (read ((value.inspect names).toList ++ rest)).rest = rest := by
  have hspells := readsBack names hvalue ((value.inspect names).toList ++ rest).length
    (by rw [List.length_append]; exact Nat.le_add_right _ _)
  exact hspells.read rfl hrest

end

open scoped Pattern

/-- The text `(%r ,::x -5 . "a\"")` in front of a closing parenthesis. -/
theorem read_inspect_dotted_pair :
    let value := Value.ofDotted
      [.symbol ⟨"%r"⟩, .ofList [.symbol ⟨"unquote"⟩, .symbol ⟨"::x"⟩], .int (-5)] (.str "a\"")
    value.Readable .alone ∧ Ends [')', 'z'] ∧
      (read ((value.inspect .empty).toList ++ [')', 'z'])).outcome = .ok (some value) ∧
      (read ((value.inspect .empty).toList ++ [')', 'z'])).rest = [')', 'z'] := by
  intro value
  have hvalue : value.Readable .alone := by decide
  have hrest : Ends [')', 'z'] := rfl
  exact ⟨hvalue, hrest, read_inspect .empty hvalue hrest⟩

end Reader

end Lisplet
