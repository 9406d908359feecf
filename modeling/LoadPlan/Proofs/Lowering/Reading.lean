import LoadPlan.Proofs.Lowering.Meaning
import LoadPlan.Proofs.Text.Separated
import LoadPlan.Text.Alphanumeric
/-!
# Reading guard and action texts

The load generator reads the texts of a transition: a guard text as conditions that must all
hold, an action text as assignments to be done one after another. `Condition.read?` and
`Assignment.read?` read one term by its shape, and a text is cut into its terms with no look at
what the terms are. The main statements say that the texts written for guards and actions over
identifiers mean what the guards and the actions mean (`Guard.guardTextHolds_expression`,
`Action.runActionText?_expression`).
-/

namespace LoadPlan

namespace Text

/-! ## Identifiers -/

/-- May the character stand in an identifier? -/
def isWordChar (c : Char) : Bool := isAlphanumeric c || c = '_'

/-- **An identifier**: letters, digits and underscores, and at least one of them. -/
def IsIdentifier (name : String) : Prop := name ≠ "" ∧ ∀ c ∈ name.toList, isWordChar c = true

instance (name : String) : Decidable (IsIdentifier name) :=
  decidable_of_iff (name ≠ "" ∧ name.toList.all isWordChar = true) (by simp [IsIdentifier])

/-- The identifier that a text is. -/
def identifier? (text : List Char) : Option String :=
  if IsIdentifier (String.ofList text) then some (String.ofList text) else none

theorem identifier?_toList {name : String} (h : IsIdentifier name) :
    identifier? name.toList = some name := by
  rw [identifier?, String.ofList_toList, if_pos h]

/-- The identifier that a text begins with, as long as it can be, and what follows. -/
def word? (text : List Char) : Option (String × List Char) :=
  (identifier? (text.takeWhile isWordChar)).map fun x => (x, text.dropWhile isWordChar)

/-- An identifier ends where a character stands that may not stand in one. -/
theorem word?_append {name : String} (h : IsIdentifier name) {rest : List Char}
    (hrest : rest.takeWhile isWordChar = []) : word? (name.toList ++ rest) = some (name, rest) := by
  have htake : (name.toList ++ rest).takeWhile isWordChar = name.toList := by
    rw [List.takeWhile_append_of_pos h.2, hrest, List.append_nil]
  have hdrop : (name.toList ++ rest).dropWhile isWordChar = rest := by
    have hall : rest.takeWhile isWordChar ++ rest.dropWhile isWordChar = rest :=
      List.takeWhile_append_dropWhile
    rw [hrest, List.nil_append] at hall
    rw [List.dropWhile_append_of_pos h.2, hall]
  rw [word?, htake, hdrop, identifier?_toList h, Option.map_some]

/-- A character that may not stand in an identifier stands in none. -/
theorem IsIdentifier.not_mem {name : String} (h : IsIdentifier name) {c : Char}
    (hc : isWordChar c = false) : c ∉ name.toList := by
  intro hmem
  have := h.2 c hmem
  rw [hc] at this
  cases this

/-! ## Terms between separators -/

/-- The terms of a text, each read for itself. The empty text has none. -/
def readTerms? {α : Type} (sep : String) (read? : List Char → Option α) (text : String) :
    Option (List α) :=
  if text = "" then some [] else (parts sep.toList text.toList).mapM read?

/-- The terms of a text, as they stand there. -/
def terms (sep text : String) : List (List Char) :=
  if text = "" then [] else parts sep.toList text.toList

theorem readTerms?_eq_mapM {α : Type} (sep : String) (read? : List Char → Option α)
    (text : String) : readTerms? sep read? text = (terms sep text).mapM read? := by
  rw [readTerms?, terms]
  split <;> rfl

/-- Terms are told apart in their text when none is empty, and the second character of the
separator is not its first one and stands in none of them. -/
theorem terms_intercalate {sep : String} {a b : Char} {more : List Char}
    (hsep : sep.toList = a :: b :: more) (hab : b ≠ a) {ts : List String}
    (hne : ∀ t ∈ ts, t ≠ "") (hb : ∀ t ∈ ts, b ∉ t.toList) :
    terms sep (sep.intercalate ts) = ts.map String.toList := by
  cases ts with
  | nil => rfl
  | cons t ts =>
    have hparts : parts sep.toList (sep.intercalate (t :: ts)).toList =
        (t :: ts).map String.toList := by
      rw [String.toList_intercalate, hsep]
      exact parts_intercalate hab (by simp) (by simpa using hb)
    have hnonempty : sep.intercalate (t :: ts) ≠ "" := by
      intro hempty
      -- the empty text has one part, which is no term
      rw [hempty] at hparts
      have ht : t.toList = [] := (List.cons.inj hparts).1.symm
      exact hne t (List.mem_cons_self ..) (by simpa using ht)
    rw [terms, if_neg hnonempty, hparts]

/-- Terms that read back one by one are read back from their text, when the second character of
the separator is not its first one and stands in no term. -/
theorem readTerms?_intercalate {α : Type} {sep : String} {a b : Char} {more : List Char}
    {read? : List Char → Option α} {write : α → String} (hsep : sep.toList = a :: b :: more)
    (hab : b ≠ a) (hblank : read? [] = none) {xs : List α}
    (hread : ∀ x ∈ xs, read? (write x).toList = some x) (hb : ∀ x ∈ xs, b ∉ (write x).toList) :
    readTerms? sep read? (sep.intercalate (xs.map write)) = some xs := by
  have hne : ∀ t ∈ xs.map write, t ≠ "" := by
    rintro t ht rfl
    obtain ⟨x, hx, hwrite⟩ := List.mem_map.1 ht
    have := hread x hx
    rw [hwrite, String.toList_empty, hblank] at this
    cases this
  rw [readTerms?_eq_mapM, terms_intercalate hsep hab hne (by simpa using hb), List.map_map]
  clear hne hb
  induction xs with
  | nil => rfl
  | cons x xs ih =>
    obtain ⟨hx, hxs⟩ := List.forall_mem_cons.1 hread
    rw [List.map_cons, List.mapM_cons, Function.comp_apply, hx, ih hxs]
    rfl

end Text

/-! ## Conditions -/

/-- A term of a guard text. -/
inductive Condition where
  | isFalse (name : String)
  | isTrue (name : String)
  | isPositive (name : String)
deriving DecidableEq

namespace Condition

/-- The variable that a condition is about. -/
def name : Condition → String
  | isFalse x | isTrue x | isPositive x => x

/-- How a condition is written. -/
def text : Condition → String
  | isFalse x => "!" ++ x
  | isTrue x => x
  | isPositive x => x ++ " > 0"

/-- **A term is read by its shape**: `!x`, `x` or `x > 0`, for an identifier. -/
def read? (term : List Char) : Option Condition :=
  if term.head? = some '!' then (Text.identifier? term.tail).map isFalse
  else
    (Text.word? term).bind fun (x, rest) =>
      if rest = [] then some (isTrue x)
      else if rest = " > 0".toList then some (isPositive x)
      else none

/-- What a condition says of the variables. -/
def Holds (σ : Store) : Condition → Prop
  | isFalse x => σ.flag x = false
  | isTrue x => σ.flag x = true
  | isPositive x => 0 < σ.counter x

/-- A term that begins with an identifier does not begin with an exclamation mark. -/
theorem head?_ne_of_isIdentifier {x : String} (hx : Text.IsIdentifier x) (rest : List Char) :
    (x.toList ++ rest).head? ≠ some '!' := by
  intro hhead
  obtain ⟨d, more, hd⟩ := List.exists_cons_of_ne_nil (l := x.toList) (by simpa using hx.1)
  rw [hd, List.cons_append, List.head?_cons, Option.some.injEq] at hhead
  exact hx.not_mem (c := '!') rfl (by simp [hd, hhead])

/-- **Conditions over identifiers read back.** -/
theorem read?_text {c : Condition} (h : Text.IsIdentifier c.name) :
    read? c.text.toList = some c := by
  cases c with
  | isFalse x =>
    have hx : Text.IsIdentifier x := h
    have hcons : ("!" ++ x).toList = '!' :: x.toList := by simp
    rw [read?, text, hcons, List.head?_cons, if_pos rfl, List.tail_cons, Text.identifier?_toList hx]
    rfl
  | isTrue x =>
    have hx : Text.IsIdentifier x := h
    have hhead := head?_ne_of_isIdentifier hx []
    have hword : Text.word? (x.toList ++ []) = some (x, []) := Text.word?_append hx rfl
    rw [List.append_nil] at hhead hword
    rw [read?, text, if_neg hhead, hword]
    rfl
  | isPositive x =>
    have hx : Text.IsIdentifier x := h
    have hword : Text.word? (x.toList ++ " > 0".toList) = some (x, " > 0".toList) :=
      Text.word?_append hx rfl
    rw [read?, text, String.toList_append, if_neg (head?_ne_of_isIdentifier hx _), hword]
    rfl

/-- No condition over an identifier has an ampersand in it. -/
theorem not_mem_text {c : Condition} (h : Text.IsIdentifier c.name) : '&' ∉ c.text.toList := by
  have hname : '&' ∉ c.name.toList := h.not_mem rfl
  cases c <;> simpa [text, name] using hname

end Condition

/-! ## Assignments -/

/-- A term of an action text. -/
inductive Assignment where
  | set (name : String)
  | raise (name : String)
  | lower (name : String)
deriving DecidableEq

namespace Assignment

/-- The variable that is assigned. -/
def name : Assignment → String
  | set x | raise x | lower x => x

/-- What stands after the name. -/
def value : Assignment → String
  | set _ => "=true"
  | raise x => "=" ++ x ++ "+1"
  | lower x => "=" ++ x ++ "-1"

/-- How an assignment is written. -/
def text (a : Assignment) : String := a.name ++ a.value

/-- **A term is read by its shape**: `x=true`, `x=x+1` or `x=x-1`, for an identifier. -/
def read? (term : List Char) : Option Assignment :=
  (Text.word? term).bind fun (x, rest) =>
    if rest = (set x).value.toList then some (set x)
    else if rest = (raise x).value.toList then some (raise x)
    else if rest = (lower x).value.toList then some (lower x)
    else none

/-- What an assignment does to the variables. -/
def run (σ : Store) : Assignment → Store
  | set x => σ.set x
  | raise x => σ.add x 1
  | lower x => σ.add x (-1)

theorem toList_value_raise (x : String) :
    (raise x).value.toList = ['='] ++ x.toList ++ ['+', '1'] := by
  simp [value]

theorem toList_value_lower (x : String) :
    (lower x).value.toList = ['='] ++ x.toList ++ ['-', '1'] := by
  simp [value]

/-- What is moved is not set: the texts end in different characters. -/
theorem append_one_ne_value_set (x : String) (text : List Char) (c : Char) :
    text ++ [c, '1'] ≠ (set x).value.toList := by
  intro h
  have hlast := congrArg List.getLast? h
  simp [value] at hlast

/-- **Assignments to identifiers read back.** -/
theorem read?_text {a : Assignment} (h : Text.IsIdentifier a.name) :
    read? a.text.toList = some a := by
  have hstop : a.value.toList.takeWhile Text.isWordChar = [] := by
    cases a <;> simp [value, List.takeWhile_cons] <;> rfl
  rw [read?, text, String.toList_append, Text.word?_append h hstop]
  cases a with
  | set x => simp only [Option.bind_some, name, if_true]
  | raise x =>
    have hset : (raise x).value.toList ≠ (set x).value.toList := by
      rw [toList_value_raise]
      exact append_one_ne_value_set x _ _
    simp only [Option.bind_some, name, if_neg hset, if_true]
  | lower x =>
    have hset : (lower x).value.toList ≠ (set x).value.toList := by
      rw [toList_value_lower]
      exact append_one_ne_value_set x _ _
    have hraise : (lower x).value.toList ≠ (raise x).value.toList := by
      rw [toList_value_lower, toList_value_raise]
      intro heq
      cases List.append_cancel_left heq
    simp only [Option.bind_some, name, if_neg hset, if_neg hraise, if_true]

/-- An assignment to an identifier has no characters but those of identifiers and values. -/
theorem not_mem_text {a : Assignment} (h : Text.IsIdentifier a.name) {c : Char}
    (hword : Text.isWordChar c = false) (hvalue : c ∉ "=true+-1".toList) : c ∉ a.text.toList := by
  have hname : c ∉ a.name.toList := h.not_mem hword
  cases a <;> simp_all [text, value, name]

end Assignment

/-! ## Guard texts -/

/-- The conditions of a guard text. -/
def conditions? (text : String) : Option (List Condition) :=
  Text.readTerms? " && " Condition.read? text

/-- **A guard text holds** when it reads as conditions that all hold. -/
def GuardTextHolds (σ : Store) (text : String) : Prop :=
  ∃ cs, conditions? text = some cs ∧ ∀ c ∈ cs, c.Holds σ

namespace Guard

variable {convention : GuardNegation}

/-- The condition that stands for a guard. -/
def condition (convention : GuardNegation) (g : Guard) : Condition :=
  match g.parameter.kind with
  | .boolean =>
    if g.asks convention then .isTrue g.parameter.name else .isFalse g.parameter.name
  | .integer => .isPositive g.parameter.name

theorem name_condition (g : Guard) : (g.condition convention).name = g.parameter.name := by
  unfold condition
  split
  · split <;> rfl
  · rfl

/-- The exclamation mark stands where the guard asks for an unset flag. -/
theorem marks_eq_not_asks (g : Guard) : convention.marks g.negate = !g.asks convention := by
  cases convention <;> simp [GuardNegation.marks, asks]

theorem term_eq_text (g : Guard) : g.term convention = (g.condition convention).text := by
  rw [term, condition, marks_eq_not_asks]
  cases g.parameter.kind with
  | boolean => cases g.asks convention <;> rfl
  | integer => rfl

/-- It holds when the guard does. -/
theorem holds_condition {σ : Store} (g : Guard) :
    (g.condition convention).Holds σ ↔ g.Holds convention σ := by
  unfold condition Holds
  cases g.parameter.kind with
  | boolean => cases g.asks convention <;> rfl
  | integer => rfl

/-- The text of guards reads as their conditions. -/
theorem conditions?_expression {guards : List Guard}
    (h : ∀ u ∈ guards, Text.IsIdentifier u.parameter.name) :
    conditions? (expression convention guards) = some (guards.map (condition convention)) := by
  have hname : ∀ c ∈ guards.map (condition convention), Text.IsIdentifier c.name := by
    intro c hc
    obtain ⟨u, hu, rfl⟩ := List.mem_map.1 hc
    rw [name_condition]
    exact h u hu
  have htext : guards.map (term convention) =
      (guards.map (condition convention)).map Condition.text := by
    rw [List.map_map]
    exact List.map_congr_left fun u _ => term_eq_text u
  rw [conditions?, expression, htext]
  exact Text.readTerms?_intercalate rfl (by decide) rfl
    (fun c hc => Condition.read?_text (hname c hc)) fun c hc => Condition.not_mem_text (hname c hc)

/-- **The text of guards holds when they all do.** -/
theorem guardTextHolds_expression {σ : Store} {guards : List Guard}
    (h : ∀ u ∈ guards, Text.IsIdentifier u.parameter.name) :
    GuardTextHolds σ (expression convention guards) ↔ ∀ u ∈ guards, u.Holds convention σ := by
  simp [GuardTextHolds, conditions?_expression h, holds_condition]

end Guard

/-! ## Action texts -/

/-- The assignments of an action text. -/
def assignments? (text : String) : Option (List Assignment) :=
  Text.readTerms? "; " Assignment.read? text

/-- **Running an action text**: its assignments are done from left to right. A text that does not
read does not run. -/
def runActionText? (text : String) (σ : Store) : Option Store :=
  (assignments? text).map fun as => as.foldl Assignment.run σ

namespace Action

variable {source target : String}

/-- The assignment that stands for an action between two services. -/
def assignment? (source target : String) (a : Action) : Option Assignment :=
  match a.parameter.kind with
  | .boolean => some (.set a.parameter.name)
  | .integer =>
    if a.parameter.target = some target then some (.raise a.parameter.name)
    else if a.parameter.source = some source then some (.lower a.parameter.name)
    else none

theorem name_assignment {a : Action} {b : Assignment} (h : assignment? source target a = some b) :
    b.name = a.parameter.name := by
  unfold assignment? at h
  split at h
  · cases h; rfl
  · split at h
    · cases h; rfl
    · split at h <;> cases h
      rfl

theorem term?_eq_text (a : Action) :
    term? source target a = (assignment? source target a).map Assignment.text := by
  unfold term? assignment?
  cases a.parameter.kind with
  | boolean => rfl
  | integer =>
    dsimp only
    split
    · simp [Assignment.text, Assignment.name, Assignment.value, String.append_assoc]
    · split <;> simp [Assignment.text, Assignment.name, Assignment.value, String.append_assoc]

/-- It does what the action does, and where there is none the action does nothing. -/
theorem run_eq_assignment (σ : Store) (a : Action) :
    run source target σ a = ((assignment? source target a).map (·.run σ)).getD σ := by
  unfold run assignment?
  cases a.parameter.kind with
  | boolean => rfl
  | integer =>
    dsimp only
    split
    · rfl
    · split <;> rfl

theorem runAll_eq_foldl (actions : List Action) (σ : Store) :
    runAll source target actions σ =
      (actions.filterMap (assignment? source target)).foldl Assignment.run σ := by
  induction actions generalizing σ with
  | nil => rfl
  | cons a actions ih =>
    rw [runAll, List.foldl_cons, ← runAll, ih, run_eq_assignment, List.filterMap_cons]
    cases assignment? source target a <;> rfl

/-- The text of actions has the assignments of those that assign something. -/
theorem expression_eq_intercalate (actions : List Action) :
    expression source target actions =
      "; ".intercalate ((actions.filterMap (assignment? source target)).map Assignment.text) := by
  rw [expression, List.map_filterMap]
  exact congrArg _ (List.filterMap_congr fun a _ => term?_eq_text a)

/-- They assign to identifiers if the actions are about identifiers. -/
theorem isIdentifier_of_mem_assignments {actions : List Action}
    (h : ∀ a ∈ actions, Text.IsIdentifier a.parameter.name) {b : Assignment}
    (hb : b ∈ actions.filterMap (assignment? source target)) : Text.IsIdentifier b.name := by
  obtain ⟨a, ha, hab⟩ := List.mem_filterMap.1 hb
  rw [name_assignment hab]
  exact h a ha

/-- The text of actions reads as their assignments. -/
theorem assignments?_expression {actions : List Action}
    (h : ∀ a ∈ actions, Text.IsIdentifier a.parameter.name) :
    assignments? (expression source target actions) =
      some (actions.filterMap (assignment? source target)) := by
  rw [assignments?, expression_eq_intercalate]
  exact Text.readTerms?_intercalate rfl (by decide) rfl
    (fun b hb => Assignment.read?_text (isIdentifier_of_mem_assignments h hb))
    fun b hb => Assignment.not_mem_text (isIdentifier_of_mem_assignments h hb) rfl (by decide)

/-- **Running the text of actions is running the actions.** -/
theorem runActionText?_expression {actions : List Action}
    (h : ∀ a ∈ actions, Text.IsIdentifier a.parameter.name) (σ : Store) :
    runActionText? (expression source target actions) σ =
      some (runAll source target actions σ) := by
  rw [runActionText?, assignments?_expression h, Option.map_some, runAll_eq_foldl]

end Action

end LoadPlan
