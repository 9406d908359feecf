import LoadPlan.Proofs.Lowering.Reading
/-!
# The effect of an action text

Between two services some actions assign nothing, so an action text joins a selection of terms. It
has exactly the terms of the actions that assign something, whichever these are: no term is empty,
and no part of a separator dangles at either end (`Text.IsTidy`). Run from left to right, the text
does to the variables what the actions do in their order (`Action.effect_of_expression`).
-/

namespace LoadPlan

namespace Text

/-- **A text of terms is tidy**: none of them is empty, and the text neither begins nor ends with
a character of the separator. -/
structure IsTidy (sep text : String) : Prop where
  nonempty : ∀ term ∈ terms sep text, term ≠ []
  first : ∀ c, text.toList.head? = some c → c ∉ sep.toList
  last : ∀ c, text.toList.getLast? = some c → c ∉ sep.toList

/-! ## Both ends of a joined text -/

section Joined

variable {sep : List Char} {ps : List (List Char)} {c : Char}

theorem intercalate_cons_ne_nil {p : List Char} (hp : p ≠ []) :
    sep.intercalate (p :: ps) ≠ [] := by
  cases ps with
  | nil => simpa using hp
  | cons q ps => simp [List.intercalate_cons_cons, hp]

/-- A joined text begins as its first part does. -/
theorem exists_mem_of_head?_intercalate (hne : ∀ p ∈ ps, p ≠ [])
    (h : (sep.intercalate ps).head? = some c) : ∃ p ∈ ps, c ∈ p := by
  cases ps with
  | nil => simp at h
  | cons p rest =>
    refine ⟨p, List.mem_cons_self .., List.mem_of_mem_head? ?_⟩
    cases rest with
    | nil => rwa [List.intercalate_singleton] at h
    | cons q rest =>
      rw [List.intercalate_cons_cons, List.append_assoc,
        List.head?_append_of_ne_nil _ (hne p (List.mem_cons_self ..))] at h
      exact h

/-- It ends as its last part does. -/
theorem exists_mem_of_getLast?_intercalate (hne : ∀ p ∈ ps, p ≠ [])
    (h : (sep.intercalate ps).getLast? = some c) : ∃ p ∈ ps, c ∈ p := by
  induction ps with
  | nil => simp at h
  | cons p rest ih =>
    obtain ⟨-, hrest⟩ := List.forall_mem_cons.1 hne
    cases rest with
    | nil =>
      rw [List.intercalate_singleton] at h
      exact ⟨p, List.mem_cons_self .., List.mem_of_mem_getLast? h⟩
    | cons q rest =>
      have hjoined : sep.intercalate (q :: rest) ≠ [] :=
        intercalate_cons_ne_nil (hrest q (List.mem_cons_self ..))
      rw [List.intercalate_cons_cons, List.getLast?_append_of_ne_nil _ hjoined] at h
      obtain ⟨part, hmem, hc⟩ := ih hrest h
      exact ⟨part, List.mem_cons_of_mem _ hmem, hc⟩

end Joined

/-- **Terms without a character of the separator make a tidy text**, if none is empty. -/
theorem isTidy_intercalate {sep : String} {a b : Char} {more : List Char}
    (hsep : sep.toList = a :: b :: more) (hab : b ≠ a) {ts : List String}
    (hne : ∀ t ∈ ts, t ≠ "") (hts : ∀ t ∈ ts, ∀ c ∈ sep.toList, c ∉ t.toList) :
    IsTidy sep (sep.intercalate ts) := by
  have hparts : ∀ p ∈ ts.map String.toList, p ≠ [] := by simpa using hne
  have hterms : terms sep (sep.intercalate ts) = ts.map String.toList :=
    terms_intercalate hsep hab hne fun t ht => hts t ht b (by simp [hsep])
  -- what stands at an end stands in a term
  have hout : ∀ c, (∃ p ∈ ts.map String.toList, c ∈ p) → c ∉ sep.toList := by
    rintro c ⟨p, hp, hc⟩ hmem
    obtain ⟨t, ht, rfl⟩ := List.mem_map.1 hp
    exact hts t ht c hmem hc
  refine ⟨by rwa [hterms], fun c hc => ?_, fun c hc => ?_⟩
  · rw [String.toList_intercalate] at hc
    exact hout c (exists_mem_of_head?_intercalate hparts hc)
  · rw [String.toList_intercalate] at hc
    exact hout c (exists_mem_of_getLast?_intercalate hparts hc)

end Text

namespace Action

variable {source target : String}

/-- The text of actions is tidy, and has the terms of those that assign something. -/
theorem isTidy_expression {actions : List Action}
    (h : ∀ a ∈ actions, Text.IsIdentifier a.parameter.name) :
    Text.IsTidy "; " (expression source target actions) ∧
      Text.terms "; " (expression source target actions) =
        (actions.filterMap (assignment? source target)).map (·.text.toList) := by
  have hname : ∀ b ∈ actions.filterMap (assignment? source target), Text.IsIdentifier b.name :=
    fun b hb => isIdentifier_of_mem_assignments h hb
  have hne : ∀ t ∈ (actions.filterMap (assignment? source target)).map Assignment.text, t ≠ "" := by
    rintro t ht rfl
    obtain ⟨b, hb, hempty⟩ := List.mem_map.1 ht
    have hread := Assignment.read?_text (hname b hb)
    rw [hempty] at hread
    cases hread
  have hout : ∀ t ∈ (actions.filterMap (assignment? source target)).map Assignment.text,
      ∀ c ∈ "; ".toList, c ∉ t.toList := by
    intro t ht c hc
    obtain ⟨b, hb, rfl⟩ := List.mem_map.1 ht
    obtain rfl | rfl : c = ';' ∨ c = ' ' := by simpa using hc
    · exact Assignment.not_mem_text (hname b hb) rfl (by decide)
    · exact Assignment.not_mem_text (hname b hb) rfl (by decide)
  rw [expression_eq_intercalate]
  refine ⟨Text.isTidy_intercalate rfl (by decide) hne hout, ?_⟩
  rw [Text.terms_intercalate rfl (by decide) hne fun t ht => hout t ht ' ' (by decide),
    List.map_map]
  rfl

/-- **The text of actions has the effect of the actions.** If all names are identifiers, running
the text from left to right does to any variables what the actions do to them in their order. The
text is tidy, and it has one term for each action that assigns something between the two services,
in their order. -/
theorem effect_of_expression (source target : String) {actions : List Action}
    (h : ∀ a ∈ actions, Text.IsIdentifier a.parameter.name) :
    (∀ σ, runActionText? (expression source target actions) σ =
      some (runAll source target actions σ)) ∧
    Text.IsTidy "; " (expression source target actions) ∧
    Text.terms "; " (expression source target actions) =
      (actions.filterMap (assignment? source target)).map (·.text.toList) :=
  ⟨runActionText?_expression h, isTidy_expression h⟩

/-- What happens when something is put into the cart while one looks at it. The second action is
about another service; the last counter names the cart on both sides. -/
def cartActions : List Action :=
  [⟨⟨"visited", .boolean, none, none⟩⟩, ⟨⟨"ignored", .integer, none, some "Elsewhere"⟩⟩,
    ⟨⟨"items", .integer, none, some "Cart"⟩⟩, ⟨⟨"items", .integer, some "Home", some "Cart"⟩⟩,
    ⟨⟨"stock_2", .integer, some "Cart", none⟩⟩, ⟨⟨"rounds", .integer, some "Cart", some "Cart"⟩⟩]

/-- The counter of items goes up twice; entering wins over leaving. -/
theorem effect_of_expression_cart :
    (∀ a ∈ cartActions, Text.IsIdentifier a.parameter.name) ∧
      expression "Cart" "Cart" cartActions =
        "visited=true; items=items+1; items=items+1; stock_2=stock_2-1; rounds=rounds+1" ∧
      (runActionText?
        "visited=true; items=items+1; items=items+1; stock_2=stock_2-1; rounds=rounds+1"
        ⟨fun _ => false, fun _ => 5⟩).map
          (fun σ => (σ.flag "visited", ["ignored", "items", "stock_2", "rounds"].map σ.counter)) =
        some (true, [5, 7, 4, 6]) ∧
      (Text.terms "; " (expression "Cart" "Cart" cartActions)).length = 5 := by
  have hnames : ∀ a ∈ cartActions, Text.IsIdentifier a.parameter.name := by decide
  have htext : expression "Cart" "Cart" cartActions =
      "visited=true; items=items+1; items=items+1; stock_2=stock_2-1; rounds=rounds+1" := by decide
  obtain ⟨hrun, -, hterms⟩ := effect_of_expression "Cart" "Cart" hnames
  refine ⟨hnames, htext, ?_, ?_⟩
  · rw [← htext, hrun]
    decide
  · rw [hterms]
    decide

end Action

end LoadPlan
