/-!
# Splitting a text at a character

`splitOn` undoes `joinWith` on parts that do not hold the character.
-/

namespace LoadPlan.Text

/-- The parts of a text between the occurrences of a character. There is always one. -/
def splitOn (sep : Char) : List Char → List (List Char)
  | [] => [[]]
  | c :: rest =>
    if c = sep then [] :: splitOn sep rest
    else match splitOn sep rest with
      | [] => [[c]]
      | part :: parts => (c :: part) :: parts

/-- The parts with a character between them. -/
def joinWith (sep : Char) : List (List Char) → List Char
  | [] => []
  | [part] => part
  | part :: parts => part ++ sep :: joinWith sep parts

theorem splitOn_ne_nil (sep : Char) : ∀ cs, splitOn sep cs ≠ []
  | [] => by simp [splitOn]
  | c :: rest => by
    unfold splitOn
    split
    · simp
    · split <;> simp

theorem joinWith_cons {sep : Char} {parts : List (List Char)} (h : parts ≠ []) (part : List Char) :
    joinWith sep (part :: parts) = part ++ sep :: joinWith sep parts := by
  cases parts with
  | nil => exact absurd rfl h
  | cons p rest => rfl

theorem splitOn_append {sep : Char} {part : List Char} (h : sep ∉ part) (rest : List Char) :
    splitOn sep (part ++ sep :: rest) = part :: splitOn sep rest := by
  induction part with
  | nil => simp [splitOn]
  | cons c part ih =>
    obtain ⟨hc, hp⟩ : sep ≠ c ∧ sep ∉ part := by simpa using h
    simp [splitOn, Ne.symm hc, ih hp]

theorem splitOn_eq_singleton {sep : Char} {part : List Char} (h : sep ∉ part) :
    splitOn sep part = [part] := by
  induction part with
  | nil => rfl
  | cons c part ih =>
    obtain ⟨hc, hp⟩ : sep ≠ c ∧ sep ∉ part := by simpa using h
    simp [splitOn, Ne.symm hc, ih hp]

theorem splitOn_joinWith {sep : Char} {parts : List (List Char)} (hne : parts ≠ [])
    (h : ∀ part ∈ parts, sep ∉ part) : splitOn sep (joinWith sep parts) = parts := by
  induction parts with
  | nil => exact absurd rfl hne
  | cons part rest ih =>
    obtain ⟨hpart, hrest⟩ := List.forall_mem_cons.1 h
    cases rest with
    | nil => exact splitOn_eq_singleton hpart
    | cons p more =>
      rw [joinWith_cons (by simp), splitOn_append hpart, ih (by simp) hrest]

end LoadPlan.Text
