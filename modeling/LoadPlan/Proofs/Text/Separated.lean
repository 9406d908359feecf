import Mathlib.Data.List.Basic
/-!
# Texts separated by a text

`Text.parts` cuts a text at every occurrence of a separator, from the left. It undoes the joining
of parts (`parts_intercalate`) when the second character of the separator is not its first one
and stands in no part: then no occurrence can begin inside a part.
-/

namespace LoadPlan.Text

/-- The parts of a text, with so many characters of a separator still to be passed over. -/
def partsAfter (sep : List Char) : Nat → List Char → List (List Char)
  | _, [] => [[]]
  | skip + 1, _ :: rest => partsAfter sep skip rest
  | 0, c :: rest =>
    if sep.isPrefixOf (c :: rest) then [] :: partsAfter sep (sep.length - 1) rest
    else match partsAfter sep 0 rest with
      | [] => [[c]]
      | part :: more => (c :: part) :: more

/-- **The parts of a text between the occurrences of a separator.** There is always one. -/
def parts (sep text : List Char) : List (List Char) := partsAfter sep 0 text

/-- A separator is passed over. -/
theorem partsAfter_length_append (sep skipped rest : List Char) :
    partsAfter sep skipped.length (skipped ++ rest) = parts sep rest := by
  induction skipped with
  | nil => rfl
  | cons c skipped ih => exact ih

variable {a b : Char} {more : List Char}

/-- No separator begins before a character that is not its second one. -/
theorem not_isPrefixOf_cons {c d : Char} {rest : List Char} (hd : d ≠ b) :
    (a :: b :: more).isPrefixOf (c :: d :: rest) = false := by
  simp [List.isPrefixOf, Ne.symm hd]

/-- A part ends where the separator begins. -/
theorem parts_append (hab : b ≠ a) {part : List Char} (hpart : b ∉ part) (rest : List Char) :
    parts (a :: b :: more) (part ++ (a :: b :: more) ++ rest) =
      part :: parts (a :: b :: more) rest := by
  induction part with
  | nil =>
    have hhere : (a :: b :: more).isPrefixOf (a :: b :: more ++ rest) = true := by simp
    have hskip := partsAfter_length_append (a :: b :: more) (b :: more) rest
    rw [List.nil_append, parts, List.cons_append, List.cons_append, partsAfter]
    rw [List.cons_append, List.cons_append] at hhere
    rw [if_pos hhere]
    exact congrArg _ hskip
  | cons c part ih =>
    have hnot : (a :: b :: more).isPrefixOf (c :: (part ++ (a :: b :: more) ++ rest)) = false := by
      cases part with
      | nil => exact not_isPrefixOf_cons (Ne.symm hab)
      | cons d part =>
        refine not_isPrefixOf_cons ?_
        rintro rfl
        exact hpart (by simp)
    have hrest := ih fun h => hpart (List.mem_cons_of_mem c h)
    rw [parts] at hrest ⊢
    rw [List.cons_append, List.cons_append, partsAfter, hnot, hrest]
    rfl

/-- A text without a separator is one part. -/
theorem parts_eq_singleton {part : List Char} (hpart : b ∉ part) :
    parts (a :: b :: more) part = [part] := by
  induction part with
  | nil => rfl
  | cons c part ih =>
    have hnot : (a :: b :: more).isPrefixOf (c :: part) = false := by
      cases part with
      | nil => simp [List.isPrefixOf]
      | cons d part =>
        refine not_isPrefixOf_cons ?_
        rintro rfl
        exact hpart (by simp)
    have hrest := ih fun h => hpart (List.mem_cons_of_mem c h)
    rw [parts] at hrest ⊢
    rw [partsAfter, hnot, hrest]
    rfl

/-- **Cutting undoes joining.** -/
theorem parts_intercalate (hab : b ≠ a) {ps : List (List Char)} (hne : ps ≠ [])
    (hps : ∀ p ∈ ps, b ∉ p) :
    parts (a :: b :: more) ((a :: b :: more).intercalate ps) = ps := by
  induction ps with
  | nil => exact absurd rfl hne
  | cons p rest ih =>
    obtain ⟨hp, hrest⟩ := List.forall_mem_cons.1 hps
    cases rest with
    | nil => rw [List.intercalate_singleton, parts_eq_singleton hp]
    | cons q rest =>
      rw [List.intercalate_cons_cons, parts_append hab hp, ih (by simp) hrest]

end LoadPlan.Text
