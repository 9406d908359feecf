import LoadPlan.Json.Printer
import LoadPlan.Proofs.Json.Literal
/-!
# Reading written JSON back

A value is written if its texts have characters and its numbers are literals. The reader takes
such a value off the front of a text, whatever follows it, as long as what follows does not go on a
number. `Takes` says so for values, items and fields together, and `takes` proves it by
induction on the fuel; `read_pretty` is the case with nothing behind the value.
-/

namespace LoadPlan.Json

/-! ## Texts -/

/-- What the reader makes of an escaped character: control characters without a letter of their own
are read by their number. -/
def unitOf (c : Char) : TextUnit :=
  if c.toNat < 0x20 ∧ c ∉ ['\n', '\r', '\t', '\x08', '\x0c'] then .code c.toNat else .char c

theorem hexNumber?_hexDigit {n : Nat} (hn : n < 0x20) :
    Text.hexNumber? ['0', '0', hexDigit (n / 16), hexDigit (n % 16)] = some n := by
  have hall : ∀ n < 0x20,
      Text.hexNumber? ['0', '0', hexDigit (n / 16), hexDigit (n % 16)] = some n := by decide
  exact hall n hn

/-- An escaped character is one unit. -/
theorem takeUnits_escape (c : Char) (rest : List Char) :
    takeUnits (escape c ++ rest) =
      (takeUnits rest).bind fun (units, rest) => some (unitOf c :: units, rest) := by
  unfold escape
  by_cases hshort : c ∈ ['"', '\\', '\n', '\r', '\t', '\x08', '\x0c']
  · -- a letter of its own
    simp only [List.mem_cons, List.not_mem_nil, or_false] at hshort
    rcases hshort with rfl | rfl | rfl | rfl | rfl | rfl | rfl <;>
      simp [takeUnits, simpleEscape?, unitOf]
  · simp only [List.mem_cons, List.not_mem_nil, or_false, not_or] at hshort
    obtain ⟨hquote, hbackslash, hn, hr, ht, hb, hf⟩ := hshort
    rw [if_neg hquote, if_neg hbackslash, if_neg hn, if_neg hr, if_neg ht, if_neg hb, if_neg hf]
    by_cases hcontrol : c.toNat < 0x20
    · have hunit : unitOf c = .code c.toNat := by simp [unitOf, hcontrol, hn, hr, ht, hb, hf]
      simp [takeUnits, hexNumber?_hexDigit hcontrol, hcontrol, hunit]
    · have hunit : unitOf c = .char c := by simp [unitOf, hcontrol]
      rw [if_neg hcontrol, List.singleton_append, takeUnits]
      · simp [hcontrol, hunit]
      · exact fun h => hquote h
      · exact fun _ _ _ _ _ h _ => hbackslash h
      · exact fun h _ => hbackslash h
      · exact fun _ _ h _ => hbackslash h

theorem unitsChars?_unitOf (c : Char) (units : List TextUnit) :
    unitsChars? (unitOf c :: units) = (unitsChars? units).map (c :: ·) := by
  unfold unitOf
  split
  · next hcontrol =>
    have hplain : isHigh c.toNat = false ∧ isLow c.toNat = false := by
      simp only [isHigh, isLow, Bool.and_eq_false_iff, decide_eq_false_iff_not]
      omega
    cases units with
    | nil => simp [unitsChars?, hplain, Char.ofNat_toNat]
    | cons u units => cases u <;> simp [unitsChars?, hplain, Char.ofNat_toNat]
  · rw [unitsChars?]

/-- **An escaped text is read back**, up to its closing quote. -/
theorem takeText_escape (cs rest : List Char) :
    takeText (cs.flatMap escape ++ '"' :: rest) = some (some (String.ofList cs), rest) := by
  have hchars : unitsChars? (cs.map unitOf) = some cs := by
    induction cs with
    | nil => rfl
    | cons c cs ih =>
      rw [List.map_cons, unitsChars?_unitOf, ih]
      rfl
  have hunits : takeUnits (cs.flatMap escape ++ '"' :: rest) = some (cs.map unitOf, rest) := by
    clear hchars
    induction cs with
    | nil => simp [takeUnits]
    | cons c cs ih =>
      rw [List.flatMap_cons, List.append_assoc, takeUnits_escape, ih]
      rfl
  rw [takeText, hunits]
  simp [hchars]

/-! ## Space -/

theorem skipSpace_cons {c : Char} (hc : isSpace c = false) (cs : List Char) :
    skipSpace (c :: cs) = c :: cs := by
  simp [skipSpace, hc]

theorem skipSpace_newLine (level : Nat) (cs : List Char) :
    skipSpace (newLine level ++ cs) = skipSpace cs := by
  have hspaces : ∀ n, (List.replicate n ' ' ++ cs).dropWhile isSpace = cs.dropWhile isSpace :=
    fun n => List.dropWhile_append_of_pos fun c hc => by
      rw [List.eq_of_mem_replicate hc]
      decide
  have hline : isSpace '\n' = true := by decide
  rw [skipSpace, newLine, List.cons_append, List.dropWhile_cons, if_pos hline, hspaces, skipSpace]

/-- A value is read behind the space before it. -/
theorem takeValue_congr (fuel : Nat) {cs ds : List Char} (h : skipSpace cs = skipSpace ds) :
    takeValue fuel cs = takeValue fuel ds := by
  cases fuel with
  | zero => rfl
  | succ fuel => rw [takeValue, takeValue, h]

theorem takeItems_congr (fuel : Nat) {cs ds : List Char} (h : skipSpace cs = skipSpace ds) :
    takeItems fuel cs = takeItems fuel ds := by
  cases fuel with
  | zero => rfl
  | succ fuel => rw [takeItems, takeItems, takeValue_congr fuel h]

theorem takeFields_congr (fuel : Nat) {cs ds : List Char} (h : skipSpace cs = skipSpace ds) :
    takeFields fuel cs = takeFields fuel ds := by
  cases fuel with
  | zero => rfl
  | succ fuel => rw [takeFields, takeFields, h]

/-! ## Values -/

/-- **A value that can be written**: its numbers are literals, and its texts and keys have
characters. -/
inductive Written : Json → Prop
  | null : Written .null
  | bool (b : Bool) : Written (.bool b)
  | number {literal : List Char} : IsLiteral literal → Written (.number literal)
  | text (s : String) : Written (str s)
  | list {items : List Json} : (∀ v ∈ items, Written v) → Written (.list items)
  | record {fields : List (String × Json)} : (∀ f ∈ fields, Written f.2) → Written (record fields)

/-- No number begins with space. -/
theorem isSpace_of_first {c : Char} (h : c.isDigit ∨ c = '-') : isSpace c = false := by
  simp only [isSpace, Bool.or_eq_false_iff, beq_eq_false_iff_ne]
  refine ⟨⟨⟨?_, ?_⟩, ?_⟩, ?_⟩ <;> rintro rfl <;> exact absurd h (by decide)

/-- A written value begins with a character that is neither space nor a closing bracket. -/
theorem Written.exists_cons {v : Json} (h : Written v) (level : Nat) :
    ∃ c more, prettyChars level v = c :: more ∧ isSpace c = false ∧ c ≠ ']' := by
  cases h with
  | null => exact ⟨'n', "ull".toList, rfl, by decide, by decide⟩
  | bool b =>
    cases b with
    | true => exact ⟨'t', "rue".toList, rfl, by decide, by decide⟩
    | false => exact ⟨'f', "alse".toList, rfl, by decide, by decide⟩
  | number hliteral =>
    obtain ⟨c, more, rfl, hfirst⟩ := hliteral.first
    refine ⟨c, more, rfl, isSpace_of_first hfirst, ?_⟩
    rintro rfl
    exact absurd hfirst (by decide)
  | text s => exact ⟨'"', _, rfl, by decide, by decide⟩
  | @list items _ =>
    cases items with
    | nil => exact ⟨'[', _, rfl, by decide, by decide⟩
    | cons item items => exact ⟨'[', _, rfl, by decide, by decide⟩
  | @record fields _ =>
    cases fields with
    | nil => exact ⟨'{', _, rfl, by decide, by decide⟩
    | cons field fields => exact ⟨'{', _, rfl, by decide, by decide⟩

/-- The fields of an object whose keys have characters. -/
def keyed (fields : List (String × Json)) : List (Option String × Json) :=
  fields.map fun f => (some f.1, f.2)

/-- What is in a written object is written. -/
theorem Written.of_mem {fields : List (String × Json)} (h : Written (Json.record fields)) :
    ∀ f ∈ fields, Written f.2 := by
  generalize hv : Json.record fields = v at h
  cases h with
  | @record fields' hfields =>
    have hkeyed : ∀ f g : String × Json, (some f.1, f.2) = (some g.1, g.2) → f = g := by
      rintro ⟨key, v⟩ ⟨key', v'⟩ heq
      cases heq
      rfl
    rw [(List.map_inj_right hkeyed).1 (Json.object.inj hv)]
    exact hfields
  | _ => cases hv

/-- **So much fuel takes what is written** off the front of a text, if there is more of it than
characters. -/
structure Takes (fuel : Nat) : Prop where
  value {level : Nat} {v : Json} {rest : List Char} : Written v →
    (prettyChars level v).length < fuel → EndsNumber rest →
    takeValue fuel (prettyChars level v ++ rest) = some (v, rest)
  items (level outer : Nat) {item : Json} {items : List Json} (rest : List Char) :
    (∀ v ∈ item :: items, Written v) →
    (prettyChars level item).length + (prettyItems level items).length + 1 < fuel →
    takeItems fuel (prettyChars level item ++ (prettyItems level items ++
      (newLine outer ++ ']' :: rest))) = some (item :: items, rest)
  fields (level outer : Nat) {key : String} {v : Json} {fields : List (String × Json)}
    (rest : List Char) : (∀ f ∈ (key, v) :: fields, Written f.2) →
    (prettyChars level v).length + (prettyFields level (keyed fields)).length + 1 < fuel →
    takeFields fuel (quoted key ++ (':' :: ' ' :: (prettyChars level v ++
      (prettyFields level (keyed fields) ++ (newLine outer ++ '}' :: rest))))) =
        some (keyed ((key, v) :: fields), rest)

theorem endsNumber_newLine (level : Nat) (cs : List Char) : EndsNumber (newLine level ++ cs) :=
  endsNumber_cons (by decide) _

/-- No fuel takes nothing. -/
theorem takes_zero : Takes 0 where
  value _ h _ := absurd h (Nat.not_lt_zero _)
  items _ _ _ _ _ _ h := absurd h (Nat.not_lt_zero _)
  fields _ _ _ _ _ _ _ h := absurd h (Nat.not_lt_zero _)

/-- Any fuel takes a number. -/
theorem takeValue_number (fuel : Nat) {literal rest : List Char} (hliteral : IsLiteral literal)
    (hrest : EndsNumber rest) :
    takeValue (fuel + 1) (literal ++ rest) = some (.number literal, rest) := by
  have htakes := hliteral.takes rest hrest
  obtain ⟨c, more, rfl, hfirst⟩ := hliteral.first
  have hspace : isSpace c = false := isSpace_of_first hfirst
  rw [List.cons_append] at htakes ⊢
  rw [takeValue, skipSpace_cons hspace]
  -- no other kind of value begins with a digit or a minus sign
  split
  case h_7 => rw [htakes]; rfl
  all_goals
    next heq =>
    rw [(List.cons.inj heq).1] at hfirst
    exact absurd hfirst (by decide)

/-- Any fuel takes a text. -/
theorem takeValue_text (fuel level : Nat) (s : String) (rest : List Char) :
    takeValue (fuel + 1) (prettyChars level (str s) ++ rest) = some (str s, rest) := by
  have htext : prettyChars level (str s) ++ rest =
      '"' :: (s.toList.flatMap escape ++ '"' :: rest) := by
    simp [str, prettyChars, leafChars, quoted]
  rw [htext, takeValue, skipSpace_cons (by decide)]
  simp only [takeText_escape, String.ofList_toList]
  rfl

namespace Takes

variable {fuel : Nat} (h : Takes fuel)
include h

/-- One more step for the items of a list. -/
theorem items_succ (level outer : Nat) {item : Json} {items : List Json} (rest : List Char)
    (hitems : ∀ v ∈ item :: items, Written v)
    (hfuel : (prettyChars level item).length + (prettyItems level items).length + 1 < fuel + 1) :
    takeItems (fuel + 1) (prettyChars level item ++ (prettyItems level items ++
      (newLine outer ++ ']' :: rest))) = some (item :: items, rest) := by
  obtain ⟨hitem, hmore⟩ := List.forall_mem_cons.1 hitems
  rw [takeItems]
  cases items with
  | nil =>
    rw [prettyItems, List.nil_append, h.value hitem (by omega) (endsNumber_newLine _ _)]
    simp only [Option.bind_eq_bind, Option.bind_some, skipSpace_newLine,
      skipSpace_cons (show isSpace ']' = false by decide)]
    rfl
  | cons next items =>
    have hnext : ∀ cs, prettyItems level (next :: items) ++ cs =
        ',' :: (newLine level ++ (prettyChars level next ++ (prettyItems level items ++ cs))) := by
      simp [prettyItems]
    have hlength := congrArg List.length (hnext [])
    simp only [List.length_append, List.length_cons, List.length_nil] at hlength
    rw [hnext, h.value hitem (by omega) (endsNumber_cons (by decide) _)]
    simp only [Option.bind_eq_bind, Option.bind_some,
      skipSpace_cons (show isSpace ',' = false by decide)]
    rw [takeItems_congr fuel (skipSpace_newLine level _), h.items level outer rest hmore (by omega)]
    rfl

/-- One more step for the fields of an object. -/
theorem fields_succ (level outer : Nat) {key : String} {v : Json} {fields : List (String × Json)}
    (rest : List Char) (hfields : ∀ f ∈ (key, v) :: fields, Written f.2)
    (hfuel : (prettyChars level v).length + (prettyFields level (keyed fields)).length + 1 <
      fuel + 1) :
    takeFields (fuel + 1) (quoted key ++ (':' :: ' ' :: (prettyChars level v ++
      (prettyFields level (keyed fields) ++ (newLine outer ++ '}' :: rest))))) =
        some (keyed ((key, v) :: fields), rest) := by
  have hv : Written v := hfields (key, v) List.mem_cons_self
  have hmore : ∀ f ∈ fields, Written f.2 := fun f hf => hfields f (List.mem_cons_of_mem _ hf)
  have hkey : ∀ cs, quoted key ++ cs = '"' :: (key.toList.flatMap escape ++ '"' :: cs) := by
    simp [quoted]
  have hspace : ∀ cs, skipSpace (' ' :: cs) = skipSpace cs := fun _ => rfl
  rw [takeFields, hkey, skipSpace_cons (by decide)]
  simp only [takeText_escape, String.ofList_toList, Option.bind_eq_bind, Option.bind_some,
    skipSpace_cons (show isSpace ':' = false by decide)]
  rw [takeValue_congr fuel (hspace _)]
  cases fields with
  | nil =>
    rw [keyed, List.map_nil, prettyFields, List.nil_append,
      h.value hv (by omega) (endsNumber_newLine _ _)]
    simp only [Option.bind_some, skipSpace_newLine,
      skipSpace_cons (show isSpace '}' = false by decide)]
    rfl
  | cons next fields =>
    have hnext : ∀ cs, prettyFields level (keyed (next :: fields)) ++ cs =
        ',' :: (newLine level ++ (quoted next.1 ++ (':' :: ' ' :: (prettyChars level next.2 ++
          (prettyFields level (keyed fields) ++ cs))))) := by
      simp [keyed, prettyFields]
    have hlength := congrArg List.length (hnext [])
    simp only [List.length_append, List.length_cons, List.length_nil] at hlength
    rw [hnext, h.value hv (by omega) (endsNumber_cons (by decide) _)]
    simp only [Option.bind_some, skipSpace_cons (show isSpace ',' = false by decide)]
    rw [takeFields_congr fuel (skipSpace_newLine level _),
      h.fields level outer rest hmore (by omega)]
    rfl

/-- One more step for a list. -/
theorem list_succ {level : Nat} {items : List Json} {rest : List Char}
    (hitems : ∀ v ∈ items, Written v)
    (hfuel : (prettyChars level (.list items)).length < fuel + 1) :
    takeValue (fuel + 1) (prettyChars level (.list items) ++ rest) = some (.list items, rest) := by
  cases items with
  | nil => rfl
  | cons item items =>
    have htext : ∀ cs, prettyChars level (.list (item :: items)) ++ cs =
        '[' :: (newLine (level + 1) ++ (prettyChars (level + 1) item ++
          (prettyItems (level + 1) items ++ (newLine level ++ ']' :: cs)))) := by
      simp [prettyChars]
    have hlength := congrArg List.length (htext [])
    simp only [List.length_append, List.length_cons, List.length_nil] at hlength
    obtain ⟨c, more, hfirst, hspace, hclose⟩ :=
      (hitems item List.mem_cons_self).exists_cons (level + 1)
    have htakes := h.items (level + 1) level rest hitems (by omega)
    rw [hfirst, List.cons_append] at htakes
    rw [htext, takeValue, skipSpace_cons (by decide)]
    simp only [skipSpace_newLine, hfirst, List.cons_append, skipSpace_cons hspace]
    -- a bracket would close the list before its first item
    split
    · next heq => exact absurd (List.cons.inj heq).1 hclose
    · rw [htakes]
      rfl

/-- One more step for an object. -/
theorem record_succ {level : Nat} {fields : List (String × Json)} {rest : List Char}
    (hfields : ∀ f ∈ fields, Written f.2)
    (hfuel : (prettyChars level (record fields)).length < fuel + 1) :
    takeValue (fuel + 1) (prettyChars level (record fields) ++ rest) =
      some (record fields, rest) := by
  cases fields with
  | nil => rfl
  | cons field fields =>
    obtain ⟨key, v⟩ := field
    have htext : ∀ cs, prettyChars level (record ((key, v) :: fields)) ++ cs =
        '{' :: (newLine (level + 1) ++ (quoted key ++ (':' :: ' ' ::
          (prettyChars (level + 1) v ++ (prettyFields (level + 1) (keyed fields) ++
            (newLine level ++ '}' :: cs)))))) := by
      simp [record, keyed, prettyChars]
    have hlength := congrArg List.length (htext [])
    simp only [List.length_append, List.length_cons, List.length_nil] at hlength
    have hfirst : ∀ cs, quoted key ++ cs = '"' :: (key.toList.flatMap escape ++ '"' :: cs) := by
      simp [quoted]
    have htakes := h.fields (level + 1) level rest hfields (by omega)
    rw [hfirst] at htakes
    rw [htext, takeValue, skipSpace_cons (by decide)]
    simp only [skipSpace_newLine, hfirst, skipSpace_cons (show isSpace '"' = false by decide)]
    exact congrArg (Option.map fun taken => (Json.object taken.1, taken.2)) htakes

/-- One more step for a value. -/
theorem value_succ {level : Nat} {v : Json} {rest : List Char} (hv : Written v)
    (hfuel : (prettyChars level v).length < fuel + 1) (hrest : EndsNumber rest) :
    takeValue (fuel + 1) (prettyChars level v ++ rest) = some (v, rest) := by
  cases hv with
  | null => rfl
  | bool b => cases b <;> rfl
  | number hliteral => exact takeValue_number fuel hliteral hrest
  | text s => exact takeValue_text fuel level s rest
  | list hitems => exact h.list_succ hitems hfuel
  | record hfields => exact h.record_succ hfields hfuel

end Takes

/-- **Any fuel takes what is written**, if it is enough. -/
theorem takes (fuel : Nat) : Takes fuel := by
  induction fuel with
  | zero => exact takes_zero
  | succ fuel ih =>
    exact { value := ih.value_succ, items := ih.items_succ, fields := ih.fields_succ }

/-- **A written value is read back.** -/
theorem read_pretty {v : Json} (hv : Written v) : read v.pretty = some v := by
  have htakes := (takes ((prettyChars 0 v).length + 1)).value hv (Nat.lt_succ_self _) endsNumber_nil
  rw [List.append_nil] at htakes
  rw [read, readChars, pretty, String.toList_ofList, htakes]
  rfl

end LoadPlan.Json
