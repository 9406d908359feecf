import LoadPlan.Document.Model
import LoadPlan.Json.Model
import LoadPlan.Proofs.Json.View
/-!
# Forms that are read back

`Restores height read v a` says that the form `v` can be written and that `read` makes `a` of it,
however it is seen, as long as `height` levels are left below it. The lemmas follow the way forms
are put together: leaves, lists, and records. A record's slots are given with the facts on what is
in them, once for the record to be seen at all (`Clear`), once for its fields to be read
(`Filled`).
-/

namespace LoadPlan.Json

open Document

/-- **The form is written, and read back as the value.** -/
structure Restores {σ α : Type} [Source σ] [View σ] (height : Nat) (read : σ → Reading α) (v : Json)
    (a : α) : Prop where
  written : Written v
  seen {depth : Nat} : depth + height ≤ maxDepth → ∃ x, View.see depth v = some x ∧ Reads read x a

/-- A value that can be written and seen. -/
structure Clear (σ : Type) [Source σ] [View σ] (height : Nat) (v : Json) : Prop where
  written : Written v
  seen {depth : Nat} : depth + height ≤ maxDepth → (View.see depth v : Option σ).isSome

/-! ## Slots of forms -/

section Slots

variable {α : Type}

/-- A list that is left out if it is empty. -/
def listSlot (name : String) (form : α → Json) (l : List α) : String × Option Json :=
  (name, (Option.guard (fun l => !l.isEmpty) l).map (array form))

/-- A text that is left out if it is empty. -/
def textSlot (name s : String) : String × Option Json := (name, (Option.guard (· != "") s).map str)

/-- Properties that are left out if there are none. -/
def propertiesSlot (p : Properties) : String × Option Json :=
  ("properties", (Option.guard (fun p => !p.entries.isEmpty) p).map fun p =>
    record (p.entries.map fun e => (e.1, str e.2)))

/-- Slots are filled in turn. -/
theorem present_cons_cons (slot slot' : String × Option Json)
    (slots : List (String × Option Json)) :
    present (slot :: slot' :: slots) = present [slot] ++ present (slot' :: slots) := by
  obtain ⟨name, v⟩ := slot
  cases v <;> rfl

theorem optionField_eq (name : String) (form : α → Json) (o : Option α) :
    optionField name form o = present [(name, o.map form)] := by
  cases o <;> rfl

theorem listField_eq (name : String) (form : α → Json) (l : List α) :
    listField name form l = present [listSlot name form l] := by
  cases l <;> rfl

theorem textField_eq (name s : String) : textField name s = present [textSlot name s] := by
  unfold textField textSlot
  by_cases h : s = "" <;> simp [Option.guard, h]

theorem propertiesField_eq (p : Properties) : propertiesField p = present [propertiesSlot p] := by
  unfold propertiesField propertiesSlot
  cases h : p.entries.isEmpty <;> simp [Option.guard, h]

end Slots

section Views

variable {σ α : Type} [Source σ] [View σ] {height : Nat} {read : σ → Reading α}

theorem Restores.clear {v : Json} {a : α} (h : Restores height read v a) : Clear σ height v where
  written := h.written
  seen hroom := by
    obtain ⟨x, hx, -⟩ := h.seen hroom
    rw [hx]
    rfl

/-- What is read may be read on. -/
theorem Restores.bind {β : Type} {v : Json} {a : α} {next : α → Reading β} {b : β}
    (h : Restores height read v a) (hnext : next a = pure b) :
    Restores height (fun x => read x >>= next) v b where
  written := h.written
  seen hroom := by
    obtain ⟨x, hx, hread⟩ := h.seen hroom
    refine ⟨x, hx, ?_⟩
    show read x >>= next = pure b
    rw [hread, pure_bind, hnext]

/-! ## Leaves -/

theorem str_ne_null (s : String) : str s ≠ .null := fun h => by cases h

theorem nat_ne_null (n : Nat) : nat n ≠ .null := fun h => by cases h

theorem written_nat (n : Nat) : Written (nat n) := .number (isLiteral_toDigits n)

theorem written_float {x : Float} (hx : Decimal.isFinite x) : Written (float x) := by
  rw [float, if_pos hx]
  exact .number (isLiteral_float numberStyle hx)

theorem restores_str (height : Nat) (s : String) : Restores height (text? (σ := σ)) (str s) s where
  written := .text s
  seen {depth} _ := by
    obtain ⟨x, hx, htext, -⟩ := View.exists_text (σ := σ) depth s
    exact ⟨x, hx, congrArg StateT.lift htext⟩

/-- A text is the variant it names. -/
theorem restores_variant (height : Nat) (names : List String) (s : String) :
    Restores height (unitVariant? (σ := σ) names) (str s) s where
  written := .text s
  seen {depth} _ := by
    obtain ⟨x, hx, -, hvariant⟩ := View.exists_text (σ := σ) depth s
    have hread : variant? names x = pure (s, none) := congrArg StateT.lift (hvariant names)
    refine ⟨x, hx, ?_⟩
    rw [Reads, unitVariant?, hread, pure_bind]

theorem restores_bool (height : Nat) (b : Bool) :
    Restores height (bool? (σ := σ)) (.bool b) b where
  written := .bool b
  seen {depth} _ := by
    obtain ⟨x, hx, hbool⟩ := View.exists_bool (σ := σ) depth b
    exact ⟨x, hx, congrArg StateT.lift hbool⟩

theorem restores_nat (height : Nat) {n bound : Nat} (hn : n < bound) (hbound : bound ≤ wordBound) :
    Restores height (natural? (σ := σ) bound) (nat n) n where
  written := written_nat n
  seen {depth} _ := by
    obtain ⟨x, hx, hnatural⟩ := View.exists_natural (σ := σ) depth (Nat.lt_of_lt_of_le hn hbound)
    exact ⟨x, hx, congrArg StateT.lift (hnatural bound hn)⟩

theorem restores_index (height : Nat) {n : Nat} (hn : n < wordBound) :
    Restores height (index? (σ := σ)) (nat n) n :=
  restores_nat height hn (Nat.le_refl _)

/-- An index that may be absent. -/
theorem restores_initial (height : Nat) {o : Option Nat} (h : ∀ i ∈ o, i < wordBound) (i : Nat)
    (hi : o = some i) : Restores height (index? (σ := σ)) (nat i) i :=
  restores_index height (h i hi)

theorem restores_float (height : Nat) {y : Float} (hy : Decimal.isFinite y) :
    Restores height (float? (σ := σ)) (float y) y where
  written := written_float hy
  seen {depth} _ := by
    obtain ⟨x, hx, hfloat⟩ := View.exists_float (σ := σ) depth hy
    exact ⟨x, hx, congrArg StateT.lift hfloat⟩

/-! ## Lists -/

/-- The items of a list are seen and read one by one. -/
theorem exists_items {form : α → Json} {l : List α} {depth : Nat}
    (h : ∀ a ∈ l, ∃ x : σ, View.see depth (form a) = some x ∧ Reads read x a) :
    ∃ xs : List σ, (l.map form).mapM (View.see depth) = some xs ∧
      List.Forall₂ (Reads read) xs l := by
  induction l with
  | nil => exact ⟨[], rfl, .nil⟩
  | cons a l ih =>
    obtain ⟨x, hx, hread⟩ := h a List.mem_cons_self
    obtain ⟨xs, hxs, hreads⟩ := ih fun a ha => h a (List.mem_cons_of_mem _ ha)
    refine ⟨x :: xs, ?_, .cons hread hreads⟩
    rw [List.map_cons, List.mapM_cons, hx, hxs]
    rfl

/-- **A list is restored as its items are.** -/
theorem Restores.array {form : α → Json} {l : List α}
    (h : ∀ a ∈ l, Restores height read (form a) a) :
    Restores (height + 1) (listOf read) (array form l) l where
  written := by
    refine .list fun v hv => ?_
    obtain ⟨a, ha, rfl⟩ := List.mem_map.1 hv
    exact (h a ha).written
  seen {depth} hroom := by
    -- the items lie one level deeper and need one level less
    obtain ⟨xs, hxs, hreads⟩ := exists_items fun a ha =>
      (h a ha).seen (show depth + 1 + height ≤ maxDepth by omega)
    obtain ⟨x, hx, hread⟩ := View.exists_items (show depth < maxDepth by omega) hxs
    exact ⟨x, hx, reads_listOf hread hreads⟩

/-! ## Records -/

/-- All values in the slots can be written and seen. -/
def ClearSlots (σ : Type) [Source σ] [View σ] (height : Nat)
    (slots : List (String × Option Json)) : Prop :=
  ∀ v, some v ∈ slots.map (·.2) → Clear σ height v

/-- The record that was read from some slots, with so many levels left below its fields. -/
structure Filled (height : Nat) (slots : List (String × Option Json)) (r : Record σ) : Prop where
  nodup : (slots.map (·.1)).Nodup
  exists_depth : ∃ depth, depth + height ≤ maxDepth ∧
    r = ⟨present (seenSlots (View.see depth) slots)⟩

namespace ClearSlots

variable {slots : List (String × Option Json)} {name : String}

theorem nil : ClearSlots σ height [] := fun _ h => by cases h

theorem cons {v : Json} (hv : Clear σ height v) (h : ClearSlots σ height slots) :
    ClearSlots σ height ((name, some v) :: slots) := by
  rintro w (_ | ⟨_, hmem⟩)
  · exact hv
  · exact h w hmem

theorem cons_map {form : α → Json} {o : Option α}
    (ho : ∀ a, o = some a → Restores height read (form a) a) (h : ClearSlots σ height slots) :
    ClearSlots σ height ((name, o.map form) :: slots) := by
  cases o with
  | none =>
    rintro w (_ | ⟨_, hmem⟩)
    exact h w hmem
  | some a => exact h.cons (ho a rfl).clear

theorem cons_guard {p : α → Bool} {form : α → Json} {a : α} (ha : Restores height read (form a) a)
    (h : ClearSlots σ height slots) :
    ClearSlots σ height ((name, (Option.guard p a).map form) :: slots) :=
  cons_map (fun _ hb => (Option.guard_eq_some_iff.1 hb).1 ▸ ha) h

end ClearSlots

namespace Filled

variable {slots : List (String × Option Json)} {r : Record σ} (h : Filled height slots r)
  (name : String)
include h

/-- A field is what is seen of its slot. -/
theorem exists_get?_eq {v : Option Json} (hv : (name, v) ∈ slots) :
    ∃ depth, depth + height ≤ maxDepth ∧ r.get? name = v.bind (View.see depth) := by
  obtain ⟨depth, hroom, rfl⟩ := h.exists_depth
  refine ⟨depth, hroom, get?_present ?_ (List.mem_map.2 ⟨(name, v), hv, rfl⟩)⟩
  rw [map_fst_seenSlots]
  exact h.nodup

theorem required {v : Json} {a : α} (hv : (name, some v) ∈ slots) (ha : Restores height read v a) :
    r.required name read = pure a := by
  obtain ⟨depth, hroom, hget⟩ := h.exists_get?_eq name hv
  obtain ⟨x, hx, hread⟩ := ha.seen hroom
  exact required_of_some (hget.trans hx) hread

/-- A field with a default that is written all the same. -/
theorem kept {v : Json} {a : α} (default : α) (hv : (name, some v) ∈ slots)
    (ha : Restores height read v a) : r.defaulted name default read = pure a := by
  obtain ⟨depth, hroom, hget⟩ := h.exists_get?_eq name hv
  obtain ⟨x, hx, hread⟩ := ha.seen hroom
  exact defaulted_of_some default (hget.trans hx) hread

theorem defaulted {form : α → Json} {o : Option α} (default : α) (ho : (name, o.map form) ∈ slots)
    (ha : ∀ a, o = some a → Restores height read (form a) a) :
    r.defaulted name default read = pure (o.getD default) := by
  obtain ⟨depth, hroom, hget⟩ := h.exists_get?_eq name ho
  cases o with
  | none => exact defaulted_of_none default hget
  | some a =>
    obtain ⟨x, hx, hread⟩ := (ha a rfl).seen hroom
    exact defaulted_of_some default (hget.trans hx) hread

/-- A field that is left out for its default. -/
theorem guarded {p : α → Bool} {form : α → Json} {a : α} (default : α)
    (hmem : (name, (Option.guard p a).map form) ∈ slots) (ha : Restores height read (form a) a)
    (hdefault : p a = false → a = default) : r.defaulted name default read = pure a := by
  rw [h.defaulted name default hmem fun _ hb => (Option.guard_eq_some_iff.1 hb).1 ▸ ha]
  cases hp : p a with
  | false =>
    rw [Option.guard, hp]
    exact congrArg pure (hdefault hp).symm
  | true => rw [Option.guard, hp]; rfl

/-- A list is left out if it is empty. -/
theorem list {form : α → Json} {l : List α} (hmem : listSlot name form l ∈ slots)
    (hl : Restores height (listOf read) (array form l) l) :
    r.defaulted name [] (listOf read) = pure l :=
  h.guarded name [] hmem hl (by simp)

theorem optional {form : α → Json} (o : Option α) (ho : (name, o.map form) ∈ slots)
    (hne : ∀ a, form a ≠ .null) (ha : ∀ a, o = some a → Restores height read (form a) a) :
    r.optional name read = pure o := by
  obtain ⟨depth, hroom, hget⟩ := h.exists_get?_eq name ho
  cases o with
  | none => exact optional_of_none hget
  | some a =>
    obtain ⟨x, hx, hread⟩ := (ha a rfl).seen hroom
    exact optional_of_some (hget.trans hx) (View.isAbsent_eq hx (hne a)) hread

/-- A text is left out if it is empty. -/
theorem text {read : σ → Reading String} {s : String} (hmem : textSlot name s ∈ slots)
    (hs : Restores height read (str s) s) : r.defaulted name "" read = pure s :=
  h.guarded name "" hmem hs (by simp)

/-- Properties are left out if there are none. -/
theorem properties {read : σ → Reading Properties} {p : Properties}
    (hmem : propertiesSlot p ∈ slots)
    (hp : Restores height read (record (p.entries.map fun e => (e.1, str e.2))) p) :
    r.defaulted "properties" .empty read = pure p := by
  refine h.guarded "properties" .empty hmem hp fun hempty => ?_
  obtain ⟨entries, sorted⟩ := p
  cases entries with
  | nil => rfl
  | cons e entries => cases hempty

end Filled

/-- **A record is restored as its fields are.** -/
theorem Restores.record {names : List String} {slots : List (String × Option Json)}
    {body : Record σ → Reading α} {a : α} (hnames : slots.map (·.1) = names) (hnodup : names.Nodup)
    (hclear : ClearSlots σ height slots) (hbody : ∀ r, Filled height slots r → body r = pure a) :
    Restores (height + 1) (fun x : σ => Source.record? names x >>= body) (record (present slots))
      a where
  written := by
    refine .record fun f hf => (hclear f.2 ?_).written
    exact List.mem_map.2 ⟨(f.1, some f.2), mem_present.1 hf, rfl⟩
  seen {depth} hroom := by
    subst hnames
    have hseen : ∀ v, some v ∈ slots.map (·.2) → (View.see (depth + 1) v : Option σ).isSome :=
      fun v hv => (hclear v hv).seen (by omega)
    obtain ⟨x, hx, hrecord⟩ := View.exists_record (show depth < maxDepth by omega) hnodup hseen
    refine ⟨x, hx, ?_⟩
    show Source.record? (slots.map (·.1)) x >>= body = pure a
    rw [hrecord, pure_bind]
    exact hbody _ ⟨hnodup, depth + 1, by omega, rfl⟩

end Views

/-! ## Tagged records -/

section Tagged

variable {α : Type} {height : Nat}

/-- Fields under other names are no tag. -/
theorem filter_keyed_of_not_mem {tag : String} {fields : List (String × Json)}
    (hfresh : tag ∉ fields.map (·.1)) :
    (keyed fields).filter (fun f => f.1 != some tag) = keyed fields := by
  refine List.filter_eq_self.2 fun f hf => ?_
  obtain ⟨g, hg, rfl⟩ := List.mem_map.1 hf
  have hne : g.1 ≠ tag := fun heq => hfresh (heq ▸ List.mem_map_of_mem hg)
  simpa using hne

/-- **The tag names the family**, and what is left is typed. -/
theorem tagged?_record {depth : Nat} {tag family : String} {fields : List (String × Json)}
    {w : Value} (hroom : depth < maxDepth) (hfresh : tag ∉ fields.map (·.1))
    (hw : View.see depth (record fields) = some w) :
    TypedSource.tagged? tag (⟨depth, record ((tag, str family) :: fields)⟩ : Nested) =
      pure (family, w) := by
  have htyped : typed? (maxDepth - depth) (.object (keyed fields)) = some w := hw
  rw [maxDepth_sub hroom, typed?] at htyped
  obtain ⟨entries, hentries, rfl⟩ := Option.map_eq_some_iff.1 htyped
  have hkeys : (keyed ((tag, str family) :: fields)).mapM (·.1) =
      some (tag :: fields.map (·.1)) := by
    rw [keyed, List.mapM_map]
    exact List.mapM_pure (m := Option)
  have hcount : (tag :: fields.map (·.1)).count tag = 1 := by
    rw [List.count_cons_self, List.count_eq_zero_of_not_mem hfresh]
  have hrest : (keyed ((tag, str family) :: fields)).filter (fun f => f.1 != some tag) =
      keyed fields := by
    rw [keyed, List.map_cons, List.filter_cons_of_neg (by simp), ← keyed,
      filter_keyed_of_not_mem hfresh]
  have hfind : (keyed ((tag, str family) :: fields)).find? (fun f => f.1 == some tag) =
      some (some tag, str family) := by
    rw [keyed, List.map_cons, List.find?_cons_of_pos (by simp)]
  have htagged : Nested.tagged? tag ⟨depth, .object (keyed ((tag, str family) :: fields))⟩ =
      some (family, .map entries) := by
    have htext : Nested.text? ⟨0, str family⟩ = some family := rfl
    simp [Nested.tagged?, Nested.hasRoom, hroom, hkeys, hcount, hfind, hrest, htext, hentries,
      Nat.sub_sub]
  exact congrArg StateT.lift htagged

/-- **A tagged record is restored as what is left of it.** -/
theorem Restores.tagged {tag family : String} {slots : List (String × Option Json)}
    (body : String → Value → Reading α) {a : α} (hfresh : tag ∉ slots.map (·.1))
    (h : Restores (height + 1) (body family) (Json.record (present slots)) a) :
    Restores (height + 1) (fun x : Nested => TypedSource.tagged? tag x >>= fun p => body p.1 p.2)
      (Json.record ((tag, str family) :: present slots)) a where
  written := .record (List.forall_mem_cons.2 ⟨.text family, h.written.of_mem⟩)
  seen {depth} hroom := by
    -- the typed rest is the one that is seen at the same depth without the tag
    obtain ⟨w, hw, hread⟩ := h.seen hroom
    refine ⟨⟨depth, Json.record ((tag, str family) :: present slots)⟩, rfl, ?_⟩
    show TypedSource.tagged? tag _ >>= (fun p => body p.1 p.2) = pure a
    have hsub := (map_fst_present_sublist slots).subset
    rw [tagged?_record (by omega) (fun hmem => hfresh (hsub hmem)) hw, pure_bind]
    exact hread

end Tagged

/-! ## Documents -/

/-- **A document is decoded from the text of its form.** -/
theorem Restores.decode {α : Type} {height : Nat} {read : Nested → Reading α} {v : Json} {a : α}
    (h : Restores height read v a) (hheight : height ≤ maxDepth) :
    decode read v.pretty = some a := by
  obtain ⟨x, hx, hread⟩ := h.seen (show 0 + height ≤ maxDepth by omega)
  cases hx
  have hvalue : read ⟨0, v⟩ = pure a := hread
  rw [Json.decode, read_pretty h.written, Option.bind_some, hvalue]
  rfl

end LoadPlan.Json
