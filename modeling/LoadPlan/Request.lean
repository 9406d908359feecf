/-!
# Requests

What a user sends while inside a service. The families of requests are closed, apart from
`RequestKind.extension`, whose properties are free.
-/

namespace LoadPlan

/-- The method of an HTTP request. -/
inductive HttpMethod where
  | get | post | put | delete | head | options | patch
deriving DecidableEq

namespace HttpMethod

/-- All methods. -/
def all : List HttpMethod := [.get, .post, .put, .delete, .head, .options, .patch]

/-- The method in capitals. -/
def name : HttpMethod → String
  | .get => "GET"
  | .post => "POST"
  | .put => "PUT"
  | .delete => "DELETE"
  | .head => "HEAD"
  | .options => "OPTIONS"
  | .patch => "PATCH"

/-- The method with a name. -/
def ofName? (name : String) : Option HttpMethod := all.find? fun m => m.name == name

end HttpMethod

/-- A named value that a request carries. -/
structure Argument where
  name : String
  value : String
deriving DecidableEq

/-- Texts under distinct keys, in the order of the keys. -/
structure Properties where
  entries : List (String × String)
  sorted : entries.Pairwise fun a b => a.1 < b.1

namespace Properties

/-- No properties. -/
def empty : Properties := ⟨[], .nil⟩

instance : Inhabited Properties := ⟨empty⟩

/-- Put a value under a key in a sorted list, in place of the value it had. -/
def insertEntry (k v : String) : List (String × String) → List (String × String)
  | [] => [(k, v)]
  | (k', v') :: rest =>
    if k < k' then (k, v) :: (k', v') :: rest
    else if k' < k then (k', v') :: insertEntry k v rest
    else (k, v) :: rest

/-- A key that precedes the list precedes it after an insertion of a greater one. -/
theorem forall_lt_insertEntry {a k v : String} (h : a < k) :
    ∀ {l : List (String × String)}, (∀ e ∈ l, a < e.1) → ∀ e ∈ insertEntry k v l, a < e.1
  | [], _ => by simpa [insertEntry] using h
  | (k', v') :: rest, hl => by
    have hrest := forall_lt_insertEntry (v := v) h (l := rest) fun e he => hl e (by simp [he])
    have hk' : a < k' := hl (k', v') (by simp)
    unfold insertEntry
    split
    · intro e he
      rcases List.mem_cons.1 he with rfl | he
      · exact h
      · exact hl e he
    · split
      · intro e he
        rcases List.mem_cons.1 he with rfl | he
        · exact hk'
        · exact hrest e he
      · intro e he
        rcases List.mem_cons.1 he with rfl | he
        · exact h
        · exact hl e (by simp [he])

/-- An insertion keeps the keys in order. -/
theorem sorted_insertEntry (k v : String) :
    ∀ {l : List (String × String)}, (l.Pairwise fun a b => a.1 < b.1) →
      (insertEntry k v l).Pairwise fun a b => a.1 < b.1
  | [], _ => by simp [insertEntry]
  | (k', v') :: rest, hl => by
    rw [List.pairwise_cons] at hl
    unfold insertEntry
    split
    next hlt =>
      refine List.pairwise_cons.2 ⟨fun e he => ?_, List.pairwise_cons.2 hl⟩
      rcases List.mem_cons.1 he with rfl | he
      · exact hlt
      · exact String.lt_trans hlt (hl.1 e he)
    next hge =>
      split
      next hlt =>
        exact List.pairwise_cons.2
          ⟨forall_lt_insertEntry hlt hl.1, sorted_insertEntry k v hl.2⟩
      next hge' =>
        have hk : k = k' := String.le_antisymm (String.not_lt.1 hge') (String.not_lt.1 hge)
        exact List.pairwise_cons.2 ⟨hk ▸ hl.1, hl.2⟩

/-- Put a value under a key, in place of the value it had. -/
def insert (p : Properties) (k v : String) : Properties :=
  ⟨insertEntry k v p.entries, sorted_insertEntry k v p.sorted⟩

/-- The properties of a list of pairs. The last value of a key is kept. -/
def ofList (l : List (String × String)) : Properties :=
  l.foldl (fun p e => p.insert e.1 e.2) empty

end Properties

/-- What a request is made of, by family. -/
inductive RequestKind where
  | http (method : HttpMethod) (protocol domain : String) (port : Option Nat) (path : String)
      (parameters : List Argument)
  | java (className : String) (arguments : List Argument)
  | beanShell (script : String) (parameters : List String)
  | junit (className method : String)
  | soap (url action envelope : String)
  | extension (typeName : String) (properties : Properties)

/-- The family of a request. -/
inductive RequestTag where
  | http | java | beanShell | junit | soap
  | extension (typeName : String)
deriving DecidableEq

namespace RequestTag

/-- The families that need no extension. -/
def builtIn : List RequestTag := [.http, .java, .beanShell, .junit, .soap]

/-- The family as it is shown in messages. -/
def label : RequestTag → String
  | .http => "http"
  | .java => "java"
  | .beanShell => "beanshell"
  | .junit => "junit"
  | .soap => "soap"
  | .extension name => "extension:" ++ name

/-- The place of a family in the order of families. -/
def rank : RequestTag → Nat
  | .http => 0
  | .java => 1
  | .beanShell => 2
  | .junit => 3
  | .soap => 4
  | .extension _ => 5

/-- The order of families: built-in ones first, then the others by name. -/
def le : RequestTag → RequestTag → Bool
  | .extension a, .extension b => a ≤ b
  | a, b => a.rank ≤ b.rank

end RequestTag

/-- The family of a request. -/
def RequestKind.tag : RequestKind → RequestTag
  | .http .. => .http
  | .java .. => .java
  | .beanShell .. => .beanShell
  | .junit .. => .junit
  | .soap .. => .soap
  | .extension typeName _ => .extension typeName

/-- One request and its name in the plan. -/
structure Request where
  id : String
  kind : RequestKind

namespace Request

/-- The protocol of an HTTP request that names none. -/
def defaultProtocol : String := "http"

/-- A GET request without port and parameters. -/
def httpGet (id domain path : String) : Request :=
  ⟨id, .http .get defaultProtocol domain none path []⟩

end Request

end LoadPlan
