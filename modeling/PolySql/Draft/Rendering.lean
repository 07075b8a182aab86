import PolySql.Draft

/-!
# Renderings

Laying out a draft in a dialect gives the text of a statement and its binds. The binds are numbered
from one, in the order of their tokens; a bind's value goes to the list, and only a placeholder to
the text.

* `Token.layout` : the text of a list of tokens, after a number of earlier binds;
* `Token.binds` : the values of the bind tokens;
* `Draft.finish` : the rendering of a whole draft, or its fault;
* `Token.layout_append`, `Token.binds_append` : laying out piece by piece.
-/

namespace PolySql

/-- Text and binds as a database takes them. -/
structure Rendering where
  sql : String
  binds : List Value
deriving DecidableEq, Repr

namespace Token

/-- The values of the bind tokens in order. -/
def binds : List Token → List Value
  | [] => []
  | .bind v :: ts => v :: binds ts
  | .sql _ :: ts => binds ts
  | .name _ :: ts => binds ts
  | .literal _ :: ts => binds ts

/-- The text of tokens that come after `count` binds. -/
def layout (d : Dialect) (count : Nat) : List Token → List Char
  | [] => []
  | .sql text :: ts => text.toList ++ layout d count ts
  | .name n :: ts => d.quoted n ++ layout d count ts
  | .literal l :: ts => d.spelled l ++ layout d count ts
  | .bind _ :: ts => d.placeholder (count + 1) ++ layout d (count + 1) ts

@[simp] theorem binds_append (ts us : List Token) : binds (ts ++ us) = binds ts ++ binds us := by
  induction ts with
  | nil => rfl
  | cons t ts ih => cases t <;> simp [binds, ih]

theorem layout_append (d : Dialect) (count : Nat) (ts us : List Token) :
    layout d count (ts ++ us) = layout d count ts ++ layout d (count + (binds ts).length) us := by
  induction ts generalizing count with
  | nil => rfl
  | cons t ts ih =>
    cases t <;> simp [layout, binds, ih, Nat.add_assoc, Nat.add_comm 1]

/-- Text and binds of tokens from the first bind on. -/
def rendering (d : Dialect) (ts : List Token) : Rendering :=
  ⟨.ofList (layout d 0 ts), binds ts⟩

end Token

/-- The rendering of a draft, unless it has stopped. -/
def Draft.finish (d : Dialect) (a : Draft) : Logged Rendering :=
  ⟨a.events,
    match a.fault with
    | some e => .error e
    | none => .ok (Token.rendering d a.tokens)⟩

end PolySql
