import PolySql.Expr.Operator
import PolySql.Value
import PolySql.Literal

/-!
# Expressions and SELECT statements

Expressions and SELECT statements contain each other, so they are one mutual family: an `Expr` may
be a sub-select, a `Select` holds expressions in all of its clauses.

* `Expr`, `Piece` : expressions, and the pieces of a raw one;
* `Select`, `Join`, `Order` : a SELECT statement and its parts;
* `Expr.bindCount`, `Select.bindCount` : how many binds there are in all.
-/

namespace PolySql

/-- The kinds of joins. -/
inductive JoinKind where
  | inner
  | left
  | right
  | full
  | cross
deriving DecidableEq, Repr

/-- The words in front of the joined table. -/
def JoinKind.text : JoinKind → String
  | .inner => "INNER JOIN"
  | .left => "LEFT JOIN"
  | .right => "RIGHT JOIN"
  | .full => "FULL JOIN"
  | .cross => "CROSS JOIN"

/-- The directions of sorting. -/
inductive Direction where
  | asc
  | desc
deriving DecidableEq, Repr

/-- The keyword after the sort key. -/
def Direction.text : Direction → String
  | .asc => "ASC"
  | .desc => "DESC"

/-- Sorting ascends unless told otherwise. -/
instance : Inhabited Direction := ⟨.asc⟩

/-- What a SELECT locks its rows for. -/
inductive Lock where
  | update
  | share
  /-- Any other locking clause, copied as it is. -/
  | raw (clause : String)
deriving DecidableEq, Repr

mutual

/-- An expression, or anything else that stands where an expression can stand. -/
inductive Expr where
  | name (name : String)
  | column (table : Option String) (name : String)
  | star (table : Option String)
  | literal (l : Literal)
  | bind (v : Value)
  | raw (pieces : List Piece)
  /-- A call of a function, whose name is copied as it is. -/
  | call (function : String) (arguments : List Expr) (distinct : Bool)
  | binary (left : Expr) (op : BinaryOp) (right : Expr)
  | unary (op : UnaryOp) (operand : Expr)
  | list (items : List Expr) (separator : String)
  | group (inner : Expr)
  | aliased (inner : Expr) (name : String)
  | isNull (tested : Expr) (negated : Bool)
  | isIn (tested : Expr) (items : List Expr) (negated : Bool)
  | between (tested low high : Expr) (negated : Bool)
  | subquery (select : Select)
  /-- What an INSERT would have written to a column, had there been no conflict. -/
  | excluded (column : String)
  | default

/-- A piece of a raw expression. -/
inductive Piece where
  | sql (text : String)
  | bind (v : Value)
  | name (name : String)
  | expr (inner : Expr)

/-- A SELECT statement; without columns it selects all of them. -/
structure Select where
  distinct : Bool := false
  columns : List Expr := []
  sources : List Expr := []
  joins : List Join := []
  condition : Option Expr := none
  groupBy : List Expr := []
  having : Option Expr := none
  orderBy : List Order := []
  limit : Option Nat := none
  offset : Option Nat := none
  lock : Option Lock := none

/-- A joined table, with a condition unless every row joins every other. -/
structure Join where
  kind : JoinKind
  table : Expr
  condition : Option Expr

/-- A sort key. -/
structure Order where
  key : Expr
  direction : Direction

end

/-! ## Counting binds -/

mutual

/-- The number of binds in an expression. -/
def Expr.bindCount : Expr → Nat
  | .name _ | .column .. | .star _ | .literal _ | .excluded _ | .default => 0
  | .bind _ => 1
  | .raw pieces => Piece.bindCounts pieces
  | .call _ arguments _ => Expr.bindCounts arguments
  | .binary left _ right => left.bindCount + right.bindCount
  | .unary _ operand => operand.bindCount
  | .list items _ => Expr.bindCounts items
  | .group inner => inner.bindCount
  | .aliased inner _ => inner.bindCount
  | .isNull tested _ => tested.bindCount
  | .isIn tested items _ => tested.bindCount + Expr.bindCounts items
  | .between tested low high _ => tested.bindCount + low.bindCount + high.bindCount
  | .subquery select => select.bindCount

def Expr.bindCounts : List Expr → Nat
  | [] => 0
  | e :: es => e.bindCount + Expr.bindCounts es

def Expr.bindCount? : Option Expr → Nat
  | none => 0
  | some e => e.bindCount

def Piece.bindCount : Piece → Nat
  | .sql _ | .name _ => 0
  | .bind _ => 1
  | .expr inner => inner.bindCount

def Piece.bindCounts : List Piece → Nat
  | [] => 0
  | p :: ps => p.bindCount + Piece.bindCounts ps

/-- The number of binds in all clauses of a SELECT. -/
def Select.bindCount : Select → Nat
  | ⟨_, columns, sources, joins, condition, groupBy, having, orderBy, _, _, _⟩ =>
    Expr.bindCounts columns + Expr.bindCounts sources + Join.bindCounts joins +
      Expr.bindCount? condition + Expr.bindCounts groupBy + Expr.bindCount? having +
      Order.bindCounts orderBy

def Join.bindCount : Join → Nat
  | ⟨_, table, condition⟩ => table.bindCount + Expr.bindCount? condition

def Join.bindCounts : List Join → Nat
  | [] => 0
  | j :: js => j.bindCount + Join.bindCounts js

def Order.bindCount : Order → Nat
  | ⟨key, _⟩ => key.bindCount

def Order.bindCounts : List Order → Nat
  | [] => 0
  | o :: os => o.bindCount + Order.bindCounts os

end

end PolySql
