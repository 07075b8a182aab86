import PolySql.Expr.Predicate
import PolySql.Model

/-!
# Building a SELECT

* `Select.Call`, `Select.apply` : one step in building a statement;
* `Select.ofCalls` : the statement that a list of calls builds;
* `Select.first` : the statement cut to one row.
-/

namespace PolySql.Select

/-- One step in building a statement. -/
inductive Call where
  | distinct
  | columns (names : List String)
  | column (e : Expr)
  /-- Every column of the model. -/
  | modelColumns (m : Model)
  | source (table : String)
  | sourceAs (table name : String)
  | subselect (select : Select) (name : String)
  | join (kind : JoinKind) (table : String) (condition : Expr)
  /-- A join of every row with every other. -/
  | crossJoin (table : String)
  | andWhere (e : Expr)
  | orWhere (e : Expr)
  | groupBy (names : List String)
  | having (e : Expr)
  | orderBy (key : Expr) (direction : Direction)
  | limit (n : Nat)
  | offset (n : Nat)
  | lock (l : Lock)

/-- The statement after one call. -/
def apply (s : Select) : Call → Select
  | .distinct => { s with distinct := true }
  | .columns names => { s with columns := s.columns ++ names.map .col }
  | .column e => { s with columns := s.columns ++ [e] }
  | .modelColumns m => { s with columns := s.columns ++ m.columns.map .col }
  | .source table => { s with sources := s.sources ++ [.name table] }
  | .sourceAs table name => { s with sources := s.sources ++ [.aliased (.name table) name] }
  | .subselect select name => { s with sources := s.sources ++ [.aliased (.subquery select) name] }
  | .join kind table condition =>
    { s with joins := s.joins ++ [⟨kind, .name table, some condition⟩] }
  | .crossJoin table => { s with joins := s.joins ++ [⟨.cross, .name table, none⟩] }
  | .andWhere e => { s with condition := Expr.conjoin s.condition e }
  | .orWhere e => { s with condition := Expr.disjoin s.condition e }
  | .groupBy names => { s with groupBy := s.groupBy ++ names.map .col }
  | .having e => { s with having := Expr.conjoin s.having e }
  | .orderBy key direction => { s with orderBy := s.orderBy ++ [⟨key, direction⟩] }
  | .limit n => { s with limit := some n }
  | .offset n => { s with offset := some n }
  | .lock l => { s with lock := some l }

/-- The statement that a list of calls builds. -/
def ofCalls (calls : List Call) : Select := calls.foldl apply {}

/-- The statement cut to its first row. -/
def first (s : Select) : Select := { s with limit := some 1 }

end PolySql.Select
