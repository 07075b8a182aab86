import PolySql.Draft
import PolySql.Expr

/-!
# Writing expressions and SELECT statements

`Expr.draft` and `Select.draft` write an expression or a SELECT statement for a dialect. Clauses
stand in the fixed order of SQL, and parentheses go where the operators around would otherwise take
an operand apart.

* `Expr.parensUnder`, `Expr.parensAfter` : where an operand needs parentheses;
* `Expr.draft`, `Select.draft` : the writing;
* `Expr.drafts_eq_map` and its kin : lists are written item by item.
-/

namespace PolySql

open Draft

/-! ## Parentheses -/

/-- Whether an operand of a binary operator needs parentheses. Raw text may hold any operator. -/
def Expr.parensUnder (parent : BinaryOp) (onRight : Bool) : Expr → Bool
  | .binary _ op _ =>
    op.precedence < parent.precedence ||
      (onRight && op.precedence == parent.precedence && !(op == parent && parent.isAssociative))
  | .raw _ => true
  | .isNull .. | .isIn .. | .between .. => BinaryOp.comparisonPrecedence ≤ parent.precedence
  | _ => false

/-- Whether the operand of a unary operator needs parentheses. A minus sign in front of another one
would start a comment. -/
def Expr.parensAfter (op : UnaryOp) : Expr → Bool
  | .binary .. | .raw _ | .isNull .. | .isIn .. | .between .. => true
  | .unary .. => op == .neg
  | .literal l => op == .neg && l.startsNegative
  | _ => false

/-! ## Parts without expressions inside -/

/-- A literal that SQL has no token for stops the writing. -/
def Literal.draft (d : Dialect) (l : Literal) : Draft :=
  require l.isFinite (.unsupported d.name .nonFiniteFloat) ++ Draft.literal l

/-- The value that a conflicting INSERT would have written. -/
def Dialect.excludedDraft (d : Dialect) (column : String) : Draft :=
  match d.upsertSyntax with
  | .standard => Draft.name "excluded" ++ sql "." ++ Draft.name column
  | .mySql => sql "VALUES(" ++ Draft.name column ++ sql ")"
  | .unsupported => fail (.unsupported d.name .excludedValue)

/-- The locking clause at the end of a SELECT. -/
def Lock.draft : Lock → Draft
  | .update => sql " FOR UPDATE"
  | .share => sql " FOR SHARE"
  | .raw clause => sql " " ++ sql clause

/-! ## Expressions and SELECT statements -/

mutual

/-- An expression in a dialect; faults of its own name the scope around it. -/
def Expr.draft (d : Dialect) (scope : Scope) : Expr → Draft
  | .name n => Draft.name n
  | .column table n => qualified table (Draft.name n)
  | .star table => qualified table (sql "*")
  | .literal l => l.draft d
  | .bind v => Draft.bind v
  | .raw pieces => all (Piece.drafts d scope pieces)
  | .call function arguments distinct =>
    sql function ++ sql "(" ++ only distinct (sql "DISTINCT ") ++
      joined ", " (Expr.drafts d scope arguments) ++ sql ")"
  | .binary left op right =>
    parensIf (left.parensUnder op false) (left.draft d scope) ++
      sql " " ++ sql op.text ++ sql " " ++
      parensIf (right.parensUnder op true) (right.draft d scope)
  | .unary op operand => sql op.text ++ parensIf (operand.parensAfter op) (operand.draft d scope)
  | .list items separator => joined separator (Expr.drafts d scope items)
  | .group inner => parens (inner.draft d scope)
  | .aliased inner n => inner.draft d scope ++ sql " AS " ++ Draft.name n
  | .isNull tested negated =>
    tested.draft d scope ++ sql (if negated then " IS NOT NULL" else " IS NULL")
  | .isIn tested items negated =>
    require (!items.isEmpty) (.emptyClause scope .inList) ++ tested.draft d scope ++
      sql (if negated then " NOT IN (" else " IN (") ++
      joined ", " (Expr.drafts d scope items) ++ sql ")"
  | .between tested low high negated =>
    tested.draft d scope ++ sql (if negated then " NOT BETWEEN " else " BETWEEN ") ++
      low.draft d scope ++ sql " AND " ++ high.draft d scope
  | .subquery select => parens (select.draft d scope)
  | .excluded column => d.excludedDraft column
  | .default => sql "DEFAULT"

def Expr.drafts (d : Dialect) (scope : Scope) : List Expr → List Draft
  | [] => []
  | e :: es => e.draft d scope :: Expr.drafts d scope es

def Expr.draft? (d : Dialect) (scope : Scope) : Option Expr → Option Draft
  | none => none
  | some e => some (e.draft d scope)

def Piece.draft (d : Dialect) (scope : Scope) : Piece → Draft
  | .sql text => Draft.sql text
  | .bind v => Draft.bind v
  | .name n => Draft.name n
  | .expr inner => inner.draft d scope

def Piece.drafts (d : Dialect) (scope : Scope) : List Piece → List Draft
  | [] => []
  | p :: ps => p.draft d scope :: Piece.drafts d scope ps

/-- A SELECT statement in a dialect. -/
def Select.draft (d : Dialect) (scope : Scope) : Select → Draft
  | ⟨distinct, columns, sources, joins, condition, groupBy, having, orderBy, limit, offset, lock⟩ =>
    sql "SELECT " ++ only distinct (sql "DISTINCT ") ++
      (if columns.isEmpty then sql "*" else joined ", " (Expr.drafts d scope columns)) ++
      clause " FROM " (Expr.drafts d scope sources) ++
      all (Join.drafts d scope joins) ++
      led " WHERE " (Expr.draft? d scope condition) ++
      clause " GROUP BY " (Expr.drafts d scope groupBy) ++
      led " HAVING " (Expr.draft? d scope having) ++
      clause " ORDER BY " (Order.drafts d scope orderBy) ++
      led " LIMIT " (limit.map number) ++
      led " OFFSET " (offset.map number) ++
      all (lock.toList.map Lock.draft)

def Join.draft (d : Dialect) (scope : Scope) : Join → Draft
  | ⟨kind, table, condition⟩ =>
    sql " " ++ sql kind.text ++ sql " " ++ table.draft d scope ++
      led " ON " (Expr.draft? d scope condition)

def Join.drafts (d : Dialect) (scope : Scope) : List Join → List Draft
  | [] => []
  | j :: js => j.draft d scope :: Join.drafts d scope js

def Order.draft (d : Dialect) (scope : Scope) : Order → Draft
  | ⟨key, direction⟩ => key.draft d scope ++ sql " " ++ sql direction.text

def Order.drafts (d : Dialect) (scope : Scope) : List Order → List Draft
  | [] => []
  | o :: os => o.draft d scope :: Order.drafts d scope os

end

/-! ## Lists are written item by item -/

@[simp] theorem Expr.drafts_eq_map (d : Dialect) (scope : Scope) (es : List Expr) :
    Expr.drafts d scope es = es.map (Expr.draft d scope) := by
  induction es with
  | nil => rfl
  | cons e es ih => simp [Expr.drafts, ih]

@[simp] theorem Expr.draft?_eq_map (d : Dialect) (scope : Scope) (e : Option Expr) :
    Expr.draft? d scope e = e.map (Expr.draft d scope) := by
  cases e <;> rfl

@[simp] theorem Piece.drafts_eq_map (d : Dialect) (scope : Scope) (ps : List Piece) :
    Piece.drafts d scope ps = ps.map (Piece.draft d scope) := by
  induction ps with
  | nil => rfl
  | cons p ps ih => simp [Piece.drafts, ih]

@[simp] theorem Join.drafts_eq_map (d : Dialect) (scope : Scope) (js : List Join) :
    Join.drafts d scope js = js.map (Join.draft d scope) := by
  induction js with
  | nil => rfl
  | cons j js ih => simp [Join.drafts, ih]

@[simp] theorem Order.drafts_eq_map (d : Dialect) (scope : Scope) (os : List Order) :
    Order.drafts d scope os = os.map (Order.draft d scope) := by
  induction os with
  | nil => rfl
  | cons o os ih => simp [Order.drafts, ih]

end PolySql
