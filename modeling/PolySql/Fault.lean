import PolySql.Row

/-!
# What can go wrong

A `Fault` says why a statement cannot be rendered, run, or its result be read. Each has one
message.
-/

namespace PolySql

/-- The kinds of statements. -/
inductive StatementKind where
  | select
  | insert
  | update
  | delete
  | createTable
  | alterTable
  | dropTable
  | raw
deriving DecidableEq, Repr

/-- The words that a statement of the kind starts with. -/
def StatementKind.label : StatementKind → String
  | .select => "SELECT"
  | .insert => "INSERT"
  | .update => "UPDATE"
  | .delete => "DELETE"
  | .createTable => "CREATE TABLE"
  | .alterTable => "ALTER TABLE"
  | .dropTable => "DROP TABLE"
  | .raw => "RAW"

/-- What an expression is part of: a statement of some kind, or nothing larger. -/
inductive Scope where
  | expression
  | statement (kind : StatementKind)
deriving DecidableEq, Repr

/-- The scope as messages name it. -/
def Scope.label : Scope → String
  | .expression => "expression"
  | .statement kind => kind.label

/-- The clauses that must not be empty. -/
inductive Clause where
  | inList
  | valuesRows
  | conflictAction
  | conflictTargetColumns
  | conflictAssignments
  | setAssignments
  | columnDefinitions
  | alterActions
  | tableNames
deriving DecidableEq, Repr

/-- The clause as messages name it. -/
def Clause.label : Clause → String
  | .inList => "IN list"
  | .valuesRows => "VALUES rows"
  | .conflictAction => "conflict action"
  | .conflictTargetColumns => "conflict target columns for the target predicate"
  | .conflictAssignments => "DO UPDATE assignments"
  | .setAssignments => "SET assignments"
  | .columnDefinitions => "column definitions"
  | .alterActions => "actions"
  | .tableNames => "table names"

/-- What not every dialect can say. -/
inductive Feature where
  | nonFiniteFloat
  | excludedValue
  | conflictResolution
  | conflictTargetPredicate
  | conflictActionPredicate
  | returning
  | autoIncrement
  | multipleAlterActions
deriving DecidableEq, Repr

/-- The feature as messages name it. -/
def Feature.label : Feature → String
  | .nonFiniteFloat => "non-finite float literal"
  | .excludedValue => "excluded-value reference"
  | .conflictResolution => "conflict resolution"
  | .conflictTargetPredicate => "conflict target predicate"
  | .conflictActionPredicate => "conflict action predicate"
  | .returning => "RETURNING"
  | .autoIncrement => "auto-increment"
  | .multipleAlterActions => "multiple ALTER TABLE actions"

/-- Why a statement comes to nothing. -/
inductive Fault where
  | conflictTargetRequired (dialect : String)
  | columnCountMismatch (expected found : Nat)
  | emptyClause (scope : Scope) (clause : Clause)
  | unsupported (dialect : String) (feature : Feature)
  | decode (fault : DecodeFault)
  /-- The database refused the statement, with its own words. -/
  | execution (reason : String)
deriving DecidableEq, Repr

/-- The fault in words. -/
def Fault.message : Fault → String
  | .conflictTargetRequired dialect =>
    "dialect '" ++ dialect ++ "' requires a conflict target for ON CONFLICT DO UPDATE"
  | .columnCountMismatch expected found =>
    "expected " ++ .ofList (Digits.ofNat expected) ++ " values per row, found " ++
      .ofList (Digits.ofNat found)
  | .emptyClause scope clause => scope.label ++ " statement has no " ++ clause.label
  | .unsupported dialect feature =>
    feature.label ++ " is not supported by dialect '" ++ dialect ++ "'"
  | .decode fault => fault.message
  | .execution reason => "execution failed: " ++ reason

end PolySql
