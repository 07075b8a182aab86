import PolySql.Expr

/-!
# Building a raw query

A `RawQuery` is trusted text with binds, names and expressions between. Neighbouring texts become
one piece, so it does not matter how a text is cut.

* `RawQuery.apply`, `RawQuery.ofCalls` : the query that a list of calls builds;
* `RawQuery.addSegments` : the query of segments that are written down together;
* `RawQuery.expr` : the query as an expression.
-/

namespace PolySql

/-- A raw query under construction. -/
structure RawQuery where
  pieces : List Piece := []

namespace RawQuery

/-- One step in building a query. -/
inductive Call where
  | sql (text : String)
  | bind (v : Value)
  | name (name : String)
  | expr (e : Expr)

/-- A text at the end joins a text that is there already. -/
def addText : List Piece → String → List Piece
  | [], text => [.sql text]
  | [.sql earlier], text => [.sql (earlier ++ text)]
  | p :: ps, text => p :: addText ps text

/-- The query with one more piece. -/
def apply (q : RawQuery) : Call → RawQuery
  | .sql text => ⟨addText q.pieces text⟩
  | .bind v => ⟨q.pieces ++ [.bind v]⟩
  | .name n => ⟨q.pieces ++ [.name n]⟩
  | .expr e => ⟨q.pieces ++ [.expr e]⟩

/-- The query that a list of calls builds. -/
def ofCalls (calls : List Call) : RawQuery := calls.foldl apply {}

/-- A part of a query that is written down as a whole: literal text, or an interpolation. -/
inductive Segment where
  | text (literal : String)
  | bind (v : Value)
  | ident (name : String)
  | expr (e : Expr)

/-- The query with one more segment. -/
def addSegment (q : RawQuery) : Segment → RawQuery
  | .text literal => q.apply (.sql literal)
  | .bind v => q.apply (.bind v)
  | .ident n => q.apply (.name n)
  | .expr e => q.apply (.expr e)

/-- The query with more segments, each added to what the ones before it left. -/
def addSegments (q : RawQuery) : List Segment → RawQuery
  | [] => q
  | s :: ss => (q.addSegment s).addSegments ss

/-- The query as an expression. -/
def expr (q : RawQuery) : Expr := .raw q.pieces

end RawQuery

end PolySql
