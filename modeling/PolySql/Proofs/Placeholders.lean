import PolySql.Proofs.MaskedWriting

/-!
# Values stay out of the text

A text with `n` binds is woven from `n + 1` chunks, with question marks or the numbers from 1 to `n`
between them. The chunks come from the calls alone: whoever replaces the values of binds, or
switches to the other placeholders, gets the same chunks, and the same calls stop at the same
faults. What is written is never taken back.

* `PlaceholderStyle.standIn` : what stands between two chunks;
* `Token.chunks`, `Dialect.woven` : the chunks of a text, and the text that they are woven into;
* `Session.apply_alike`, `Session.run_alike` : alike calls leave alike sessions;
* `Session.values_apart_from_text` : the main statement.
-/

namespace PolySql

/-! ## Chunks -/

/-- Text in front of the first chunk. -/
def ahead (text : List Char) : List (List Char) → List (List Char)
  | [] => [text]
  | t :: ts => (text ++ t) :: ts

/-- The text in front of each bind, and the text after the last one. -/
def Token.chunks (d : Dialect) : List Token → List (List Char)
  | [] => [[]]
  | .sql text :: ts => ahead text.toList (chunks d ts)
  | .name n :: ts => ahead (d.quoted n) (chunks d ts)
  | .literal l :: ts => ahead (d.spelled l) (chunks d ts)
  | .bind _ :: ts => [] :: chunks d ts

/-- What stands for the bind with this number: a question mark, or a dollar sign and the number in
decimal. -/
def PlaceholderStyle.standIn (p : PlaceholderStyle) (number : Nat) : String :=
  match p with
  | .question => "?"
  | .dollar => "$" ++ toString number

/-- Chunks with what stands for the binds between them, after a number of earlier binds. -/
def Dialect.woven (d : Dialect) (count : Nat) : List (List Char) → List Char
  | [] => []
  | [t] => t
  | t :: u :: ts =>
    t ++ (d.placeholderStyle.standIn (count + 1)).toList ++ d.woven (count + 1) (u :: ts)

theorem Dialect.placeholder_eq_standIn (d : Dialect) (number : Nat) :
    d.placeholder number = (d.placeholderStyle.standIn number).toList := by
  unfold placeholder PlaceholderStyle.standIn
  cases d.placeholderStyle with
  | question => simp
  | dollar => simp [Digits.ofNat, Nat.toString_eq_repr, Nat.toList_repr]

theorem length_ahead (text : List Char) (ts : List (List Char)) (h : ts ≠ []) :
    (ahead text ts).length = ts.length := by
  cases ts with
  | nil => exact absurd rfl h
  | cons t ts => rfl

theorem Token.chunks_ne_nil (d : Dialect) (ts : List Token) : chunks d ts ≠ [] := by
  cases ts with
  | nil => simp [chunks]
  | cons t ts => cases t <;> simp [chunks, ahead] <;> split <;> simp

/-- There is one chunk more than there are binds. -/
theorem Token.length_chunks (d : Dialect) (ts : List Token) :
    (chunks d ts).length = (binds ts).length + 1 := by
  induction ts with
  | nil => rfl
  | cons t ts ih =>
    have hne := chunks_ne_nil d ts
    cases t <;> simp [chunks, binds, length_ahead _ _ hne, ih]

theorem Dialect.woven_ahead (d : Dialect) (count : Nat) (text : List Char)
    (ts : List (List Char)) : d.woven count (ahead text ts) = text ++ d.woven count ts := by
  rcases ts with _ | ⟨t, _ | ⟨u, ts⟩⟩ <;> simp [ahead, woven]

/-- A text is its chunks with the placeholders between them. -/
theorem Token.layout_eq_woven (d : Dialect) (count : Nat) (ts : List Token) :
    layout d count ts = d.woven count (chunks d ts) := by
  induction ts generalizing count with
  | nil => rfl
  | cons t ts ih =>
    cases t with
    | bind v =>
      obtain ⟨c, cs, hc⟩ := List.exists_cons_of_ne_nil (chunks_ne_nil d ts)
      rw [layout, chunks, ih, hc, Dialect.woven, List.nil_append, d.placeholder_eq_standIn]
    | _ => rw [layout, chunks, ih, d.woven_ahead]

theorem Dialect.spelled_withPlaceholders (d : Dialect) (p : PlaceholderStyle) (l : Literal) :
    (d.withPlaceholders p).spelled l = d.spelled l := by
  cases l <;> rfl

theorem Token.chunks_withPlaceholders (d : Dialect) (p : PlaceholderStyle) (ts : List Token) :
    chunks (d.withPlaceholders p) ts = chunks d ts := by
  induction ts with
  | nil => rfl
  | cons t ts ih =>
    cases t with
    | name n => exact congrArg (ahead (d.quoted n)) ih
    | literal l => rw [chunks, chunks, ih, d.spelled_withPlaceholders]
    | _ => simp only [chunks, ih]

/-! ## Values out of sight -/

/-- Puts null in the place of every value. -/
def Masking.values : Masking where
  value _ := .null
  value_value _ := rfl

theorem Token.chunks_masked_values (d : Dialect) (ts : List Token) :
    chunks d (ts.map (Token.masked .values)) = chunks d ts := by
  induction ts with
  | nil => rfl
  | cons t ts ih => cases t <;> simp [chunks, Token.masked, Masking.values, ← ih]

namespace Session

/-- Calls that are the same but for the values of their binds. -/
def SameButValues (calls calls' : List Call) : Prop :=
  calls.map (Call.masked .values) = calls'.map (Call.masked .values)

/-- Sessions that are the same but for the values of their binds. -/
structure Alike (x y : Session) : Prop where
  scope : x.scope = y.scope
  tokens : x.tokens.map (Token.masked .values) = y.tokens.map (Token.masked .values)

/-- The session after all of the calls. -/
def run (d : Dialect) (x : Session) (calls : List Call) : Session :=
  ((x.steps d calls).map Prod.fst).getLastD x

/-- What each call stopped at. -/
def faults (d : Dialect) (x : Session) (calls : List Call) : List (Option Fault) :=
  (x.steps d calls).map Prod.snd

theorem run_cons (d : Dialect) (x : Session) (call : Call) (calls : List Call) :
    x.run d (call :: calls) = (x.apply d call).1.run d calls := by
  rw [run, steps, List.map_cons, List.getLastD_cons, run]

theorem scopeOf_masked (scope : Scope) (m : Masking) (call : Call) :
    scopeOf scope (call.masked m) = scopeOf scope call := by
  cases call <;> simp [scopeOf, Call.masked]

variable {d : Dialect} {p : PlaceholderStyle} {x y : Session}

/-- One call: what it writes and the fault at which it stops do not depend on values or on
placeholders. -/
theorem apply_alike {call call' : Call} (hxy : x.Alike y)
    (hcall : call.masked .values = call'.masked .values) :
    (x.apply d call).1.Alike (y.apply (d.withPlaceholders p) call').1 ∧
      (x.apply d call).2 = (y.apply (d.withPlaceholders p) call').2 := by
  have hleft := call.masked_draft .values d p x.scope
  have hright := call'.masked_draft .values (d.withPlaceholders p) p x.scope
  have hdraft : (call.draft d x.scope).masked .values =
      (call'.draft (d.withPlaceholders p) y.scope).masked .values := by
    rw [← hleft, hcall, ← hxy.scope]
    exact hright
  have hfault : (call.draft d x.scope).fault =
      (call'.draft (d.withPlaceholders p) y.scope).fault := by
    simpa using congrArg Draft.fault hdraft
  refine ⟨⟨?_, ?_⟩, hfault⟩
  · show scopeOf x.scope call = scopeOf y.scope call'
    rw [← scopeOf_masked x.scope .values call, hcall, scopeOf_masked, hxy.scope]
  · show (x.tokens ++ _).map _ = (y.tokens ++ _).map _
    rw [List.map_append, List.map_append, hxy.tokens]
    exact congrArg _ (congrArg Draft.tokens hdraft)

/-- All of a run, call by call. -/
theorem run_alike {calls calls' : List Call} (hxy : x.Alike y) (h : SameButValues calls calls') :
    (x.run d calls).Alike (y.run (d.withPlaceholders p) calls') ∧
      x.faults d calls = y.faults (d.withPlaceholders p) calls' := by
  induction calls generalizing x y calls' with
  | nil =>
    obtain rfl : calls' = [] := by simpa [SameButValues] using h
    exact ⟨hxy, rfl⟩
  | cons call calls ih =>
    obtain _ | ⟨call', calls'⟩ := calls'
    · simp [SameButValues] at h
    obtain ⟨hcall, hcalls⟩ := List.cons.inj h
    obtain ⟨hstep, hfault⟩ := apply_alike (d := d) (p := p) hxy hcall
    obtain ⟨hrun, hfaults⟩ := ih hstep hcalls
    rw [run_cons, run_cons]
    refine ⟨hrun, ?_⟩
    show _ :: (x.apply d call).1.faults d calls = _ :: faults _ _ _
    rw [hfault, hfaults]

/-- What is written stays, as far as text and binds go. -/
def Extends (d : Dialect) (x y : Session) : Prop :=
  (x.rendering d).sql.toList <+: (y.rendering d).sql.toList ∧
    (x.rendering d).binds <+: (y.rendering d).binds

theorem apply_extends (d : Dialect) (x : Session) (call : Call) :
    x.Extends d (x.apply d call).1 := by
  simp only [Extends, rendering, Token.rendering, apply, String.toList_ofList,
    Token.layout_append, Token.binds_append]
  exact ⟨List.prefix_append _ _, List.prefix_append _ _⟩

theorem isChain_steps (d : Dialect) (x : Session) (calls : List Call) :
    List.IsChain (Extends d) (x :: (x.steps d calls).map Prod.fst) := by
  induction calls generalizing x with
  | nil => exact .singleton x
  | cons call calls ih => exact .cons_cons (x.apply_extends d call) (ih _)

/-- Every run weaves its text from chunks around the placeholders. A run of the same calls with
other values or other placeholders weaves the same chunks and stops at the same faults. No call
takes anything back. -/
theorem values_apart_from_text (d : Dialect) (calls : List Call) :
    (∃ chunks : List (List Char),
      chunks.length = ((run d {} calls).rendering d).binds.length + 1 ∧
      ((run d {} calls).rendering d).sql.toList = d.woven 0 chunks ∧
      ∀ (p : PlaceholderStyle) (calls' : List Call), SameButValues calls calls' →
        chunks.length =
          ((run (d.withPlaceholders p) {} calls').rendering
            (d.withPlaceholders p)).binds.length + 1 ∧
        ((run (d.withPlaceholders p) {} calls').rendering (d.withPlaceholders p)).sql.toList =
          (d.withPlaceholders p).woven 0 chunks ∧
        faults (d.withPlaceholders p) {} calls' = faults d {} calls) ∧
    List.IsChain (Extends d) ({} :: (steps d {} calls).map Prod.fst) := by
  refine ⟨⟨Token.chunks d (run d {} calls).tokens, ?_, ?_, fun p calls' h => ?_⟩,
    isChain_steps d {} calls⟩
  · exact Token.length_chunks d _
  · rw [← Token.layout_eq_woven]
    exact String.toList_ofList
  · obtain ⟨hrun, hfaults⟩ := run_alike (d := d) (p := p) (x := {}) (y := {}) ⟨rfl, rfl⟩ h
    have hchunks : Token.chunks d (run d {} calls).tokens =
        Token.chunks (d.withPlaceholders p) (run (d.withPlaceholders p) {} calls').tokens := by
      rw [Token.chunks_withPlaceholders, ← Token.chunks_masked_values, hrun.tokens,
        Token.chunks_masked_values]
    rw [hchunks]
    refine ⟨Token.length_chunks _ _, ?_, hfaults.symm⟩
    rw [← Token.layout_eq_woven]
    exact String.toList_ofList

/-- Two passwords after a call that stops midway: the same chunks, the same faults. -/
theorem passwords_apart_from_text :
    let calls (password : String) : List Call :=
      [.sql "SELECT ", .expr (.binary (.bind (.int 1)) .eq (.isIn (.col "a") [] false)),
        .bind (.text password)]
    let x := run .mysql {} (calls "hunter2")
    let y := run (.withPlaceholders .mysql .dollar) {} (calls "' OR 1=1 --")
    SameButValues (calls "hunter2") (calls "' OR 1=1 --") ∧
      (x.rendering .mysql).sql = "SELECT ? = (?" ∧
      (y.rendering (.withPlaceholders .mysql .dollar)).sql = "SELECT $1 = ($2" ∧
      ∃ chunks : List (List Char), chunks.length = 3 ∧
        "SELECT ? = (?".toList = Dialect.mysql.woven 0 chunks ∧
        "SELECT $1 = ($2".toList = (Dialect.mysql.withPlaceholders .dollar).woven 0 chunks ∧
        faults (.withPlaceholders .mysql .dollar) {} (calls "' OR 1=1 --") =
          [none, some (.emptyClause .expression .inList), none] := by
  intro calls x y
  have hsame : SameButValues (calls "hunter2") (calls "' OR 1=1 --") := rfl
  have hquestion : (x.rendering .mysql).sql = "SELECT ? = (?" := by decide
  have hdollar : (y.rendering (.withPlaceholders .mysql .dollar)).sql = "SELECT $1 = ($2" := by
    decide
  obtain ⟨⟨chunks, hlength, htext, hother⟩, -⟩ := values_apart_from_text .mysql (calls "hunter2")
  obtain ⟨-, htext', hfaults⟩ := hother .dollar (calls "' OR 1=1 --") hsame
  rw [hquestion] at htext
  rw [hdollar] at htext'
  exact ⟨hsame, hquestion, hdollar, chunks, hlength, htext, htext', hfaults⟩

end Session

end PolySql
