import Wordsmith.Token.Tree

/-!
# What stands below a token

The functions that read the content of a token are defined by recursion on its size, so they keep a
proof that the content is smaller. Here are their equations without it, and the induction that goes
with them: what holds of a sequence of tokens if it holds of every sequence in a field of one of
them, holds of all sequences. What is no record is no token, wherever it stands.
-/

namespace Wordsmith

open Datum Token

namespace Node

/-! ## Equations

The equations name the fields, `children` or `text`, and what is made of a value of each kind. Proofs
about the readers rewrite with these and never unfold the definitions. -/

/-- A text is a node unless it is empty, a list is read token by token, and anything else has no nodes.
-/
theorem ofContent_eq (d : Datum) :
    ofContent d = match d with
      | .text t => .ok (if t.isEmpty then [] else [ofText t])
      | .list ds => ofTokens ds
      | _ => .ok [] := by
  cases d <;> simp [ofContent]

/-- The children of a token. -/
theorem content_eq (fs : List (Text × Datum)) :
    content fs = match field? "children" fs with
      | some d => ofContent d
      | none => .ok [] := by
  rw [content]
  split <;> simp [*]

/-- The text of a token, read like children. -/
theorem textContent_eq (fs : List (Text × Datum)) :
    textContent fs = match field? "text" fs with
      | some d => ofContent d
      | none => .ok [] := by
  rw [textContent]
  split <;> simp [*]

/-- The rows of a table are those of its sections. A value of another kind is an error unless it can be
walked through without finding anything. -/
theorem tableRows_eq (fs : List (Text × Datum)) :
    tableRows fs = match field? "children" fs with
      | none => .ok []
      | some (.list ds) => sections ds
      | some d => do
        discard d.items
        return [] := by
  rw [tableRows]
  split <;> simp [*]

/-- A row of cells. -/
theorem row_eq (header : Bool) (fs : List (Text × Datum)) :
    row header fs = match field? "children" fs with
      | none => .ok { kind := .tableRow }
      | some (.list ds) => do return { kind := .tableRow, children := ← cells header ds }
      | some d => do
        discard d.items
        return { kind := .tableRow } := by
  rw [row]
  split <;> simp [*]

/-- A head or a body: one row if it starts with a cell, and rows otherwise. -/
theorem sectionRows_eq (header : Bool) (fs : List (Text × Datum)) :
    sectionRows header fs = match field? "children" fs with
      | none => .ok []
      | some (.list ds) => do
        if ← startsWithCell ds then
          return [{ kind := .tableRow, children := ← cells header ds }]
        else rows header ds
      | some d => do
        if d.isTruthy then discard d.items
        return [] := by
  rw [sectionRows]
  split <;> simp [*]

section NoToken

variable {d : Datum} (h : ∀ fs, d ≠ .record fs)

include h

/-! ## No token

Only a record has fields. Each reader stops at anything else, with the same error. -/

/-- It cannot be read as a token. -/
theorem ofToken_of_ne : ofToken d = .error .noFields := by
  rw [ofToken]
  exact h

/-- Nor can a list that starts with it. -/
theorem ofTokens_cons_of_ne (ds : List Datum) : ofTokens (d :: ds) = .error .noFields := by
  rw [ofTokens, ofToken_of_ne h]
  rfl

/-- It is no part of a table. -/
theorem sections_cons_of_ne (ds : List Datum) : sections (d :: ds) = .error .noFields := by
  rw [sections]
  exact h

/-- It is no row. -/
theorem rows_cons_of_ne (header : Bool) (ds : List Datum) :
    rows header (d :: ds) = .error .noFields := by
  rw [rows]
  exact h

/-- It is no cell. -/
theorem cells_cons_of_ne (header : Bool) (ds : List Datum) :
    cells header (d :: ds) = .error .noFields := by
  rw [cells]
  exact h

end NoToken

end Node

/-! ## Induction

The readers of tokens, rows and cells call each other on the lists below a token, and all these lists
stand in fields. -/

/-- The induction is on the size of the sequence: a list in a field of a token is smaller than the
token. -/
@[elab_as_elim]
theorem Token.sequence_induction {motive : List Datum → Prop}
    (step : ∀ ds, (∀ fs, .record fs ∈ ds →
      ∀ name cs, field? name fs = some (.list cs) → motive cs) → motive ds)
    (ds : List Datum) : motive ds :=
  step ds fun fs hfs _ cs hcs => by
    have hfield := sizeOf_field?_lt hcs
    have hmem := List.sizeOf_lt_of_mem hfs
    have hsmaller : sizeOf cs < sizeOf ds := by
      simp only [Datum.record.sizeOf_spec, Datum.list.sizeOf_spec] at hfield hmem
      omega
    exact sequence_induction step cs
termination_by sizeOf ds

end Wordsmith
