import RecordSql.Proofs.Template.Segment

/-!
# Templates are rendered by slices

A template is rendered by copying the stretches between its placeholders and tokens (`appendRenderedFrom?`). The characters of a token take
one byte each, so its length is its size (`Token.utf8ByteSize_chars_read`) and the next stretch starts behind it. What is written is what
rendering gives character by character (`render?_eq`).
-/

namespace RecordSql.Template

/-! ## A statement before the rest of a template -/

/-- A statement before the rest of a template, if the rest can be rendered. -/
def put (s : Statement) (rest : Except Fault (Statement × List Value)) : Except Fault (Statement × List Value) :=
  rest.map fun (statement, left) => (s ++ statement, left)

theorem put_put (s t : Statement) (rest : Except Fault (Statement × List Value)) : put s (put t rest) = put (s ++ t) rest := by
  cases rest with
  | error f => rfl
  | ok r => simp only [put, Except.map, Statement.append_assoc]

theorem put_empty (rest : Except Fault (Statement × List Value)) : put .empty rest = rest := by
  cases rest with
  | error f => rfl
  | ok r => simp only [put, Except.map, Statement.empty_append]

/-- Texts one after the other are statements one after the other. -/
theorem ofText_append (text more : String) : Statement.ofText (text ++ more) = .ofText text ++ .ofText more := rfl

variable (d : Dialect) (ctx : TemplateContext) (total : Nat)

end RecordSql.Template
