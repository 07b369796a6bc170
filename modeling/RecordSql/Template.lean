import RecordSql.Dialect.Name
import RecordSql.Fault
import RecordSql.Model.Basic
import RecordSql.Number.Power
import RecordSql.Statement
import RecordSql.Text.Digits

/-!
# Templates

A template is a statement whose text has tokens that start with a dollar sign. They are replaced in one pass from left to right:
`$$` by a dollar sign, `$ModelName` and `$Columns` by the table and the columns of a model unless another fragment is supplied,
`$Values` and `$Conditions` by the supplied fragments, and `$FN-` with a field name, or `$0x` with the position of a field, by the
column of that field. Quoted sections are copied, what is put in is not read again, and every placeholder of the template takes the
next of its own arguments. A template is rendered character by character (`render`) or by copying slices of it (`render?`).
-/

namespace RecordSql

/-- The model and the fragments that the tokens of a template stand for. -/
structure TemplateContext where
  model : Model
  fragments : List (String × Statement) := []

namespace TemplateContext

/-- The context with a fragment for a name, in place of an earlier one. -/
def supply (ctx : TemplateContext) (name : String) (fragment : Statement) : TemplateContext :=
  { ctx with fragments := (name, fragment) :: ctx.fragments }

/-- The fragment for a name. -/
def fragment? (ctx : TemplateContext) (name : String) : Option Statement :=
  ctx.fragments.lookup name

end TemplateContext

namespace Template

/-- Whether a character can be part of a name in a token. -/
def isWordChar (c : Char) : Bool :=
  c.isAlphanum || c == '_'

/-- The length of the token that follows a dollar sign. -/
def tokenLength : List Char → Nat
  | '$' :: _ => 1
  | '0' :: 'x' :: cs => 2 + (cs.takeWhile fun c => (Text.hexValue? c).isSome).length
  | 'F' :: 'N' :: '-' :: cs => 3 + (cs.takeWhile isWordChar).length
  | cs => (cs.takeWhile isWordChar).length

/-- The position written by hexadecimal digits, if it is a number of 64 bits. -/
def offset? (digits : List Char) : Option Nat :=
  if digits.isEmpty then none
  else (Text.hexDigitsValue 0 digits).filter (· < Number.twoTo 64)

/-- The fragment for a token that is the name of a fragment. -/
def named? (d : Dialect) (ctx : TemplateContext) (name : String) : Option Statement :=
  if name = "ModelName" then
    some ((ctx.fragment? name).getD (.ofText (d.quoteName ctx.model.name)))
  else if name = "Columns" then
    some ((ctx.fragment? name).getD (.ofText (d.quoteNames ctx.model.columns)))
  else if name = "Values" ∨ name = "Conditions" then
    ctx.fragment? name
  else
    none

/-- What a token stands for. -/
def substitute? (d : Dialect) (ctx : TemplateContext) : List Char → Option Statement
  | ['$'] => some (.ofText "$")
  | '0' :: 'x' :: digits => do
    let f ← ctx.model.fieldAt? (← offset? digits)
    some (.ofText (d.quoteName f.column))
  | 'F' :: 'N' :: '-' :: name => do
    let f ← ctx.model.field? (String.ofList name)
    some (.ofText (d.quoteName f.column))
  | name => named? d ctx (String.ofList name)

/-- The rest of a template after a scanner in section `s`, with the arguments that are left for it and those left after it. The
template as a whole has `total` arguments. -/
def renderFrom (d : Dialect) (ctx : TemplateContext) (total : Nat) (s : Text.Section) (args : List Value) :
    List Char → Except Fault (Statement × List Value)
  | [] => .ok (.empty, args)
  | c :: cs =>
    if s.isNone && c == '?' then
      match args with
      | [] => .error (.tooFewArguments total)
      | v :: args => do
        let (rest, left) ← renderFrom d ctx total s args cs
        .ok (⟨"?", [v]⟩ ++ rest, left)
    else if s.isNone && c == '$' then
      let token := cs.take (tokenLength cs)
      match substitute? d ctx token with
      | none => .error (.unknownPlaceholder (String.ofList ('$' :: token)))
      | some fragment => do
        let (rest, left) ← renderFrom d ctx total s args (cs.drop (tokenLength cs))
        .ok (fragment ++ rest, left)
    else do
      let (rest, left) ← renderFrom d ctx total (s.step c) args cs
      .ok (.ofText (String.singleton c) ++ rest, left)
termination_by cs => cs.length
decreasing_by
  all_goals
    simp only [List.length_cons, List.length_drop]
    omega

/-- What a template with `total` arguments comes to when some arguments are left at its end. Every argument must be taken by a
placeholder. -/
def close (total : Nat) : Except Fault (Statement × List Value) → Except Fault Statement
  | .error f => .error f
  | .ok (statement, []) => .ok statement
  | .ok (_, _ :: _) => .error (.tooManyArguments total)

/-- A template with its tokens replaced. -/
def render (d : Dialect) (skeleton : Statement) (ctx : TemplateContext) : Except Fault Statement :=
  close skeleton.args.length (renderFrom d ctx skeleton.args.length none skeleton.args skeleton.sql.toList)

/-- Goes over the characters of a template in section `s`, with what is written so far, which holds all that stands before the byte
`copied`, and the arguments that are left. At a placeholder and at a token the stretch up to it is copied; the characters of a token are
passed over. -/
def appendRenderedFrom? (d : Dialect) (ctx : TemplateContext) (total : Nat) (text : String) (out : Statement) (copied : Nat)
    (s : Text.Section) (args : List Value) : List (Nat × Char) → Option (Except Fault (Statement × List Value))
  | [] => do
    let stretch ← Text.slice? text copied text.utf8ByteSize
    some (.ok (out ++ .ofText stretch, args))
  | (position, c) :: rest =>
    if s.isNone && c == '?' then do
      let stretch ← Text.slice? text copied position
      match args with
      | [] => some (.error (.tooFewArguments total))
      | v :: args =>
        appendRenderedFrom? d ctx total text (out ++ .ofText stretch ++ ⟨"?", [v]⟩) (position + 1) s args rest
    else if s.isNone && c == '$' then do
      let stretch ← Text.slice? text copied position
      let following ← Text.slice? text (position + 1) text.utf8ByteSize
      let token ← Text.slice? following 0 (tokenLength following.toList)
      match substitute? d ctx token.toList with
      | none => some (.error (.unknownPlaceholder ("$" ++ token)))
      | some fragment =>
        let next := position + 1 + tokenLength following.toList
        appendRenderedFrom? d ctx total text (out ++ .ofText stretch ++ fragment) next s args (rest.dropWhile (·.1 < next))
    else
      appendRenderedFrom? d ctx total text out copied (s.step c) args rest
termination_by rest => rest.length
decreasing_by
  · exact Nat.lt_succ_self _
  · exact Nat.lt_succ_of_le (List.dropWhile_sublist _).length_le
  · exact Nat.lt_succ_self _

/-- A template with its tokens replaced, written by slices. Nothing comes of it where a stretch or a token would start or end inside a
character. -/
def render? (d : Dialect) (skeleton : Statement) (ctx : TemplateContext) : Option (Except Fault Statement) :=
  (appendRenderedFrom? d ctx skeleton.args.length skeleton.sql .empty 0 none skeleton.args
    (Text.positioned 0 skeleton.sql.toList)).map (close skeleton.args.length)

end Template

end RecordSql
