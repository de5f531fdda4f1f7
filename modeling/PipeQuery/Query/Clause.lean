import PipeQuery.Pattern.Matching
import PipeQuery.Pattern.Reader
import PipeQuery.Query.QueryError
import PipeQuery.Record.Basic
import PipeQuery.Text.Search

/-!
# Clauses

A clause compares one field of a record with an operand. It never holds of a field that is missing or of
another kind than the operand, whatever its operator. Of patterns it only asks whether a text is one and
whether the pattern occurs in a field, and no proof about clauses looks at how either is found out.
-/

set_option autoImplicit false

namespace PipeQuery

inductive Operand where
  | text (value : String)
  | number (value : Number)
  | timestamp (value : Timestamp)
  | bool (value : Bool)
  | pattern (value : Pattern)
  | set (members : List Operand)

namespace Operand

/-- The order of a field relative to the operand, where they are of one kind. A text that is a date
literal is a point in time beside one. -/
def compare? : Operand → FieldValue → Option Ordering
  | .text value, .text field => some (compare field value)
  | .number value, .number field => field.compare? value
  | .timestamp value, .timestamp field => some (field.compare value)
  | .timestamp value, .text field =>
    (parseDateLiteral field).map (fun instant => (Timestamp.ofInstant instant).compare value)
  | .bool value, .bool field => some (compare field value)
  | _, _ => none

def ofScalar (operator : Operator) : Argument → Except QueryError Operand
  | .bool value => .ok (.bool value)
  | .number value => .ok (.number value)
  | .str content => .ok (.text content)
  | .bare word => .ok (.text word)
  | .instant value => .ok (.timestamp (.ofInstant value))
  | .list _ => .error (.unsupportedOperand operator .list)
  | .map _ => .error (.unsupportedOperand operator .map)

/-- The operand that an argument denotes under an operator. Matching takes the text of a pattern,
membership a list of scalars, the other operators on texts a text. -/
def ofArgument (operator : Operator) (argument : Argument) : Except QueryError Operand :=
  match operator with
  | .regex =>
    match argument.text? with
    | none => .error (.unsupportedOperand operator argument.kind)
    | some source =>
      match Pattern.ofText? source with
      | none => .error (.invalidPattern source)
      | some found => .ok (.pattern found)
  | .isIn =>
    match argument.items? with
    | none => .error (.unsupportedOperand operator argument.kind)
    | some items => (items.mapM (ofScalar operator)).map .set
  | _ =>
    if operator.isText && argument.text?.isNone then
      .error (.unsupportedOperand operator argument.kind)
    else ofScalar operator argument

end Operand

structure Clause where
  field : String
  operator : Operator
  operand : Operand

namespace Clause

def ofArgument (field : String) (operator : Operator) (argument : Argument) :
    Except QueryError Clause :=
  (Operand.ofArgument operator argument).map (fun operand => ⟨field, operator, operand⟩)

/-- Whether an operator on texts holds between a field and an operand. Matching takes a pattern, so it
holds of no text. -/
def textHolds (operator : Operator) (field operand : String) : Bool :=
  match operator with
  | .startsWith => Text.startsWith field operand
  | .endsWith => Text.endsWith field operand
  | .contains => Text.contains field operand
  | _ => false

def holds (clause : Clause) (value : FieldValue) : Bool :=
  match clause.operand, value with
  | _, .missing => false
  | .pattern pattern, .text text => pattern.occursIn text
  | .set members, value =>
    clause.operator == .isIn && members.any (fun member => member.compare? value == some .eq)
  | operand, value =>
    match operand, value with
    | .text part, .text text =>
      if clause.operator.isText then textHolds clause.operator text part
      else clause.operator.holds (compare text part)
    | _, _ => (operand.compare? value).any clause.operator.holds

end Clause

end PipeQuery
