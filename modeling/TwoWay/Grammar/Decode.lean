import TwoWay.Grammar.Basic
import TwoWay.Value.Record

/-!
Decoding a text at a cursor.
-/

namespace TwoWay.Grammar

mutual

def decode : {shape : Shape} → Grammar shape → Cursor → Outcome shape.Carrier
  | _, .terminal leaf, cursor => leaf.decode cursor
  | _, .named _ inner, cursor => inner.decode cursor
  | _, .optional inner, cursor => (inner.decode cursor).optional cursor
  | _, .repeated nonEmpty item, cursor => .repetition nonEmpty .ok item.decode cursor
  | _, .separated nonEmpty item separator, cursor =>
      .repetition nonEmpty (fun here => (separator.decode here).map Decoded.cursor) item.decode
        cursor
  | _, .template elements, cursor => decodeElements elements cursor .empty
  | _, .choice branches, cursor =>
      decodeBranches branches cursor (Branch.names branches) cursor.offset
  | _, @erased shape inner, cursor => (inner.decode cursor).mapValue shape.toValue

def decodeElements : List Element → Cursor → Record → Outcome Record
  | [], cursor, record => .ok ⟨record, cursor⟩
  | .literal text :: rest, cursor, record =>
      match cursor.expect text with
      | .ok next => decodeElements rest next record
      | .error fault => .error fault
  | @Element.field shape name part :: rest, cursor, record =>
      match part.decode cursor with
      | .ok decoded =>
          decodeElements rest decoded.cursor (record.set name (shape.toValue decoded.value))
      | .error fault => .error fault
  | .skip part :: rest, cursor, record =>
      match part.decode cursor with
      | .ok decoded => decodeElements rest decoded.cursor record
      | .error fault => .error fault

/-- Branches in order at the same cursor; `furthest` is how far the earlier ones got. -/
def decodeBranches : List Branch → Cursor → List String → Nat → Outcome Tagged
  | [], cursor, tried, furthest => .fail (.alternativesExhausted cursor.offset furthest tried)
  | @Branch.mk shape name body :: rest, cursor, tried, furthest =>
      match body.decode cursor with
      | .ok decoded => .ok ⟨⟨name, shape.toValue decoded.value⟩, decoded.cursor⟩
      | .error fault =>
          match fault.recoverable? with
          | some error => decodeBranches rest cursor tried (max furthest error.offset)
          | none => .error fault

end

def decodeValue {shape : Shape} (grammar : Grammar shape) (cursor : Cursor) : Outcome Value :=
  (grammar.decode cursor).mapValue shape.toValue

end TwoWay.Grammar
