import TwoWay.Grammar.Basic
import TwoWay.Value.Record

/-!
Writing a value behind the text in a buffer.
-/

namespace TwoWay

structure Written where
  result : Except EncodeError Nat
  buffer : String

namespace Written

def append (buffer text : String) : Written :=
  ⟨.ok text.utf8ByteSize, buffer ++ text⟩

def fail (buffer : String) (error : EncodeError) : Written :=
  ⟨.error error, buffer⟩

/-- Writes more behind what is written, unless that failed. -/
def andThen (written : Written) (more : String → Written) : Written :=
  match written.result with
  | .error _ => written
  | .ok count =>
      let second := more written.buffer
      ⟨(count + ·) <$> second.result, second.buffer⟩

/-- Cuts the buffer back to its first `length` bytes after a failure. -/
def restoring (written : Written) (length : Nat) : Written :=
  match written.result with
  | .ok _ => written
  | .error error => .fail (Text.truncate length written.buffer) error

/-- Writes a value of any shape that the writer's shape can take in. -/
def ofValue {shape : Shape} (write : shape.Carrier → String → Written) (value : Value)
    (buffer : String) : Written :=
  match shape.ofValue value with
  | .ok content => write content buffer
  | .error error => .fail buffer error

def following {α : Type} (write : α → String → Written) (separator : String) :
    List α → String → Written
  | [], buffer => append buffer ""
  | item :: rest, buffer =>
      (append buffer separator).andThen fun buffer =>
        (write item buffer).andThen (following write separator rest)

def items {α : Type} (write : α → String → Written) (separator : String) :
    List α → String → Written
  | [], buffer => append buffer ""
  | item :: rest, buffer => (write item buffer).andThen (following write separator rest)

def repetition {α : Type} (nonEmpty : Bool) (write : α → String → Written) (separator : String)
    (content : List α) (buffer : String) : Written :=
  if content.length < nonEmpty.toNat then
    fail buffer (.tooFewElements nonEmpty.toNat content.length)
  else (items write separator content buffer).restoring buffer.utf8ByteSize

end Written

namespace Grammar

def unknownField? (elements : List Element) (record : Record) : Option String :=
  record.names.find? fun name => !(Element.fieldNames elements).contains name

mutual

/-- Templates and repetitions cut the buffer back when a part fails; the others add nothing before
they fail. -/
def write : {shape : Shape} → Grammar shape → shape.Carrier → String → Written
  | _, .terminal leaf, content, buffer => .append buffer (leaf.conversion.print content)
  | _, .named _ inner, content, buffer => inner.write content buffer
  | _, .optional _, none, buffer => .append buffer ""
  | _, .optional inner, some content, buffer => inner.write content buffer
  | _, .repeated nonEmpty item, content, buffer =>
      .repetition nonEmpty item.write "" content buffer
  | _, .separated nonEmpty item separator, content, buffer =>
      .repetition nonEmpty item.write (separator.canonical.getD "") content buffer
  | _, .template elements, record, buffer =>
      match unknownField? elements record with
      | some name => .fail buffer (.unknownField name)
      | none => (writeElements elements record buffer).restoring buffer.utf8ByteSize
  | _, .choice branches, tagged, buffer =>
      writeBranch branches (Branch.names branches) tagged buffer
  | _, .erased inner, value, buffer => .ofValue inner.write value buffer

def writeElements : List Element → Record → String → Written
  | [], _, buffer => .append buffer ""
  | .literal text :: rest, record, buffer =>
      (Written.append buffer text).andThen (writeElements rest record)
  | .field name part :: rest, record, buffer =>
      match record.get? name with
      | some value => (Written.ofValue part.write value buffer).andThen (writeElements rest record)
      | none => .fail buffer (.missingField name)
  | .skip part :: rest, record, buffer =>
      (Written.append buffer (part.canonical.getD "")).andThen (writeElements rest record)

def writeBranch : List Branch → List String → Tagged → String → Written
  | [], names, _, buffer => .fail buffer (.tagMissing names)
  | .mk name body :: rest, names, tagged, buffer =>
      if name = tagged.tag then .ofValue body.write tagged.content buffer
      else writeBranch rest names tagged buffer

end

/-- Writes a value of any shape that the grammar's shape can take in. -/
def writeValue {shape : Shape} (grammar : Grammar shape) (value : Value) (buffer : String) :
    Written :=
  .ofValue grammar.write value buffer

def encode {shape : Shape} (grammar : Grammar shape) (content : shape.Carrier) :
    Except EncodeError String :=
  let written := grammar.write content ""
  (fun _ => written.buffer) <$> written.result

end Grammar

end TwoWay
