import Imprint.Document.Skipping

/-!
# Document — metadata as JSON, read

`Document.read` reads the octets of a document one by one; `State` is what is known between two of
them.  Every octet either moves the state on or shows a problem, so the first problem in reading
order decides, and where the octets end the state says what the document lacks.

* The object form holds the fields as members, in any order; members that are no fields are
  skipped.  A field that occurs twice is refused at its second key.
* The array form holds the values in the order of `Field.all`; the version may be left out.
* A value of the wrong kind is refused once its kind and, for a scalar, its value are known.
-/

namespace Imprint.Document

/-- The fields read so far, in reading order. -/
abbrev Members := List (Field × Option Text)

namespace Members

/-- The value of a field that has to be there. -/
def require (ms : Members) (f : Field) : Except Problem Text :=
  match ms.lookup f with
  | some (some t) => .ok t
  | _             => .error (.missing f)

/-- The metadata that all the members make up; only the version may be missing. -/
def metadata (ms : Members) : Except Problem Metadata := do
  let buildString ← ms.require .buildString
  let toolchain ← ms.require .toolchain
  let buildDate ← ms.require .buildDate
  return ⟨buildString, toolchain, buildDate, (ms.lookup .version).join⟩

end Members

/-- A field whose value is to be read, with the members before it. -/
structure Slot where
  members : Members
  field   : Field
  inArray : Bool
  deriving DecidableEq, Repr

/-- A document as far as it was read. -/
inductive State where
  | start
  -- a value of the wrong kind
  | wrongWord (expected : Expected) (left : Bytes) (found : Found)
  | wrongNumber (expected : Expected) (phase : Phase) (read : Bytes)
  | wrongText (q : Quotation)
  -- the object form
  | objectStart
  | beforeKey (members : Members)
  | inKey (members : Members) (q : Quotation)
  | afterKey (members : Members) (field : Option Field)
  | afterMember (members : Members)
  | skipping (members : Members) (skip : Skip)
  -- the array form
  | arrayStart
  | afterElement (members : Members)
  -- the value of a field
  | beforeValue (slot : Slot)
  | inText (slot : Slot) (q : Quotation)
  | inNull (slot : Slot) (left : Bytes)
  -- the whole document
  | done (m : Metadata)
  deriving DecidableEq, Repr

namespace Slot

/-- The state after the value of the slot. -/
def fill (s : Slot) (value : Option Text) : State :=
  let members := s.members ++ [(s.field, value)]
  if s.inArray then .afterElement members else .afterMember members

end Slot

namespace State

/-- An octet that begins a value of the wrong kind. -/
def beginWrong (expected : Expected) (b : UInt8) : Except Problem State :=
  if b = octet '[' then .error (.wrongKind .sequence expected)
  else if b = octet '\x7b' then .error (.wrongKind .map expected)
  else match word? b, Phase.begin? b with
    | some (left, found), _ => .ok (.wrongWord expected left found)
    | none, some p          => .ok (.wrongNumber expected p [b])
    | none, none            => .error .malformed

/-- The problem with a numeral of the wrong kind; its octets stand last first. -/
def wrongNumeral (expected : Expected) (p : Phase) (read : Bytes) : Problem :=
  match (Numeral.parse read.reverse).value? (p = .zero || p = .whole) with
  | some (.inl n) => .wrongKind (.integer n) expected
  | some (.inr t) => .wrongKind (.real t) expected
  | none          => .malformed

/-- An octet where the value of a field has to begin. -/
def beginValue (slot : Slot) (b : UInt8) : Except Problem State :=
  if isBlank b then .ok (.beforeValue slot)
  else if b = octet '"' then .ok (.inText slot .opened)
  else if b = octet 'n' ∧ slot.field = .version then .ok (.inNull slot ("ull".toList.map octet))
  else beginWrong .text b

/-- An octet after a member or, where there is none yet, after the opening brace. -/
def closeObject (members : Members) (b : UInt8) (otherwise : Except Problem State) :
    Except Problem State :=
  if b = octet '\x7d' then members.metadata.map .done else otherwise

/-- The state after a key. -/
def readKey (members : Members) (key : Text) : Except Problem State :=
  match Field.ofKey? key with
  | some f => if (members.lookup f).isSome then .error (.duplicate f) else .ok (.afterKey members f)
  | none   => .ok (.afterKey members none)

/-- An octet after a member. -/
def nextMember (members : Members) (b : UInt8) : Except Problem State :=
  if isBlank b then .ok (.afterMember members)
  else closeObject members b <|
    if b = octet ',' then .ok (.beforeKey members) else .error .malformed

/-- An octet after an element. -/
def nextElement (members : Members) (b : UInt8) : Except Problem State :=
  if isBlank b then .ok (.afterElement members)
  else if b = octet ']' then
    if members.length < 3 then .error (.tooShort members.length) else members.metadata.map .done
  else if b = octet ',' then
    match Field.all[members.length]? with
    | some f => .ok (.beforeValue ⟨members, f, true⟩)
    | none   => .error .malformed
  else .error .malformed

/-- One octet. -/
def next (s : State) (b : UInt8) : Except Problem State :=
  match s with
  | .start =>
    if isBlank b then .ok s
    else if b = octet '\x7b' then .ok .objectStart
    else if b = octet '[' then .ok .arrayStart
    else if b = octet '"' then .ok (.wrongText .opened)
    else beginWrong .metadata b
  | .wrongWord _ [] _ => .error .malformed
  | .wrongWord expected [c] found =>
    if b = c then .error (.wrongKind found expected) else .error .malformed
  | .wrongWord expected (c :: left) found =>
    if b = c then .ok (.wrongWord expected left found) else .error .malformed
  | .wrongNumber expected p read =>
    match p.next b with
    | .on p   => .ok (.wrongNumber expected p (b :: read))
    | .over   => .error (wrongNumeral expected p read)
    | .broken => .error .malformed
  | .wrongText q => do
    match ← q.next b with
    | .inl q => .ok (.wrongText q)
    | .inr t => .error (.wrongKind (.text t) .metadata)
  | .objectStart =>
    if isBlank b then .ok s
    else closeObject [] b <|
      if b = octet '"' then .ok (.inKey [] .opened) else .error .malformed
  | .beforeKey members =>
    if isBlank b then .ok s
    else if b = octet '"' then .ok (.inKey members .opened) else .error .malformed
  | .inKey members q => do
    match ← q.next b with
    | .inl q   => .ok (.inKey members q)
    | .inr key => readKey members key
  | .afterKey members field =>
    if isBlank b then .ok s
    else if b = octet ':' then
      match field with
      | some f => .ok (.beforeValue ⟨members, f, false⟩)
      | none   => .ok (.skipping members (.value []))
    else .error .malformed
  | .afterMember members => nextMember members b
  | .skipping members skip => do
    match ← skip.next b with
    | .on skip => .ok (.skipping members skip)
    | .ended   => .ok (.afterMember members)
    | .passed  => nextMember members b
  | .arrayStart =>
    if isBlank b then .ok s
    else if b = octet ']' then .error (.tooShort 0)
    else beginValue ⟨[], .buildString, true⟩ b
  | .afterElement members => nextElement members b
  | .beforeValue slot => beginValue slot b
  | .inText slot q => do
    match ← q.next b with
    | .inl q => .ok (.inText slot q)
    | .inr t => .ok (slot.fill (some t))
  | .inNull _ [] => .error .malformed
  | .inNull slot [c] => if b = c then .ok (slot.fill none) else .error .malformed
  | .inNull slot (c :: left) => if b = c then .ok (.inNull slot left) else .error .malformed
  | .done _ => if isBlank b then .ok s else .error .malformed

/-- What the octets make where they end. -/
def finish : State → Except Problem Metadata
  | .done m                      => .ok m
  | .skipping _ skip             => .error skip.problem
  | .wrongNumber expected p read =>
    .error (if p.complete then wrongNumeral expected p read else .truncated)
  | _                            => .error .truncated

/-- The octets from this state on. -/
def run (s : State) : Bytes → Except Problem State
  | []      => .ok s
  | b :: bs =>
    match s.next b with
    | .ok s    => s.run bs
    | .error p => .error p

/-- Reading goes on where it stopped. -/
theorem run_append (s : State) : ∀ bs bs' : Bytes, s.run (bs ++ bs') = (s.run bs).bind (·.run bs')
  | [], _       => rfl
  | b :: bs, bs' => by
      simp only [List.cons_append, run]
      cases s.next b with
      | error p => rfl
      | ok s    => exact run_append s bs bs'

end State

/-- The metadata of a document, or why it is refused. -/
def read (bs : Bytes) : Except Problem Metadata := do
  (← State.start.run bs).finish

end Imprint.Document
