import Imprint.Document.Numeral
import Imprint.Document.Quotation

/-!
# Document — values that are skipped

The value of a member that is no field is skipped.  It has to be well formed, but it may be nested
to any depth, its numerals may have any size, and its quoted texts may hold any octets and any
escape of four hexadecimal digits.  `Skip` is what has to be remembered between two octets: the
brackets that are open, the innermost first, and what may come next.
-/

namespace Imprint.Document

/-- The octets allowed between two tokens. -/
def isBlank (b : UInt8) : Bool :=
  b = octet ' ' || b = octet '\n' || b = octet '\t' || b = octet '\r'

/-- The brackets of a nested value. -/
inductive Bracket where
  | array
  | object
  deriving DecidableEq, Repr

namespace Bracket

/-- The octet that closes the bracket. -/
def closing : Bracket → UInt8
  | .array  => octet ']'
  | .object => octet '\x7d'

end Bracket

/-- The rest of a word that a letter begins, with the value that it is. -/
def word? (b : UInt8) : Option (Bytes × Found) :=
  if b = octet 'n' then some ("ull".toList.map octet, .null)
  else if b = octet 't' then some ("rue".toList.map octet, .boolean true)
  else if b = octet 'f' then some ("alse".toList.map octet, .boolean false)
  else none

/-- Where inside a skipped text the reader is. -/
inductive Skip.Mode where
  | plain
  | escape
  /-- Among the digits of an escape, with `left + 1` still to come. -/
  | digits (left : Nat) (good : Bool)
  deriving DecidableEq, Repr

/-- A skipped value as far as it was read. -/
inductive Skip where
  /-- Before a value. -/
  | value (stack : List Bracket)
  /-- After an opening bracket. -/
  | opened (inner : Bracket) (stack : List Bracket)
  /-- After a value between brackets. -/
  | after (inner : Bracket) (stack : List Bracket)
  /-- Before the key of a member. -/
  | key (stack : List Bracket)
  /-- After the key of a member. -/
  | colon (stack : List Bracket)
  | text (stack : List Bracket) (isKey : Bool) (mode : Skip.Mode)
  | word (stack : List Bracket) (left : Bytes)
  | number (stack : List Bracket) (phase : Phase)
  deriving DecidableEq, Repr

/-- What an octet does to a skipped value. -/
inductive Skip.Step where
  | on (s : Skip)
  /-- The octet ended the value. -/
  | ended
  /-- The value had ended before the octet. -/
  | passed
  deriving DecidableEq, Repr

namespace Skip

/-- What comes next when a value has ended. -/
def close : List Bracket → Step
  | []             => .ended
  | inner :: stack => .on (.after inner stack)

/-- An octet where a value has to begin. -/
def beginValue (stack : List Bracket) (b : UInt8) : Except Problem Step :=
  if isBlank b then .ok (.on (.value stack))
  else if b = octet '"' then .ok (.on (.text stack false .plain))
  else if b = octet '[' then .ok (.on (.opened .array stack))
  else if b = octet '\x7b' then .ok (.on (.opened .object stack))
  else match word? b, Phase.begin? b with
    | some (left, _), _ => .ok (.on (.word stack left))
    | none, some p      => .ok (.on (.number stack p))
    | none, none        => .error .malformed

/-- An octet where the key of a member has to begin. -/
def beginKey (stack : List Bracket) (b : UInt8) : Except Problem Step :=
  if isBlank b then .ok (.on (.key stack))
  else if b = octet '"' then .ok (.on (.text stack true .plain))
  else .error .malformed

/-- An octet after a value between brackets. -/
def afterValue (inner : Bracket) (stack : List Bracket) (b : UInt8) : Except Problem Step :=
  if isBlank b then .ok (.on (.after inner stack))
  else if b = inner.closing then .ok (close stack)
  else if b = octet ',' then
    match inner with
    | .array  => .ok (.on (.value (inner :: stack)))
    | .object => .ok (.on (.key (inner :: stack)))
  else .error .malformed

/-- One octet. -/
def next (s : Skip) (b : UInt8) : Except Problem Step :=
  match s with
  | .value stack => beginValue stack b
  | .opened inner stack =>
    if isBlank b then .ok (.on s)
    else if b = inner.closing then .ok (close stack)
    else match inner with
      | .array  => beginValue (inner :: stack) b
      | .object => beginKey (inner :: stack) b
  | .after inner stack => afterValue inner stack b
  | .key stack => beginKey stack b
  | .colon stack =>
    if isBlank b then .ok (.on s)
    else if b = octet ':' then .ok (.on (.value stack))
    else .error .malformed
  | .text stack isKey .plain =>
    if b = octet '"' then .ok (if isKey then .on (.colon stack) else close stack)
    else if b = octet '\\' then .ok (.on (.text stack isKey .escape))
    else if b < 0x20 then .error .malformed
    else .ok (.on s)
  | .text stack isKey .escape =>
    if b = octet 'u' then .ok (.on (.text stack isKey (.digits 3 true)))
    else if (unescaped? b).isSome then .ok (.on (.text stack isKey .plain))
    else .error .malformed
  | .text stack isKey (.digits left good) =>
    let good := good && (hexValue? b).isSome
    match left with
    | left + 1 => .ok (.on (.text stack isKey (.digits left good)))
    | 0        => if good then .ok (.on (.text stack isKey .plain)) else .error .malformed
  | .word _ [] => .error .malformed
  | .word stack [c] => if b = c then .ok (close stack) else .error .malformed
  | .word stack (c :: left) => if b = c then .ok (.on (.word stack left)) else .error .malformed
  | .number stack p =>
    match p.next b, stack with
    | .on p, _               => .ok (.on (.number stack p))
    | .over, []              => .ok .passed
    | .over, inner :: stack  => afterValue inner stack b
    | .broken, _             => .error .malformed

/-- Why a document that ends inside the value is refused: a numeral that is not complete is
malformed. -/
def problem : Skip → Problem
  | .number _ p => if p.complete then .truncated else .malformed
  | _           => .truncated

end Skip

end Imprint.Document
