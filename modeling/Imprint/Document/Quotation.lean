import Imprint.Text.Utf8
import Imprint.Document.Problem

/-!
# Document — quoted texts

A quoted text is read octet by octet from its opening quote on.  Its octets are gathered, each
escape as the octets of its character, and only the closing quote asks whether they are UTF-8.
A text that has no closing quote is cut short, whatever else it holds.

* An escape by four hexadecimal digits is judged when all four are there.
* A high surrogate has to be followed at once by the escape of a low one; together they are one
  character.
-/

namespace Imprint.Document

/-- The value of a hexadecimal digit, in either case. -/
def hexValue? (b : UInt8) : Option Nat :=
  if octet '0' ≤ b ∧ b ≤ octet '9' then some (b.toNat - 0x30)
  else if octet 'a' ≤ b ∧ b ≤ octet 'f' then some (b.toNat - 0x57)
  else if octet 'A' ≤ b ∧ b ≤ octet 'F' then some (b.toNat - 0x37)
  else none

/-- The value of hexadecimal digits. -/
def hexNumber? (bs : Bytes) : Option Nat :=
  bs.foldl (fun n b => do return 16 * (← n) + (← hexValue? b)) (some 0)

/-- The character that a letter after a backslash stands for. -/
def unescaped? (b : UInt8) : Option Char :=
  if b = octet '"' then some '"'
  else if b = octet '\\' then some '\\'
  else if b = octet '/' then some '/'
  else if b = octet 'b' then some '\x08'
  else if b = octet 'f' then some '\x0c'
  else if b = octet 'n' then some '\n'
  else if b = octet 'r' then some '\r'
  else if b = octet 't' then some '\t'
  else none

/-- Where inside a quoted text the reader is. -/
inductive Quotation.Mode where
  | plain
  /-- After a backslash. -/
  | escape
  /-- Among the digits of an escape, where `high` is the surrogate read before it. -/
  | digits (high : Option Nat) (read : Bytes)
  /-- After the surrogate `high`. -/
  | surrogate (high : Nat)
  /-- After the surrogate `high` and a backslash. -/
  | surrogateEscape (high : Nat)
  deriving DecidableEq, Repr

/-- A quoted text as far as it was read; its octets stand last first. -/
structure Quotation where
  octets : Bytes
  mode   : Quotation.Mode
  deriving DecidableEq, Repr

namespace Quotation

/-- After the opening quote. -/
def opened : Quotation := ⟨[], .plain⟩

/-- One more character. -/
def push (q : Quotation) (c : Char) : Quotation :=
  ⟨(String.utf8EncodeChar c).reverse ++ q.octets, .plain⟩

/-- The value `n` of an escape, after the surrogate `high` if there is one. -/
def pushValue (q : Quotation) (high : Option Nat) (n : Nat) : Except Problem Quotation :=
  match high with
  | some high =>
    if 0xdc00 ≤ n ∧ n < 0xe000 then
      .ok (q.push (Char.ofNat (0x10000 + 0x400 * (high - 0xd800) + (n - 0xdc00))))
    else .error .malformed
  | none      =>
    if 0xd800 ≤ n ∧ n < 0xdc00 then .ok { q with mode := .surrogate n }
    else if 0xdc00 ≤ n ∧ n < 0xe000 then .error .malformed
    else .ok (q.push (Char.ofNat n))

/-- One octet: the text read on, or the whole text where the octet closes it. -/
def next (q : Quotation) (b : UInt8) : Except Problem (Quotation ⊕ Text) :=
  match q.mode with
  | .plain =>
    if b = octet '"' then
      match Bytes.decode? q.octets.reverse with
      | some t => .ok (.inr t)
      | none   => .error .malformed
    else if b = octet '\\' then .ok (.inl { q with mode := .escape })
    else if b < 0x20 then .error .malformed
    else .ok (.inl { q with octets := b :: q.octets })
  | .escape =>
    if b = octet 'u' then .ok (.inl { q with mode := .digits none [] })
    else match unescaped? b with
      | some c => .ok (.inl (q.push c))
      | none   => .error .malformed
  | .digits high read =>
    if read.length < 3 then .ok (.inl { q with mode := .digits high (read ++ [b]) })
    else match hexNumber? (read ++ [b]) with
      | some n => (q.pushValue high n).map .inl
      | none   => .error .malformed
  | .surrogate high =>
    if b = octet '\\' then .ok (.inl { q with mode := .surrogateEscape high })
    else .error .malformed
  | .surrogateEscape high =>
    if b = octet 'u' then .ok (.inl { q with mode := .digits (some high) [] })
    else .error .malformed

end Quotation

end Imprint.Document
