import Imprint.Log.Event
import Imprint.Log.Pattern
import Imprint.Text.Alphanumeric
import Imprint.Text.Utf8
import Imprint.Text.Words

/-!
# Log — rules for what is written

A rule gives the level up to which some events are written.  It is written as a level, as the
beginning of an origin, or as both with an equals sign between them; where no level stands,
everything is written.  After the origin, or in its place, square brackets may narrow the rule to
the events that bear a name, as in `[{name}]`; what else may stand in them narrows it to spans of
time, in which no event of a job lies.

Blanks around a rule do not keep it from being read, but its parts are not taken from it without
them: the octets of the trimmed rule tell the places of the parts, and the parts are what stands at
these places in the text with its blanks.  So blanks in front of a rule move all of its parts, and
blanks behind it belong to its level.
-/

namespace Imprint.Log

/-- What a rule is about. -/
inductive Subject where
  | everything
  /-- The events that bear a name. -/
  | bearing (name : Text)
  /-- Spans of time. -/
  | spans
  deriving DecidableEq, Repr

/-- How much is written of the events that are meant. -/
structure Rule where
  origin  : Text
  subject : Subject
  level   : Level
  deriving DecidableEq, Repr

namespace Rule

/-! ### Reading -/

/-- A character that may begin an origin or a level. -/
def mayBegin (c : Char) : Bool :=
  c == '-' || c == ':' || c == '_' || Text.isAlphanumeric c

/-- The octets that a text takes. -/
def size (t : Text) : Nat := (Text.encode t).length

/-- What stands in a text from one place up to another, or to its end; there is none if a place is
within a character. -/
def part? (t : Text) (start : Nat) (stop : Option Nat) : Option Text :=
  let octets := (Text.encode t).drop start
  Bytes.decode? (stop.elim octets fun stop => octets.take (stop - start))

/-- What a condition between braces narrows a rule to; the condition is a name, or a name with an
equals sign and a pattern, which is a condition on spans. -/
def condition? (t : Text) : Option Subject :=
  match t.dropWhile (· ≠ '=') with
  | []           => if t.isEmpty then none else some (.bearing t)
  | _ :: pattern => if Pattern.isPattern (pattern.takeWhile (· ≠ '=')) then some .spans else none

/-- What square brackets narrow the rule `t` to, the place behind them and what follows it; `rest`
follows the opening one, at the place `start`. -/
def narrowing? (t : Text) (start : Nat) (rest : Text) : Option (Subject × Nat × Text) :=
  let inside (c : Char) : Bool := c != ']' && c != '\x7b'
  let name := rest.takeWhile inside
  let start := start + size name + 1
  match rest.dropWhile inside with
  | ']' :: rest     => some (.spans, start, rest)
  | '\x7b' :: rest => do
    let stop := start + size (rest.takeWhile (· ≠ '\x7d'))
    let subject ← condition? (← part? t start (some stop))
    match rest.dropWhile (· ≠ '\x7d') with
    | '\x7d' :: ']' :: rest => some (if name.isEmpty then subject else .spans, stop + 2, rest)
    | _                     => none
  | _               => none

/-- The level at the end of the rule `t`; `rest` is what follows the place `start`. -/
def levelAfter? (t : Text) (start : Nat) (rest : Text) : Option Level :=
  match rest with
  | []       => some .trace
  | '=' :: _ => do
    let level ← part? t (start + 1) none
    if level.isEmpty then some .trace else Level.ofText? level
  | _        => none

/-- The rule that is written as a text. -/
def ofText? (t : Text) : Option Rule :=
  let inner := Text.trimmed t
  let outside (c : Char) : Bool := c != '=' && c != '['
  let stop := size (inner.takeWhile outside)
  match inner with
  | []     => none
  | c :: _ =>
    if ! mayBegin c && c != '[' then none
    else match inner.dropWhile outside with
      | []          =>
        match Level.ofText? t with
        | some level => some ⟨[], .everything, level⟩
        | none       => some ⟨t, .everything, .trace⟩
      | '[' :: rest => do
        let origin ← part? t 0 (some stop)
        let (subject, start, rest) ← narrowing? t (stop + 1) rest
        return ⟨origin, subject, ← levelAfter? t start rest⟩
      | rest        => do
        let origin ← part? t 0 (some stop)
        return ⟨origin, .everything, ← levelAfter? t stop rest⟩

/-- One blank in front moves the condition by one place, so that its last bracket is left out. -/
example : ofText? " [\x7ba=b(\x7d]".toList = some ⟨[], .spans, .trace⟩ ∧
    ofText? " [\x7ba=(b)\x7d]".toList = none := by decide +kernel

/-! ### Applying -/

/-- The rule is about the event. -/
def concerns (r : Rule) (e : Event) : Bool :=
  r.origin.isPrefixOf e.origin &&
    match r.subject with
    | .everything   => true
    | .bearing name => e.names.contains name
    | .spans        => false

/-- A name that a rule asks for. -/
def name? (r : Rule) : Option Text :=
  match r.subject with
  | .bearing name => some name
  | _             => none

/-- The rule is at least as special as another: it names more of an origin, or as much of it and a
name that does not come before the other's. -/
def asSpecial (r s : Rule) : Bool :=
  s.origin.length < r.origin.length ||
    (s.origin.length == r.origin.length &&
      match s.name?, r.name? with
      | none,   _      => true
      | some _, none   => false
      | some m, some n => ! n.lex m)

end Rule

end Imprint.Log
