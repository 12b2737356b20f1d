import Imprint.Text

/-!
# Text — what a terminal displays

A text may hold control functions, which a terminal obeys and does not display: an *escape
sequence* begins with the escape character, and may open a *control sequence*, which lasts up to a
final character, or a *control string*, which lasts up to its terminator.  `Terminal.step` follows
them one character at a time, and `Text.displayed` is what is left of a text without them.

* Other controls are not displayed either, except those that lay out a text: the tab, the line
  feed, the form feed and the carriage return.  One of these breaks off an escape sequence or a
  control sequence; a control string swallows it.
* The characters CAN and SUB break off everything, and a new escape character begins afresh.
* A text of characters that are displayed one by one is displayed as it is
  (`displayed_eq_self`).
-/

namespace Imprint

namespace Terminal

/-- The control function that a terminal is in the middle of. -/
inductive Control where
  | none
  /-- After the escape character. -/
  | escape
  /-- In an escape sequence, after one of its intermediate characters. -/
  | intermediate
  /-- In a control sequence. -/
  | sequence
  /-- At the beginning of a device control string. -/
  | device
  /-- At its parameters. -/
  | deviceParameter
  /-- At its intermediate characters. -/
  | deviceIntermediate
  /-- In a control string, at the text that it holds. -/
  | string
  /-- In an operating system command. -/
  | command
  deriving DecidableEq, Repr

/-- A control that lays out a text. -/
def isLayout (c : Char) : Bool :=
  c == '\t' || c == '\n' || c == '\x0c' || c == '\r'

/-- A character that is displayed outside of control functions. -/
def isDisplayed (c : Char) : Bool :=
  isLayout c || (' ' ≤ c && c != '\x7f')

/-- A character from `first` to `last`. -/
def within (first last c : Char) : Bool := first ≤ c && c ≤ last

/-- The string terminator of eight bits is among the octets of the character. -/
def holdsTerminator (c : Char) : Bool := (String.utf8EncodeChar c).contains 0x9c

namespace Control

/-- The control that a character after the escape character leads to. -/
def afterEscape (c : Char) : Control :=
  if within ' ' '/' c then .intermediate
  else if c = '[' then .sequence
  else if c = ']' then .command
  else if c = 'P' then .device
  else if c = 'X' ∨ c = '^' ∨ c = '_' then .string
  else if within '0' '~' c then .none
  else .escape

/-- The control that a character leads to; those that lead elsewhere from every control are not
considered here. -/
def next : Control → Char → Control
  | .none,               _ => .none
  | .escape,             c => if isLayout c then .none else afterEscape c
  | .intermediate,       c => if isLayout c || within '0' '~' c then .none else .intermediate
  | .sequence,           c => if isLayout c || within '@' '~' c then .none else .sequence
  | .device,             c =>
    if within ' ' '/' c then .deviceIntermediate
    else if within '0' '?' c then .deviceParameter
    else if within '@' '~' c then .string
    else .device
  | .deviceParameter,    c =>
    if within ' ' '/' c then .deviceIntermediate
    else if within '<' '~' c then .string
    else .deviceParameter
  | .deviceIntermediate, c => if within '0' '~' c then .string else .deviceIntermediate
  | .string,             c => if holdsTerminator c then .none else .string
  | .command,            c => if c = '\x07' then .none else .command

/-- The control in which a layout control is displayed. -/
def laysOut : Control → Bool
  | .none | .escape | .intermediate | .sequence => true
  | _                                           => false

end Control

/-- One character: whether it is displayed, and the control after it. -/
def step (s : Control) (c : Char) : Bool × Control :=
  if c = '\x1b' then (false, .escape)
  else if c = '\x18' ∨ c = '\x1a' then (false, .none)
  else ((s == .none && isDisplayed c) || (s.laysOut && isLayout c), s.next c)

/-- What is displayed of a text within a control. -/
def displayedIn (s : Control) : Text → Text
  | []     => []
  | c :: t =>
    let r := step s c
    if r.1 then c :: displayedIn r.2 t else displayedIn r.2 t

end Terminal

namespace Text

/-- What a terminal displays of a text. -/
def displayed (t : Text) : Text := Terminal.displayedIn .none t

/-- A text of displayed characters is displayed as it is. -/
theorem displayed_eq_self :
    ∀ {t : Text}, (∀ c ∈ t, Terminal.isDisplayed c = true) → displayed t = t
  | [],     _ => rfl
  | c :: t, h => by
      have hc := h c (List.mem_cons_self ..)
      have ih := displayed_eq_self (t := t) fun d hd => h d (List.mem_cons_of_mem _ hd)
      have hs : Terminal.step .none c = (true, .none) := by
        have e : c ≠ '\x1b' := by rintro rfl; revert hc; decide
        have n : ¬ (c = '\x18' ∨ c = '\x1a') := by
          rintro (rfl | rfl) <;> revert hc <;> decide
        simp [Terminal.step, e, n, hc, Terminal.Control.next]
      simpa [displayed, Terminal.displayedIn, hs] using ih

example : displayed "a\x1b[31mred\x1b[0m".toList = "ared".toList := by decide
example : displayed "x\x1b]0;title\x07y\x7f\tz".toList = "xy\tz".toList := by decide
example : displayed "\x1b[1\x18mz\x1b(B\x1bPdata\x1b\\.".toList = "mz.".toList := by decide

end Text

end Imprint
