import Imprint.Log.Rule

/-!
# Log — which events are written

A filter is a list of rules, written with commas between them.  Of the rules that concern an event
the most special one decides, and of those that are equally special the last.  Where no rule
concerns it, an event is written only if it is an error.
-/

namespace Imprint.Log

/-- Rules for what is written. -/
abbrev Filter := List Rule

namespace Filter

/-- One rule for all events. -/
def all (level : Level) : Filter := [⟨[], .everything, level⟩]

/-- The rules of a list with commas between them; there may be commas too many. -/
def ofText? (t : Text) : Option Filter :=
  ((t.splitOnP (· = ',')).filter (! ·.isEmpty)).mapM Rule.ofText?

/-- The rule that decides between one and a later one. -/
def decisive (best : Option Rule) (r : Rule) : Option Rule :=
  if best.all r.asSpecial then some r else best

/-- The level up to which events like this one are written. -/
def levelFor (f : Filter) (e : Event) : Level :=
  (((f.filter (·.concerns e)).foldl decisive none).map (·.level)).getD .error

/-- The event is written. -/
def allows (f : Filter) (e : Event) : Bool :=
  e.level.rank ≤ (f.levelFor e).rank

end Filter

end Imprint.Log
