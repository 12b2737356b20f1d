import Imprint.Proofs.Date.Reading
import Imprint.Proofs.Job.Steps

/-!
# Job — its build date

The build date of a draft is a date in writing: the job's own, or today's if it has none
(`buildDate_of_draft`).  So what holds of dates in writing holds of the build dates of any two
drafts, whatever else the jobs do (`buildDate_eq_iff`).
-/

namespace Imprint.Job

open Files (Tree)

variable {j j' : Job} {t t' : Tree} {today today' : Date} {p p' : Draft}

theorem buildDate_of_draft (h : j.draft t today = .ok p) :
    p.metadata.buildDate = (j.date.getD today).toText := by
  obtain ⟨lines, answer, text, -, -, -, rfl⟩ := draft_eq_ok h
  rfl

/-- **Build dates tell the day.**  Two drafts have the same build date just if they are of the same
day.  The date can be read back: year, month and day, the month and the day from two digits each,
and the year with a sign if it is not one of 0 to 9999.  In these years a build date is ten characters
long, and of two build dates the earlier comes first. -/
theorem buildDate_eq_iff (h : j.draft t today = .ok p) (h' : j'.draft t' today' = .ok p') :
    let d := j.date.getD today
    let d' := j'.date.getD today'
    (p.metadata.buildDate = p'.metadata.buildDate ↔ d = d') ∧
    Date.read? p.metadata.buildDate = some d ∧
    ((p.metadata.buildDate.head? = some '-' ↔ d.year < 0) ∧
      (p.metadata.buildDate.head? = some '+' ↔ 9999 < d.year)) ∧
    (d.HasPlainYear → p.metadata.buildDate.length = 10) ∧
    (d.HasPlainYear → d'.HasPlainYear →
      (p.metadata.buildDate < p'.metadata.buildDate ↔ d < d')) := by
  intro d d'
  rw [buildDate_of_draft h, buildDate_of_draft h']
  exact ⟨Date.toText_inj, Date.read?_toText d, Date.head?_toText d,
    Date.HasPlainYear.length_toText, Date.toText_lt_iff⟩

/-- The last day of a year with three digits and the first of one with four, the one today's and the
other the job's own. -/
theorem buildDate_eq_iff_turn :
    let t : Tree := ⟨[([], ⟨.all, .directory⟩),
      ([[108]], ⟨.readWrite, .octets (Text.encode ['x', '\n', 'y'])⟩),
      ([[116]], ⟨.readWrite, .octets (Text.encode "buildDate   = \"".toList)⟩)], [], []⟩
    let today : Date := ⟨999, 12, 31, by decide⟩
    let j : Job := ⟨[108], [116], none, .fixed "go version go1.21.0 x\n".toList, none⟩
    let j' := j.withDate ⟨1000, 1, 1, by decide⟩
    ∃ p p', (j.draft t today = .ok p ∧ j'.draft t today = .ok p') ∧
      Date.read? p.metadata.buildDate = some today ∧ p.metadata.buildDate.length = 10 ∧
      p.metadata.buildDate < p'.metadata.buildDate := by
  intro t today j j'
  have hok : ∃ p p', j.draft t today = .ok p ∧ j'.draft t today = .ok p' := ⟨_, _, rfl, rfl⟩
  obtain ⟨p, p', h, h'⟩ := hok
  obtain ⟨-, hread, -, hlength, hlt⟩ := buildDate_eq_iff h h'
  have hplain : today.HasPlainYear := by decide
  have hplain' : (Date.mk 1000 1 1 (by decide)).HasPlainYear := by decide
  exact ⟨p, p', ⟨h, h'⟩, hread, hlength hplain, (hlt hplain hplain').2 (.inl (by decide))⟩

end Imprint.Job
