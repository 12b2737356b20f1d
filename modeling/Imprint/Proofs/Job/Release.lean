import Imprint.Proofs.Job.Steps
import Imprint.Proofs.Text.Lossy

/-!
# Job — the release that a draft records

A command answers with octets, which need not be text.  Where they end in a space, a word and a
newline, that word is the last of the answer, whatever stands in front: what an unfinished character
owes is not paid with the space.  So the release is made of the words in front of it
(`release_lossy`), and it is recorded, unless the log or the target cannot be read (`draft_release`).
-/

namespace Imprint

/-- The last word of an answer in octets hides in nothing that stands before it. -/
theorem Toolchain.release_lossy {w : Text} (hw : w.IsWord) (bs : Bytes) :
    release (Bytes.lossy (bs ++ octet ' ' :: (w.encode ++ [newline]))) =
      Text.joined bs.lossy.words := by
  have hend : Bytes.lossy [newline] = ['\n'] := rfl
  have hwords : Text.words (w ++ ['\n']) = [w] := by
    rw [Text.words_append_cons rfl, hw.words_eq, Text.words_nil, List.append_nil]
  rw [release, Bytes.lossy_append_octet (by decide), Bytes.lossy_encode_append, hend,
    Text.words_append_cons rfl, hwords, List.dropLast_concat]

namespace Job

open Files (Tree)

variable {j : Job} {t : Tree} {program : Text} {args : List Text}

/-- A command that ends with status 0 answers with what it wrote. -/
theorem ask_command {stdout stderr : Bytes}
    (h : Toolchain.launch t program args = .ok ⟨stdout, stderr, .exit 0⟩) :
    ask t (.command program args) = .ok stdout.lossy := by
  simp [ask, Toolchain.askProgram, h]

/-- Once the toolchain has answered, a draft records the release in the answer, and fails only for
its log or its target. -/
theorem draft_of_ask {answer : Text} (h : ask t j.probe = .ok answer) (today : Date) :
    (∃ d, j.draft t today = .ok d ∧ d.metadata.toolchain = Toolchain.release answer) ∨
      (∃ e, t.read j.log = .error e ∧ j.draft t today = .error (.access j.log e)) ∨
      ∃ e, t.readText j.target = .error e ∧ j.draft t today = .error (.access j.target e) := by
  cases hl : t.read j.log with
  | error e => exact .inr (.inl ⟨e, rfl, by simp only [draft, countLog, hl]; rfl⟩)
  | ok bs =>
      cases hr : t.readText j.target with
      | error e =>
          exact .inr (.inr ⟨e, rfl, by simp only [draft, countLog, hl, h, readTarget, hr]; rfl⟩)
      | ok text =>
          let m := j.metadata today (LineCount.ofBytes bs) answer
          refine .inl ⟨⟨m, m.imprint text⟩, ?_, rfl⟩
          simp only [draft, countLog, hl, h, readTarget, hr]
          rfl

/-- **Nothing hides the platform.**  Let the command of a job end with status 0 and have written any
octets `bs`, a space, a word of ASCII and a newline; what it wrote to its standard error does not
matter.  Then the draft records the words of `bs` with single spaces between them, or it fails since
the log or the target cannot be read.  The words of `bs` are those of the text that it shows, and
where `bs` is a text in UTF-8, those of that text. -/
theorem draft_release {bs stderr : Bytes} {platform : Text} (hj : j.probe = .command program args)
    (hp : platform ≠ []) (hc : ∀ c ∈ platform, 0x21 ≤ c.toNat ∧ c.toNat ≤ 0x7e)
    (hl : Toolchain.launch t program args =
      .ok ⟨bs ++ octet ' ' :: (platform.encode ++ [newline]), stderr, .exit 0⟩) (today : Date) :
    ((∃ d, j.draft t today = .ok d ∧ d.metadata.toolchain = Text.joined bs.lossy.words) ∨
        (∃ e, t.read j.log = .error e ∧ j.draft t today = .error (.access j.log e)) ∨
        ∃ e, t.readText j.target = .error e ∧ j.draft t today = .error (.access j.target e)) ∧
      ∀ text : Text, bs = text.encode → bs.lossy.words = text.words := by
  have ha : ask t j.probe = .ok _ := hj ▸ ask_command hl
  have hdraft := draft_of_ask ha today
  rw [Toolchain.release_lossy (Text.isWord_of_ascii hp hc)] at hdraft
  refine ⟨hdraft, ?_⟩
  rintro text rfl
  rw [Bytes.lossy_encode]

/-- The octets before the platform hold a stray octet and end within a character of four. -/
theorem draft_release_cut :
    let bs : Bytes := Text.encode "go\tversion ".toList ++ [0xff, 0xf0, 0x9f, 0x92]
    let platform := "linux/amd64".toList
    let stdout : Bytes := bs ++ octet ' ' :: (Text.encode platform ++ [newline])
    let t : Tree := ⟨[([], ⟨.all, .directory⟩),
      ([Text.encode "bin".toList], ⟨.all, .directory⟩),
      ([Text.encode "bin".toList, Text.encode "go".toList], ⟨.all, .octets [1]⟩),
      ([[108]], ⟨.readWrite, .octets [10]⟩),
      ([[116]], ⟨.readWrite, .octets []⟩)], [], [([1], ⟨stdout, [0xff], 0, none, false⟩)]⟩
    let j := Job.create [108] [116]
    (j.probe = .command Toolchain.defaultProgram Toolchain.defaultArgs ∧ platform ≠ [] ∧
      (∀ c ∈ platform, 0x21 ≤ c.toNat ∧ c.toNat ≤ 0x7e) ∧
      Toolchain.launch t Toolchain.defaultProgram Toolchain.defaultArgs =
        .ok ⟨stdout, [0xff], .exit 0⟩) ∧
      ∃ d, j.draft t ⟨2024, 3, 9, by decide⟩ = .ok d ∧
        d.metadata.toolchain = "go version \uFFFD\uFFFD".toList := by
  intro bs platform stdout t j
  have hp : platform ≠ [] := by decide
  have hc : ∀ c ∈ platform, 0x21 ≤ c.toNat ∧ c.toNat ≤ 0x7e := by simp [platform]
  have hl : Toolchain.launch t Toolchain.defaultProgram Toolchain.defaultArgs =
      .ok ⟨stdout, [0xff], .exit 0⟩ := rfl
  have hshown : Text.joined bs.lossy.words = "go version \uFFFD\uFFFD".toList := by decide
  obtain ⟨d, hd, hm⟩ | ⟨e, he, -⟩ | ⟨e, he, -⟩ :=
    (draft_release (j := j) rfl hp hc hl ⟨2024, 3, 9, by decide⟩).1
  · exact ⟨⟨rfl, hp, hc, hl⟩, d, hd, hm.trans hshown⟩
  · cases he
  · cases he

end Job

end Imprint
