import Mathlib.Data.List.TakeWhile
import Weave.Line
import Weave.Proofs.Text.Fields

namespace Weave.Line

/-! A comment is a text in a dressing: blanks, the marker, and one blank behind the marker.
Only a text that does not begin with a blank goes without the last one, so no line can be
taken apart in two ways. -/

@[ext] structure Dressing where
  indent : Text
  gap : Option Char
  text : Text
  indent_blank : ∀ character ∈ indent, Text.isBlank character = true
  gap_blank : ∀ character ∈ gap, Text.isBlank character = true
  text_printed : gap = none → ∀ character ∈ text.head?, Text.isBlank character = false

def Dressing.line (dressing : Dressing) : Line :=
  dressing.indent ++ marker ++ (dressing.gap.toList ++ dressing.text)

section Marked

variable {indent : Text} (hindent : ∀ character ∈ indent, Text.isBlank character = true)
include hindent

theorem trimLeft_marked (rest : Text) :
    Text.trimLeft (indent ++ marker ++ rest) = marker ++ rest := by
  rw [List.append_assoc, Text.trimLeft_append_of_blank hindent]
  exact Text.trimLeft_cons_of_not_blank _ (by decide)

theorem isComment_marked (rest : Text) : isComment (indent ++ marker ++ rest) = true := by
  rw [isComment, trimLeft_marked hindent]
  exact List.isPrefixOf_iff_prefix.mpr (List.prefix_append marker rest)

theorem takeWhile_marked (rest : Text) :
    (indent ++ marker ++ rest).takeWhile Text.isBlank = indent := by
  rw [List.append_assoc]
  exact Text.takeWhile_field hindent (by rintro _ ⟨⟩; decide)

/-- A blank behind the marker belongs to it, and all else to the text. -/
theorem uncomment_marked {gap : Option Char} {text : Text}
    (hgap : ∀ character ∈ gap, Text.isBlank character = true)
    (htext : gap = none → ∀ character ∈ text.head?, Text.isBlank character = false) :
    uncomment (indent ++ marker ++ (gap.toList ++ text)) = text := by
  rw [uncomment, trimLeft_marked hindent, List.drop_left]
  cases gap with
  | some blank => simp [hgap blank rfl]
  | none =>
      cases text with
      | nil => rfl
      | cons first rest => simp [htext rfl first rfl]

end Marked

theorem exists_marked {line : Line} (hcomment : line.isComment = true) :
    ∃ indent rest, (∀ character ∈ indent, Text.isBlank character = true) ∧
      indent ++ marker ++ rest = line := by
  obtain ⟨rest, hrest⟩ := List.isPrefixOf_iff_prefix.mp hcomment
  refine ⟨line.takeWhile Text.isBlank, rest, fun _ => List.mem_takeWhile_imp, ?_⟩
  rw [List.append_assoc, hrest]
  exact List.takeWhile_append_dropWhile

theorem exists_gap (rest : Text) :
    ∃ (gap : Option Char) (text : Text), gap.toList ++ text = rest ∧
      (∀ character ∈ gap, Text.isBlank character = true) ∧
      (gap = none → ∀ character ∈ text.head?, Text.isBlank character = false) := by
  cases rest with
  | nil => exact ⟨none, [], by simp⟩
  | cons first rest =>
      cases hblank : Text.isBlank first with
      | true => exact ⟨some first, rest, by simp [hblank]⟩
      | false => exact ⟨none, first :: rest, by simp [hblank]⟩

namespace Dressing

theorem exists_line_eq {line : Line} (hcomment : line.isComment = true) :
    ∃ dressing : Dressing, dressing.line = line := by
  obtain ⟨indent, rest, hindent, rfl⟩ := exists_marked hcomment
  obtain ⟨gap, text, rfl, hgap, htext⟩ := exists_gap rest
  exact ⟨⟨indent, gap, text, hindent, hgap, htext⟩, rfl⟩

@[simp] theorem uncomment_line (dressing : Dressing) :
    dressing.line.uncomment = dressing.text :=
  uncomment_marked dressing.indent_blank dressing.gap_blank dressing.text_printed

theorem line_inj {first second : Dressing} (hline : first.line = second.line) :
    first = second := by
  have hindent : first.indent = second.indent := by
    rw [← takeWhile_marked first.indent_blank, ← takeWhile_marked second.indent_blank]
    exact congrArg _ hline
  have htext : first.text = second.text := by
    rw [← first.uncomment_line, hline, second.uncomment_line]
  have hgap : first.gap = second.gap := by
    rw [line, line, hindent, htext] at hline
    have hsame := List.append_cancel_right (List.append_cancel_left hline)
    simpa using congrArg List.head? hsame
  exact Dressing.ext hindent hgap htext

end Dressing

/-- A comment can be taken apart in exactly one way, and stripping it gives the text of
that one. Blanks and the marker make a comment of whatever follows, and never a blank
line. -/
theorem comment_dressed_once (line : Line) :
    (line.isComment = true → ∃ dressing : Dressing, dressing.line = line ∧
        (∀ other : Dressing, other.line = line → other = dressing) ∧
        line.uncomment = dressing.text) ∧
      ∀ indent rest : Text, (∀ character ∈ indent, Text.isBlank character = true) →
        line = indent ++ marker ++ rest → line.isComment = true ∧ line.isBlank = false := by
  constructor
  · intro hcomment
    obtain ⟨dressing, rfl⟩ := Dressing.exists_line_eq hcomment
    exact ⟨dressing, rfl, fun other => Dressing.line_inj, dressing.uncomment_line⟩
  · rintro indent rest hindent rfl
    have hcomment := isComment_marked hindent rest
    exact ⟨hcomment, not_isBlank_of_isComment hcomment⟩

/-- A comment with blanks of several kinds, whose text looks like a comment again. -/
def nestedComment : Line := ['\t', '\u3000', '/', '/', '\u00a0', ' ', '/', '/']

theorem comment_dressed_once_nested :
    nestedComment.isComment = true ∧
      (∃ dressing : Dressing, dressing.line = nestedComment ∧
        (∀ other : Dressing, other.line = nestedComment → other = dressing) ∧
        dressing.text = [' ', '/', '/']) ∧
      nestedComment = ['\t', '\u3000'] ++ marker ++ ['\u00a0', ' ', '/', '/'] ∧
      nestedComment.isBlank = false := by
  obtain ⟨honce, hmarked⟩ := comment_dressed_once nestedComment
  obtain ⟨hcomment, hprinted⟩ := hmarked ['\t', '\u3000'] ['\u00a0', ' ', '/', '/']
    (List.all_eq_true.mp (by decide)) rfl
  obtain ⟨dressing, hline, hother, htext⟩ := honce hcomment
  exact ⟨hcomment, ⟨dressing, hline, hother, htext ▸ by decide⟩, rfl, hprinted⟩

end Weave.Line
