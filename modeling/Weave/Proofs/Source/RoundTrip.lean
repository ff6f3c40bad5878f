import Weave.Proofs.Source.Blocks
import Weave.Proofs.Text.Endings
import Weave.Text.Writer

namespace Weave

namespace Lines

/-! Lines are written with a newline behind each. Reading finds the same newlines, but it
also finds those inside a line, and takes a carriage return for a part of the ending. -/

/-- Nothing in the line looks like a part of an ending. -/
structure Plain (line : Line) : Prop where
  newline_not_mem : '\n' ∉ line
  getLast?_ne : line.getLast? ≠ some '\r'

theorem toText_eq_flatMap (lines : List Line) :
    toText lines =
      (lines.map fun line => EndedLine.mk line .newline).flatMap EndedLine.text := by
  rw [List.flatMap_map]
  rfl

theorem settled_toText (lines : List Line) : Settled (toText lines) := by
  induction lines with
  | nil => exact .inl rfl
  | cons line lines ih =>
      rw [toText_cons, List.append_cons]
      exact Settled.append (.inr ⟨line, rfl⟩) ih

theorem ofText_toText {lines : List Line} (hlines : ∀ line ∈ lines, Plain line) :
    ofText (toText lines) = lines := by
  have hnormal : Normal (lines.map fun line => ⟨line, .newline⟩) := by
    induction lines with
    | nil => exact .nil
    | cons line lines ih =>
        rw [List.forall_mem_cons] at hlines
        exact (ih hlines.2).cons hlines.1.newline_not_mem (fun _ => hlines.1.getLast?_ne)
          (by simp)
  rw [ofText, toText_eq_flatMap, hnormal.ended_flatMap, List.map_map]
  exact List.map_id lines

/-- Lines that make up a text both with their own endings and with newlines have no other
endings than newlines. -/
theorem ending_eq_newline {items : List EndedLine}
    (hcomplete : ∀ item ∈ items, item.isComplete = true)
    (htext : items.flatMap EndedLine.text = toText (items.map EndedLine.line)) :
    ∀ item ∈ items, item.ending = .newline := by
  induction items with
  | nil => simp
  | cons item items ih =>
      obtain ⟨line, ending⟩ := item
      rw [List.forall_mem_cons] at hcomplete ⊢
      -- Behind the first line one text goes on with its ending, the other with a newline.
      rw [List.flatMap_cons, List.map_cons, toText_cons, EndedLine.text, List.append_assoc,
        List.append_cancel_left_eq] at htext
      cases ending with
      | missing => exact absurd hcomplete.1 (by simp [EndedLine.isComplete])
      | newline => exact ⟨rfl, ih hcomplete.2 (List.cons.inj htext).2⟩
      | returnNewline => exact absurd (List.cons.inj htext).1 (by decide)

theorem plain_of_ofText_toText {lines : List Line} (hlines : ofText (toText lines) = lines) :
    ∀ line ∈ lines, Plain line := by
  have hnormal := normal_ended (toText lines)
  have hnewline := ending_eq_newline (isComplete_of_settled (settled_toText lines))
    (by rw [flatMap_text_ended, ← ofText, hlines])
  intro line hline
  rw [← hlines] at hline
  obtain ⟨item, hitem, rfl⟩ := List.mem_map.mp hline
  exact ⟨hnormal.newline_not_mem item hitem,
    hnormal.return_in_ending item hitem (hnewline item hitem)⟩

theorem ofText_toText_iff (lines : List Line) :
    ofText (toText lines) = lines ↔ ∀ line ∈ lines, Plain line :=
  ⟨plain_of_ofText_toText, ofText_toText⟩

end Lines

namespace Source

open Utf8

/-- What is written to a file is a text of as many bytes as were counted, whatever the
lines, and it is read back as the same lines exactly if each of them is plain. -/
theorem read_written_iff {disk : Disk} {path : Path} {location : Location}
    (hopen : disk.openFile path = .ok location) (lines : List Line) :
    (∃ text, (Writer.ofLines lines).content = encode text) ∧
      (Writer.ofLines lines).content.length = (Writer.ofLines lines).size ∧
      (openedLines (disk.insert location (.file (Writer.ofLines lines).content)) path =
          ⟨lines, none⟩ ↔
        ∀ line ∈ lines, Lines.Plain line) := by
  have hwritten := Writer.content_ofLines lines
  refine ⟨⟨Lines.toText lines, hwritten⟩, ?_, ?_⟩
  · rw [hwritten, Writer.size_ofLines]
  · have hcontent : (disk.insert location
        (.file (Writer.ofLines lines).content)).tree.content location =
          (Writer.ofLines lines).content := by
      simp [Tree.content, Disk.insert, Tree.get?_insert _ (Disk.top_ne_of_openFile hopen)]
    have hread := openedLines_eq_readIn
      (Disk.openFile_insert_file hopen (Writer.ofLines lines).content)
    rw [hcontent, hwritten, readIn_encode] at hread
    rw [hwritten, hread, ← Lines.ofText_toText_iff, Produced.mapFault, Produced.mk.injEq]
    exact and_iff_left rfl

/-- A carriage return inside a line comes back; one at its end is lost. -/
theorem read_written_sample :
    blockDisk.openFile (Sample.path "whole") = .ok ["whole".toList] ∧
      openedLines (blockDisk.insert ["whole".toList]
          (.file (Writer.ofLines ["a\rb".toList, [], "é".toList]).content))
        (Sample.path "whole") = ⟨["a\rb".toList, [], "é".toList], none⟩ ∧
      openedLines (blockDisk.insert ["whole".toList]
          (.file (Writer.ofLines ["a\r".toList, "b".toList]).content))
        (Sample.path "whole") ≠ ⟨["a\r".toList, "b".toList], none⟩ := by
  have hopen : blockDisk.openFile (Sample.path "whole") = .ok ["whole".toList] := rfl
  have hplain : ∀ line ∈ ["a\rb".toList, [], "é".toList], Lines.Plain line := by
    rintro line hline
    exact ⟨by revert line; decide, by revert line; decide⟩
  refine ⟨hopen, (read_written_iff hopen _).2.2.mpr hplain, fun hread => ?_⟩
  have hlost := (read_written_iff hopen _).2.2.mp hread "a\r".toList (by simp)
  exact hlost.getLast?_ne rfl

end Source

end Weave
