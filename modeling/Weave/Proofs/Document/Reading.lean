import Mathlib.Data.List.DropRight
import Weave.Proofs.Document.Runs

namespace Weave

def Role.other : Role → Role
  | .prose => .code
  | .code => .prose

namespace Document

/-! A reader of documents knows the two fences and nothing else. In each role it waits
for one line, the one that ends the role, and takes every other line as it stands. -/

def turn (subject : Subject) : Role → Line
  | .prose => opening subject
  | .code => fence

/-- The lines that are read from a role on, each with its role, and the role at the end. -/
def read (subject : Subject) (role : Role) : List Line → List (Role × Line) × Role
  | [] => ([], role)
  | line :: rest =>
      if line = turn subject role then read subject role.other rest
      else
        let (items, last) := read subject role rest
        ((role, line) :: items, last)

@[simp] theorem read_nil (subject : Subject) (role : Role) :
    read subject role [] = ([], role) := rfl

theorem read_turn (subject : Subject) (role : Role) (rest : List Line) :
    read subject role (turn subject role :: rest) = read subject role.other rest := by
  simp [read]

theorem read_content {subject : Subject} {role : Role} {line : Line} (rest : List Line)
    (hline : line ≠ turn subject role) :
    read subject role (line :: rest) =
      ((role, line) :: (read subject role rest).1, (read subject role rest).2) := by
  simp [read, hline]

/-- The fence between two roles takes the reader from the one to the other. -/
theorem read_edge (subject : Subject) (standing role : Role) (rest : List Line) :
    read subject standing (edge subject standing role ++ rest) =
      read subject role rest := by
  cases standing with
  | prose =>
      cases role with
      | prose => rfl
      | code => exact read_turn subject .prose rest
  | code =>
      cases role with
      | prose => exact read_turn subject .code rest
      | code => rfl

def marked (item : Role × Line) : Role × Line :=
  (item.1, shown item)

/-- The reader is in the role of every line it meets, if no line is taken for the fence
that ends its role. -/
theorem read_threaded {subject : Subject} {items : List (Role × Line)}
    (hitems : ∀ item ∈ items, shown item ≠ turn subject item.1) (standing : Role) :
    read subject standing (threaded subject standing items) =
      (items.map marked, .prose) := by
  -- The invariant: before each item the reader is in the role of the item before.
  induction items generalizing standing with
  | nil =>
      have hend := read_edge subject standing .prose []
      rwa [List.append_nil] at hend
  | cons item items ih =>
      have hitem : shown item ≠ turn subject item.1 := hitems item List.mem_cons_self
      have hrest := ih (fun other hother => hitems other (List.mem_cons_of_mem item hother))
        item.1
      rw [threaded, read_edge, read_content _ hitem, hrest]
      rfl

/-! What a reader is to find: every survivor with its role and what is shown of it. -/

def transcript (lines : List Line) : List (Role × Line) :=
  lines.mapIdx fun index line =>
    if line.isBlank then (standingRole (lines.take index), line)
    else if line.isComment then (.prose, line.uncomment)
    else (.code, line)

theorem marked_roleAfter (earlier : List Line) (line : Line) :
    marked (roleAfter earlier line, line) =
      if line.isBlank then (standingRole earlier, line)
      else if line.isComment then (.prose, line.uncomment)
      else (.code, line) := by
  cases hblank : line.isBlank with
  | true =>
      cases hrole : standingRole earlier <;>
        simp [marked, shown, proseLine, roleAfter, hblank, hrole]
  | false =>
      cases hcomment : line.isComment <;>
        simp [marked, shown, proseLine, roleAfter, ownRole, hblank, hcomment]

theorem map_marked_assigned (lines : List Line) :
    (assigned lines).map marked = transcript lines := by
  apply List.ext_getElem
  · simp [assigned, transcript]
  · intro index _ _
    simp [assigned, transcript, marked_roleAfter]

/-- No line of code is the closing fence, and no comment is the opening one once it is
stripped. -/
structure Unambiguous (subject : Subject) (lines : List Line) : Prop where
  code : ∀ line ∈ lines, line.isBlank = false → line.isComment = false → line ≠ fence
  comment : ∀ line ∈ lines, line.isComment = true → line.uncomment ≠ opening subject

theorem ne_turn_of_isBlank {line : Line} (hblank : line.isBlank = true)
    (subject : Subject) (role : Role) : line ≠ turn subject role := by
  have hmark : ∃ rest, turn subject role = '\x60' :: rest := by
    cases role <;> exact ⟨_, rfl⟩
  have hprinted : Text.isBlank '\x60' = false := by decide
  obtain ⟨rest, hturn⟩ := hmark
  intro hline
  rw [hline, hturn, Line.isBlank_cons, hprinted] at hblank
  cases hblank

theorem Unambiguous.shown_ne_turn {subject : Subject} {lines : List Line}
    (hlines : Unambiguous subject lines) {item : Role × Line}
    (hitem : item ∈ assigned lines) : shown item ≠ turn subject item.1 := by
  obtain ⟨index, hindex, rfl⟩ := List.mem_mapIdx.mp hitem
  have hmem : lines[index] ∈ lines := List.getElem_mem hindex
  have hmarked := marked_roleAfter (lines.take index) lines[index]
  generalize lines[index] = line at hmem hmarked
  generalize roleAfter (lines.take index) line = role at hmarked
  cases hblank : line.isBlank with
  | true =>
      rw [hblank, if_pos rfl] at hmarked
      have hshown : shown (role, line) = line := congrArg Prod.snd hmarked
      rw [hshown]
      exact ne_turn_of_isBlank hblank subject role
  | false =>
      cases hcomment : line.isComment with
      | true =>
          simp only [hblank, hcomment, if_true, Bool.false_eq_true, if_false, marked,
            Prod.mk.injEq] at hmarked
          rw [hmarked.2, hmarked.1]
          exact hlines.comment line hmem hcomment
      | false =>
          simp only [hblank, hcomment, Bool.false_eq_true, if_false, marked,
            Prod.mk.injEq] at hmarked
          rw [hmarked.2, hmarked.1]
          exact hlines.code line hmem hblank hcomment

theorem body_threaded (subject : Subject) (lines : List Line) :
    body subject lines ++ edge subject (State.after {} lines).role .prose =
      threaded subject .prose (assigned (survivors lines)) := by
  obtain ⟨houtputs, hrole⟩ := started_withoutShebang subject lines
  rw [body, houtputs, hrole]
  exact outputs_threaded subject [] (withoutShebang lines)

/-- Without its footer a document is read back: every survivor comes out once, in order,
under its own role, and the reader ends where it began. -/
theorem read_document {subject : Subject} {lines : List Line}
    (hlines : Unambiguous subject (survivors lines)) (moment : Moment) :
    read subject .prose ((document subject moment lines).rdrop 3) =
      (transcript (survivors lines), .prose) := by
  have hbody : (document subject moment lines).rdrop 3 =
      threaded subject .prose (assigned (survivors lines)) := by
    rw [document, State.closing, ← List.append_assoc, body_threaded]
    exact List.rdrop_append_length
  rw [hbody, read_threaded fun item hitem => hlines.shown_ne_turn hitem,
    map_marked_assigned]

/-- A file whose fences are bare, so that one text both opens and closes a block. -/
def bareSubject : Subject where
  name := "run".toList

def bareLines : List Line :=
  ["#!/bin/sh", "// a", "", "x = 1", "\t", "y // jdi-disable-line", "#!late", "//b",
    "  z"].map String.toList

theorem read_document_bare :
    Unambiguous bareSubject (survivors bareLines) ∧
      read bareSubject .prose ((document bareSubject
          { date := ⟨2026, 10, 17⟩, hour := 9, minute := 30, second := 0 }
          bareLines).rdrop 3) =
        ([(.prose, "a".toList), (.prose, []), (.code, "x = 1".toList), (.code, ['\t']),
          (.code, "#!late".toList), (.prose, "b".toList), (.code, "  z".toList)],
          .prose) := by
  have hlines : Unambiguous bareSubject (survivors bareLines) :=
    ⟨by decide, by decide⟩
  refine ⟨hlines, ?_⟩
  rw [read_document hlines]
  decide

end Document

end Weave
