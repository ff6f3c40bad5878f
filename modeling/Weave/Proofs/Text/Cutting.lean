import Mathlib.Data.List.DropRight
import Weave.Text.Lines

namespace Weave.Lines

/-! A text can be cut into lines in two goes, if the first of them ends with a newline.
What stands behind the last newline waits for the second. -/

/-- The lines of a text that have come to their end. -/
def settled (text : Text) : Text :=
  text.rdropWhile (· ≠ '\n')

/-- What stands behind the last newline. -/
def pending (text : Text) : Text :=
  text.rtakeWhile (· ≠ '\n')

theorem settled_append_pending (text : Text) : settled text ++ pending text = text :=
  List.rdropWhile_append_rtakeWhile

theorem newline_not_mem_pending (text : Text) : '\n' ∉ pending text := by
  intro hmem
  simpa using List.mem_rtakeWhile_imp hmem

/-- Nothing, or a text that ends with a newline. -/
def Settled (text : Text) : Prop :=
  text = [] ∨ ∃ front, text = front ++ ['\n']

theorem settled_settled (text : Text) : Settled (settled text) := by
  by_cases hempty : settled text = []
  · exact .inl hempty
  · have hlast : (settled text).getLast hempty = '\n' := by
      by_contra hother
      exact List.rdropWhile_last_not (· ≠ '\n') text hempty (decide_eq_true hother)
    refine .inr ⟨(settled text).dropLast, ?_⟩
    rw [← hlast, List.dropLast_append_getLast]

theorem Settled.append {front back : Text} (hfront : Settled front) (hback : Settled back) :
    Settled (front ++ back) := by
  rcases hback with rfl | ⟨start, rfl⟩
  · rwa [List.append_nil]
  · exact .inr ⟨front ++ start, by rw [List.append_assoc]⟩

/-! A character joins the first line of those behind it, and no other. -/

theorem attach_append {front : List EndedLine} (hfront : front ≠ []) (character : Char)
    (back : List EndedLine) :
    attach character (front ++ back) = attach character front ++ back := by
  obtain ⟨⟨line, ending⟩, rest, rfl⟩ := List.exists_cons_of_ne_nil hfront
  simp only [attach, List.cons_append]
  split
  · rfl
  · split <;> rfl

theorem attach_ne_nil (character : Char) (rest : List EndedLine) :
    attach character rest ≠ [] := by
  simp only [attach]
  split
  · simp
  · split
    · simp
    · split <;> simp

theorem ended_ne_nil {text : Text} (htext : text ≠ []) : ended text ≠ [] := by
  obtain ⟨character, rest, rfl⟩ := List.exists_cons_of_ne_nil htext
  exact attach_ne_nil character (ended rest)

theorem foldr_attach_ne_nil {rest : List EndedLine} (hrest : rest ≠ []) (text : Text) :
    text.foldr attach rest ≠ [] := by
  cases text with
  | nil => exact hrest
  | cons character text => exact attach_ne_nil character _

theorem foldr_attach_append {front : List EndedLine} (hfront : front ≠ []) (text : Text)
    (back : List EndedLine) :
    text.foldr attach (front ++ back) = text.foldr attach front ++ back := by
  induction text with
  | nil => rfl
  | cons character text ih =>
      rw [List.foldr_cons, List.foldr_cons, ih,
        attach_append (foldr_attach_ne_nil hfront text)]

theorem ended_append_of_settled {front : Text} (hfront : Settled front) (back : Text) :
    ended (front ++ back) = ended front ++ ended back := by
  rcases hfront with rfl | ⟨start, rfl⟩
  · rfl
  · have hnewline : ∀ rest : List EndedLine, attach '\n' rest = [⟨[], .newline⟩] ++ rest :=
      fun rest => rfl
    simp only [ended, List.foldr_append, List.foldr_cons, List.foldr_nil, hnewline]
    rw [foldr_attach_append (by simp), foldr_attach_append (by simp)]
    simp

theorem isComplete_attach {rest : List EndedLine} (hrest : rest ≠ [])
    (hcomplete : ∀ item ∈ rest, item.isComplete = true) (character : Char) :
    ∀ item ∈ attach character rest, item.isComplete = true := by
  obtain ⟨⟨line, ending⟩, rest, rfl⟩ := List.exists_cons_of_ne_nil hrest
  rw [List.forall_mem_cons] at hcomplete
  simp only [attach]
  split
  · simpa [EndedLine.isComplete] using hcomplete
  · split
    · simpa [EndedLine.isComplete] using hcomplete.2
    · simpa [EndedLine.isComplete] using hcomplete

theorem isComplete_of_settled {text : Text} (htext : Settled text) :
    ∀ item ∈ ended text, item.isComplete = true := by
  rcases htext with rfl | ⟨front, rfl⟩
  · simp
  · induction front with
    | nil => simp [attach, EndedLine.isComplete]
    | cons character front ih =>
        rw [List.cons_append, ended_cons]
        exact isComplete_attach (ended_ne_nil (by simp)) ih character

theorem ended_of_no_newline {text : Text} (htext : '\n' ∉ text) :
    ended text = if text = [] then [] else [⟨text, .missing⟩] := by
  induction text with
  | nil => rfl
  | cons character text ih =>
      rw [List.mem_cons, not_or] at htext
      have hcharacter : character ≠ '\n' := Ne.symm htext.1
      rw [ended_cons, ih htext.2]
      by_cases hempty : text = []
      · simp [attach, hcharacter, hempty]
      · simp [attach, hcharacter, hempty]

/-! So much for one cut; a text that comes piece by piece is cut at each of them. -/

section Pieces

variable {front : Text} (hfront : Settled front)
include hfront

theorem complete_append_of_settled (back : Text) :
    complete (front ++ back) = ofText front ++ complete back := by
  have hall : (ended front).filter EndedLine.isComplete = ended front :=
    List.filter_eq_self.mpr (isComplete_of_settled hfront)
  simp [complete, ofText, ended_append_of_settled hfront, hall]

theorem ofText_append_of_settled (back : Text) :
    ofText (front ++ back) = ofText front ++ ofText back := by
  simp [ofText, ended_append_of_settled hfront]

end Pieces

theorem complete_of_no_newline {text : Text} (htext : '\n' ∉ text) : complete text = [] := by
  rw [complete, ended_of_no_newline htext]
  split <;> simp [EndedLine.isComplete]

theorem ofText_of_no_newline {text : Text} (htext : '\n' ∉ text) :
    ofText text = if text = [] then [] else [text] := by
  rw [ofText, ended_of_no_newline htext]
  split <;> rfl

theorem complete_eq_settled (text : Text) : complete text = ofText (settled text) := by
  have hcut := complete_append_of_settled (settled_settled text) (pending text)
  rwa [settled_append_pending, complete_of_no_newline (newline_not_mem_pending text),
    List.append_nil] at hcut

/-- Lines that have come to their end stay as they are, whatever follows. -/
theorem complete_prefix (front back : Text) : complete front <+: complete (front ++ back) := by
  have hcut := complete_append_of_settled (settled_settled front) (pending front ++ back)
  rw [← List.append_assoc, settled_append_pending, ← complete_eq_settled] at hcut
  exact ⟨_, hcut.symm⟩

end Weave.Lines
