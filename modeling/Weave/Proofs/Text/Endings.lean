import Weave.Proofs.Text.Cutting

namespace Weave.Lines

/-! Lines with their endings can be put together to a text in many ways; in one of them no
ending is mistaken for a part of its line, or the other way round. -/

/-- No line holds a newline, a carriage return in front of a newline belongs to the ending,
and only the last line may go without an ending, if there is anything on it. -/
structure Normal (items : List EndedLine) : Prop where
  newline_not_mem : ∀ item ∈ items, '\n' ∉ item.line
  return_in_ending : ∀ item ∈ items, item.ending = .newline → item.line.getLast? ≠ some '\r'
  ended_but_last : ∀ item ∈ items.dropLast, item.ending ≠ .missing
  line_ne_nil : ∀ item ∈ items, item.ending = .missing → item.line ≠ []

namespace Normal

theorem nil : Normal [] := by
  constructor <;> simp

theorem cons {item : EndedLine} {rest : List EndedLine} (hrest : Normal rest)
    (hnewline : '\n' ∉ item.line)
    (hreturn : item.ending = .newline → item.line.getLast? ≠ some '\r')
    (hmissing : item.ending = .missing → item.line ≠ [] ∧ rest = []) :
    Normal (item :: rest) where
  newline_not_mem := List.forall_mem_cons.mpr ⟨hnewline, hrest.newline_not_mem⟩
  return_in_ending := List.forall_mem_cons.mpr ⟨hreturn, hrest.return_in_ending⟩
  ended_but_last := by
    cases rest with
    | nil => simp
    | cons next rest =>
        rw [List.dropLast_cons_cons, List.forall_mem_cons]
        exact ⟨fun hending => List.cons_ne_nil next rest (hmissing hending).2,
          hrest.ended_but_last⟩
  line_ne_nil := List.forall_mem_cons.mpr ⟨fun hending => (hmissing hending).1,
    hrest.line_ne_nil⟩

section Cons

variable {item : EndedLine} {rest : List EndedLine} (hitems : Normal (item :: rest))
include hitems

theorem tail : Normal rest where
  newline_not_mem := (List.forall_mem_cons.mp hitems.newline_not_mem).2
  return_in_ending := (List.forall_mem_cons.mp hitems.return_in_ending).2
  ended_but_last := by
    cases rest with
    | nil => simp
    | cons next rest => exact (List.forall_mem_cons.mp hitems.ended_but_last).2
  line_ne_nil := (List.forall_mem_cons.mp hitems.line_ne_nil).2

theorem missing_head (hending : item.ending = .missing) : item.line ≠ [] ∧ rest = [] := by
  refine ⟨hitems.line_ne_nil item List.mem_cons_self hending, ?_⟩
  cases rest with
  | nil => rfl
  | cons next rest =>
      exact absurd hending ((List.forall_mem_cons.mp hitems.ended_but_last).1)

end Cons

/-- A character in front keeps the lines normal: a newline is a line of its own, and a
carriage return that meets a bare newline joins it. -/
theorem attach {rest : List EndedLine} (hrest : Normal rest) (character : Char) :
    Normal (attach character rest) := by
  unfold Lines.attach
  split
  · exact hrest.cons (by simp) (by simp) (by simp)
  · next hnewline =>
      cases rest with
      | nil => exact nil.cons (by simpa using Ne.symm hnewline) (by simp) (by simp)
      | cons item rest =>
          obtain ⟨line, ending⟩ := item
          have hline : '\n' ∉ line := hrest.newline_not_mem _ List.mem_cons_self
          have hreturn := hrest.return_in_ending _ List.mem_cons_self
          -- A carriage return in front of a bare newline is the one character that does not
          -- go to the line behind it.
          dsimp only
          split
          · exact hrest.tail.cons (by simp) (by simp) (by simp)
          · next hapart =>
              refine hrest.tail.cons ?_ ?_ ?_
              · simpa using ⟨Ne.symm hnewline, hline⟩
              · intro hending
                cases line with
                | nil =>
                    intro hlast
                    exact hapart ⟨Option.some.inj hlast, rfl, hending⟩
                | cons first line => simpa using hreturn hending
              · intro hending
                exact ⟨List.cons_ne_nil character line, (hrest.missing_head hending).2⟩

end Normal

theorem normal_ended (text : Text) : Normal (ended text) := by
  induction text with
  | nil => exact .nil
  | cons character text ih => exact ih.attach character

/-! Every other way to write the text as normal lines is the same one. -/

/-- A line goes as a whole to the ending behind it. -/
theorem foldr_attach_line {line : Line} {ending : Ending} (hnewline : '\n' ∉ line)
    (hreturn : ending = .newline → line.getLast? ≠ some '\r') :
    line.foldr attach [⟨[], ending⟩] = [⟨line, ending⟩] := by
  induction line with
  | nil => rfl
  | cons character line ih =>
      rw [List.mem_cons, not_or] at hnewline
      have hrest : line.foldr attach [⟨[], ending⟩] = [⟨line, ending⟩] := by
        apply ih hnewline.2
        cases line with
        | nil => simp
        | cons first line => simpa using hreturn
      have hapart : ¬(character = '\r' ∧ line = [] ∧ ending = .newline) := by
        rintro ⟨rfl, rfl, hending⟩
        exact hreturn hending rfl
      rw [List.foldr_cons, hrest, attach, if_neg (Ne.symm hnewline.1)]
      exact if_neg hapart

theorem ended_text {item : EndedLine} (hnewline : '\n' ∉ item.line)
    (hreturn : item.ending = .newline → item.line.getLast? ≠ some '\r')
    (hmissing : item.ending = .missing → item.line ≠ []) :
    ended item.text = [item] := by
  obtain ⟨line, ending⟩ := item
  have hline := foldr_attach_line hnewline hreturn
  cases ending with
  | missing =>
      have hsame : EndedLine.text ⟨line, .missing⟩ = line := List.append_nil line
      rw [hsame, ended_of_no_newline hnewline, if_neg (hmissing rfl)]
  | newline =>
      rw [EndedLine.text, ended, List.foldr_append]
      exact hline
  | returnNewline =>
      rw [EndedLine.text, ended, List.foldr_append]
      exact hline

theorem settled_text {item : EndedLine} (hending : item.ending ≠ .missing) :
    Settled item.text := by
  obtain ⟨line, ending⟩ := item
  cases ending with
  | missing => exact absurd rfl hending
  | newline => exact .inr ⟨line, rfl⟩
  | returnNewline => exact .inr ⟨line ++ ['\r'], by simp [EndedLine.text, Ending.text]⟩

theorem Normal.ended_flatMap {items : List EndedLine} (hitems : Normal items) :
    ended (items.flatMap EndedLine.text) = items := by
  induction items with
  | nil => rfl
  | cons item rest ih =>
      have hitem : ended item.text = [item] :=
        ended_text (hitems.newline_not_mem item List.mem_cons_self)
          (hitems.return_in_ending item List.mem_cons_self)
          (hitems.line_ne_nil item List.mem_cons_self)
      rw [List.flatMap_cons]
      by_cases hending : item.ending = .missing
      · rw [(hitems.missing_head hending).2, List.flatMap_nil, List.append_nil, hitem]
      · rw [ended_append_of_settled (settled_text hending), hitem, ih hitems.tail]
        rfl

/-- Every text is put together from normal lines in exactly one way, and cutting it gives
their lines. -/
theorem exists_unique_normal (text : Text) :
    ∃ items, Normal items ∧ items.flatMap EndedLine.text = text ∧
      (∀ other, Normal other → other.flatMap EndedLine.text = text → other = items) ∧
      ofText text = items.map EndedLine.line := by
  refine ⟨ended text, normal_ended text, flatMap_text_ended text, ?_, rfl⟩
  rintro other hother rfl
  exact hother.ended_flatMap.symm

example : ofText "a\r\r\n\n\rb\r".toList = ["a\r", "", "\rb\r"].map String.toList := by
  decide

end Weave.Lines
