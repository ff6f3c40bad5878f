import Mathlib.Data.List.Induction
import Weave.Proofs.Document.Neutral
import Weave.Proofs.Session.Interleaving

namespace Weave

namespace Document

/-! What is remembered between two lines, told from the lines that came. A significant line
decides which role the lines behind it find. All other lines leave nothing behind but the
fact that they came. -/

structure SignificantAt (lines : List Line) (index : Nat) (line : Line) : Prop where
  here : lines[index]? = some line
  printed : line.isBlank = false
  heard : line.isSilenced = false
  no_shebang : index = 0 → line.isShebang = false

def LastSignificant (lines : List Line) (line : Line) : Prop :=
  ∃ index, SignificantAt lines index line ∧
    ∀ later other, SignificantAt lines later other → later ≤ index

section Concat

variable {lines : List Line} {last line : Line} {index : Nat}

theorem SignificantAt.lt_length (hline : SignificantAt lines index line) :
    index < lines.length :=
  (List.getElem?_eq_some_iff.mp hline.here).1

theorem SignificantAt.le_length (hline : SignificantAt (lines ++ [last]) index line) :
    index ≤ lines.length := by
  have hlength := hline.lt_length
  rw [List.length_append, List.length_singleton] at hlength
  exact Nat.lt_succ_iff.mp hlength

/-- A line is as significant as before when another one comes behind it. -/
theorem significantAt_concat (hindex : index < lines.length) :
    SignificantAt (lines ++ [last]) index line ↔ SignificantAt lines index line := by
  have hsame : (lines ++ [last])[index]? = lines[index]? :=
    List.getElem?_append_left hindex
  constructor
  · rintro ⟨hhere, hprinted, hheard, hshebang⟩
    exact ⟨hsame.symm.trans hhere, hprinted, hheard, hshebang⟩
  · rintro ⟨hhere, hprinted, hheard, hshebang⟩
    exact ⟨hsame.trans hhere, hprinted, hheard, hshebang⟩

theorem lastSignificant_concat (hlast : SignificantAt (lines ++ [last]) lines.length last) :
    LastSignificant (lines ++ [last]) line ↔ line = last := by
  constructor
  · rintro ⟨index, hline, hlater⟩
    have hindex : index = lines.length :=
      Nat.le_antisymm hline.le_length (hlater _ _ hlast)
    have hsame : some line = some last := by
      rw [← hline.here, hindex, hlast.here]
    exact Option.some.inj hsame
  · rintro rfl
    exact ⟨lines.length, hlast, fun later other hother => hother.le_length⟩

theorem lastSignificant_concat_of_not
    (hlast : ¬SignificantAt (lines ++ [last]) lines.length last) :
    LastSignificant (lines ++ [last]) line ↔ LastSignificant lines line := by
  have hplaces : ∀ index line,
      SignificantAt (lines ++ [last]) index line ↔ SignificantAt lines index line := by
    intro index line
    rcases Nat.lt_or_ge index lines.length with hindex | hindex
    · exact significantAt_concat hindex
    · constructor
      · intro hline
        obtain rfl : index = lines.length := Nat.le_antisymm hline.le_length hindex
        obtain rfl : last = line := by simpa using hline.here
        exact absurd hline hlast
      · intro hline
        exact absurd hline.lt_length (Nat.not_lt.mpr hindex)
  simp only [LastSignificant, hplaces]

theorem neutral_or_shebang_of_not
    (hlast : ¬SignificantAt (lines ++ [last]) lines.length last) :
    (last.isBlank = true ∨ last.isSilenced = true) ∨
      lines.length = 0 ∧ last.isShebang = true := by
  by_contra hnone
  simp only [not_or, not_and, Bool.not_eq_true] at hnone
  obtain ⟨⟨hprinted, hheard⟩, hshebang⟩ := hnone
  exact hlast ⟨List.getElem?_concat_length, hprinted, hheard, hshebang⟩

end Concat

theorem next_significant {state : State} {line : Line} (hprinted : line.isBlank = false)
    (hheard : line.isSilenced = false)
    (hshebang : state.started = false → line.isShebang = false) :
    state.next line = ⟨true, ownRole line⟩ := by
  have hkept : (!state.started && line.isShebang) = false := by
    cases hstarted : state.started with
    | true => rfl
    | false => exact hshebang hstarted
  cases hcomment : line.isComment <;>
    simp [State.next, Line.kind, ownRole, hkept, hprinted, hheard, hcomment]

theorem next_shebang {state : State} {line : Line} (hfirst : state.started = false)
    (hshebang : line.isShebang = true) : state.next line = ⟨true, state.role⟩ := by
  simp [State.next, Line.kind, hfirst, hshebang]

/-- What a state holds of the lines that led to it. -/
structure Remembers (state : State) (lines : List Line) : Prop where
  started : state.started = true ↔ lines ≠ []
  role : state.role = .code ↔ ∃ line, LastSignificant lines line ∧ line.isComment = false

theorem remembers_nil : Remembers {} [] where
  started := by simp
  role := by
    constructor
    · intro hrole
      cases hrole
    · rintro ⟨line, ⟨index, hline, -⟩, -⟩
      cases hline.here

theorem Remembers.next {state : State} {lines : List Line}
    (hstate : Remembers state lines) (line : Line) :
    Remembers (state.next line) (lines ++ [line]) where
  started := by simp
  role := by
    -- What the state calls the first line is the line at position zero.
    have hfirst : state.started = false ↔ lines.length = 0 := by
      rw [← Bool.not_eq_true, hstate.started, not_not, List.length_eq_zero_iff]
    by_cases hlast : SignificantAt (lines ++ [line]) lines.length line
    · have hnext : state.next line = ⟨true, ownRole line⟩ :=
        next_significant hlast.printed hlast.heard fun hnone =>
          hlast.no_shebang (hfirst.mp hnone)
      simp [hnext, lastSignificant_concat hlast, ownRole]
    · have hnext : state.next line = ⟨true, state.role⟩ := by
        rcases neutral_or_shebang_of_not hlast with hneutral | ⟨hlines, hshebang⟩
        · exact next_neutral hneutral state
        · exact next_shebang (hfirst.mpr hlines) hshebang
      simp only [hnext, hstate.role, lastSignificant_concat_of_not hlast]

theorem remembers_after (lines : List Line) : Remembers (State.after {} lines) lines := by
  -- From the end: the step is the line that was taken in last.
  induction lines using List.reverseRecOn with
  | nil => exact remembers_nil
  | append_singleton lines line ih =>
      rw [State.after_append]
      exact ih.next line

-- Behind an empty line a shebang is code like any other.
example : (State.after {} [[], Line.shebang, []]).role = .code := by decide

end Document

namespace Session

open Document

/-- Whatever lines a new session is fed, it knows whether any came and whether the last
significant one was code, and its subject has no part in this. -/
theorem state_of_feeds (subject : Subject) (lines : List Line) :
    (((fresh subject).afterAll (lines.map .feed)).state.started = true ↔ lines ≠ []) ∧
      (((fresh subject).afterAll (lines.map .feed)).state.role = .code ↔
        ∃ line, LastSignificant lines line ∧ line.isComment = false) ∧
      ∀ other, ((fresh other).afterAll (lines.map .feed)).state =
        ((fresh subject).afterAll (lines.map .feed)).state := by
  have hstate : ∀ subject, ((fresh subject).afterAll (lines.map .feed)).state =
      State.after {} lines := by
    intro subject
    rw [fresh, afterAll_feeds]
  have hremembers := remembers_after lines
  rw [hstate]
  exact ⟨hremembers.started, hremembers.role, hstate⟩

end Session

end Weave
