import Weave.Proofs.Document.Runs

namespace Weave.Document

/-! Blank and silenced lines have no role of their own. Wherever one stands, the rest of
the document is what it would have been without it, with a single exception: as the first
line of a file it takes from a shebang behind it the place where a shebang is dropped. -/

/-- What a line without a role leaves in the document: a blank line itself, a silenced
one nothing. -/
def echo (line : Line) : List Line :=
  if line.isBlank then [line] else []

/-- What comes of lines from a state on, to the end of the document. -/
def State.remainder (subject : Subject) (moment : Moment) (state : State)
    (lines : List Line) : List Line :=
  (state.outputs subject lines).flatten ++ (state.after lines).closing subject moment

theorem State.remainder_cons (subject : Subject) (moment : Moment) (state : State)
    (line : Line) (rest : List Line) :
    state.remainder subject moment (line :: rest) =
      state.emit subject line ++ (state.next line).remainder subject moment rest := by
  simp [State.remainder]

theorem document_append (subject : Subject) (moment : Moment) (front back : List Line) :
    document subject moment (front ++ back) =
      body subject front ++ (State.after {} front).remainder subject moment back := by
  simp [document, body, State.remainder, State.outputs_append]

theorem not_isShebang_of_isBlank {line : Line} (hblank : line.isBlank = true) :
    line.isShebang = false := by
  cases line with
  | nil => rfl
  | cons character rest =>
      rw [Line.isBlank_cons, Bool.and_eq_true] at hblank
      have hmark : ('#' == character) = false := by
        rw [beq_eq_false_iff_ne]
        rintro rfl
        exact absurd hblank.1 (by decide)
      simp [Line.isShebang, Line.shebang, List.isPrefixOf, hmark]

theorem kind_of_isBlank (first : Bool) {line : Line} (hblank : line.isBlank = true) :
    line.kind first = .blank := by
  simp [Line.kind, not_isShebang_of_isBlank hblank, hblank]

theorem kind_eq_dropped (first : Bool) {line : Line} (hsilenced : line.isSilenced = true) :
    line.kind first = .dropped := by
  cases hdropped : first && line.isShebang with
  | true => simp only [Line.kind, hdropped, if_true]
  | false =>
      have hkind : line.kind first = line.kind false := by
        simp only [Line.kind, hdropped, Bool.false_and]
      rw [hkind, kind_of_isSilenced hsilenced]

section Step

variable {line : Line} (hneutral : line.isBlank = true ∨ line.isSilenced = true)
include hneutral

theorem next_neutral (state : State) : state.next line = ⟨true, state.role⟩ := by
  rcases hneutral with hblank | hsilenced
  · simp [State.next, kind_of_isBlank _ hblank]
  · simp [State.next, kind_eq_dropped _ hsilenced]

theorem emit_neutral (subject : Subject) (state : State) :
    state.emit subject line = echo line := by
  rcases hneutral with hblank | hsilenced
  · simp [State.emit, kind_of_isBlank _ hblank, echo, hblank]
  · have hprinted : line.isBlank = false := by
      cases hblank : line.isBlank with
      | false => rfl
      | true => simp [not_isSilenced_of_isBlank hblank] at hsilenced
    simp [State.emit, kind_eq_dropped _ hsilenced, echo, hprinted]

theorem document_neutral (subject : Subject) (moment : Moment) (front back : List Line) :
    document subject moment (front ++ line :: back) =
      body subject front ++ echo line ++
        State.remainder subject moment ⟨true, (State.after {} front).role⟩ back := by
  rw [document_append, State.remainder_cons, emit_neutral hneutral, next_neutral hneutral,
    List.append_assoc]

end Step

/-- Whether any line came before matters to the first line alone, and to that one only if
it is a shebang. -/
theorem remainder_started {back : List Line}
    (hback : back = [] ∨ ∃ first, back.head? = some first ∧
      (first.isShebang = false ∨ first.isSilenced = true))
    (subject : Subject) (moment : Moment) (state : State) :
    state.remainder subject moment back =
      State.remainder subject moment ⟨true, state.role⟩ back := by
  cases back with
  | nil => rfl
  | cons first rest =>
      have hkind : ∀ started : Bool, first.kind started = first.kind false := by
        intro started
        rcases hback with hnil | ⟨head, hhead, hshebang | hsilenced⟩
        · cases hnil
        · cases hhead
          simp [Line.kind, hshebang]
        · cases hhead
          rw [kind_eq_dropped started hsilenced, kind_eq_dropped false hsilenced]
      have hemit : state.emit subject first =
          State.emit subject ⟨true, state.role⟩ first := by
        simp only [State.emit, hkind]
      have hnext : state.next first = State.next ⟨true, state.role⟩ first := by
        simp only [State.next, hkind]
      rw [State.remainder_cons, State.remainder_cons, hemit, hnext]

theorem started_after {state : State} (hstarted : state.started = true)
    (lines : List Line) : (state.after lines).started = true := by
  induction lines generalizing state with
  | nil => exact hstarted
  | cons line lines ih => exact ih (State.started_next state line)

theorem started_after_of_ne_nil {front : List Line} (hfront : front ≠ []) :
    (State.after {} front).started = true := by
  obtain ⟨first, rest, rfl⟩ := List.exists_cons_of_ne_nil hfront
  exact started_after (State.started_next {} first) rest

/-- The same lines end with at most one line less when code is open than when it is not:
the two meet again at the first line that has a role. -/
theorem length_remainder_prose_le (subject : Subject) (moment : Moment)
    (lines : List Line) :
    (State.remainder subject moment ⟨true, .prose⟩ lines).length ≤
      (State.remainder subject moment ⟨true, .code⟩ lines).length + 1 := by
  induction lines with
  | nil =>
      simp only [State.remainder, State.closing, edge, State.outputs_nil, State.after_nil,
        List.flatten_nil, List.length_append, List.length_nil, List.length_singleton]
      omega
  | cons line rest ih =>
      rw [State.remainder_cons, State.remainder_cons, List.length_append,
        List.length_append]
      cases hkind : line.kind false with
      | dropped => simpa [State.emit, State.next, hkind] using ih
      | blank =>
          simp only [State.emit, State.next, hkind, Bool.not_true]
          omega
      | comment =>
          simp [State.emit, State.next, hkind, edge]
          omega
      | code =>
          simp [State.emit, State.next, hkind, edge]
          omega

theorem kind_shebang {line : Line} (hshebang : line.isShebang = true)
    (hsilenced : line.isSilenced = false) :
    line.kind true = .dropped ∧ line.kind false = .code := by
  obtain ⟨rest, rfl⟩ := List.isPrefixOf_iff_prefix.mp hshebang
  have hprinted : Text.isBlank '#' = false := by decide
  have hblank : Line.isBlank (Line.shebang ++ rest) = false := by
    simp [Line.shebang, hprinted]
  have hcomment : Line.isComment (Line.shebang ++ rest) = false := by
    simp [Line.isComment, Line.shebang, Line.marker, List.isPrefixOf,
      Text.trimLeft_cons_of_not_blank, hprinted]
  exact ⟨by simp [Line.kind, hshebang],
    by simp [Line.kind, hblank, hsilenced, hcomment]⟩

/-- A shebang that is not the first line opens a block of code, and nothing that follows
can make up for its two lines. -/
theorem remainder_shebang_ne {first : Line} (hshebang : first.isShebang = true)
    (hsilenced : first.isSilenced = false) (subject : Subject) (moment : Moment)
    (rest : List Line) :
    State.remainder subject moment ⟨true, .prose⟩ (first :: rest) ≠
      State.remainder subject moment {} (first :: rest) := by
  obtain ⟨hdropped, hcode⟩ := kind_shebang hshebang hsilenced
  intro heq
  have hlength := congrArg List.length heq
  have hbound := length_remainder_prose_le subject moment rest
  simp [State.remainder_cons, State.emit, State.next, hdropped, hcode, edge] at hlength
  omega

/-- A blank or silenced line can be put anywhere in a file, and the document has it in its
place and is otherwise the same, unless it pushes a shebang off the first line. -/
theorem document_insert_neutral {line : Line}
    (hneutral : line.isBlank = true ∨ line.isSilenced = true)
    (subject : Subject) (moment : Moment) (front back : List Line) :
    ∃ rest, document subject moment (front ++ back) = body subject front ++ rest ∧
      (document subject moment (front ++ [line] ++ back) =
          body subject front ++ echo line ++ rest ↔
        front ≠ [] ∨ back = [] ∨ ∃ first, back.head? = some first ∧
          (first.isShebang = false ∨ first.isSilenced = true)) := by
  refine ⟨_, document_append subject moment front back, ?_⟩
  rw [List.append_assoc, List.singleton_append, document_neutral hneutral,
    List.append_cancel_left_eq]
  constructor
  · intro hsame
    by_contra hshifted
    simp only [not_or, not_exists, not_and, not_not, Bool.not_eq_false,
      Bool.not_eq_true] at hshifted
    obtain ⟨rfl, hback, hfirst⟩ := hshifted
    obtain ⟨first, rest, rfl⟩ := List.exists_cons_of_ne_nil hback
    obtain ⟨hshebang, hsilenced⟩ := hfirst first rfl
    exact remainder_shebang_ne hshebang hsilenced subject moment rest hsame
  · rintro (hfront | hback)
    · rw [← started_after_of_ne_nil hfront]
    · exact (remainder_started hback subject moment _).symm

def script : Subject where
  language := "sh".toList
  name := "run".toList

def scriptMoment : Moment := { date := ⟨2026, 10, 17⟩, hour := 9, minute := 30, second := 0 }

def scriptLines : List Line := ["#!/bin/sh".toList, "// a".toList, "x".toList]

def silencedLine : Line := "y // jdi-disable-line".toList

/-- A silenced line behind code leaves the rest alone; a blank line in front of a shebang
does not. -/
theorem document_insert_neutral_script :
    silencedLine.isSilenced = true ∧
      (∃ rest,
        document script scriptMoment (["x".toList] ++ scriptLines) =
          body script ["x".toList] ++ rest ∧
        document script scriptMoment (["x".toList] ++ [silencedLine] ++ scriptLines) =
          body script ["x".toList] ++ [] ++ rest) ∧
      Line.isBlank ['\t'] = true ∧
      document script scriptMoment ([] ++ [['\t']] ++ scriptLines) ≠
        ['\t'] :: document script scriptMoment scriptLines := by
  have hsilenced : silencedLine.isSilenced = true := by decide
  have hblank : Line.isBlank ['\t'] = true := by decide
  obtain ⟨rest, hrest, hinside⟩ :=
    document_insert_neutral (.inr hsilenced) script scriptMoment ["x".toList] scriptLines
  obtain ⟨whole, hwhole, hfirst⟩ :=
    document_insert_neutral (.inl hblank) script scriptMoment [] scriptLines
  refine ⟨hsilenced, ⟨rest, hrest, hinside.mpr (.inl (by decide))⟩, hblank, ?_⟩
  rw [show document script scriptMoment scriptLines = whole from hwhole]
  intro hsame
  have hpushed := hfirst.mp hsame
  simp only [scriptLines, List.head?_cons, Option.some.injEq, exists_eq_left', ne_eq,
    not_true_eq_false, false_or] at hpushed
  exact absurd hpushed (by decide)

end Weave.Document
