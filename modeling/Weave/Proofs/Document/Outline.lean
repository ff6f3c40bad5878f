import Weave.Proofs.Document.Neutral

namespace Weave.Document

/-! The outline of a document says of each of its lines what it is. It is drawn up from the
lines of the file alone; the language, the name and the moment only fill it in. -/

inductive Slot
  | opening
  | credit
  | fixed (line : Line)
  deriving DecidableEq, Repr

namespace Slot

def fill (subject : Subject) (moment : Moment) : Slot → Line
  | .opening => Document.opening subject
  | .credit => Document.credit subject.name moment
  | .fixed line => line

def edge : Role → Role → List Slot
  | .prose, .code => [.opening]
  | .code, .prose => [.fixed fence]
  | .prose, .prose => []
  | .code, .code => []

def footer : List Slot :=
  [.fixed rule, .credit, .fixed []]

theorem map_fill_edge (subject : Subject) (moment : Moment) (standing role : Role) :
    (edge standing role).map (fill subject moment) =
      Document.edge subject standing role := by
  cases standing <;> cases role <;> rfl

end Slot

def State.slots (state : State) (line : Line) : List Slot :=
  match line.kind !state.started with
  | .dropped => []
  | .blank => [.fixed line]
  | .comment => Slot.edge state.role .prose ++ [.fixed line.uncomment]
  | .code => Slot.edge state.role .code ++ [.fixed line]

def State.outline (state : State) : List Line → List Slot
  | [] => Slot.edge state.role .prose ++ Slot.footer
  | line :: rest => state.slots line ++ (state.next line).outline rest

theorem State.map_fill_slots (subject : Subject) (moment : Moment) (state : State)
    (line : Line) :
    (state.slots line).map (Slot.fill subject moment) = state.emit subject line := by
  unfold State.slots State.emit
  cases line.kind !state.started with
  | dropped => rfl
  | blank => rfl
  | comment => simp [Slot.map_fill_edge, Slot.fill]
  | code => simp [Slot.map_fill_edge, Slot.fill]

theorem State.map_fill_outline (subject : Subject) (moment : Moment) (state : State)
    (lines : List Line) :
    (state.outline lines).map (Slot.fill subject moment) =
      state.remainder subject moment lines := by
  induction lines generalizing state with
  | nil =>
      rw [State.outline, List.map_append, Slot.map_fill_edge]
      rfl
  | cons line lines ih =>
      rw [State.outline, List.map_append, State.map_fill_slots, ih, State.remainder_cons]

theorem document_eq_outline (subject : Subject) (moment : Moment) (lines : List Line) :
    document subject moment lines =
      (State.outline {} lines).map (Slot.fill subject moment) :=
  (State.map_fill_outline subject moment {} lines).symm

/-! The name and the moment stand in one place, the last line but one. -/

theorem State.credit_not_mem_slots (state : State) (line : Line) :
    Slot.credit ∉ state.slots line := by
  unfold State.slots
  cases line.kind !state.started <;> cases state.role <;> simp [Slot.edge]

theorem State.outline_eq_append_footer (state : State) (lines : List Line) :
    ∃ front, state.outline lines = front ++ Slot.footer ∧ Slot.credit ∉ front := by
  induction lines generalizing state with
  | nil =>
      refine ⟨Slot.edge state.role .prose, rfl, ?_⟩
      cases state.role <;> simp [Slot.edge]
  | cons line lines ih =>
      obtain ⟨front, hfront, hcredit⟩ := ih (state.next line)
      refine ⟨state.slots line ++ front, ?_, ?_⟩
      · rw [State.outline, hfront, List.append_assoc]
      · rw [List.mem_append, not_or]
        exact ⟨state.credit_not_mem_slots line, hcredit⟩

theorem State.getElem?_outline_credit {state : State} {lines : List Line} {index : Nat} :
    (state.outline lines)[index]? = some .credit ↔
      index + 2 = (state.outline lines).length := by
  obtain ⟨front, hfront, hcredit⟩ := state.outline_eq_append_footer lines
  rw [hfront, List.length_append]
  rcases Nat.lt_or_ge index front.length with hindex | hindex
  · rw [List.getElem?_append_left hindex]
    constructor
    · intro hslot
      exact absurd (List.mem_of_getElem? hslot) hcredit
    · intro hlast
      simp only [Slot.footer, List.length_cons, List.length_nil] at hlast
      omega
  · rw [List.getElem?_append_right hindex]
    obtain ⟨offset, rfl⟩ := Nat.exists_eq_add_of_le hindex
    rw [Nat.add_sub_cancel_left]
    match offset with
    | 0 => simp [Slot.footer]
    | 1 => simp [Slot.footer, Nat.add_assoc]
    | 2 => simp [Slot.footer, Nat.add_assoc]
    | offset + 3 => simp [Slot.footer]

/-! The language stands where code begins. -/

theorem State.length_emit (subject : Subject) (state : State) (line : Line) :
    (state.emit subject line).length = (state.slots line).length := by
  unfold State.emit State.slots
  cases line.kind !state.started with
  | dropped => rfl
  | blank => rfl
  | comment => cases state.role <;> rfl
  | code => cases state.role <;> rfl

theorem State.getElem?_slots_opening {state : State} {line : Line} {index : Nat} :
    (state.slots line)[index]? = some .opening ↔
      index = 0 ∧ state.role = .prose ∧ line.kind (!state.started) = .code := by
  unfold State.slots
  cases line.kind !state.started <;> cases state.role <;>
    rcases index with _ | _ | index <;> simp [Slot.edge]

theorem State.getElem?_outline_opening {state : State} {lines : List Line} {index : Nat}
    (subject : Subject) :
    (state.outline lines)[index]? = some .opening ↔
      ∃ earlier line later, lines = earlier ++ line :: later ∧
        (state.after earlier).role = .prose ∧
        line.kind (!(state.after earlier).started) = .code ∧
        (state.outputs subject earlier).flatten.length = index := by
  induction lines generalizing state index with
  | nil =>
      have hnone : Slot.opening ∉ state.outline [] := by
        cases hrole : state.role <;> simp [State.outline, hrole, Slot.edge, Slot.footer]
      constructor
      · intro hslot
        exact absurd (List.mem_of_getElem? hslot) hnone
      · rintro ⟨earlier, line, later, hlines, -⟩
        simp at hlines
  | cons line lines ih =>
      rw [State.outline]
      constructor
      · intro hslot
        -- The slot belongs to the first line or to those behind it.
        rcases Nat.lt_or_ge index (state.slots line).length with hindex | hindex
        · rw [List.getElem?_append_left hindex] at hslot
          obtain ⟨rfl, hrole, hkind⟩ := State.getElem?_slots_opening.mp hslot
          exact ⟨[], line, lines, rfl, hrole, hkind, rfl⟩
        · rw [List.getElem?_append_right hindex] at hslot
          obtain ⟨earlier, first, later, rfl, hrole, hkind, hlength⟩ := ih.mp hslot
          refine ⟨line :: earlier, first, later, rfl, hrole, hkind, ?_⟩
          rw [State.outputs_cons, List.flatten_cons, List.length_append, hlength,
            State.length_emit]
          omega
      · rintro ⟨earlier, first, later, hlines, hrole, hkind, rfl⟩
        cases earlier with
        | nil =>
            cases hlines
            have hslot := State.getElem?_slots_opening.mpr ⟨rfl, hrole, hkind⟩
            rw [← hslot]
            exact List.getElem?_append_left (List.getElem?_eq_some_iff.mp hslot).1
        | cons head earlier =>
            cases hlines
            rw [State.outputs_cons, List.flatten_cons, List.length_append,
              State.length_emit, List.getElem?_append_right (Nat.le_add_right _ _),
              Nat.add_sub_cancel_left]
            exact ih.mpr ⟨earlier, first, later, rfl, hrole, hkind, rfl⟩

/-- A line of code comes while prose stands, and so many lines of the document come before
it. -/
def OpensAt (lines : List Line) (index : Nat) : Prop :=
  ∃ earlier line later, lines = earlier ++ line :: later ∧
    (State.after {} earlier).role = .prose ∧
    line.kind (!(State.after {} earlier).started) = .code ∧
    (body {} earlier).length = index

theorem opensAt_iff {lines : List Line} {index : Nat} :
    OpensAt lines index ↔ (State.outline {} lines)[index]? = some .opening :=
  (State.getElem?_outline_opening {}).symm

section Documents

variable (subject other : Subject) (moment later : Moment) {lines : List Line} {index : Nat}

theorem length_document (lines : List Line) :
    (document subject moment lines).length = (State.outline {} lines).length := by
  rw [document_eq_outline, List.length_map]

theorem getElem?_document {slot : Slot}
    (hslot : (State.outline {} lines)[index]? = some slot) :
    (document subject moment lines)[index]? = some (slot.fill subject moment) := by
  rw [document_eq_outline, List.getElem?_map, hslot]
  rfl

theorem getElem?_document_opening (hopens : OpensAt lines index) :
    (document subject moment lines)[index]? = some (opening subject) :=
  getElem?_document subject moment (opensAt_iff.mp hopens)

theorem getElem?_document_credit
    (hcredit : index + 2 = (document subject moment lines).length) :
    (document subject moment lines)[index]? = some (credit subject.name moment) := by
  rw [length_document] at hcredit
  exact getElem?_document subject moment (State.getElem?_outline_credit.mpr hcredit)

/-- All other lines are the same in every document of the file. -/
theorem getElem?_document_fixed
    (hopens : OpensAt lines index → opening subject = opening other)
    (hcredit : index + 2 ≠ (document subject moment lines).length) :
    (document subject moment lines)[index]? = (document other later lines)[index]? := by
  rw [length_document, ne_eq, ← State.getElem?_outline_credit] at hcredit
  cases hslot : (State.outline {} lines)[index]? with
  | none => simp [document_eq_outline, hslot]
  | some slot =>
      rw [getElem?_document subject moment hslot, getElem?_document other later hslot]
      cases slot with
      | opening => exact congrArg some (hopens (opensAt_iff.mpr hslot))
      | credit => exact absurd hslot hcredit
      | fixed line => rfl

end Documents

/-- Two documents of the same lines differ only in what their settings say: the language
where a block of code is opened, and the name and the moment on the last line but one. -/
theorem documents_differ_in_settings (lines : List Line) (first second : Subject)
    (now later : Moment) :
    (document first now lines).length = (document second later lines).length ∧
      (∀ index, OpensAt lines index →
        (document first now lines)[index]? = some (opening first) ∧
          (document second later lines)[index]? = some (opening second)) ∧
      (∀ index, index + 2 = (document first now lines).length →
        (document first now lines)[index]? = some (credit first.name now) ∧
          (document second later lines)[index]? = some (credit second.name later)) ∧
      (∀ index, ¬OpensAt lines index → index + 2 ≠ (document first now lines).length →
        (document first now lines)[index]? = (document second later lines)[index]?) ∧
      (first.language = second.language →
        ∀ index, index + 2 ≠ (document first now lines).length →
          (document first now lines)[index]? = (document second later lines)[index]?) := by
  have hlength : (document first now lines).length =
      (document second later lines).length := by
    rw [length_document, length_document]
  refine ⟨hlength, ?_, ?_, ?_, ?_⟩
  · intro index hopens
    exact ⟨getElem?_document_opening first now hopens,
      getElem?_document_opening second later hopens⟩
  · intro index hcredit
    exact ⟨getElem?_document_credit first now hcredit,
      getElem?_document_credit second later (hcredit.trans hlength)⟩
  · intro index hopens hcredit
    exact getElem?_document_fixed first second now later (fun h => absurd h hopens) hcredit
  · intro hlanguage index hcredit
    refine getElem?_document_fixed first second now later (fun _ => ?_) hcredit
    rw [opening, opening, hlanguage]

end Weave.Document
