import Weave.Source

namespace Weave.Document

/-! A document is made on demand. Its maker gives the lines that are ready, one at a time.
When none is ready it takes the next line of the source. When the source has no more, it
makes ready what closes the document, once; when the source fails instead, it stops there
with the fault and makes nothing ready. -/

inductive Event (cause : Type)
  | take (line : Line)
  | finish
  | fail (fault : cause)
  | give (line : Line)
  deriving DecidableEq, Repr

namespace Event

variable {cause : Type}

def isGive : Event cause → Bool
  | .give _ => true
  | .take _ => false
  | .finish => false
  | .fail _ => false

def taken? : Event cause → Option Line
  | .take line => some line
  | .finish => none
  | .fail _ => none
  | .give _ => none

def given? : Event cause → Option Line
  | .give line => some line
  | .take _ => none
  | .finish => none
  | .fail _ => none

def fault? : Event cause → Option cause
  | .fail fault => some fault
  | .take _ => none
  | .finish => none
  | .give _ => none

/-- The lines taken from the source, in order. -/
def takes (events : List (Event cause)) : List Line :=
  events.filterMap taken?

/-- The lines given, in order, and the fault that was met, if any. -/
def produced (events : List (Event cause)) : Source.Produced cause :=
  ⟨events.filterMap given?, events.findSome? fault?⟩

@[simp] theorem takes_append (front back : List (Event cause)) :
    takes (front ++ back) = takes front ++ takes back := by
  simp [takes]

@[simp] theorem takes_cons_take (line : Line) (events : List (Event cause)) :
    takes (.take line :: events) = line :: takes events := rfl

@[simp] theorem takes_map_give (lines : List Line) :
    takes (lines.map (.give : Line → Event cause)) = [] := by
  induction lines with
  | nil => rfl
  | cons line lines ih => exact ih

@[simp] theorem produced_cons_take (line : Line) (events : List (Event cause)) :
    produced (.take line :: events) = produced events := rfl

@[simp] theorem produced_cons_finish (events : List (Event cause)) :
    produced (.finish :: events) = produced events := rfl

@[simp] theorem produced_cons_give (line : Line) (events : List (Event cause)) :
    produced (.give line :: events) =
      ⟨line :: (produced events).lines, (produced events).fault⟩ := rfl

theorem produced_map_give_append (lines : List Line) (events : List (Event cause)) :
    produced (lines.map .give ++ events) =
      ⟨lines ++ (produced events).lines, (produced events).fault⟩ := by
  induction lines with
  | nil => rfl
  | cons line lines ih => simp [ih]

end Event

structure Maker where
  state : State := {}
  ready : List Line := []
  finished : Bool := false
  deriving DecidableEq, Repr

namespace Maker

variable {cause : Type}

/-- What a maker does next, and the maker and the source as they are afterwards. -/
def step (subject : Subject) (moment : Moment) (maker : Maker)
    (source : Source.Produced cause) :
    Option (Event cause × Maker × Source.Produced cause) :=
  match maker.ready, maker.finished, source with
  | line :: rest, _, source => some (.give line, { maker with ready := rest }, source)
  | [], true, _ => none
  | [], false, ⟨line :: rest, fault⟩ =>
      some (.take line, ⟨maker.state.next line, maker.state.emit subject line, false⟩,
        ⟨rest, fault⟩)
  | [], false, ⟨[], none⟩ =>
      some (.finish, ⟨maker.state, maker.state.closing subject moment, true⟩, ⟨[], none⟩)
  | [], false, ⟨[], some fault⟩ =>
      some (.fail fault, ⟨maker.state, [], true⟩, ⟨[], none⟩)

/-- All that a maker does with a source, until there is nothing left to do. -/
inductive Runs (subject : Subject) (moment : Moment) :
    Maker → Source.Produced cause → List (Event cause) → Prop
  | idle {maker : Maker} {source : Source.Produced cause}
      (hstep : maker.step subject moment source = none) :
      Runs subject moment maker source []
  | step {maker next : Maker} {source remaining : Source.Produced cause}
      {event : Event cause} {events : List (Event cause)}
      (hstep : maker.step subject moment source = some (event, next, remaining))
      (hlater : Runs subject moment next remaining events) :
      Runs subject moment maker source (event :: events)

section Steps

variable {subject : Subject} {moment : Moment} {maker next : Maker}
  {source remaining : Source.Produced cause} {event : Event cause}
  {events : List (Event cause)}

theorem runs_of_none (hstep : maker.step subject moment source = none) :
    Runs subject moment maker source events ↔ events = [] := by
  constructor
  · intro hruns
    cases hruns with
    | idle => rfl
    | step hother => simp [hstep] at hother
  · rintro rfl
    exact .idle hstep

theorem runs_of_some
    (hstep : maker.step subject moment source = some (event, next, remaining)) :
    Runs subject moment maker source events ↔
      ∃ later, events = event :: later ∧ Runs subject moment next remaining later := by
  constructor
  · intro hruns
    cases hruns with
    | idle hother => simp [hstep] at hother
    | @step _ _ _ _ _ later hother hlater =>
        rw [hstep] at hother
        cases hother
        exact ⟨later, rfl, hlater⟩
  · rintro ⟨later, rfl, hlater⟩
    exact .step hstep hlater

end Steps

/-- Whatever is ready is given before anything else is done. -/
theorem runs_ready {subject : Subject} {moment : Moment} {state : State} {finished : Bool}
    {ready : List Line} {source : Source.Produced cause} {events : List (Event cause)} :
    Runs subject moment ⟨state, ready, finished⟩ source events ↔
      ∃ later, events = ready.map .give ++ later ∧
        Runs subject moment ⟨state, [], finished⟩ source later := by
  induction ready generalizing events with
  | nil => simp
  | cons line ready ih =>
      rw [runs_of_some rfl]
      constructor
      · rintro ⟨_, rfl, hruns⟩
        obtain ⟨later, rfl, hlater⟩ := ih.mp hruns
        exact ⟨later, rfl, hlater⟩
      · rintro ⟨later, rfl, hlater⟩
        exact ⟨ready.map .give ++ later, rfl, ih.mpr ⟨later, rfl, hlater⟩⟩

/-- A maker that has finished gives what is ready and is done. -/
theorem runs_finished {subject : Subject} {moment : Moment} {state : State}
    {ready : List Line} {source : Source.Produced cause} {events : List (Event cause)} :
    Runs subject moment ⟨state, ready, true⟩ source events ↔
      events = ready.map .give := by
  rw [runs_ready]
  constructor
  · rintro ⟨later, rfl, hlater⟩
    rw [(runs_of_none rfl).mp hlater, List.append_nil]
  · rintro rfl
    exact ⟨[], (List.append_nil _).symm, .idle rfl⟩

end Maker

section Making

variable {cause : Type}

/-! What a maker does, line by line. -/

/-- Every line is taken, and what comes of it is given at once. -/
def State.progress (subject : Subject) (state : State) : List Line → List (Event cause)
  | [] => []
  | line :: rest =>
      .take line :: (state.emit subject line).map .give ++
        (state.next line).progress subject rest

/-- What is done once no line is left: the document is closed, or the fault that came in
place of a line is passed on. -/
def State.ending (subject : Subject) (moment : Moment) (state : State) :
    Option cause → List (Event cause)
  | none => .finish :: (state.closing subject moment).map .give
  | some fault => [.fail fault]

def making (subject : Subject) (moment : Moment) (source : Source.Produced cause) :
    List (Event cause) :=
  State.progress subject {} source.lines ++
    (State.after {} source.lines).ending subject moment source.fault

theorem State.progress_append (subject : Subject) (state : State) (front back : List Line) :
    (state.progress subject (front ++ back) : List (Event cause)) =
      state.progress subject front ++ (state.after front).progress subject back := by
  induction front generalizing state with
  | nil => rfl
  | cons line front ih => simp [State.progress, ih]

theorem State.takes_progress (subject : Subject) (state : State) (lines : List Line) :
    Event.takes (state.progress subject lines : List (Event cause)) = lines := by
  induction lines generalizing state with
  | nil => rfl
  | cons line lines ih => simp [State.progress, ih]

theorem Maker.runs_iff {subject : Subject} {moment : Moment} {state : State}
    {lines : List Line} {fault : Option cause} {events : List (Event cause)} :
    Runs subject moment ⟨state, [], false⟩ ⟨lines, fault⟩ events ↔
      events = state.progress subject lines ++
        (state.after lines).ending subject moment fault := by
  induction lines generalizing state events with
  | nil =>
      -- The source has said how it ends only when no line is left.
      cases fault with
      | none =>
          rw [runs_of_some rfl]
          simp [runs_finished, State.progress, State.ending]
      | some fault =>
          rw [runs_of_some rfl]
          simp [runs_finished, State.progress, State.ending]
  | cons line lines ih =>
      rw [runs_of_some rfl]
      constructor
      · rintro ⟨_, rfl, hruns⟩
        obtain ⟨later, rfl, hlater⟩ := runs_ready.mp hruns
        rw [ih.mp hlater, State.progress, List.cons_append, List.cons_append,
          List.append_assoc]
        rfl
      · rintro rfl
        refine ⟨_, rfl, runs_ready.mpr ⟨_, ?_, ih.mpr rfl⟩⟩
        exact List.append_assoc _ _ _

theorem Maker.runs_iff_making {subject : Subject} {moment : Moment}
    {source : Source.Produced cause} {events : List (Event cause)} :
    Runs subject moment {} source events ↔ events = making subject moment source :=
  runs_iff

theorem produced_progress_ending (subject : Subject) (moment : Moment) (state : State)
    (lines : List Line) (fault : Option cause) :
    Event.produced (state.progress subject lines ++
        (state.after lines).ending subject moment fault) =
      Source.weave subject moment fault state lines := by
  induction lines generalizing state with
  | nil =>
      cases fault with
      | none =>
          have hgiven := Event.produced_map_give_append (state.closing subject moment)
            ([] : List (Event cause))
          rw [List.append_nil] at hgiven
          rw [State.progress, List.nil_append, State.after_nil, State.ending,
            Event.produced_cons_finish, hgiven]
          simp [Event.produced, Source.weave]
      | some fault => rfl
  | cons line lines ih =>
      rw [State.progress, List.cons_append, List.cons_append, Event.produced_cons_take,
        List.append_assoc, Event.produced_map_give_append, State.after_cons, ih]
      rfl

/-- What a run gives, and the fault it meets, are the document of the source. -/
theorem Maker.produced_of_runs {subject : Subject} {moment : Moment}
    {source : Source.Produced cause} {events : List (Event cause)}
    (hruns : Runs subject moment {} source events) :
    Event.produced events =
      Source.weave subject moment source.fault {} source.lines := by
  rw [runs_iff_making.mp hruns]
  exact produced_progress_ending subject moment {} source.lines source.fault

/-- A run over some lines that a fault ends: they are all taken, what comes of them is
given, and the fault is the last thing that happens; the document is never closed. -/
structure Broken (subject : Subject) (lines : List Line) (fault : cause)
    (events : List (Event cause)) : Prop where
  takes : Event.takes events = lines
  produced : Event.produced events = ⟨body subject lines, some fault⟩
  last : events.getLast? = some (.fail fault)
  unfinished : .finish ∉ events

theorem finish_not_mem_progress (subject : Subject) (state : State) (lines : List Line) :
    .finish ∉ (state.progress subject lines : List (Event cause)) := by
  induction lines generalizing state with
  | nil => exact List.not_mem_nil
  | cons line lines ih => simp [State.progress, ih]

theorem Maker.broken_of_runs {subject : Subject} {moment : Moment} {lines : List Line}
    {fault : cause} {events : List (Event cause)}
    (hruns : Runs subject moment {} ⟨lines, some fault⟩ events) :
    Broken subject lines fault events where
  takes := by
    rw [runs_iff_making.mp hruns, making, Event.takes_append, State.takes_progress]
    exact List.append_nil lines
  produced := by
    rw [produced_of_runs hruns, Source.weave_some]
    rfl
  last := by
    rw [runs_iff_making.mp hruns, making, State.ending, List.getLast?_concat]
  unfinished := by
    rw [runs_iff_making.mp hruns, making, State.ending, List.mem_append,
      List.mem_singleton]
    rintro (hfinish | hfinish)
    · exact finish_not_mem_progress subject {} lines hfinish
    · cases hfinish

/-! Every line of the document is given when some lines of the source have been taken, and
before or after the source has come to its end. -/

structure Delivery where
  taken : Nat
  closing : Bool
  line : Line
  deriving DecidableEq, Repr

def Delivery.stamp (delivery : Delivery) : Nat × Line :=
  (delivery.taken, delivery.line)

/-- The lines that are given, each with the count of the lines taken before it. -/
def deliveries (taken : Nat) (closing : Bool) : List (Event cause) → List Delivery
  | [] => []
  | .take _ :: rest => deliveries (taken + 1) closing rest
  | .finish :: rest => deliveries taken true rest
  | .fail _ :: rest => deliveries taken closing rest
  | .give line :: rest => ⟨taken, closing, line⟩ :: deliveries taken closing rest

section Counting

variable (subject : Subject) (moment : Moment) (taken : Nat) (closing : Bool)

theorem deliveries_map_give (lines : List Line) (rest : List (Event cause)) :
    deliveries taken closing (lines.map .give ++ rest) =
      lines.map (fun line => ⟨taken, closing, line⟩) ++ deliveries taken closing rest := by
  induction lines with
  | nil => rfl
  | cons line lines ih => simp [deliveries, ih]

theorem deliveries_progress_cons (state : State) (line : Line) (lines : List Line) :
    deliveries taken closing
        (state.progress subject (line :: lines) : List (Event cause)) =
      (state.emit subject line).map (fun output => ⟨taken + 1, closing, output⟩) ++
        deliveries (taken + 1) closing
          ((state.next line).progress subject lines : List (Event cause)) := by
  rw [State.progress, List.cons_append, deliveries, deliveries_map_give]

theorem deliveries_progress_append (state : State) (lines : List Line)
    (rest : List (Event cause)) :
    deliveries taken closing (state.progress subject lines ++ rest) =
      deliveries taken closing (state.progress subject lines : List (Event cause)) ++
        deliveries (taken + lines.length) closing rest := by
  induction lines generalizing taken state with
  | nil => rfl
  | cons line lines ih =>
      rw [deliveries_progress_cons, State.progress, List.cons_append, List.cons_append,
        deliveries, List.append_assoc, deliveries_map_give, ih, List.append_assoc,
        List.length_cons, Nat.add_right_comm, Nat.add_assoc]

theorem deliveries_finish (state : State) :
    deliveries taken closing
        (state.ending subject moment none : List (Event cause)) =
      (state.closing subject moment).map fun line => ⟨taken, true, line⟩ := by
  have hgiven := deliveries_map_give taken true (state.closing subject moment)
    ([] : List (Event cause))
  rwa [List.append_nil, deliveries, List.append_nil] at hgiven

/-- Once no line is left, only what closes the document is given. -/
theorem closing_of_mem_ending {state : State} {fault : Option cause} {item : Delivery}
    (hitem : item ∈ deliveries taken closing (state.ending subject moment fault)) :
    item.closing = true := by
  cases fault with
  | none =>
      rw [deliveries_finish, List.mem_map] at hitem
      obtain ⟨line, -, rfl⟩ := hitem
      rfl
  | some fault => cases hitem

theorem map_stamp_progress (state : State) (lines : List Line) :
    (deliveries taken closing
        (state.progress subject lines : List (Event cause))).map Delivery.stamp =
      scheduleFrom taken (state.outputs subject lines) := by
  induction lines generalizing taken state with
  | nil => rfl
  | cons line lines ih =>
      rw [deliveries_progress_cons, List.map_append, List.map_map, ih]
      rfl

/-- The lines that come of further lines are given after the first of them is taken. -/
theorem lt_taken_of_mem_progress {state : State} {lines : List Line} {item : Delivery}
    (hitem : item ∈ deliveries taken closing
      (state.progress subject lines : List (Event cause))) :
    taken < item.taken := by
  induction lines generalizing taken state with
  | nil => cases hitem
  | cons line lines ih =>
      rw [deliveries_progress_cons, List.mem_append, List.mem_map] at hitem
      rcases hitem with ⟨output, -, rfl⟩ | hitem
      · exact Nat.lt_succ_self taken
      · exact Nat.lt_of_succ_lt (ih (taken + 1) hitem)

end Counting

theorem le_taken_of_mem {taken : Nat} {closing : Bool} {events : List (Event cause)}
    {item : Delivery} (hitem : item ∈ deliveries taken closing events) :
    taken ≤ item.taken := by
  induction events generalizing taken closing with
  | nil => cases hitem
  | cons event events ih =>
      cases event with
      | take line => exact Nat.le_of_succ_le (ih hitem)
      | finish => exact ih hitem
      | fail fault => exact ih hitem
      | give line =>
          rcases List.mem_cons.mp hitem with rfl | hitem
          · exact Nat.le_refl _
          · exact ih hitem

theorem pairwise_deliveries (taken : Nat) (closing : Bool) (events : List (Event cause)) :
    (deliveries taken closing events).Pairwise
      fun left right => left.taken ≤ right.taken := by
  induction events generalizing taken closing with
  | nil => exact .nil
  | cons event events ih =>
      cases event with
      | take line => exact ih (taken + 1) closing
      | finish => exact ih taken true
      | fail fault => exact ih taken closing
      | give line =>
          refine .cons ?_ (ih taken closing)
          intro item hitem
          exact le_taken_of_mem hitem

theorem map_stamp_making (subject : Subject) (moment : Moment) (lines : List Line) :
    (deliveries 0 false (making subject moment
        (⟨lines, none⟩ : Source.Produced cause))).map Delivery.stamp =
      schedule subject moment lines := by
  rw [making, deliveries_progress_append, deliveries_finish, List.map_append,
    map_stamp_progress, List.map_map, Nat.zero_add]
  rfl

theorem deliveries_making_append (subject : Subject) (moment : Moment)
    (front back : List Line) (fault : Option cause) :
    ∃ later, deliveries 0 false (making subject moment ⟨front ++ back, fault⟩) =
        deliveries 0 false (State.progress subject {} front : List (Event cause)) ++ later ∧
      ∀ item ∈ later, item.closing = false → front.length < item.taken := by
  let state := State.after {} front
  refine ⟨deliveries (0 + front.length) false (state.progress subject back ++
    (state.after back).ending subject moment fault), ?_, ?_⟩
  · rw [making, State.progress_append, List.append_assoc, deliveries_progress_append,
      State.after_append]
  · intro item hitem hopen
    rw [deliveries_progress_append, List.mem_append] at hitem
    rcases hitem with hitem | hitem
    · rw [Nat.zero_add] at hitem
      exact lt_taken_of_mem_progress subject _ _ hitem
    · rw [closing_of_mem_ending subject moment _ _ hitem] at hopen
      cases hopen

/-- What was given before a line was taken depends neither on that line nor on any behind
it, nor on whether they come to an end or to a fault. -/
theorem getElem?_deliveries_making {subject : Subject} {moment : Moment}
    {front back : List Line} {fault : Option cause} {index : Nat} {item : Delivery}
    (hitem : (deliveries 0 false (making subject moment ⟨front ++ back, fault⟩))[index]? =
      some item)
    (hopen : item.closing = false) (htaken : item.taken ≤ front.length)
    (other : List Line) (failure : Option cause) :
    (deliveries 0 false (making subject moment ⟨front ++ other, failure⟩))[index]? =
      some item := by
  obtain ⟨later, hback, hlater⟩ :=
    deliveries_making_append subject moment front back fault
  obtain ⟨changed, hother, -⟩ :=
    deliveries_making_append subject moment front other failure
  rw [hback] at hitem
  rw [hother]
  rcases Nat.lt_or_ge index (deliveries 0 false
      (State.progress subject {} front : List (Event cause))).length with hindex | hindex
  · rwa [List.getElem?_append_left hindex] at hitem ⊢
  · -- Behind the common part, every line comes of a line that was taken later.
    rw [List.getElem?_append_right hindex] at hitem
    have hlate := hlater item (List.mem_of_getElem? hitem) hopen
    omega

/-- All that a line causes is given when the line has been taken and before anything else
is asked of the source, and all that closes the document when there is nothing to take. -/
structure Prompt (subject : Subject) (moment : Moment) (lines : List Line)
    (events : List (Event cause)) : Prop where
  line : ∀ earlier line later, lines = earlier ++ line :: later →
    ∃ before next after, events = before ++
        .take line :: ((State.after {} earlier).emit subject line).map .give ++
          next :: after ∧
      Event.takes before = earlier ∧ next.isGive = false
  closing : ∃ before, events = before ++
      .finish :: ((State.after {} lines).closing subject moment).map .give ∧
    Event.takes before = lines

theorem exists_next (subject : Subject) (moment : Moment) (state : State)
    (lines : List Line) :
    ∃ (next : Event cause) (after : List (Event cause)),
      state.progress subject lines ++ (state.after lines).ending subject moment none =
        next :: after ∧
      next.isGive = false := by
  cases lines with
  | nil => exact ⟨.finish, _, rfl, rfl⟩
  | cons line lines => exact ⟨.take line, _, rfl, rfl⟩

theorem prompt_making (subject : Subject) (moment : Moment) (lines : List Line) :
    Prompt subject moment lines
      (making subject moment (⟨lines, none⟩ : Source.Produced cause)) where
  line := by
    rintro earlier line later rfl
    obtain ⟨next, after, hnext, hasks⟩ :=
      exists_next subject moment ((State.after {} earlier).next line) later
    refine ⟨State.progress subject {} earlier, next, after, ?_,
      State.takes_progress subject {} earlier, hasks⟩
    rw [← hnext, making, State.progress_append, State.after_append, State.progress]
    simp
  closing := ⟨State.progress subject {} lines, rfl, State.takes_progress subject {} lines⟩

/-- A document is made in one way, and its schedule tells how; the lines that are given
are the document. What is given for the first lines of a source is the same whatever the
source goes on with, a fault included; each line is given as soon as the one that causes
it has been taken; and the counts never fall. -/
theorem schedule_causal (subject : Subject) (moment : Moment) (front back : List Line) :
    ∃ events : List (Event cause),
      (∀ other, Maker.Runs subject moment {} ⟨front ++ back, none⟩ other ↔
        other = events) ∧
      (deliveries 0 false events).map Delivery.line =
        document subject moment (front ++ back) ∧
      (deliveries 0 false events).map Delivery.stamp =
        schedule subject moment (front ++ back) ∧
      (∀ changed (failure : Option cause) others,
        Maker.Runs subject moment {} ⟨front ++ changed, failure⟩ others →
        ∀ (index : Nat) (item : Delivery),
          (deliveries 0 false events)[index]? = some item → item.closing = false →
            item.taken ≤ front.length →
              (deliveries 0 false others)[index]? = some item) ∧
      Prompt subject moment (front ++ back) events ∧
      (schedule subject moment (front ++ back)).Pairwise
        fun left right => left.1 ≤ right.1 := by
  have hstamps := @map_stamp_making cause subject moment (front ++ back)
  refine ⟨making subject moment ⟨front ++ back, none⟩,
    fun other => Maker.runs_iff_making, ?_, hstamps, ?_,
    prompt_making subject moment (front ++ back), ?_⟩
  · rw [← map_snd_schedule, ← hstamps, List.map_map]
    rfl
  · intro changed failure others hothers index item hitem hopen htaken
    rw [Maker.runs_iff_making.mp hothers]
    exact getElem?_deliveries_making hitem hopen htaken changed failure
  · rw [← hstamps, List.pairwise_map]
    exact pairwise_deliveries 0 false _

end Making

end Weave.Document
