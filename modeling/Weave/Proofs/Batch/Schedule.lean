import Mathlib.Data.List.Nodup
import Weave.Batch
import Weave.Proofs.Publication.Frame

namespace Weave.Batch

/-! Publishing one source after the other. -/

@[simp] theorem publishAll_nil (order : Order) (disk : Disk) :
    publishAll order disk [] = (disk, []) := rfl

@[simp] theorem publishAll_cons (order : Order) (disk : Disk) (source : Path)
    (rest : List Path) :
    publishAll order disk (source :: rest) =
      ((publishAll order (publish order disk source).1 rest).1,
        (publish order disk source).2 ::
          (publishAll order (publish order disk source).1 rest).2) := rfl

@[simp] theorem length_publishAll (order : Order) (disk : Disk) (sources : List Path) :
    (publishAll order disk sources).2.length = sources.length := by
  induction sources generalizing disk with
  | nil => rfl
  | cons source rest ih => simp [ih]

theorem publishAll_append (order : Order) (disk : Disk) (front back : List Path) :
    publishAll order disk (front ++ back) =
      ((publishAll order (publishAll order disk front).1 back).1,
        (publishAll order disk front).2 ++
          (publishAll order (publishAll order disk front).1 back).2) := by
  induction front generalizing disk with
  | nil => rfl
  | cons source front ih => simp [ih]

theorem publishAll_sameBut (order : Order) (disk : Disk) (sources : List Path) :
    Disk.SameBut (sources.flatMap (order.touched disk.cwd)) disk
      (publishAll order disk sources).1 := by
  induction sources generalizing disk with
  | nil => exact .refl _ disk
  | cons source rest ih =>
      have hfirst := publish_sameBut order disk source
      have hrest := ih (publish order disk source).1
      rw [hfirst.cwd] at hrest
      constructor
      · exact hrest.cwd.trans hfirst.cwd
      · intro location hlocation
        rw [List.flatMap_cons, List.mem_append, not_or] at hlocation
        exact (hrest.get? location hlocation.2).trans (hfirst.get? location hlocation.1)

/-! Results come back to the positions of their sources, whatever the schedule. -/

theorem lookup_of_mem_of_nodup {α : Type} {items : List (Nat × α)}
    (hnodup : (items.map Prod.fst).Nodup) {position : Nat} {value : α}
    (hmem : (position, value) ∈ items) : items.lookup position = some value := by
  induction items with
  | nil => simp at hmem
  | cons item items ih =>
      obtain ⟨place, other⟩ := item
      rw [List.map_cons, List.nodup_cons] at hnodup
      rcases List.mem_cons.mp hmem with heq | hrest
      · cases heq
        simp
      · have hne : position ≠ place := by
          intro heq
          apply hnodup.1
          exact List.mem_map.mpr ⟨(position, value), hrest, heq⟩
        rw [List.lookup_cons, beq_false_of_ne hne]
        exact ih hnodup.2 hrest

theorem filterMap_range {α : Type} (count : Nat) (value : Nat → Option α)
    (hvalue : ∀ position, position < count → (value position).isSome) :
    ((List.range count).filterMap value).length = count ∧
      ∀ position, position < count →
        ((List.range count).filterMap value)[position]? = value position := by
  induction count with
  | zero => simp
  | succ count ih =>
      obtain ⟨hlength, hbelow⟩ := ih fun position hposition =>
        hvalue position (Nat.lt_succ_of_lt hposition)
      obtain ⟨last, hlast⟩ := Option.isSome_iff_exists.mp
        (hvalue count (Nat.lt_succ_self count))
      have hsplit : (List.range (count + 1)).filterMap value =
          (List.range count).filterMap value ++ [last] := by
        simp [List.range_succ, hlast]
      rw [hsplit]
      constructor
      · simp [hlength]
      · intro position hposition
        rcases Nat.lt_succ_iff_lt_or_eq.mp hposition with hless | rfl
        · rw [List.getElem?_append_left (by omega), hbelow position hless]
        · rw [List.getElem?_append_right (by omega), hlength, hlast]
          simp

section Gather

variable {sources : List Path} {schedule : Schedule}
  {results : List (Except Fault Publication)}

theorem nodup_positions (hschedule : schedule.Perm sources.zipIdx) :
    (schedule.map Prod.snd).Nodup := by
  have hpositions := hschedule.map Prod.snd
  rw [hpositions.nodup_iff, List.zipIdx_map_snd]
  exact List.nodup_range'

theorem mem_positions (hschedule : schedule.Perm sources.zipIdx) {position : Nat}
    (hposition : position < schedule.length) : position ∈ schedule.map Prod.snd := by
  have hpositions := hschedule.map Prod.snd
  have hlength := hschedule.length_eq
  rw [hpositions.mem_iff, List.zipIdx_map_snd, List.mem_range'_1]
  rw [List.length_zipIdx] at hlength
  omega

theorem gather_spec (hschedule : schedule.Perm sources.zipIdx)
    (hresults : results.length = schedule.length) :
    (gather schedule results).length = sources.length ∧
      ∀ position result, (position, result) ∈ (schedule.map Prod.snd).zip results →
        (gather schedule results)[position]? = some result := by
  have hkeys : ((schedule.map Prod.snd).zip results).map Prod.fst =
      schedule.map Prod.snd := by
    apply List.map_fst_zip
    simp [hresults]
  have hnodup := nodup_positions hschedule
  rw [← hkeys] at hnodup
  have hsome : ∀ position, position < schedule.length →
      (((schedule.map Prod.snd).zip results).lookup position).isSome := by
    intro position hposition
    have hmem := mem_positions hschedule hposition
    rw [← hkeys, List.mem_map] at hmem
    obtain ⟨⟨place, result⟩, hpair, rfl⟩ := hmem
    rw [lookup_of_mem_of_nodup hnodup hpair]
    rfl
  obtain ⟨hlength, hvalues⟩ := filterMap_range schedule.length _ hsome
  constructor
  · rw [gather, hlength, hschedule.length_eq, List.length_zipIdx]
  · intro position result hpair
    have hposition : position < schedule.length := by
      have hmem : position ∈ schedule.map Prod.snd :=
        hkeys ▸ List.mem_map_of_mem hpair
      rw [(hschedule.map Prod.snd).mem_iff, List.zipIdx_map_snd,
        List.mem_range'_1] at hmem
      rw [hschedule.length_eq, List.length_zipIdx]
      omega
    rw [gather, hvalues position hposition]
    exact lookup_of_mem_of_nodup hnodup hpair

theorem gather_map (hschedule : schedule.Perm sources.zipIdx)
    (result : Path → Except Fault Publication) :
    gather schedule (schedule.map fun item => result item.1) = sources.map result := by
  have hresults : (schedule.map fun item => result item.1).length = schedule.length := by
    simp
  obtain ⟨hlength, hvalues⟩ := gather_spec hschedule hresults
  apply List.ext_getElem?
  intro position
  cases hsource : sources[position]? with
  | none =>
      have hbeyond := List.getElem?_eq_none_iff.mp hsource
      rw [List.getElem?_eq_none (by omega), List.getElem?_map, hsource]
      rfl
  | some source =>
      have hmem : (source, position) ∈ schedule :=
        hschedule.mem_iff.mpr (List.mem_zipIdx_iff_getElem?.mpr hsource)
      have hpair : (position, result source) ∈
          (schedule.map Prod.snd).zip (schedule.map fun item => result item.1) := by
        rw [List.zip_map']
        exact List.mem_map_of_mem hmem
      rw [hvalues position (result source) hpair, List.getElem?_map, hsource]
      rfl

end Gather

/-! The first fault, or all the publications. -/

@[simp] theorem collect_map_ok (publications : List Publication) :
    collect (publications.map .ok) = .ok publications := by
  induction publications with
  | nil => rfl
  | cons publication rest ih => simp [collect, ih]

theorem eq_map_of_collect {results : List (Except Fault Publication)}
    {publications : List Publication} (hcollect : collect results = .ok publications) :
    results = publications.map .ok := by
  induction results generalizing publications with
  | nil =>
      cases hcollect
      rfl
  | cons result results ih =>
      cases result with
      | error fault => cases hcollect
      | ok publication =>
          cases hrest : collect results with
          | error fault => simp [collect, hrest] at hcollect
          | ok others =>
              simp only [collect, hrest, Except.ok.injEq] at hcollect
              rw [← hcollect, ih hrest]
              rfl

theorem collect_error (publications : List Publication) (fault : Fault)
    (back : List (Except Fault Publication)) :
    collect (publications.map .ok ++ .error fault :: back) = .error fault := by
  induction publications with
  | nil => rfl
  | cons publication rest ih => simp [collect, ih]

section Conclude

variable (settings : Settings) (moment : Moment) (disk : Disk) (batch : Batch)
  (final : Disk) (results : List (Except Fault Publication))

@[simp] theorem disk_conclude :
    (conclude settings moment disk batch final results).disk = final := by
  simp only [conclude]
  split
  · rfl
  · split <;> rfl

theorem outcome_conclude_error {fault : Fault} (hcollect : collect results = .error fault) :
    (conclude settings moment disk batch final results).outcome = .error fault := by
  simp [conclude, hcollect]

theorem outcome_conclude_ok {publications : List Publication}
    (hcollect : collect results = .ok publications) :
    (conclude settings moment disk batch final results).outcome =
      if publications ≠ [] ∧ batch.isLost disk then .error (.disk .noCurrentDirectory)
      else .ok publications := by
  simp only [conclude, hcollect]
  split <;> rfl

theorem collect_of_outcome {publications : List Publication}
    (houtcome : (conclude settings moment disk batch final results).outcome =
      .ok publications) : collect results = .ok publications := by
  cases hcollect : collect results with
  | error fault => simp [conclude, hcollect] at houtcome
  | ok others =>
      simp only [conclude, hcollect] at houtcome
      split at houtcome
      · cases houtcome
      · exact houtcome

end Conclude

@[simp] theorem disk_runScheduled (settings : Settings) (moment : Moment) (disk : Disk)
    (batch : Batch) (schedule : Schedule) :
    (runScheduled settings moment disk batch schedule).disk =
      (publishAll (batch.order settings moment) disk (schedule.map Prod.fst)).1 := by
  simp [runScheduled]

end Weave.Batch
