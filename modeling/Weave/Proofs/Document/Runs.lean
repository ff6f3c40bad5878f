import Mathlib.Data.List.SplitBy
import Weave.Document

namespace Weave.Document

/-! The document seen as a whole. Some lines survive, each survivor has a role
that can be told from the lines before it, and the maximal runs of one role are
shown one after the other. Nothing is remembered from line to line. -/

def withoutShebang : List Line → List Line
  | [] => []
  | first :: rest => if first.isShebang then rest else first :: rest

def survivors (lines : List Line) : List Line :=
  (withoutShebang lines).filter fun line => !line.isSilenced

def ownRole (line : Line) : Role :=
  if line.isComment then .prose else .code

/-- The role of the nearest line that is not blank, prose if there is none. -/
def standingRole (earlier : List Line) : Role :=
  match (earlier.filter fun line => !line.isBlank).getLast? with
  | some line => ownRole line
  | none => .prose

def roleAfter (earlier : List Line) (line : Line) : Role :=
  if line.isBlank then standingRole earlier else ownRole line

def assigned (lines : List Line) : List (Role × Line) :=
  lines.mapIdx fun index line => (roleAfter (lines.take index) line, line)

def sameRole (left right : Role × Line) : Bool :=
  left.1 = right.1

def runs (lines : List Line) : List (List (Role × Line)) :=
  (assigned lines).splitBy sameRole

def proseLine (line : Line) : Line :=
  if line.isBlank then line else line.uncomment

def renderRun (subject : Subject) (run : List (Role × Line)) : List Line :=
  match run.head?.map Prod.fst with
  | some .code => opening subject :: run.map Prod.snd ++ [fence]
  | some .prose => run.map fun item => proseLine item.2
  | none => []

/-! Between the two stands a list of lines with their roles that is threaded
through an open role: a fence at every change, and one more if code is left open
at the end. -/

def shown : Role × Line → Line
  | (.code, line) => line
  | (.prose, line) => proseLine line

def threaded (subject : Subject) (standing : Role) : List (Role × Line) → List Line
  | [] => edge subject standing .prose
  | item :: rest =>
      edge subject standing item.1 ++ shown item :: threaded subject item.1 rest

@[simp] theorem edge_self (subject : Subject) (role : Role) :
    edge subject role role = [] := by
  cases role <;> rfl

theorem threaded_same (subject : Subject) (role : Role) (run rest : List (Role × Line))
    (hrun : ∀ item ∈ run, item.1 = role) :
    threaded subject role (run ++ rest) =
      run.map shown ++ threaded subject role rest := by
  induction run with
  | nil => rfl
  | cons item run ih =>
      have hitem : item.1 = role := hrun item List.mem_cons_self
      have htail := ih fun other hother => hrun other (List.mem_cons_of_mem item hother)
      simp [threaded, hitem, htail]

theorem threaded_run (subject : Subject) (standing : Role) (item : Role × Line)
    (run rest : List (Role × Line)) (hrun : ∀ other ∈ run, other.1 = item.1) :
    threaded subject standing (item :: run ++ rest) =
      edge subject standing item.1 ++ (item :: run).map shown ++
        threaded subject item.1 rest := by
  simp only [List.cons_append, threaded, threaded_same subject item.1 run rest hrun]
  simp

/-- A role that the next line does not continue is left at once. -/
theorem threaded_left (subject : Subject) (role : Role) (rest : List (Role × Line))
    (hrest : ∀ next ∈ rest.head?, next.1 ≠ role) :
    threaded subject role rest =
      edge subject role .prose ++ threaded subject .prose rest := by
  cases role with
  | prose => rw [edge_self, List.nil_append]
  | code =>
      cases rest with
      | nil => rfl
      | cons next rest =>
          have hnext : next.1 = .prose := by
            cases hrole : next.1 with
            | prose => rfl
            | code => exact absurd hrole (hrest next rfl)
          simp [threaded, hnext]

theorem renderRun_cons (subject : Subject) (item : Role × Line) (run : List (Role × Line))
    (hrun : ∀ other ∈ item :: run, other.1 = item.1) :
    renderRun subject (item :: run) =
      edge subject .prose item.1 ++ (item :: run).map shown ++
        edge subject item.1 .prose := by
  cases hrole : item.1 with
  | prose =>
      have hshown : ∀ other ∈ item :: run, shown other = proseLine other.2 := by
        rintro ⟨role, line⟩ hother
        cases (hrun _ hother).trans hrole
        rfl
      rw [List.map_congr_left hshown]
      simp [renderRun, hrole]
  | code =>
      have hshown : ∀ other ∈ item :: run, shown other = other.2 := by
        rintro ⟨role, line⟩ hother
        cases (hrun _ hother).trans hrole
        rfl
      rw [List.map_congr_left hshown]
      simp [renderRun, hrole, edge]

private theorem eq_head_of_mem {run : List (Role × Line)} {item other : Role × Line}
    (hchain : (item :: run).IsChain fun left right => sameRole left right)
    (hother : other ∈ item :: run) : other.1 = item.1 := by
  induction run generalizing item with
  | nil =>
      rw [List.mem_singleton.mp hother]
  | cons next run ih =>
      rw [List.isChain_cons_cons] at hchain
      rcases List.mem_cons.mp hother with rfl | hmem
      · rfl
      · exact (ih hchain.2 hmem).trans (of_decide_eq_true hchain.1).symm

private theorem head_flatten_ne {item : Role × Line} {run : List (Role × Line)}
    {groups : List (List (Role × Line))}
    (hrun : ∀ other ∈ item :: run, other.1 = item.1)
    (hchange : ((item :: run) :: groups).IsChain fun left right =>
      ∃ hleft hright, sameRole (left.getLast hleft) (right.head hright) = false) :
    ∀ next ∈ groups.flatten.head?, next.1 ≠ item.1 := by
  cases groups with
  | nil => simp
  | cons after groups =>
      rw [List.isChain_cons_cons] at hchange
      obtain ⟨⟨_, hafter, hdiffers⟩, -⟩ := hchange
      obtain ⟨next, more, rfl⟩ := List.exists_cons_of_ne_nil hafter
      have hlast := hrun _ (List.getLast_mem (List.cons_ne_nil item run))
      simp only [sameRole, hlast, List.head_cons, decide_eq_false_iff_not] at hdiffers
      intro other hother heq
      cases hother
      exact hdiffers heq.symm

theorem threaded_flatten (subject : Subject) (groups : List (List (Role × Line)))
    (hne : [] ∉ groups)
    (hsame : ∀ run ∈ groups,
      run.IsChain fun left right => sameRole left right)
    (hchange : groups.IsChain fun left right =>
      ∃ hleft hright, sameRole (left.getLast hleft) (right.head hright) = false) :
    threaded subject .prose groups.flatten = groups.flatMap (renderRun subject) := by
  induction groups with
  | nil => rfl
  | cons run groups ih =>
      have hgroups := ih (fun hmem => hne (List.mem_cons_of_mem run hmem))
        (fun other hother => hsame other (List.mem_cons_of_mem run hother))
        hchange.tail
      obtain ⟨item, tail, rfl⟩ := List.exists_cons_of_ne_nil
        (fun hnil : run = [] => hne (hnil ▸ List.mem_cons_self))
      have hroles : ∀ other ∈ item :: tail, other.1 = item.1 := fun other hother =>
        eq_head_of_mem (hsame _ List.mem_cons_self) hother
      have htail : ∀ other ∈ tail, other.1 = item.1 := fun other hother =>
        hroles other (List.mem_cons_of_mem item hother)
      have hrest := head_flatten_ne hroles hchange
      calc
        threaded subject .prose ((item :: tail) :: groups).flatten =
            edge subject .prose item.1 ++ (item :: tail).map shown ++
              threaded subject item.1 groups.flatten := by
          rw [List.flatten_cons, threaded_run subject .prose item tail _ htail]
        _ = edge subject .prose item.1 ++ (item :: tail).map shown ++
              (edge subject item.1 .prose ++ groups.flatMap (renderRun subject)) := by
          rw [threaded_left subject item.1 _ hrest, hgroups]
        _ = ((item :: tail) :: groups).flatMap (renderRun subject) := by
          rw [List.flatMap_cons, renderRun_cons subject item tail hroles,
            List.append_assoc _ _ (List.flatMap _ _)]

theorem threaded_splitBy (subject : Subject) (items : List (Role × Line)) :
    threaded subject .prose items =
      (items.splitBy sameRole).flatMap (renderRun subject) := by
  have hflatten := threaded_flatten subject (items.splitBy sameRole)
    (List.nil_notMem_splitBy sameRole items)
    (fun run hrun => List.isChain_of_mem_splitBy hrun)
    (List.isChain_getLast_head_splitBy sameRole items)
  rwa [List.flatten_splitBy] at hflatten

theorem not_isSilenced_of_isBlank {line : Line} (hblank : line.isBlank = true) :
    line.isSilenced = false := by
  cases hsilenced : line.isSilenced with
  | false => rfl
  | true =>
      obtain ⟨front, rfl⟩ := List.isSuffixOf_iff_suffix.mp hsilenced
      have hall := List.all_eq_true.mp hblank 'j' (by simp [Line.silencer])
      exact absurd hall (by decide)

def assignedAfter (earlier lines : List Line) : List (Role × Line) :=
  lines.mapIdx fun index line => (roleAfter (earlier ++ lines.take index) line, line)

theorem assignedAfter_cons (earlier : List Line) (line : Line) (rest : List Line) :
    assignedAfter earlier (line :: rest) =
      (roleAfter earlier line, line) :: assignedAfter (earlier ++ [line]) rest := by
  simp [assignedAfter, List.mapIdx_cons]

theorem standingRole_concat (earlier : List Line) (line : Line) :
    standingRole (earlier ++ [line]) = roleAfter earlier line := by
  cases hblank : line.isBlank <;> simp [standingRole, roleAfter, hblank]

theorem kind_of_isSilenced {line : Line} (hsilenced : line.isSilenced = true) :
    line.kind false = .dropped := by
  cases hblank : line.isBlank with
  | true => simp [not_isSilenced_of_isBlank hblank] at hsilenced
  | false => simp [Line.kind, hblank, hsilenced]

theorem next_survivor (earlier : List Line) {line : Line}
    (hsurvives : line.isSilenced = false) :
    State.next ⟨true, standingRole earlier⟩ line = ⟨true, roleAfter earlier line⟩ := by
  cases hblank : line.isBlank with
  | true => simp [State.next, Line.kind, roleAfter, hblank]
  | false =>
      cases hcomment : line.isComment <;>
        simp [State.next, Line.kind, roleAfter, ownRole, hblank, hsurvives, hcomment]

theorem emit_survivor (subject : Subject) (earlier : List Line) {line : Line}
    (hsurvives : line.isSilenced = false) :
    State.emit subject ⟨true, standingRole earlier⟩ line =
      edge subject (standingRole earlier) (roleAfter earlier line) ++
        [shown (roleAfter earlier line, line)] := by
  cases hblank : line.isBlank with
  | true =>
      have hrole : roleAfter earlier line = standingRole earlier := by
        simp [roleAfter, hblank]
      rw [hrole]
      cases standingRole earlier <;>
        simp [State.emit, Line.kind, shown, proseLine, hblank]
  | false =>
      cases hcomment : line.isComment <;>
        simp [State.emit, Line.kind, roleAfter, ownRole, shown, proseLine, hblank,
          hsurvives, hcomment]

/-- The invariant of the line-by-line document: once started, the role it
remembers is the one that stands after the survivors so far. -/
theorem outputs_threaded (subject : Subject) (earlier lines : List Line) :
    (State.outputs subject ⟨true, standingRole earlier⟩ lines).flatten ++
        edge subject (State.after ⟨true, standingRole earlier⟩ lines).role .prose =
      threaded subject (standingRole earlier)
        (assignedAfter earlier (lines.filter fun line => !line.isSilenced)) := by
  induction lines generalizing earlier with
  | nil => rfl
  | cons line lines ih =>
      cases hsilenced : line.isSilenced with
      | true =>
          have hkind := kind_of_isSilenced hsilenced
          have hemit : State.emit subject ⟨true, standingRole earlier⟩ line = [] := by
            simp [State.emit, hkind]
          have hnext : State.next ⟨true, standingRole earlier⟩ line =
              ⟨true, standingRole earlier⟩ := by
            simp [State.next, hkind]
          simpa [hsilenced, hemit, hnext] using ih earlier
      | false =>
          have hrest := ih (earlier ++ [line])
          rw [standingRole_concat] at hrest
          rw [List.filter_cons_of_pos (by simp [hsilenced]), assignedAfter_cons, threaded,
            ← hrest]
          simp [next_survivor earlier hsilenced, emit_survivor subject earlier hsilenced]

theorem started_withoutShebang (subject : Subject) (lines : List Line) :
    (State.outputs subject {} lines).flatten =
        (State.outputs subject ⟨true, .prose⟩ (withoutShebang lines)).flatten ∧
      (State.after {} lines).role =
        (State.after ⟨true, .prose⟩ (withoutShebang lines)).role := by
  cases lines with
  | nil => exact ⟨rfl, rfl⟩
  | cons first rest =>
      cases hshebang : first.isShebang with
      | true =>
          have hkind : first.kind true = .dropped := by simp [Line.kind, hshebang]
          simp [withoutShebang, State.emit, State.next, hshebang, hkind]
      | false =>
          have hkind : first.kind true = first.kind false := by simp [Line.kind, hshebang]
          simp [withoutShebang, State.emit, State.next, hshebang, hkind]

/-- The document is its survivors, cut into maximal runs of one role, each run shown
on its own, and the footer. -/
theorem document_eq_runs (subject : Subject) (moment : Moment) (lines : List Line) :
    document subject moment lines =
      (runs (survivors lines)).flatMap (renderRun subject) ++
        footer subject.name moment := by
  have hthreaded := outputs_threaded subject [] (withoutShebang lines)
  obtain ⟨houtputs, hrole⟩ := started_withoutShebang subject lines
  calc
    document subject moment lines =
        ((State.outputs subject {} lines).flatten ++
          edge subject (State.after {} lines).role .prose) ++
            footer subject.name moment := by
      simp [document, body, State.closing]
    _ = threaded subject .prose (assigned (survivors lines)) ++
          footer subject.name moment := by
      rw [houtputs, hrole]
      exact congrArg (· ++ footer subject.name moment) hthreaded
    _ = (runs (survivors lines)).flatMap (renderRun subject) ++
          footer subject.name moment := by
      rw [threaded_splitBy, runs]

end Weave.Document
