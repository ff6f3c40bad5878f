import Weave.Proofs.Path.Collision

namespace Weave

namespace Location

/-! Up to the last common location of a base and a target, then down: the way from the one
to the other leads there. -/

/-- A location reached by names alone. -/
def Resolved (location : Location) : Prop :=
  ∀ name ∈ location, name ≠ Path.parent

theorem descend_of_resolved (location : Location) {parts : List Text}
    (hparts : Resolved parts) : location.descend parts = location ++ parts := by
  induction parts generalizing location with
  | nil => simp
  | cons part rest ih =>
      rw [descend_cons, child_of_ne_parent _ (hparts part List.mem_cons_self),
        ih _ fun name hname => hparts name (List.mem_cons_of_mem part hname),
        List.append_assoc]
      rfl

theorem mem_child {location : Location} {part name : Text}
    (hname : name ∈ location.child part) :
    name ∈ location ∨ name = part ∧ part ≠ Path.parent := by
  by_cases hparent : part = Path.parent
  · rw [hparent, child_parent] at hname
    exact .inl (List.dropLast_subset location hname)
  · rw [child_of_ne_parent _ hparent, List.mem_append, List.mem_singleton] at hname
    exact hname.imp_right fun heq => ⟨heq, hparent⟩

theorem mem_descend {location : Location} {parts : List Text} {name : Text}
    (hname : name ∈ location.descend parts) :
    name ∈ location ∨ name ∈ parts ∧ name ≠ Path.parent := by
  induction parts generalizing location with
  | nil => exact .inl hname
  | cons part rest ih =>
      rcases ih hname with hearlier | ⟨hlater, hproper⟩
      · rcases mem_child hearlier with hbefore | ⟨rfl, hproper⟩
        · exact .inl hbefore
        · exact .inr ⟨List.mem_cons_self, hproper⟩
      · exact .inr ⟨List.mem_cons_of_mem part hlater, hproper⟩

theorem descend_upward (location below : Location) :
    (location ++ below).descend (upward below.length) = location := by
  induction below using List.reverseRecOn with
  | nil => simp [upward]
  | append_singleton below name ih =>
      rw [List.length_append, List.length_singleton, upward, List.replicate_succ,
        descend_cons, child_parent, ← List.append_assoc, List.dropLast_concat]
      exact ih

theorem descend_partsFrom (common base : Location) {target : Location}
    (htarget : Resolved target) :
    (common ++ base).descend (partsFrom base target) = common ++ target := by
  fun_induction partsFrom base target generalizing common with
  | case1 base name target ih =>
      have hcommon := ih (common ++ [name])
        fun other hother => htarget other (List.mem_cons_of_mem name hother)
      simpa using hcommon
  | case2 baseName base targetName target hapart =>
      have hup := descend_upward common (baseName :: base)
      rw [List.length_cons] at hup
      rw [descend_append, hup, descend_of_resolved _ htarget]
  | case3 base target hends =>
      rw [descend_append, descend_upward, descend_of_resolved _ htarget]

theorem mem_partsFrom {base target : Location} {part : Text}
    (hpart : part ∈ partsFrom base target) : part = Path.parent ∨ part ∈ target := by
  fun_induction partsFrom base target with
  | case1 base name target ih => exact (ih hpart).imp_right (List.mem_cons_of_mem name)
  | case2 baseName base targetName target hapart =>
      exact (List.mem_append.mp hpart).imp_left List.eq_of_mem_replicate
  | case3 base target hends =>
      exact (List.mem_append.mp hpart).imp_left List.eq_of_mem_replicate

end Location

namespace Path

theorem normal_partsFrom (base : Location) {target : Location}
    (htarget : ∀ name ∈ target, IsPart name) :
    Normal ⟨.relative, Location.partsFrom base target⟩ := by
  intro part hpart
  rcases Location.mem_partsFrom hpart with rfl | hname
  · exact ⟨by decide, by decide, by decide⟩
  · exact htarget part hname

/-- The text of the way from a base to a target leads to the target when it is joined to
the base. -/
theorem location_join_relativeText (cwd : Location) (base : Path) {target : Path}
    (hroot : target.root ≠ .relative) (htarget : target.Normal) :
    (base.join (relativeText cwd base target)).location cwd = target.location cwd := by
  have hnames : ∀ name ∈ target.location cwd, IsPart name ∧ name ≠ parent := by
    intro name hname
    rw [location, start, if_neg hroot] at hname
    rcases Location.mem_descend hname with htop | ⟨hpart, hproper⟩
    · cases htop
    · exact ⟨htarget name hpart, hproper⟩
  have hway := Location.descend_partsFrom [] (base.location cwd)
    fun name hname => (hnames name hname).2
  rw [join, relativeText, parse_text (normal_partsFrom _ fun name hname =>
    (hnames name hname).1), append_of_relative]
  change (base.start cwd).descend (base.parts ++ _) = _
  rw [Location.descend_append]
  exact hway

/-! A document that is written through a draft has a path of whole parts. -/

theorem IsPart.partsOf_append_slash {part : Text} (hpart : IsPart part) (rest : Text) :
    partsOf (part ++ '/' :: rest) = part :: partsOf rest := by
  rw [partsOf, List.splitOn_append_cons_self_of_not_mem hpart.2.2]
  simp [partsOf, hpart.1, hpart.2.1]

/-- A separator in a name leaves two parts of it once a draft is named after it, one before
the separator and one of the draft's suffix. -/
theorem slash_not_mem_of_isName {name suffix : Text} (hname : IsPart name)
    (hdraft : isName (name ++ suffix ++ draftSuffix) = true) : '/' ∉ suffix := by
  intro hslash
  obtain ⟨front, back, rfl, hfront⟩ := List.eq_append_cons_of_mem hslash
  have hparts := (hname.append hfront).partsOf_append_slash (back ++ draftSuffix)
  have hrest : partsOf (back ++ draftSuffix) ≠ [] := by
    intro hnone
    have hdot := eq_of_partsOf_eq_nil hnone
      (List.mem_append_right back (by decide : 'p' ∈ draftSuffix))
    exact absurd hdot (by decide)
  have hlength := List.length_pos_iff.mpr hrest
  simp only [isName, List.append_assoc, List.cons_append, Bool.and_eq_true,
    decide_eq_true_eq] at hdraft hparts
  rw [hparts, List.length_cons] at hdraft
  omega

theorem Normal.output {suffix : Text} {directory : Option Path} {source output draft : Path}
    (hsource : source.Normal) (hdirectory : ∀ folder ∈ directory, folder.Normal)
    (houtput : source.output suffix directory = .ok output)
    (hdraft : output.draft = .ok draft) : output.Normal := by
  cases directory with
  | some folder =>
      cases houtput
      exact (hdirectory folder rfl).join _
  | none =>
      obtain ⟨hname, -, hplaced⟩ := withName_eq_ok houtput
      obtain ⟨-, hvalid, -⟩ := withName_eq_ok hdraft
      have hpart := hsource.isPart_of_name_ne hname
      rw [name_withName houtput] at hvalid
      have hwhole := hpart.append (slash_not_mem_of_isName hpart hvalid)
      intro part hmem
      rw [hplaced] at hmem
      rcases List.mem_append.mp hmem with hbefore | hlast
      · exact hsource part (List.dropLast_subset _ hbefore)
      · rwa [List.mem_singleton.mp hlast]

theorem root_output_ne {suffix : Text} {directory : Option Path} {source output : Path}
    (hsource : source.root ≠ .relative)
    (hdirectory : ∀ folder ∈ directory, folder.root ≠ .relative)
    (houtput : source.output suffix directory = .ok output) : output.root ≠ .relative := by
  cases directory with
  | some folder =>
      cases houtput
      exact root_join_ne (hdirectory folder rfl) _
  | none =>
      obtain ⟨-, -, rfl⟩ := withName_eq_ok houtput
      exact hsource

end Path

end Weave
