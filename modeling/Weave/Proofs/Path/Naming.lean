import Mathlib.Data.List.Induction
import Weave.Disk.Basic
import Weave.Naming

namespace Weave.Path

/-! The parts of a text. -/

theorem slash_not_mem_of_mem_splitOn {text part : Text}
    (hpart : part ∈ List.splitOn '/' text) : '/' ∉ part := by
  induction text generalizing part with
  | nil =>
      rw [List.splitOn_nil, List.mem_singleton] at hpart
      simp [hpart]
  | cons character text ih =>
      rw [List.splitOn_cons_eq_if_modifyHead] at hpart
      split at hpart
      · rcases List.mem_cons.mp hpart with rfl | hrest
        · simp
        · exact ih hrest
      · next hcharacter =>
          obtain ⟨first, rest, hsplit⟩ :=
            List.exists_cons_of_ne_nil (List.splitOn_ne_nil '/' text)
          rw [hsplit] at hpart ih
          rcases List.mem_cons.mp hpart with rfl | hrest
          · have hfirst := ih (List.mem_cons_self (a := first))
            simp only [beq_iff_eq] at hcharacter
            simp [hfirst, Ne.symm hcharacter]
          · exact ih (List.mem_cons_of_mem first hrest)

theorem exists_part_of_mem {text : Text} {character : Char} (hmem : character ∈ text)
    (hslash : character ≠ '/') : ∃ part ∈ List.splitOn '/' text, character ∈ part := by
  induction text with
  | nil => simp at hmem
  | cons first text ih =>
      obtain ⟨head, rest, hsplit⟩ :=
        List.exists_cons_of_ne_nil (List.splitOn_ne_nil '/' text)
      rw [List.splitOn_cons_eq_if_modifyHead]
      rw [hsplit] at ih ⊢
      rcases List.mem_cons.mp hmem with rfl | hrest
      · simp [hslash]
      · obtain ⟨part, hpart, hinside⟩ := ih hrest
        split
        · exact ⟨part, List.mem_cons_of_mem [] hpart, hinside⟩
        · rcases List.mem_cons.mp hpart with rfl | hlater
          · exact ⟨first :: part, List.mem_cons_self, List.mem_cons_of_mem first hinside⟩
          · exact ⟨part, List.mem_cons_of_mem _ hlater, hinside⟩

theorem slash_not_mem_of_mem_partsOf {text part : Text} (hpart : part ∈ partsOf text) :
    '/' ∉ part :=
  slash_not_mem_of_mem_splitOn (List.mem_filter.mp hpart).1

theorem eq_of_partsOf_eq_nil {text : Text} (hparts : partsOf text = [])
    {character : Char} (hmem : character ∈ text) : character = '/' ∨ character = '.' := by
  by_cases hslash : character = '/'
  · exact .inl hslash
  · obtain ⟨part, hpart, hinside⟩ := exists_part_of_mem hmem hslash
    have hdropped := List.filter_eq_nil_iff.mp hparts part hpart
    simp only [Bool.and_eq_true, decide_eq_true_eq, not_and, not_not] at hdropped
    have hhere : part = here := hdropped (List.ne_nil_of_mem hinside)
    rw [hhere] at hinside
    exact .inr (List.mem_singleton.mp hinside)

theorem partsOf_of_slash_not_mem {text : Text} (hslash : '/' ∉ text) (hne : text ≠ [])
    (hhere : text ≠ here) : partsOf text = [text] := by
  simp [partsOf, List.splitOn_eq_singleton hslash, hne, hhere]

/-! A draft lies beside its document, under a longer name. -/

theorem withName_eq_ok {path renamed : Path} {name : Text}
    (hrenamed : path.withName name = .ok renamed) :
    path.name ≠ [] ∧ isName name = true ∧
      renamed = { path with parts := path.parts.dropLast ++ [name] } := by
  simp only [withName] at hrenamed
  split at hrenamed
  · cases hrenamed
  · next hname =>
      split at hrenamed
      · next hvalid => exact ⟨hname, hvalid, (Except.ok.inj hrenamed).symm⟩
      · cases hrenamed

theorem exists_of_draft {output draft : Path} (hdraft : output.draft = .ok draft) :
    ∃ front name, output.parts = front ++ [name] ∧ name ≠ [] ∧
      draft = ⟨output.root, front ++ [name ++ draftSuffix]⟩ := by
  obtain ⟨hname, -, rfl⟩ := withName_eq_ok hdraft
  cases hparts : output.parts using List.reverseRecOn with
  | nil => simp [Path.name, hparts] at hname
  | append_singleton front name =>
      have hlast : output.name = name := by simp [Path.name, hparts]
      rw [hlast] at hname ⊢
      exact ⟨front, name, rfl, hname, by rw [List.dropLast_concat]⟩

theorem draftName_ne_parent (name : Text) : name ++ draftSuffix ≠ parent := by
  intro heq
  have hlength := congrArg List.length heq
  simp [draftSuffix, parent] at hlength

theorem name_draft {output draft : Path} (hdraft : output.draft = .ok draft) :
    draft.name = output.name ++ draftSuffix := by
  obtain ⟨front, name, hparts, -, rfl⟩ := exists_of_draft hdraft
  simp [Path.name, hparts]

theorem name_withName {path renamed : Path} {name : Text}
    (hrenamed : path.withName name = .ok renamed) : renamed.name = name := by
  obtain ⟨-, -, rfl⟩ := withName_eq_ok hrenamed
  simp [Path.name]

theorem name_ne_name_draft_beside {suffix : Text} {source output draft : Path}
    (houtput : source.withName (source.name ++ suffix) = .ok output)
    (hdraft : output.draft = .ok draft) : draft.name ≠ source.name := by
  rw [name_draft hdraft, name_withName houtput]
  intro heq
  have hlength := congrArg List.length heq
  simp [draftSuffix] at hlength

/-- In a directory of its own choice, too: were the draft to carry the name of the
source, that name would be one whole part, and the draft's name is longer than it. -/
theorem name_ne_name_draft_within {suffix : Text} (hsuffix : '/' ∉ suffix)
    {source directory draft : Path}
    (hdraft : (directory.join (source.name ++ suffix)).draft = .ok draft) :
    draft.name ≠ source.name := by
  intro heq
  have hlast : 't' ∈ source.name := by
    rw [← heq, name_draft hdraft]
    simp [draftSuffix]
  cases hparts : partsOf (source.name ++ suffix) using List.reverseRecOn with
  | nil =>
      have hchar := eq_of_partsOf_eq_nil hparts (List.mem_append_left suffix hlast)
      exact absurd hchar (by decide)
  | append_singleton front last =>
      have hname : (directory.join (source.name ++ suffix)).name = last := by
        simp only [join, append, parse, hparts]
        split <;> simp [Path.name, ← List.append_assoc]
      rw [name_draft hdraft, hname] at heq
      have hinside : last ∈ partsOf (source.name ++ suffix) := by simp [hparts]
      have hclean : '/' ∉ source.name := by
        rw [← heq]
        simp [slash_not_mem_of_mem_partsOf hinside, draftSuffix]
      have hwhole : partsOf (source.name ++ suffix) = [source.name ++ suffix] := by
        apply partsOf_of_slash_not_mem
        · simp [hclean, hsuffix]
        · simp [List.ne_nil_of_mem hlast]
        · intro hhere
          have hdot : 't' ∈ here := hhere ▸ List.mem_append_left suffix hlast
          exact absurd hdot (by decide)
      rw [hwhole, List.mem_singleton] at hinside
      rw [hinside] at heq
      have hlength := congrArg List.length heq
      simp [draftSuffix] at hlength

theorem name_ne_name_draft {suffix : Text} (hsuffix : '/' ∉ suffix)
    {directory : Option Path} {source output draft : Path}
    (houtput : source.output suffix directory = .ok output)
    (hdraft : output.draft = .ok draft) : draft.name ≠ source.name := by
  cases directory with
  | none => exact name_ne_name_draft_beside houtput hdraft
  | some directory =>
      simp only [Path.output, Except.ok.injEq] at houtput
      subst houtput
      exact name_ne_name_draft_within hsuffix hdraft

theorem root_join_ne {base : Path} (hbase : base.root ≠ .relative) (text : Text) :
    (base.join text).root ≠ .relative := by
  simp only [join, append]
  split
  · exact hbase
  · assumption

theorem mem_parts_join {base : Path} {text part : Text}
    (hpart : part ∈ (base.join text).parts) : part ∈ base.parts ∨ part ∈ partsOf text := by
  simp only [join, append] at hpart
  split at hpart
  · exact List.mem_append.mp hpart
  · exact .inr hpart

theorem not_mem_name {path : Path} {character : Char}
    (hparts : ∀ part ∈ path.parts, character ∉ part) : character ∉ path.name := by
  simp only [Path.name]
  cases hlast : path.parts.getLast? with
  | none => simp
  | some part => exact hparts part (List.mem_of_getLast? hlast)

/-! A path that is read from a text has no separator inside its parts. -/

def Proper (path : Path) : Prop :=
  ∀ part ∈ path.parts, '/' ∉ part

theorem proper_parse (text : Text) : (parse text).Proper := by
  intro part hpart
  exact slash_not_mem_of_mem_partsOf hpart

theorem Proper.join {base : Path} (hbase : base.Proper) (text : Text) :
    (base.join text).Proper := by
  intro part hpart
  rcases mem_parts_join hpart with hfront | hback
  · exact hbase part hfront
  · exact proper_parse text part hback

theorem Proper.slash_not_mem_name {path : Path} (hpath : path.Proper) :
    '/' ∉ path.name :=
  not_mem_name hpath

theorem name_output {suffix : Text} {directory : Option Path} {source output : Path}
    (hsuffix : '/' ∉ suffix) (hlonger : suffix ≠ []) (hslash : '/' ∉ source.name)
    (hname : source.name ≠ [])
    (houtput : source.output suffix directory = .ok output) :
    output.name = source.name ++ suffix := by
  cases directory with
  | none => exact name_withName houtput
  | some directory =>
      have hparts : partsOf (source.name ++ suffix) = [source.name ++ suffix] := by
        apply partsOf_of_slash_not_mem
        · simp [hslash, hsuffix]
        · simp [hname]
        · intro hhere
          have hlength := congrArg List.length hhere
          have hfirst := List.length_pos_iff.mpr hname
          have hsecond := List.length_pos_iff.mpr hlonger
          simp only [List.length_append, here, List.length_singleton] at hlength
          omega
      simp only [Path.output, Except.ok.injEq] at houtput
      rw [← houtput]
      simp only [join, append, parse, hparts]
      split <;> simp [Path.name]

theorem location_concat {path : Path} {front : List Text} {name : Text}
    (hparts : path.parts = front ++ [name]) (hname : name ≠ parent) (cwd : Location) :
    path.location cwd = (path.start cwd).descend front ++ [name] := by
  simp [Path.location, hparts, Location.child_of_ne_parent _ hname]

theorem text_draft {output draft : Path} (hdraft : output.draft = .ok draft) :
    draft.text = output.text ++ draftSuffix := by
  obtain ⟨front, name, hparts, -, rfl⟩ := exists_of_draft hdraft
  have hjoin : ∀ parts : List Text,
      List.intercalate ['/'] (parts ++ [name ++ draftSuffix]) =
        List.intercalate ['/'] (parts ++ [name]) ++ draftSuffix := by
    intro parts
    induction parts with
    | nil => simp
    | cons part parts ih => cases parts <;> simp_all
  simp [Path.text, hparts, hjoin]

end Weave.Path
