import Weave.Proofs.Path.Naming

namespace Weave.Path

/-! A document and its draft can be named if the source has a name that a path could have
as a part. -/

/-- A text that is left as one part when a path is read. -/
def IsPart (part : Text) : Prop :=
  part ≠ [] ∧ part ≠ here ∧ '/' ∉ part

def Normal (path : Path) : Prop :=
  ∀ part ∈ path.parts, IsPart part

theorem isPart_of_mem_partsOf {text part : Text} (hpart : part ∈ partsOf text) :
    IsPart part := by
  obtain ⟨-, hkept⟩ := List.mem_filter.mp hpart
  simp only [Bool.and_eq_true, decide_eq_true_eq] at hkept
  exact ⟨hkept.1, hkept.2, slash_not_mem_of_mem_partsOf hpart⟩

theorem Normal.join {base : Path} (hbase : base.Normal) (text : Text) :
    (base.join text).Normal := by
  intro part hpart
  rcases mem_parts_join hpart with hfront | hback
  · exact hbase part hfront
  · exact isPart_of_mem_partsOf hback

theorem Normal.isPart_name {path : Path} (hpath : path.Normal) (hparts : path.parts ≠ []) :
    IsPart path.name := by
  apply hpath
  simp only [Path.name, List.getLast?_eq_some_getLast hparts, Option.getD_some]
  exact List.getLast_mem hparts

theorem ofText_of_isPart {part : Text} (hpart : IsPart part) (rest : Text) :
    Root.ofText (part ++ rest) = .relative := by
  obtain ⟨hne, -, hslash⟩ := hpart
  obtain ⟨first, others, rfl⟩ := List.exists_cons_of_ne_nil hne
  have hfirst : first ≠ '/' := by
    rintro rfl
    exact hslash List.mem_cons_self
  simp [Root.ofText, hfirst]

theorem isName_of_isPart {text : Text} (htext : IsPart text) : isName text = true := by
  have hroot := ofText_of_isPart htext []
  rw [List.append_nil] at hroot
  obtain ⟨hne, hhere, hslash⟩ := htext
  have hlast : text.getLast? ≠ some '/' := fun hlast => hslash (List.mem_of_getLast? hlast)
  simp [isName, hlast, hroot, partsOf_of_slash_not_mem hslash hne hhere]

theorem IsPart.append_ne_here {part : Text} (hpart : IsPart part) (rest : Text) :
    part ++ rest ≠ here := by
  intro heq
  obtain ⟨hne, hhere, -⟩ := hpart
  obtain ⟨first, others, rfl⟩ := List.exists_cons_of_ne_nil hne
  simp only [here, List.cons_append, List.cons.injEq, List.append_eq_nil_iff] at heq
  exact hhere (by rw [heq.1, heq.2.1, here])

theorem IsPart.append {part rest : Text} (hpart : IsPart part) (hrest : '/' ∉ rest) :
    IsPart (part ++ rest) := by
  refine ⟨by simp [hpart.1], hpart.append_ne_here rest, ?_⟩
  simp [hpart.2.2, hrest]

theorem partsOf_append_ne_nil {part : Text} (hpart : IsPart part) (rest : Text) :
    partsOf (part ++ rest) ≠ [] := by
  by_cases hslash : '/' ∈ rest
  · obtain ⟨front, back, rfl, hfront⟩ := List.eq_append_cons_of_mem hslash
    have hclean := (hpart.append hfront).2.2
    rw [partsOf, ← List.append_assoc, List.splitOn_append_cons_self_of_not_mem hclean]
    simp [hpart.1, hpart.append_ne_here front]
  · obtain ⟨hne, hhere, hclean⟩ := hpart.append hslash
    simp [partsOf_of_slash_not_mem hclean hne hhere]

theorem mem_intercalate_of_mem {pieces : List Text} {piece : Text} (hpiece : piece ∈ pieces)
    {character : Char} (hmem : character ∈ piece) (separator : Text) :
    character ∈ List.intercalate separator pieces := by
  induction pieces with
  | nil => cases hpiece
  | cons first rest ih =>
      cases rest with
      | nil =>
          rw [List.intercalate_singleton, ← List.mem_singleton.mp hpiece]
          exact hmem
      | cons second rest =>
          rw [List.intercalate_cons_cons]
          rcases List.mem_cons.mp hpiece with rfl | hrest
          · exact List.mem_append_left _ (List.mem_append_left _ hmem)
          · exact List.mem_append_right _ (ih hrest)

theorem mem_of_mem_partsOf {text part : Text} (hpart : part ∈ partsOf text)
    {character : Char} (hmem : character ∈ part) : character ∈ text := by
  have hinside := mem_intercalate_of_mem (List.mem_filter.mp hpart).1 hmem ['/']
  rwa [List.intercalate_splitOn] at hinside

theorem parts_join {part : Text} (hpart : IsPart part) (directory : Path) (rest : Text) :
    (directory.join (part ++ rest)).parts = directory.parts ++ partsOf (part ++ rest) := by
  simp only [join, append, parse, ofText_of_isPart hpart, if_true]

theorem isPart_name_join {part : Text} (hpart : IsPart part) (directory : Path)
    (rest : Text) : IsPart (directory.join (part ++ rest)).name := by
  have hne := partsOf_append_ne_nil hpart rest
  apply isPart_of_mem_partsOf
  rw [Path.name, parts_join hpart, List.getLast?_append,
    List.getLast?_eq_some_getLast hne, Option.some_or, Option.getD_some]
  exact List.getLast_mem hne

theorem exists_output {suffix : Text} {directory : Option Path} {source : Path}
    (hname : IsPart source.name) (hslash : directory = none → '/' ∉ suffix) :
    ∃ output, source.output suffix directory = .ok output ∧ IsPart output.name := by
  cases directory with
  | none =>
      have hpart := hname.append (hslash rfl)
      exact ⟨_, withName_of_isName hname.1 (isName_of_isPart hpart), by simpa [Path.name]⟩
  | some directory => exact ⟨_, rfl, isPart_name_join hname directory suffix⟩

theorem exists_draft {output : Path} (hname : IsPart output.name) :
    ∃ draft, output.draft = .ok draft :=
  ⟨_, withName_of_isName hname.1 (isName_of_isPart (hname.append (by decide)))⟩

end Weave.Path
