import Weave.Proofs.Path.Parts

namespace Weave.Path

/-! A path is determined by its text: two texts are spellings of one path exactly if they
come to the same text once the path has been read from them. -/

theorem normal_parse (text : Text) : (parse text).Normal :=
  fun _ hpart => isPart_of_mem_partsOf hpart

theorem partsOf_slash_cons (text : Text) : partsOf ('/' :: text) = partsOf text := by
  simp [partsOf, List.splitOn_cons_eq_if_modifyHead]

theorem partsOf_intercalate {parts : List Text} (hparts : ∀ part ∈ parts, IsPart part) :
    partsOf (List.intercalate ['/'] parts) = parts := by
  by_cases hnil : parts = []
  · rw [hnil]
    rfl
  · rw [partsOf, List.splitOn_intercalate '/' (fun part hpart => (hparts part hpart).2.2) hnil]
    apply List.filter_eq_self.mpr
    intro part hpart
    simp [(hparts part hpart).1, (hparts part hpart).2.1]

theorem partsOf_root_append (root : Root) (text : Text) :
    partsOf (root.text ++ text) = partsOf text := by
  cases root with
  | relative => rfl
  | single => exact partsOf_slash_cons text
  | double => exact (partsOf_slash_cons ('/' :: text)).trans (partsOf_slash_cons text)

theorem head?_intercalate_ne {parts : List Text} (hparts : ∀ part ∈ parts, IsPart part) :
    (List.intercalate ['/'] parts).head? ≠ some '/' := by
  cases parts with
  | nil => simp
  | cons first rest =>
      obtain ⟨hne, -, hslash⟩ := hparts first List.mem_cons_self
      obtain ⟨character, others, rfl⟩ := List.exists_cons_of_ne_nil hne
      have hfirst : character ≠ '/' := by
        rintro rfl
        exact hslash List.mem_cons_self
      cases rest <;> simp [List.intercalate_cons_cons, hfirst]

theorem ofText_root_append (root : Root) {text : Text} (htext : text.head? ≠ some '/') :
    Root.ofText (root.text ++ text) = root := by
  cases text with
  | nil => cases root <;> rfl
  | cons character rest =>
      have hfirst : character ≠ '/' := fun heq => htext (congrArg some heq)
      cases root <;> simp [Root.text, Root.ofText, hfirst]

theorem parse_text {path : Path} (hpath : path.Normal) : parse path.text = path := by
  obtain ⟨root, parts⟩ := path
  by_cases hhere : root = .relative ∧ parts = []
  · obtain ⟨rfl, rfl⟩ := hhere
    rfl
  · have htext : text ⟨root, parts⟩ = root.text ++ List.intercalate ['/'] parts := by
      rw [text, if_neg]
      simpa using hhere
    rw [htext, parse, ofText_root_append root (head?_intercalate_ne hpath),
      partsOf_root_append, partsOf_intercalate hpath]

theorem text_eq_iff {first second : Path} (hfirst : first.Normal) (hsecond : second.Normal) :
    first.text = second.text ↔ first = second := by
  constructor
  · intro htext
    rw [← parse_text hfirst, htext, parse_text hsecond]
  · intro heq
    rw [heq]

theorem Normal.isPart_of_name_ne {path : Path} (hpath : path.Normal)
    (hname : path.name ≠ []) : IsPart path.name := by
  apply hpath.isPart_name
  intro hparts
  exact hname (by simp [Path.name, hparts])

theorem parts_eq_concat {path : Path} (hname : path.name ≠ []) :
    path.parts = path.parts.dropLast ++ [path.name] := by
  cases hparts : path.parts using List.reverseRecOn with
  | nil => simp [Path.name, hparts] at hname
  | append_singleton front last => simp [Path.name, hparts]

section Output

variable {suffix : Text} {source other : Path}

/-! Documents beside their sources share a path if the sources do. -/

theorem output_beside (hsuffix : '/' ∉ suffix) (hname : IsPart source.name) :
    source.output suffix none =
      .ok ⟨source.root, source.parts.dropLast ++ [source.name ++ suffix]⟩ :=
  withName_of_isName hname.1 (isName_of_isPart (hname.append hsuffix))

theorem output_beside_refused_iff (hsuffix : '/' ∉ suffix) (hsource : source.Normal) :
    (∃ fault, source.output suffix none = .error fault) ↔ source.name = [] := by
  constructor
  · rintro ⟨fault, hfault⟩
    by_contra hname
    rw [output_beside hsuffix (hsource.isPart_of_name_ne hname)] at hfault
    cases hfault
  · intro hname
    exact ⟨.emptyName source, if_pos hname⟩

theorem output_beside_eq_iff (hsuffix : '/' ∉ suffix) (hsource : IsPart source.name)
    (hother : IsPart other.name) :
    source.output suffix none = other.output suffix none ↔ source = other := by
  refine ⟨fun houtput => ?_, fun heq => by rw [heq]⟩
  rw [output_beside hsuffix hsource, output_beside hsuffix hother] at houtput
  -- The new names stand last in both, so that the parts before them and the names agree.
  obtain ⟨hroot, hparts⟩ := Path.mk.inj (Except.ok.inj houtput)
  obtain ⟨hfront, hlast⟩ := List.append_inj' hparts rfl
  have hname : source.name = other.name :=
    List.append_cancel_right (List.singleton_inj.mp hlast)
  have hsame : source.parts = other.parts := by
    rw [parts_eq_concat hsource.1, parts_eq_concat hother.1, hfront, hname]
  cases source
  cases other
  exact congr (congrArg Path.mk hroot) hsame

/-! In one directory only the names count. -/

theorem eq_nil_of_append_mem_partsOf {front text : Text} (hslash : '/' ∉ text)
    (hmem : front ++ text ∈ partsOf text) : front = [] := by
  have hwhole := (List.mem_filter.mp hmem).1
  rw [List.splitOn_eq_singleton hslash, List.mem_singleton] at hwhole
  exact List.append_left_eq_self.mp hwhole

theorem IsPart.partsOf_append {part : Text} (hpart : IsPart part) (hsuffix : '/' ∉ suffix) :
    partsOf (part ++ suffix) = [part ++ suffix] := by
  obtain ⟨hne, hhere, hslash⟩ := hpart.append hsuffix
  exact partsOf_of_slash_not_mem hslash hne hhere

/-- A suffix alone may leave no part at all, or one that is shorter than any name with the
suffix behind it. -/
theorem partsOf_append_eq_iff (hsuffix : '/' ∉ suffix) {name rival : Text}
    (hname : name ≠ [] → IsPart name) (hrival : rival ≠ [] → IsPart rival) :
    partsOf (name ++ suffix) = partsOf (rival ++ suffix) ↔ name = rival := by
  refine ⟨fun hparts => ?_, fun heq => by rw [heq]⟩
  by_cases hfirst : name = []
  · by_cases hsecond : rival = []
    · rw [hfirst, hsecond]
    · rw [hfirst, List.nil_append, (hrival hsecond).partsOf_append hsuffix] at hparts
      exact absurd (eq_nil_of_append_mem_partsOf hsuffix (by simp [hparts])) hsecond
  · rw [(hname hfirst).partsOf_append hsuffix] at hparts
    by_cases hsecond : rival = []
    · rw [hsecond, List.nil_append] at hparts
      exact absurd (eq_nil_of_append_mem_partsOf hsuffix (by simp [← hparts])) hfirst
    · rw [(hrival hsecond).partsOf_append hsuffix] at hparts
      exact List.append_cancel_right (List.singleton_inj.mp hparts)

theorem join_of_slash_not_mem (directory : Path) {text : Text} (hslash : '/' ∉ text) :
    directory.join text = ⟨directory.root, directory.parts ++ partsOf text⟩ := by
  have hroot : Root.ofText text = .relative :=
    ofText_root_append .relative fun hhead => hslash (List.mem_of_head? hhead)
  rw [join, append, parse, if_pos hroot]

theorem output_within_eq_iff (hsuffix : '/' ∉ suffix) (hsource : source.Normal)
    (hother : other.Normal) (directory : Path) :
    source.output suffix (some directory) = other.output suffix (some directory) ↔
      source.name = other.name := by
  have hwithin : ∀ {path : Path}, path.Normal → path.output suffix (some directory) =
      .ok ⟨directory.root, directory.parts ++ partsOf (path.name ++ suffix)⟩ := by
    intro path hpath
    have hslash : '/' ∉ path.name ++ suffix := by
      simp [not_mem_name fun part hpart => (hpath part hpart).2.2, hsuffix]
    rw [Path.output, join_of_slash_not_mem directory hslash]
  rw [hwithin hsource, hwithin hother, Except.ok.injEq, Path.mk.injEq,
    List.append_cancel_left_eq, and_iff_right rfl]
  exact partsOf_append_eq_iff hsuffix hsource.isPart_of_name_ne hother.isPart_of_name_ne

/-! A source, its document and the draft of that have names of growing length. -/

theorem ne_of_name_append {path : Path} {front back : Text} (hback : back ≠ [])
    (hname : path.name = front ++ back) (hother : other.name = front) : path ≠ other := by
  rintro rfl
  rw [hother, List.self_eq_append_right] at hname
  exact hback hname

theorem exists_output_apart (hsuffix : '/' ∉ suffix) (hlonger : suffix ≠ [])
    (hname : IsPart source.name) :
    ∃ output draft, source.output suffix none = .ok output ∧ output.draft = .ok draft ∧
      output ≠ source ∧ draft ≠ output ∧ draft ≠ source := by
  obtain ⟨output, houtput, hpart⟩ :
      ∃ output, source.output suffix none = .ok output ∧ IsPart output.name :=
    exists_output hname fun _ => hsuffix
  obtain ⟨draft, hdraft⟩ := exists_draft hpart
  have hsecond : output.name = source.name ++ suffix := name_withName houtput
  have hthird : draft.name = output.name ++ draftSuffix := name_draft hdraft
  have hfourth : draft.name = source.name ++ (suffix ++ draftSuffix) := by
    rw [hthird, hsecond, List.append_assoc]
  exact ⟨output, draft, houtput, hdraft, ne_of_name_append hlonger hsecond rfl,
    ne_of_name_append (by decide) hthird rfl, ne_of_name_append (by simp [hlonger]) hfourth rfl⟩

end Output

/-- Two sources share a document exactly if they must: beside them if they are spellings of
one path, in a common directory if they have the same name. Only a source without a name has
no document beside it, and with a suffix no document or draft takes the place of its source. -/
theorem output_eq_iff {suffix : Text} (hsuffix : '/' ∉ suffix) (first second : Text) :
    ((∃ fault, (parse first).output suffix none = .error fault) ↔ (parse first).name = []) ∧
      ((parse first).name ≠ [] → (parse second).name ≠ [] →
        ((parse first).output suffix none = (parse second).output suffix none ↔
          parse first = parse second)) ∧
      ((parse first).text = (parse second).text ↔ parse first = parse second) ∧
      (∀ directory : Path,
        (parse first).output suffix (some directory) =
            (parse second).output suffix (some directory) ↔
          (parse first).name = (parse second).name) ∧
      (suffix ≠ [] → (parse first).name ≠ [] →
        ∃ output draft, (parse first).output suffix none = .ok output ∧
          output.draft = .ok draft ∧ output ≠ parse first ∧ draft ≠ output ∧
          draft ≠ parse first) := by
  have hfirst := normal_parse first
  have hsecond := normal_parse second
  refine ⟨output_beside_refused_iff hsuffix hfirst, fun hname hother => ?_,
    text_eq_iff hfirst hsecond, output_within_eq_iff hsuffix hfirst hsecond,
    fun hlonger hname => ?_⟩
  · exact output_beside_eq_iff hsuffix (hfirst.isPart_of_name_ne hname)
      (hsecond.isPart_of_name_ne hother)
  · exact exists_output_apart hsuffix hlonger (hfirst.isPart_of_name_ne hname)

/-- Spellings of one path share a document; two slashes in front are a path of their own,
and in a common directory the last part alone decides. -/
theorem output_eq_sample :
    '/' ∉ ".md".toList ∧
      (parse "a//./..".toList).output ".md".toList none =
        (parse "a/../".toList).output ".md".toList none ∧
      (parse "//a".toList).output ".md".toList none ≠
        (parse "/a".toList).output ".md".toList none ∧
      (parse "//a".toList).output ".md".toList (some (parse "out".toList)) =
        (parse "b/../a".toList).output ".md".toList (some (parse "out".toList)) := by
  have hsuffix : '/' ∉ ".md".toList := by decide
  refine ⟨hsuffix, ?_, ?_, ?_⟩
  · exact ((output_eq_iff hsuffix _ _).2.1 (by decide) (by decide)).mpr (by decide)
  · intro houtput
    have hsame := ((output_eq_iff hsuffix _ _).2.1 (by decide) (by decide)).mp houtput
    exact absurd hsame (by decide)
  · exact ((output_eq_iff hsuffix _ _).2.2.2.1 _).mpr (by decide)

end Weave.Path
