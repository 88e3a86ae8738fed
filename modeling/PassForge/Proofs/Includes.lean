import PassForge.Proofs.Paths

/-!
# Where includes are looked up

An include without a leading slash means a template next to the one it stands in.  There are two
notions of where that is.

* `homeDirectory`: the directory the template is in.  Its path, however it is written, leads to
  the segments of its normal form; the last one is its name and the others are the directory.
* `includeDirectory`: the directory its includes are looked up in, which is what stands before the
  last slash of the path as it is written.

`normalize_resolve_eq_iff` says that includes mean the same from a path and from its normal form
exactly if the two directories are the same.  They are the same if the path ends in a name after its
last slash (`EndsInName`): separators and idle segments before that slash do not matter.  But a
backslash after it, or an idle segment or a `..` at the end, are taken for a part of the name, and
then the includes of one template depend on how its path was written (`resolve_misplaced`).
-/

namespace PassForge.Template.Path

variable {p q name dir file : List Char} {segs : List (List Char)}

/-! ### Before the last slash -/

/-- A path without a slash has no directory, and in any other the last slash ends it. -/
theorem directory?_cases (p : List Char) :
    '/' ∉ p ∧ directory? p = none ∨
      ∃ dir file, p = dir ++ '/' :: file ∧ '/' ∉ file ∧ directory? p = some dir := by
  induction p with
  | nil => exact .inl ⟨List.not_mem_nil, rfl⟩
  | cons c cs ih =>
    rcases ih with ⟨hcs, hnone⟩ | ⟨dir, file, hcs, hfile, hsome⟩
    · by_cases hc : c = '/'
      · subst hc
        exact .inr ⟨[], cs, rfl, hcs, by simp [directory?, hnone]⟩
      · refine .inl ⟨?_, by simp [directory?, hnone, hc]⟩
        intro hmem
        rcases List.mem_cons.1 hmem with heq | hmem
        · exact hc heq.symm
        · exact hcs hmem
    · exact .inr ⟨c :: dir, file, by rw [hcs, List.cons_append], hfile, by simp [directory?, hsome]⟩

theorem directory?_of_not_mem (h : '/' ∉ p) : directory? p = none := by
  rcases directory?_cases p with ⟨-, hnone⟩ | ⟨dir, file, rfl, -, -⟩
  · exact hnone
  · exact absurd (List.mem_append_right dir List.mem_cons_self) h

theorem directory?_append_cons (h : '/' ∉ file) : directory? (dir ++ '/' :: file) = some dir := by
  induction dir with
  | nil => simp [directory?, directory?_of_not_mem h]
  | cons c dir ih => simp [directory?, ih]

/-! ### The two directories -/

/-- The segments of the directory that the includes of a template are looked up in: those left of
what stands before the last slash of its path. -/
def includeDirectory (path : List Char) : Option (List (List Char)) :=
  collapse [] (segments ((directory? path).getD []))

/-- The segments of the directory that a template is in: those left of its path but the last. -/
def homeDirectory (path : List Char) : Option (List (List Char)) :=
  (collapse [] (segments path)).map List.dropLast

/-- A path ends in the name of a file after its last slash. -/
def EndsInName (path : List Char) : Prop :=
  ∃ file, isOrdinary file = true ∧ (∀ c ∈ file, isSeparator c = false) ∧
    (path = file ∨ ∃ dir, path = dir ++ '/' :: file)

theorem not_mem_of_no_separator (h : ∀ c ∈ p, isSeparator c = false) : '/' ∉ p := by
  intro hmem
  exact absurd (h _ hmem) (by decide)

theorem includeDirectory_of_not_mem (h : '/' ∉ p) : includeDirectory p = some [] := by
  rw [includeDirectory, directory?_of_not_mem h]
  rfl

theorem includeDirectory_append_cons (h : '/' ∉ file) :
    includeDirectory (dir ++ '/' :: file) = collapse [] (segments dir) := by
  rw [includeDirectory, directory?_append_cons h, Option.getD_some]

/-- What follows the last slash of a path leads from its include directory to where the path
leads. -/
theorem exists_includeDirectory (h : collapse [] (segments p) = some segs) :
    ∃ kept file, includeDirectory p = some kept ∧ IsNormal kept ∧ '/' ∉ file ∧
      collapse kept.reverse (segments file) = some segs ∧
      (p = file ∨ ∃ dir, p = dir ++ '/' :: file) := by
  rcases directory?_cases p with ⟨hp, -⟩ | ⟨dir, file, rfl, hfile, -⟩
  · refine ⟨[], p, includeDirectory_of_not_mem hp, ?_, hp, h, .inl rfl⟩
    exact fun s hs => absurd hs List.not_mem_nil
  · rw [segments_append_cons rfl, collapse_append] at h
    obtain ⟨kept, hkept, hrest⟩ := Option.bind_eq_some_iff.1 h
    exact ⟨kept, file, (includeDirectory_append_cons hfile).trans hkept,
      isNormal_of_collapse hkept, hfile, hrest, .inr ⟨dir, rfl⟩⟩

theorem EndsInName.includeDirectory_eq (h : EndsInName p) :
    includeDirectory p = homeDirectory p := by
  obtain ⟨file, hordinary, hfile, hp⟩ := h
  have hslash := not_mem_of_no_separator hfile
  -- the name is put behind the segments of the directory, and taken off again
  have hname : ∀ kept : List (List Char), collapse kept.reverse [file] = some (kept ++ [file]) := by
    intro kept
    rw [collapse_of_ordinary (by simpa using hordinary), List.reverse_reverse]
  rcases hp with rfl | ⟨dir, rfl⟩
  · rw [includeDirectory_of_not_mem hslash, homeDirectory, segments_of_no_separator hfile,
      collapse_of_ordinary (by simpa using hordinary)]
    rfl
  · rw [includeDirectory_append_cons hslash, homeDirectory, segments_append_cons rfl,
      segments_of_no_separator hfile, collapse_append]
    cases collapse [] (segments dir) with
    | none => rfl
    | some kept => simp [hname]

/-- Without backslashes, only a path that ends in a name has its includes looked up where it is. -/
theorem endsInName_of_includeDirectory_eq (hback : '\\' ∉ p)
    (hsegs : collapse [] (segments p) = some segs) (hne : segs ≠ [])
    (h : includeDirectory p = homeDirectory p) : EndsInName p := by
  obtain ⟨kept, file, hkept, -, hslash, hfile, hp⟩ := exists_includeDirectory hsegs
  have hhome : kept = segs.dropLast := by
    rw [hkept, homeDirectory, hsegs] at h
    simpa using h
  have hsub : ∀ c ∈ file, c ∈ p := by
    intro c hc
    rcases hp with rfl | ⟨dir, rfl⟩
    · exact hc
    · simp [hc]
  have hseparator : ∀ c ∈ file, isSeparator c = false := by
    intro c hc
    have h₁ : c ≠ '/' := fun heq => hslash (heq ▸ hc)
    have h₂ : c ≠ '\\' := fun heq => hback (heq ▸ hsub c hc)
    simp [isSeparator, h₁, h₂]
  rw [segments_of_no_separator hseparator] at hfile
  have hpos : 0 < segs.length := List.length_pos_iff.2 hne
  have hlength := congrArg List.length hhome
  rw [List.length_dropLast] at hlength
  rcases idle_or_parent_or_ordinary file with hidle | hparent | hordinary
  · -- an idle segment leaves the directory as it is
    rw [collapse_idle hidle, collapse, Option.some.injEq, List.reverse_reverse] at hfile
    rw [hfile] at hlength
    omega
  · -- going back leaves even less
    rw [collapse_parent hparent] at hfile
    split at hfile
    · cases hfile
    · rw [collapse, Option.some.injEq] at hfile
      have htail := congrArg List.length hfile
      simp only [List.length_reverse, List.length_tail] at htail
      omega
  · exact ⟨file, hordinary, hseparator, hp⟩

/-! ### Includes -/

/-- An include is looked up in the include directory, unless it starts at the root. -/
theorem collapse_segments_attach (h : name.head? ≠ some '/') (p : List Char) :
    collapse [] (segments (attach name p)) =
      (includeDirectory p).bind fun kept => collapse kept.reverse (segments name) := by
  unfold attach
  split
  · exact absurd rfl h
  · rcases directory?_cases p with ⟨hp, hnone⟩ | ⟨dir, file, rfl, hfile, hsome⟩
    · rw [hnone, includeDirectory_of_not_mem hp]
      rfl
    · rw [hsome, includeDirectory_append_cons hfile]
      simp only [segments_append_cons (show isSeparator '/' = true from rfl), collapse_append]

theorem attach_of_head (h : name.head? = some '/') (p q : List Char) :
    attach name p = attach name q := by
  obtain ⟨anchored, rfl⟩ := List.head?_eq_some_iff.1 h
  rfl

theorem join_injective {segs' : List (List Char)} (h : IsNormal segs) (h' : IsNormal segs')
    (heq : join segs = join segs') : segs = segs' := by
  have hread := collapse_segments_join h
  rw [heq, collapse_segments_join h'] at hread
  exact (Option.some.inj hread).symm

/-- **Includes mean the same from two paths** exactly if these have the same include directory. -/
theorem normalizeChars_attach_eq_iff {kept kept' : List (List Char)}
    (hp : includeDirectory p = some kept) (hnormal : IsNormal kept)
    (hq : includeDirectory q = some kept') (hnormal' : IsNormal kept') :
    (∀ name, normalizeChars (attach name p) = normalizeChars (attach name q)) ↔ kept = kept' := by
  constructor
  · intro h
    -- a plain name is put behind the directory
    have hplain : ∀ {p kept}, includeDirectory p = some kept →
        normalizeChars (attach ['x'] p) = some (join (kept ++ [['x']])) := by
      intro p kept hp
      rw [normalizeChars, collapse_segments_attach (by decide), hp, Option.bind_some,
        collapse_of_ordinary (by decide), List.reverse_reverse]
      rfl
    have hextended : ∀ {kept : List (List Char)}, IsNormal kept → IsNormal (kept ++ [['x']]) := by
      intro kept hkept s hs
      rcases List.mem_append.1 hs with hs | hs
      · exact hkept s hs
      · rw [List.mem_singleton.1 hs]
        exact ⟨rfl, by simp [isSeparator]⟩
    have hx := h ['x']
    rw [hplain hp, hplain hq, Option.some.injEq] at hx
    exact List.append_cancel_right (join_injective (hextended hnormal) (hextended hnormal') hx)
  · intro hsame name
    by_cases hname : name.head? = some '/'
    · rw [attach_of_head hname p q]
    · rw [normalizeChars, normalizeChars, collapse_segments_attach hname,
        collapse_segments_attach hname, hp, hq, hsame]

theorem join_concat {front : List (List Char)} (hne : front ≠ []) (last : List Char) :
    join (front ++ [last]) = join front ++ '/' :: last := by
  induction front with
  | nil => exact absurd rfl hne
  | cons s rest ih =>
    cases rest with
    | nil => simp [join, List.intercalate_cons_cons]
    | cons t rest =>
      rw [List.cons_append, List.cons_append, join_cons_cons, join_cons_cons, ← List.cons_append,
        ih (List.cons_ne_nil t rest), List.append_assoc, List.cons_append]

/-- In a normal form, what stands before the last slash is the directory. -/
theorem includeDirectory_join (h : IsNormal segs) (hne : segs ≠ []) :
    includeDirectory (join segs) = some segs.dropLast := by
  obtain ⟨front, last, rfl⟩ : ∃ front last, segs = front ++ [last] :=
    ⟨segs.dropLast, segs.getLast hne, (List.dropLast_concat_getLast hne).symm⟩
  have hlast := h last (List.mem_append_right _ List.mem_cons_self)
  have hends : EndsInName (join (front ++ [last])) := by
    refine ⟨last, hlast.1, hlast.2, ?_⟩
    by_cases hfront : front = []
    · left
      simp [hfront, join]
    · right
      exact ⟨join front, join_concat hfront last⟩
  rw [hends.includeDirectory_eq, homeDirectory, collapse_segments_join h, Option.map_some]

theorem normalize_resolve_eq (name parent : String) : normalize (resolve name parent) =
    (normalizeChars (attach name.toList parent.toList)).map String.ofList := by
  rw [normalize, resolve, String.toList_ofList]
  cases h : normalizeChars (attach name.toList parent.toList) with
  | none => rw [Option.getD_none, h]
  | some q => rw [Option.getD_some, normalizeChars_idem h]

/-- **Where includes are looked up.**  A template has a path with a normal form that names a file.
An include that starts at the root means the same, whether it is resolved against the path or
against its normal form.  All includes mean the same exactly if the directory before the last slash
of the path is the one the template is in.  That is so if the path ends in a name after its last
slash, and for a path without backslashes only then. -/
theorem normalize_resolve_eq_iff {parent normal : String} (h : normalize parent = some normal)
    (hne : normal ≠ "") :
    (∀ name : String, name.toList.head? = some '/' →
      resolve name parent = resolve name normal) ∧
    ((∀ name, normalize (resolve name parent) = normalize (resolve name normal)) ↔
      includeDirectory parent.toList = homeDirectory parent.toList) ∧
    (EndsInName parent.toList →
      ∀ name, normalize (resolve name parent) = normalize (resolve name normal)) ∧
    ('\\' ∉ parent.toList →
      (∀ name, normalize (resolve name parent) = normalize (resolve name normal)) →
        EndsInName parent.toList) := by
  obtain ⟨segs, hsegs, hnormal, hjoin⟩ := exists_of_normalizeChars (normalize_eq_some_iff.1 h)
  have hsegsne : segs ≠ [] := by
    rintro rfl
    exact hne (String.toList_inj.1 hjoin)
  obtain ⟨kept, file, hkept, hkeptnormal, -⟩ := exists_includeDirectory hsegs
  have hhome : homeDirectory parent.toList = some segs.dropLast := by
    rw [homeDirectory, hsegs, Option.map_some]
  have hdropnormal : IsNormal segs.dropLast :=
    fun s hs => hnormal s (List.dropLast_subset _ hs)
  have hiff : (∀ name, normalize (resolve name parent) = normalize (resolve name normal)) ↔
      includeDirectory parent.toList = homeDirectory parent.toList := by
    have hchars := normalizeChars_attach_eq_iff hkept hkeptnormal
      ((congrArg includeDirectory hjoin).trans (includeDirectory_join hnormal hsegsne)) hdropnormal
    rw [hkept, hhome, Option.some.injEq, ← hchars]
    simp only [normalize_resolve_eq]
    constructor
    · intro hall name
      have hname := hall (String.ofList name)
      rw [String.toList_ofList] at hname
      exact Option.map_injective (fun _ _ => String.ofList_injective) hname
    · intro hall name
      rw [hall name.toList]
  refine ⟨fun name hname => ?_, hiff, fun hends => hiff.2 hends.includeDirectory_eq,
    fun hback hall => endsInName_of_includeDirectory_eq hback hsegs hsegsne (hiff.1 hall)⟩
  rw [resolve, resolve, attach_of_head hname parent.toList normal.toList]

/-- Whatever separators and idle segments stand before it, the name after the last slash is found
to be `a`, and `b` is looked up next to it. -/
theorem normalize_resolve_eq_iff_dots :
    normalize ".\\dir//./a" = some "dir/a" ∧ "dir/a" ≠ "" ∧ EndsInName ".\\dir//./a".toList ∧
    normalize (resolve "b" ".\\dir//./a") = normalize (resolve "b" "dir/a") ∧
    normalize (resolve "b" "dir/a") = some "dir/b" := by
  have hnormal : normalize ".\\dir//./a" = some "dir/a" := by decide
  have hname : EndsInName ".\\dir//./a".toList :=
    ⟨['a'], rfl, by simp [isSeparator], .inr ⟨".\\dir//.".toList, by decide⟩⟩
  obtain ⟨-, -, hsame, -⟩ := normalize_resolve_eq_iff hnormal (by decide)
  exact ⟨hnormal, by decide, hname, hsame hname "b", by decide⟩

/-- **The includes of a template can depend on how its path is written.**  In every tree of files
the paths `dir\a` and `dir/a/.` lead to the same file as their normal form `dir/a`; but from each of
them `b` means another template. -/
theorem resolve_misplaced :
    (normalize "dir\\a" = some "dir/a" ∧ normalize "dir/a/." = some "dir/a") ∧
    (∀ files, Store.directory files "dir\\a" = Store.directory files "dir/a" ∧
      Store.directory files "dir/a/." = Store.directory files "dir/a") ∧
    normalize (resolve "b" "dir/a") = some "dir/b" ∧
    normalize (resolve "b" "dir\\a") = some "b" ∧
    normalize (resolve "b" "dir/a/.") = some "dir/a/b" := by
  have hback : normalize "dir\\a" = some "dir/a" := by decide
  have hdot : normalize "dir/a/." = some "dir/a" := by decide
  exact ⟨⟨hback, hdot⟩, fun files => ⟨Store.directory_of_normalize_eq_some hback,
    Store.directory_of_normalize_eq_some hdot⟩, by decide, by decide, by decide⟩

end PassForge.Template.Path
