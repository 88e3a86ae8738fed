import PassForge.Template.Store

/-!
# Paths below a root

`collapse` is a stack machine on the segments of a path, and all that is said of normal forms comes
from what it does to one segment:

* `collapse_eq_none_iff`: it fails if and only if, at some point of the path, more segments have
  gone back than there were ordinary ones before;
* `exists_of_normalizeChars`: a normal form consists of ordinary segments only, and
  `normalizeChars_join`: such a path is its own normal form;
* `normalizeChars_append`: what a path leads to below a directory depends only on the normal form of
  the directory.

So an include resolves to a normal form, unless it leaves the root (`normalize_resolve`); and a tree
of files gives out only files whose paths are the ordinary segments of the normal form
(`exists_of_directory`).
-/

namespace PassForge

theorem mem_or_of_mem_intercalate {α : Type} {sep : List α} {ls : List (List α)} {a : α}
    (h : a ∈ sep.intercalate ls) : a ∈ sep ∨ ∃ l ∈ ls, a ∈ l := by
  induction ls with
  | nil =>
    rw [List.intercalate_nil] at h
    exact absurd h List.not_mem_nil
  | cons l rest ih =>
    cases rest with
    | nil =>
      rw [List.intercalate_singleton] at h
      exact .inr ⟨l, List.mem_cons_self, h⟩
    | cons l' rest =>
      rw [List.intercalate_cons_cons, List.mem_append, List.mem_append] at h
      rcases h with (hl | hsep) | hrest
      · exact .inr ⟨l, List.mem_cons_self, hl⟩
      · exact .inl hsep
      · refine (ih hrest).imp_right ?_
        rintro ⟨k, hk, ha⟩
        exact ⟨k, List.mem_cons_of_mem l hk, ha⟩

namespace Template

namespace Path

/-! ### Segments -/

/-- Whether a segment names something: it is neither idle nor goes back. -/
def isOrdinary (s : List Char) : Bool := !isIdle s && !isParent s

theorem isOrdinary_iff {s : List Char} :
    isOrdinary s = true ↔ s ≠ [] ∧ s ≠ ['.'] ∧ s ≠ ['.', '.'] := by
  simp [isOrdinary, isIdle, isParent, and_assoc]

/-- Segments that a path in normal form can have. -/
def IsNormal (segs : List (List Char)) : Prop :=
  ∀ s ∈ segs, isOrdinary s = true ∧ ∀ c ∈ s, isSeparator c = false

theorem segments_eq_splitOnP (cs : List Char) : segments cs = cs.splitOnP isSeparator := by
  induction cs with
  | nil => rw [segments, List.splitOnP_nil]
  | cons c cs ih =>
    rw [segments, List.splitOnP_cons_eq_if_modifyHead, ih]
    by_cases hc : isSeparator c = true
    · rw [if_pos hc, if_pos hc]
    · rw [if_neg hc, if_neg hc]
      cases hsegs : cs.splitOnP isSeparator with
      | nil => exact absurd hsegs (List.splitOnP_ne_nil _ _)
      | cons s rest => rfl

theorem segments_append_cons {c : Char} (hc : isSeparator c = true) (xs ys : List Char) :
    segments (xs ++ c :: ys) = segments xs ++ segments ys := by
  simp only [segments_eq_splitOnP]
  exact List.splitOnP_append_cons xs ys hc

theorem isSeparator_eq_false_of_mem_segments {cs s : List Char} (hs : s ∈ segments cs) :
    ∀ c ∈ s, isSeparator c = false := by
  induction cs generalizing s with
  | nil =>
    obtain rfl : s = [] := by simpa [segments] using hs
    exact fun c hc => absurd hc List.not_mem_nil
  | cons d cs ih =>
    rw [segments] at hs
    split at hs
    · rcases List.mem_cons.1 hs with rfl | hs
      · exact fun c hc => absurd hc List.not_mem_nil
      · exact ih hs
    · rename_i hd
      -- the character is put in front of the first segment of the rest
      split at hs
      · rename_i hnil
        exact absurd (segments_eq_splitOnP cs ▸ hnil) (List.splitOnP_ne_nil _ _)
      · rename_i t rest hsegs
        rcases List.mem_cons.1 hs with rfl | hs
        · intro c hc
          rcases List.mem_cons.1 hc with rfl | hc
          · simpa using hd
          · exact ih (hsegs ▸ List.mem_cons_self) c hc
        · exact ih (hsegs ▸ List.mem_cons_of_mem t hs)

theorem segments_of_no_separator {cs : List Char} (h : ∀ c ∈ cs, isSeparator c = false) :
    segments cs = [cs] := by
  rw [segments_eq_splitOnP, List.splitOnP_eq_singleton h]

theorem join_cons_cons (s t : List Char) (rest : List (List Char)) :
    join (s :: t :: rest) = s ++ '/' :: join (t :: rest) := by
  simp [join, List.intercalate_cons_cons]

theorem segments_join {segs : List (List Char)} (hne : segs ≠ [])
    (h : ∀ s ∈ segs, ∀ c ∈ s, isSeparator c = false) : segments (join segs) = segs := by
  induction segs with
  | nil => exact absurd rfl hne
  | cons s rest ih =>
    have hs : segments s = [s] := segments_of_no_separator (h s List.mem_cons_self)
    cases rest with
    | nil => simpa [join] using hs
    | cons t rest =>
      rw [join_cons_cons, segments_append_cons rfl, hs,
        ih (List.cons_ne_nil t rest) fun u hu => h u (List.mem_cons_of_mem s hu)]
      rfl

/-! ### What collapsing does with a segment -/

variable {kept xs ys segs : List (List Char)} {s : List Char}

theorem collapse_idle (hs : isIdle s = true) : collapse kept (s :: xs) = collapse kept xs := by
  rw [collapse.eq_def]
  exact if_pos hs

theorem collapse_parent (hs : isParent s = true) :
    collapse kept (s :: xs) = if kept = [] then none else collapse kept.tail xs := by
  have hidle : ¬ isIdle s = true := by
    obtain rfl : s = ['.', '.'] := by simpa [isParent] using hs
    decide
  rw [collapse.eq_def]
  simp only [hidle, hs, if_true]
  cases kept with
  | nil => rfl
  | cons k kept => rfl

theorem collapse_ordinary (hs : isOrdinary s = true) :
    collapse kept (s :: xs) = collapse (s :: kept) xs := by
  simp only [isOrdinary, Bool.and_eq_true, Bool.not_eq_true'] at hs
  rw [collapse.eq_def]
  simp only [hs.1, hs.2, Bool.false_eq_true, if_false]

theorem idle_or_parent_or_ordinary (s : List Char) :
    isIdle s = true ∨ isParent s = true ∨ isOrdinary s = true := by
  unfold isOrdinary
  cases isIdle s <;> cases isParent s <;> simp

theorem collapse_append :
    collapse kept (xs ++ ys) = (collapse kept xs).bind fun r => collapse r.reverse ys := by
  induction xs generalizing kept with
  | nil => simp [collapse]
  | cons s xs ih =>
    rw [List.cons_append]
    rcases idle_or_parent_or_ordinary s with hs | hs | hs
    · rw [collapse_idle hs, collapse_idle hs, ih]
    · rw [collapse_parent hs, collapse_parent hs]
      by_cases hkept : kept = []
      · rw [if_pos hkept, if_pos hkept, Option.bind_none]
      · rw [if_neg hkept, if_neg hkept, ih]
    · rw [collapse_ordinary hs, collapse_ordinary hs, ih]

theorem collapse_of_ordinary (h : ∀ s ∈ xs, isOrdinary s = true) :
    collapse kept xs = some (kept.reverse ++ xs) := by
  induction xs generalizing kept with
  | nil => rw [collapse, List.append_nil]
  | cons s xs ih =>
    rw [collapse_ordinary (h s List.mem_cons_self),
      ih fun t ht => h t (List.mem_cons_of_mem s ht), List.reverse_cons, List.append_assoc,
      List.singleton_append]

theorem mem_of_collapse (h : collapse kept xs = some segs) (hs : s ∈ segs) :
    s ∈ kept ∨ s ∈ xs ∧ isOrdinary s = true := by
  induction xs generalizing kept with
  | nil =>
    rw [collapse, Option.some.injEq] at h
    exact .inl (List.mem_reverse.1 (h ▸ hs))
  | cons t xs ih =>
    rcases idle_or_parent_or_ordinary t with ht | ht | ht
    · rw [collapse_idle ht] at h
      exact (ih h).imp_right fun hx => ⟨List.mem_cons_of_mem t hx.1, hx.2⟩
    · rw [collapse_parent ht] at h
      split at h
      · cases h
      · exact (ih h).imp List.mem_of_mem_tail fun hx => ⟨List.mem_cons_of_mem t hx.1, hx.2⟩
    · rw [collapse_ordinary ht] at h
      rcases ih h with hkept | hx
      · rcases List.mem_cons.1 hkept with rfl | hkept
        · exact .inr ⟨List.mem_cons_self, ht⟩
        · exact .inl hkept
      · exact .inr ⟨List.mem_cons_of_mem t hx.1, hx.2⟩

/-- **A path leaves the root** where more segments have gone back than there were ordinary ones,
those kept at the start included. -/
theorem collapse_eq_none_iff : collapse kept xs = none ↔ ∃ before, before <+: xs ∧
    kept.length + before.countP isOrdinary < before.countP isParent := by
  induction xs generalizing kept with
  | nil => simp [collapse]
  | cons s xs ih =>
    -- nothing has gone back in the empty prefix
    have hnonempty : (∃ before, before <+: s :: xs ∧
          kept.length + before.countP isOrdinary < before.countP isParent) ↔
        ∃ before, before <+: xs ∧
          kept.length + (s :: before).countP isOrdinary < (s :: before).countP isParent := by
      constructor
      · rintro ⟨before, hbefore, hlt⟩
        rcases List.prefix_cons_iff.1 hbefore with rfl | ⟨t, rfl, ht⟩
        · exact absurd hlt (by simp)
        · exact ⟨t, ht, hlt⟩
      · rintro ⟨before, hbefore, hlt⟩
        exact ⟨s :: before, List.prefix_cons_iff.2 (.inr ⟨before, rfl, hbefore⟩), hlt⟩
    rw [hnonempty]
    simp only [List.countP_cons]
    rcases idle_or_parent_or_ordinary s with hs | hs | hs
    · have hparent : isParent s = false := by
        rcases (by simpa [isIdle] using hs : s = [] ∨ s = ['.']) with rfl | rfl <;> rfl
      have hordinary : isOrdinary s = false := by simp [isOrdinary, hs]
      rw [collapse_idle hs, ih]
      simp [hparent, hordinary]
    · have hordinary : isOrdinary s = false := by simp [isOrdinary, hs]
      rw [collapse_parent hs]
      cases kept with
      | nil =>
        simp only [if_true, hordinary, hs, true_iff]
        exact ⟨[], List.nil_prefix, by decide⟩
      | cons k kept =>
        rw [if_neg (List.cons_ne_nil k kept), List.tail_cons, ih]
        simp only [hordinary, hs, List.length_cons, if_true, Bool.false_eq_true, if_false]
        exact exists_congr fun before => and_congr_right fun _ => by omega
    · have hparent : isParent s = false := by
        simp only [isOrdinary, Bool.and_eq_true, Bool.not_eq_true'] at hs
        exact hs.2
      rw [collapse_ordinary hs, ih]
      simp only [hparent, hs, List.length_cons, if_true, Bool.false_eq_true, if_false]
      exact exists_congr fun before => and_congr_right fun _ => by omega

/-! ### Normal forms -/

variable {p q : List Char}

theorem isNormal_of_collapse (h : collapse [] (segments p) = some segs) : IsNormal segs := by
  intro s hs
  obtain ⟨hmem, hordinary⟩ := (mem_of_collapse h hs).resolve_left List.not_mem_nil
  exact ⟨hordinary, isSeparator_eq_false_of_mem_segments hmem⟩

theorem collapse_segments_join (h : IsNormal segs) :
    collapse [] (segments (join segs)) = some segs := by
  by_cases hne : segs = []
  · subst hne
    rfl
  · rw [segments_join hne fun s hs => (h s hs).2, collapse_of_ordinary fun s hs => (h s hs).1]
    rfl

/-- **A normal form** consists of ordinary segments. -/
theorem exists_of_normalizeChars (h : normalizeChars p = some q) :
    ∃ segs, collapse [] (segments p) = some segs ∧ IsNormal segs ∧ q = join segs := by
  obtain ⟨segs, hsegs, rfl⟩ := Option.map_eq_some_iff.1 h
  exact ⟨segs, hsegs, isNormal_of_collapse hsegs, rfl⟩

example : normalizeChars "a\\.//b/../c/".toList = some "a/c".toList ∧
    normalizeChars "a/../../b/c".toList = none := by decide

theorem normalizeChars_join (h : IsNormal segs) :
    normalizeChars (join segs) = some (join segs) := by
  rw [normalizeChars, collapse_segments_join h, Option.map_some]

theorem normalizeChars_idem (h : normalizeChars p = some q) : normalizeChars q = some q := by
  obtain ⟨segs, -, hnormal, rfl⟩ := exists_of_normalizeChars h
  exact normalizeChars_join hnormal

/-- A path and its normal form have the same segments left. -/
theorem collapse_segments_eq (h : normalizeChars p = some q) :
    collapse [] (segments p) = collapse [] (segments q) := by
  obtain ⟨segs, hsegs, hnormal, rfl⟩ := exists_of_normalizeChars h
  rw [hsegs, collapse_segments_join hnormal]

/-- **Below a directory**, only its normal form counts. -/
theorem normalizeChars_append (h : normalizeChars p = some q) (below : List Char) :
    normalizeChars (p ++ '/' :: below) = normalizeChars (q ++ '/' :: below) := by
  unfold normalizeChars
  rw [segments_append_cons rfl, segments_append_cons rfl, collapse_append, collapse_append,
    collapse_segments_eq h]

theorem not_mem_join_of_isNormal (h : IsNormal segs) : '\\' ∉ join segs := by
  intro hmem
  rcases mem_or_of_mem_intercalate hmem with hslash | ⟨s, hs, hc⟩
  · exact absurd hslash (by decide)
  · exact absurd ((h s hs).2 _ hc) (by decide)

/-! ### Texts -/

theorem normalize_eq_some_iff {path normal : String} :
    normalize path = some normal ↔ normalizeChars path.toList = some normal.toList := by
  unfold normalize
  constructor
  · intro h
    obtain ⟨cs, hcs, rfl⟩ := Option.map_eq_some_iff.1 h
    rw [hcs, String.toList_ofList]
  · intro h
    rw [h, Option.map_some, String.ofList_toList]

theorem normalize_eq_none_iff {path : String} :
    normalize path = none ↔ normalizeChars path.toList = none := Option.map_eq_none_iff

/-- **An include resolves to a normal form**, unless it leaves the root. -/
theorem normalize_resolve (name parent : String) :
    normalize (resolve name parent) = some (resolve name parent) ∨
      normalize (resolve name parent) = none := by
  rw [normalize_eq_some_iff, normalize_eq_none_iff, resolve, String.toList_ofList]
  cases h : normalizeChars (attach name.toList parent.toList) with
  | none => exact .inr h
  | some q => exact .inl (normalizeChars_idem h)

end Path

/-! ### Trees of files -/

namespace Store

/-- Whoever goes down a tree reads the file at the end of the way. -/
theorem exists_of_descend {below : List File} {segs : List (List Char)} {text : String}
    (h : descend below segs = .ok (some text)) :
    ∃ file ∈ below, file.segments = segs ∧ String.fromUTF8? file.bytes = some text := by
  induction segs generalizing below with
  | nil => cases h
  | cons s rest ih =>
    rw [descend] at h
    split at h
    · cases h
    · split at h
      · rename_i file hfile
        split at h
        · cases h
        · rename_i hrest
          obtain rfl : rest = [] := by simpa using hrest
          have hsegments : file.segments = [s] := by simpa using List.find?_some hfile
          split at h
          · rename_i text' htext
            cases h
            exact ⟨file, List.mem_of_find?_eq_some hfile, hsegments, htext⟩
          · cases h
      · simp only at h
        split at h
        · cases h
        · obtain ⟨file, hfile, hsegments, htext⟩ := ih h
          obtain ⟨outer, houter, hinside⟩ := List.mem_filterMap.1 hfile
          split at hinside
          · rename_i hhead
            cases hinside
            obtain ⟨tail, htail⟩ := List.head?_eq_some_iff.1 (beq_iff_eq.1 hhead)
            refine ⟨outer, houter, ?_, htext⟩
            rw [htail, ← hsegments, htail]
            rfl
          · cases hinside

theorem directory_of_normalize_eq_none {files : List (String × ByteArray)} {path : String}
    (h : Path.normalize path = none) : directory files path = .error (.leavesRoot path) := by
  have hcollapse : Path.collapse [] (Path.segments path.toList) = none :=
    Option.map_eq_none_iff.1 (Path.normalize_eq_none_iff.1 h)
  rw [directory, hcollapse]

theorem directory_of_normalize_eq_some {files : List (String × ByteArray)} {path normal : String}
    (h : Path.normalize path = some normal) : directory files path = directory files normal := by
  have hsegs := Path.collapse_segments_eq (Path.normalize_eq_some_iff.1 h)
  obtain ⟨segs, hpath, -⟩ := Path.exists_of_normalizeChars (Path.normalize_eq_some_iff.1 h)
  rw [directory, directory, ← hsegs, hpath]

/-- **A tree of files gives out** only files whose paths are the segments of the normal form. -/
theorem exists_of_directory {files : List (String × ByteArray)} {path text : String}
    (h : directory files path = .ok (some text)) :
    ∃ segs, Path.IsNormal segs ∧ Path.normalize path = some (String.ofList (Path.join segs)) ∧
      ∃ file ∈ files, (file.1.splitOn "/").map String.toList = segs ∧
        String.fromUTF8? file.2 = some text := by
  unfold directory at h
  cases hsegs : Path.collapse [] (Path.segments path.toList) with
  | none =>
    rw [hsegs] at h
    cases h
  | some segs =>
    rw [hsegs] at h
    simp only at h
    split at h
    · cases h
    · split at h
      · cases h
      · obtain ⟨file, hfile, hsegments, htext⟩ := exists_of_descend h
        obtain ⟨entry, hentry, rfl⟩ := List.mem_map.1 hfile
        refine ⟨segs, Path.isNormal_of_collapse hsegs, ?_, entry, hentry, hsegments, htext⟩
        rw [Path.normalize, Path.normalizeChars, hsegs, Option.map_some, Option.map_some]

end Store

end Template

end PassForge
