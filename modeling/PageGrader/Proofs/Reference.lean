import Mathlib.Data.List.TakeWhile
import PageGrader.Reference

namespace PageGrader.Reference

variable {c : Char} {r s t q : List Char}

theorem not_mem_afterLast (c : Char) (s : List Char) : c ∉ afterLast c s := by
  intro h
  have hne := List.mem_takeWhile_imp (List.mem_reverse.mp h)
  simp at hne

theorem afterLast_append (s : List Char) (h : c ∉ t) : afterLast c (s ++ t) = afterLast c s ++ t := by
  have hall : ∀ a ∈ t.reverse, (a != c) = true := by
    intro a ha
    rw [bne_iff_ne]
    rintro rfl
    exact h (List.mem_reverse.mp ha)
  rw [afterLast, List.reverse_append, List.takeWhile_append_of_pos hall, List.reverse_append,
    List.reverse_reverse, afterLast]

theorem afterLast_of_not_mem (h : c ∉ s) : afterLast c s = s := afterLast_append [] h

theorem afterLast_append_cons (c : Char) (s t : List Char) :
    afterLast c (s ++ c :: t) = afterLast c t := by
  unfold afterLast
  rw [List.reverse_append, List.reverse_cons, List.append_assoc, List.takeWhile_append]
  split
  next hall =>
    have hself : t.reverse.takeWhile (· != c) = t.reverse :=
      (List.takeWhile_prefix _).eq_of_length hall
    simp [hself]
  next => rfl

theorem exists_eq_append_afterLast (h : c ∈ s) : ∃ front, s = front ++ c :: afterLast c s := by
  -- The last separator is the first one from behind.
  obtain ⟨tail, front, hreverse, hnone⟩ := List.eq_append_cons_of_mem (List.mem_reverse.mpr h)
  have hs : s = front.reverse ++ c :: tail.reverse := by
    rw [← List.reverse_reverse s, hreverse]
    simp
  subst hs
  refine ⟨front.reverse, ?_⟩
  rw [afterLast_append_cons, afterLast_of_not_mem (by simpa using hnone)]

theorem getLastD_splitOn (c : Char) (s : List Char) : (s.splitOn c).getLastD [] = afterLast c s := by
  by_cases h : c ∈ s
  · obtain ⟨front, hs⟩ := exists_eq_append_afterLast h
    have hpieces := congrArg (List.splitOn c) hs
    rw [List.splitOn_append_cons_self, List.splitOn_eq_singleton (not_mem_afterLast c s)] at hpieces
    rw [hpieces, List.getLastD_concat]
  · rw [List.splitOn_eq_singleton h, afterLast_of_not_mem h]
    rfl

/-- A query or a fragment with the mark it begins with, and whatever follows; or nothing. -/
def Appends (q : List Char) : Prop := ∀ c ∈ q.head?, c = '?' ∨ c = '#'

def appendix (r : List Char) : List Char := r.dropWhile fun c => c != '?' && c != '#'

def baseName (r : List Char) : List Char := ((path r).splitOn '/').getLastD []

theorem path_append_appendix (r : List Char) : path r ++ appendix r = r :=
  List.takeWhile_append_dropWhile

theorem appends_appendix (r : List Char) : Appends (appendix r) := by
  intro c hc
  have hmark := List.head?_dropWhile_not (fun c => c != '?' && c != '#') r
  rw [Option.mem_def, appendix] at hc
  rw [hc] at hmark
  simpa only [Bool.and_eq_false_iff, bne_eq_false_iff_eq] using hmark

theorem ne_of_mem_path (h : c ∈ path r) : c ≠ '?' ∧ c ≠ '#' := by
  simpa using List.mem_takeWhile_imp h

theorem path_of_subset (h : s ⊆ path r) : path s = s := by
  rw [path, List.takeWhile_eq_self_iff]
  intro c hc
  simpa using ne_of_mem_path (h hc)

theorem path_append (r : List Char) (h : Appends q) : path (r ++ q) = path r := by
  induction r with
  | nil =>
    cases q with
    | nil => rfl
    | cons c rest =>
      have hc := h c rfl
      rw [List.nil_append, path, List.takeWhile_cons_of_neg (by simpa [or_iff_not_imp_left] using hc)]
      rfl
  | cons c rest ih =>
    unfold path at ih ⊢
    rw [List.cons_append, List.takeWhile_cons, List.takeWhile_cons, ih]

theorem baseName_eq (r : List Char) : baseName r = afterLast '/' (path r) := getLastD_splitOn _ _

theorem baseName_append (r : List Char) (h : Appends q) : baseName (r ++ q) = baseName r := by
  rw [baseName, path_append r h, baseName]

theorem fileName_append (r : List Char) (h : Appends q) (hslash : '/' ∉ q) :
    fileName (r ++ q) = fileName r := by
  rw [fileName, afterLast_append r hslash, path_append _ h, fileName]

theorem fileName_append_of_mem (r : List Char) (hslash : '/' ∈ q) :
    fileName (r ++ q) = fileName q := by
  obtain ⟨front, hq⟩ := exists_eq_append_afterLast hslash
  have hlast : afterLast '/' (r ++ q) = afterLast '/' q := calc
    afterLast '/' (r ++ q) = afterLast '/' ((r ++ front) ++ '/' :: afterLast '/' q) := by
      rw [List.append_assoc, ← hq]
    _ = afterLast '/' (afterLast '/' q) := afterLast_append_cons ..
    _ = afterLast '/' q := afterLast_of_not_mem (not_mem_afterLast '/' q)
  rw [fileName, hlast, fileName]

theorem fileName_path (r : List Char) : fileName (path r) = baseName r := by
  rw [fileName, baseName_eq]
  apply path_of_subset (r := r)
  intro c hc
  exact List.mem_reverse.mp ((List.takeWhile_sublist _).mem (List.mem_reverse.mp hc))

theorem fileName_of_not_mem (h : '/' ∉ appendix r) : fileName r = baseName r := by
  rw [← fileName_path, ← fileName_append (path r) (appends_appendix r) h, path_append_appendix]

theorem fileName_of_mem (h : '/' ∈ appendix r) : fileName r = fileName (appendix r) := by
  rw [← fileName_append_of_mem (path r) h, path_append_appendix]

/-- Whether a name has one of the endings of image files, in letters of any case, after its last dot. -/
def HasImageEnding (name : List Char) : Prop :=
  ∃ stem ending, name = stem ++ '.' :: ending ∧ '.' ∉ ending ∧
    ∃ e ∈ imageExtensions, Text.lower ending = e.toList

theorem isImage_iff (r : List Char) : isImage r = true ↔ HasImageEnding (baseName r) := by
  rw [baseName_eq, isImage, HasImageEnding]
  set name := afterLast '/' (path r)
  rw [Bool.and_eq_true, List.contains_iff_mem, List.any_eq_true]
  constructor
  · rintro ⟨hdot, e, he, heq⟩
    obtain ⟨stem, hname⟩ := exists_eq_append_afterLast hdot
    exact ⟨stem, _, hname, not_mem_afterLast '.' name, e, he, (beq_iff_eq.mp heq).symm⟩
  · rintro ⟨stem, ending, hname, hdot, e, he, heq⟩
    have hlast : afterLast '.' name = ending := by
      rw [hname, afterLast_append_cons, afterLast_of_not_mem hdot]
    refine ⟨by simp [hname], e, he, ?_⟩
    rw [hlast, heq, beq_self_eq_true]

theorem isImage_append (r : List Char) (h : Appends q) : isImage (r ++ q) = isImage r := by
  rw [Bool.eq_iff_iff, isImage_iff, isImage_iff, baseName_append r h]

/-- The file a reference ends in is named by the last segment of its path just if there is no slash
after the path, or the name that is found there instead happens to be the same one. A query or a
fragment without a slash changes nothing, and with one it gives the name. Images are told by the last
segment of the path, with any query or fragment. -/
theorem fileName_eq_baseName_iff (r : List Char) :
    (path r ++ appendix r = r ∧ '?' ∉ path r ∧ '#' ∉ path r ∧ Appends (appendix r)) ∧
      (fileName r = baseName r ↔ '/' ∉ appendix r ∨ fileName (appendix r) = baseName r) ∧
      (∀ q, Appends q → baseName (r ++ q) = baseName r ∧ isImage (r ++ q) = isImage r ∧
        fileName (r ++ q) = if '/' ∈ q then fileName q else fileName r) ∧
      (isImage r = true ↔ HasImageEnding (baseName r)) := by
  refine ⟨⟨path_append_appendix r, ?_, ?_, appends_appendix r⟩, ?_, ?_, isImage_iff r⟩
  · exact fun h => (ne_of_mem_path h).1 rfl
  · exact fun h => (ne_of_mem_path h).2 rfl
  · by_cases hslash : '/' ∈ appendix r
    · simp [hslash, fileName_of_mem hslash]
    · simp [hslash, fileName_of_not_mem hslash]
  · intro q hq
    refine ⟨baseName_append r hq, isImage_append r hq, ?_⟩
    split
    next hslash => exact fileName_append_of_mem r hslash
    next hslash => exact fileName_append r hq hslash

/-- An image in a folder, with a query and a fragment. -/
theorem fileName_of_linked_image :
    let r := "img/Cat.PNG?size=1".toList
    let q := "#top".toList
    Appends q ∧ fileName (r ++ q) = "Cat.PNG".toList ∧ HasImageEnding (baseName (r ++ q)) := by
  intro r q
  have hq : Appends q := by
    intro c hc
    exact .inr (Option.some.inj hc).symm
  have himage : isImage r = true := by decide +kernel
  obtain ⟨-, -, happend, himages⟩ := fileName_eq_baseName_iff r
  obtain ⟨hbase, -, hname⟩ := happend q hq
  refine ⟨hq, ?_, ?_⟩
  · rw [hname, if_neg (by decide +kernel)]
    decide +kernel
  · rw [hbase]
    exact himages.mp himage

/-- A query may hold a path of its own, and a page or an image is then named by the end of that. -/
theorem name_taken_from_query :
    let page := "page.html".toList
    let next := "?next=/About Us".toList
    let image := "cat.png?from=/x".toList
    (Appends next ∧ baseName (page ++ next) = page ∧ fileName page = page ∧
      fileName (page ++ next) = "About Us".toList) ∧
      isImage image = true ∧ ¬ HasImageEnding (fileName image) := by
  intro page next image
  have hnext : Appends next := by
    intro c hc
    exact .inl (Option.some.inj hc).symm
  have hname : fileName image = "x".toList := by decide +kernel
  refine ⟨⟨hnext, ?_, by decide +kernel, by decide +kernel⟩, by decide +kernel, ?_⟩
  · rw [baseName_append page hnext, baseName_eq]
    decide +kernel
  · rintro ⟨stem, ending, heq, -⟩
    have hdot : '.' ∈ "x".toList := by
      rw [← hname, heq]
      simp
    exact absurd hdot (by decide +kernel)

end PageGrader.Reference
