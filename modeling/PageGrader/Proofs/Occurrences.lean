import PageGrader.Proofs.Commented
import PageGrader.Proofs.Report
import PageGrader.Proofs.Taken

namespace PageGrader

open Text (Span fold isBlank)

namespace Text.Shape

variable {shape : Shape} {place busy : Nat} {s : List Char}

/-- Each occurrence begins behind where the one before it begins. -/
theorem spansFrom_increasing :
    (spansFrom shape place busy s).Pairwise fun a b => a.start < b.start := by
  induction s generalizing place busy with
  | nil => exact .nil
  | cons c r ih =>
    unfold spansFrom
    split
    · exact ih
    · split
      · exact List.pairwise_cons.mpr ⟨fun b hb => le_start_of_mem_spansFrom hb, ih⟩
      · exact ih

end Text.Shape

namespace Line

open Text.Shape

variable {tag : String} {page : List Char} {s : Span} {n : Nat}

/-- A text is so many whole lines and the beginning of another one. -/
theorem exists_lines (s : List Char) : ∃ earlier indent, s = earlier ++ indent ∧
    (∀ c ∈ earlier.getLast?, c = '\n') ∧ '\n' ∉ indent := by
  induction s using List.reverseRecOn with
  | nil => exact ⟨[], [], rfl, nofun, List.not_mem_nil⟩
  | append_singleton s d ih =>
    by_cases hd : d = '\n'
    · subst hd
      exact ⟨s ++ ['\n'], [], by simp, by simp, List.not_mem_nil⟩
    · obtain ⟨earlier, indent, rfl, hlast, hindent⟩ := ih
      exact ⟨earlier, indent ++ [d], List.append_assoc .., hlast, by simp [hindent, Ne.symm hd]⟩

/-- An opening of the tag on a line of the page, given by the lines before it and what comes before the
opening on its own line. -/
structure OpensOn (tag : String) (page : List Char) (n : Nat) (earlier indent name after : List Char)
    (c : Char) : Prop where
  place : page = earlier ++ (indent ++ '<' :: (name ++ c :: after))
  /-- The lines before are whole, and they are `n - 1`. -/
  whole : ∀ d ∈ earlier.getLast?, d = '\n'
  number : earlier.count '\n' + 1 = n
  sameLine : '\n' ∉ indent
  /-- The name is the tag in any case, sign by sign. -/
  named : name.map fold = tag.toList.map fold
  ended : isBlank c = true ∨ c = '/' ∨ c = '>'
  shown : ∀ range ∈ hidden page, range.covers (earlier.length + indent.length) = false

theorem takes_opening (tag : String) : Takes (opening tag) fun u => ∃ name c,
    name.map fold = tag.toList.map fold ∧ (isBlank c = true ∨ c = '/' ∨ c = '>') ∧
      u = '<' :: (name ++ [c]) := by
  have hopening := (takes_sign '<').andThen <| (takes_caseless tag.toList).andThen
    (takes_one fun c => isBlank c || c == '/' || c == '>').last
  refine hopening.of_iff fun u => ⟨?_, ?_⟩
  · rintro ⟨_, _, rfl, ⟨name, _, hname, ⟨c, hc, rfl⟩, rfl⟩, rfl⟩
    exact ⟨name, c, hname, by simpa [or_assoc] using hc, rfl⟩
  · rintro ⟨name, c, hname, hc, rfl⟩
    exact ⟨_, _, rfl, ⟨name, _, hname, ⟨c, by simpa [or_assoc] using hc, rfl⟩, rfl⟩, rfl⟩

/-- The line of an opening that is not hidden has the opening on it. -/
theorem opensOn_of_mem_openings (hs : s ∈ openings tag page) :
    ∃ earlier indent name after c, OpensOn tag page (lineOf page s) earlier indent name after c := by
  obtain ⟨hspan, hvisible⟩ := List.mem_filter.mp hs
  obtain ⟨before, v, rest, rfl, hstart, -, hopening, -⟩ := exists_of_mem_spansFrom hspan
  obtain ⟨_, ⟨name, c, hname, hc, rfl⟩, rfl⟩ := (takes_opening tag v rest).mp hopening
  obtain ⟨earlier, indent, rfl, hlast, hindent⟩ := exists_lines before
  rw [Nat.zero_add, List.length_append] at hstart
  rw [Bool.not_eq_true', hstart] at hvisible
  refine ⟨earlier, indent, name, rest, c, by simp, hlast, ?_, hindent, hname, hc,
    fun range hrange => Bool.eq_false_iff.mpr (List.any_eq_false.mp hvisible range hrange)⟩
  rw [lineOf, hstart, ← List.length_append, List.take_left, List.count_append,
    List.count_eq_zero_of_not_mem hindent, Nat.add_zero]

theorem lines_ascend (tag : String) (page : List Char) :
    ((openings tag page).map (lineOf page)).Pairwise (· ≤ ·) := by
  have hstarts : (openings tag page).Pairwise fun a b => a.start < b.start :=
    List.Pairwise.sublist List.filter_sublist spansFrom_increasing
  refine List.pairwise_map.mpr (hstarts.imp fun {a b} hlt => Nat.succ_le_succ ?_)
  exact (List.take_prefix_take_left (Nat.le_of_lt hlt)).sublist.count_le _

/-- What is answered along the occurrences of a tag, the first `count` of which have lines. -/
structure Ascending (tag : String) (page : List Char) (count : Nat) : Prop where
  /-- Lines are given to an initial segment of the occurrences. -/
  answers : ∀ index k, (find? ⟨index, tag, k⟩ page).isSome = true ↔ k < count
  anyIndex : ∀ index other k, find? ⟨index, tag, k⟩ page = find? ⟨other, tag, k⟩ page
  ascends : ∀ index j k n m, j ≤ k → find? ⟨index, tag, j⟩ page = some n →
    find? ⟨index, tag, k⟩ page = some m → n ≤ m
  bounds : ∀ index k n, find? ⟨index, tag, k⟩ page = some n → 1 ≤ n ∧ n ≤ 1 + page.count '\n'
  opens : ∀ index k n, find? ⟨index, tag, k⟩ page = some n →
    ∃ earlier indent name after c, OpensOn tag page n earlier indent name after c

/-- On any text and for any tag, whatever signs it is made of, lines are given in order to the first
occurrences and to no others, and each is the line of an opening that is not hidden. -/
theorem lines_follow_occurrences (tag : String) (page : List Char) :
    ∃ count, Ascending tag page count := by
  have hlines (index k : Nat) :
      find? ⟨index, tag, k⟩ page = ((openings tag page).map (lineOf page))[k]? := by
    rw [find?_eq, List.getElem?_map]
  refine ⟨(openings tag page).length, ?_, fun _ _ _ => rfl, ?_, ?_, ?_⟩
  · intro index k
    rw [hlines, isSome_getElem?, List.length_map]
  · intro index j k n m hjk hn hm
    rw [hlines] at hn hm
    rcases Nat.eq_or_lt_of_le hjk with rfl | hlt
    · exact Nat.le_of_eq (Option.some.inj (hn.symm.trans hm))
    · obtain ⟨hj, rfl⟩ := List.getElem?_eq_some_iff.mp hn
      obtain ⟨hk, rfl⟩ := List.getElem?_eq_some_iff.mp hm
      exact List.pairwise_iff_getElem.mp (lines_ascend tag page) j k hj hk hlt
  · intro index k n hn
    obtain ⟨hone, hle⟩ := bounds_of_find? hn
    exact ⟨hone, by omega⟩
  · intro index k n hn
    rw [find?_eq, Option.map_eq_some_iff] at hn
    obtain ⟨s, hs, rfl⟩ := hn
    exact opensOn_of_mem_openings (List.mem_of_getElem? hs)

end Line
end PageGrader
