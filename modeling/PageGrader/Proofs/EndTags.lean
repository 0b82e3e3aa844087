import PageGrader.Proofs.Balanced
import PageGrader.Proofs.Citation

namespace PageGrader

open Text (isNameChar lower)
open Markup hiding Attribute

theorem Text.holds_iff_infix {part s : List Char} : Text.holds part s = true ↔ part <:+: s := by
  induction s with
  | nil => rw [Text.holds, List.isEmpty_iff, List.infix_nil]
  | cons c r ih =>
    rw [Text.holds, Bool.or_eq_true, List.isPrefixOf_iff_prefix, ih, List.infix_cons_iff]

namespace Rule

variable (d : Document) (page : List Char)

namespace Skeleton

def defects : List Defect :=
  (if declaresType page then [] else [.noDoctype]) ++
  ((["html", "head", "body"].map fun tag => (tag, part? d page tag)).filter (·.2.isNone)).map
    (fun found => .lacks found.1) ++
  (if headAfterBody page then [.headAfterBody] else []) ++
  (if isUnbalanced page then [.unbalanced] else [])

def told (defects : List Defect) : String :=
  if defects.isEmpty then "The basic HTML structure is valid."
  else
    let text := ", ".intercalate (defects.map (·.text))
    s!"Critical: {text}."

theorem unbalanced_mem_defects : .unbalanced ∈ defects d page ↔ isUnbalanced page = true := by
  simp [defects]

theorem mem_of_lacks_mem_defects {tag : String} (h : .lacks tag ∈ defects d page) :
    tag ∈ ["html", "head", "body"] := by
  have hmem : .lacks tag ∈ ((["html", "head", "body"].map fun tag => (tag, part? d page tag)).filter
      (·.2.isNone)).map fun found => Defect.lacks found.1 := by
    simpa [defects] using h
  obtain ⟨found, hfound, htag⟩ := List.mem_map.mp hmem
  obtain ⟨tag', htag', rfl⟩ := List.mem_map.mp (List.mem_filter.mp hfound).1
  exact Defect.lacks.inj htag ▸ htag'

theorem infix_intercalate {sep s : List Char} {l : List (List Char)} (hs : s ∈ l) :
    s <:+: sep.intercalate l := by
  induction l with
  | nil => cases hs
  | cons t rest ih =>
    cases rest with
    | nil =>
      obtain rfl := List.mem_singleton.mp hs
      have hself : sep.intercalate [s] = s := List.intercalate_singleton
      exact hself.symm ▸ List.infix_refl s
    | cons u rest =>
      rw [List.intercalate_cons_cons]
      rcases List.mem_cons.mp hs with rfl | hs
      · rw [List.append_assoc]
        exact (List.prefix_append _ _).isInfix
      · exact List.infix_append_of_infix_right (ih hs)

theorem mem_intercalate {sep : List Char} {l : List (List Char)} {c : Char}
    (hc : c ∈ sep.intercalate l) : c ∈ sep ∨ ∃ s ∈ l, c ∈ s := by
  induction l with
  | nil => cases hc
  | cons t rest ih =>
    cases rest with
    | nil =>
      rw [List.intercalate_singleton] at hc
      exact .inr ⟨t, List.mem_cons_self, hc⟩
    | cons u rest =>
      rw [List.intercalate_cons_cons, List.mem_append, List.mem_append] at hc
      rcases hc with (hhere | hsep) | hrest
      · exact .inr ⟨t, List.mem_cons_self, hhere⟩
      · exact .inl hsep
      · exact (ih hrest).imp_right fun ⟨s, hs, hmem⟩ => ⟨s, List.mem_cons_of_mem t hs, hmem⟩

theorem toList_told {defects : List Defect} (h : defects ≠ []) :
    (told defects).toList = "Critical: ".toList ++
      [',', ' '].intercalate (defects.map (·.text.toList)) ++ ['.'] := by
  rw [told, if_neg (mt List.isEmpty_iff.mp h)]
  simp only [toString, String.toList_append, String.toList_intercalate, List.map_map]
  rfl

/-- The message tells of lost end tags only if that is one of the defects. -/
theorem holds_told {defects : List Defect}
    (hlacks : ∀ tag, .lacks tag ∈ defects → tag ∈ ["html", "head", "body"]) :
    Text.holds Defect.unbalanced.text.toList (told defects).toList = true ↔ .unbalanced ∈ defects := by
  rw [Text.holds_iff_infix]
  constructor
  · intro hinfix
    -- Any `p` in the message comes from this defect, as no other text has one.
    have hletter : 'p' ∈ (told defects).toList := hinfix.subset (by decide)
    by_cases hnone : defects = []
    · rw [hnone] at hletter
      exact absurd hletter (by decide)
    · rw [toList_told hnone, List.mem_append, List.mem_append] at hletter
      rcases hletter with (hstart | htexts) | hend
      · exact absurd hstart (by decide)
      · obtain hsep | ⟨s, hs, hmem⟩ := mem_intercalate htexts
        · exact absurd hsep (by decide)
        · obtain ⟨defect, hdefect, rfl⟩ := List.mem_map.mp hs
          cases defect with
          | noDoctype => exact absurd hmem (by decide)
          | lacks tag =>
            have hall : ∀ tag ∈ ["html", "head", "body"], 'p' ∉ (Defect.lacks tag).text.toList := by
              decide
            exact absurd hmem (hall tag (hlacks tag hdefect))
          | headAfterBody => exact absurd hmem (by decide)
          | unbalanced => exact hdefect
      · exact absurd hend (by decide)
  · intro hmem
    rw [toList_told (List.ne_nil_of_mem hmem)]
    have htext : Defect.unbalanced.text.toList ∈ defects.map (·.text.toList) :=
      List.mem_map_of_mem hmem
    exact List.infix_append_of_infix_left (List.infix_append_of_infix_right (infix_intercalate htext))

end Skeleton

theorem check_skeleton :
    ∃ o, skeleton.check d page = .ok o ∧ (o.passed = true ↔ Skeleton.defects d page = []) ∧
      o.message = Skeleton.told (Skeleton.defects d page) ∧
      (o.passed = true → o.evidence = d.handles (Skeleton.parts d page)) := by
  have hfound : (["html", "head", "body"].map fun tag => (tag, Skeleton.part? d page tag)).filterMap
      (·.2) = Skeleton.parts d page := List.filterMap_map
  unfold skeleton
  dsimp only
  rw [Skeleton.mapM_part]
  simp only [bind, Except.bind]
  rw [hfound]
  change ∃ o, (if (Skeleton.defects d page).isEmpty then _ else _) = Except.ok o ∧ _
  unfold Skeleton.told
  rw [← List.isEmpty_iff]
  cases (Skeleton.defects d page).isEmpty with
  | true => exact ⟨_, rfl, ⟨fun _ => rfl, fun _ => rfl⟩, rfl, fun _ => rfl⟩
  | false => exact ⟨_, rfl, ⟨nofun, nofun⟩, rfl, nofun⟩

/-- The issue of end tags is raised just if the counts are too far apart. -/
theorem raised_iff :
    ∃ o, skeleton.check d page = .ok o ∧
      (Text.holds Skeleton.Defect.unbalanced.text.toList o.message.toList = true ↔
        Skeleton.isUnbalanced page = true) := by
  obtain ⟨o, ho, -, hmessage, -⟩ := check_skeleton d page
  refine ⟨o, ho, ?_⟩
  rw [hmessage, Skeleton.holds_told fun tag => Skeleton.mem_of_lacks_mem_defects d page,
    Skeleton.unbalanced_mem_defects]

theorem closure_fails_iff :
    ∃ o, closure.check d page = .ok o ∧
      (o.passed = false ↔ ∃ tag ∈ closedTags,
        (Balance.counts tag page).1 ≠ (Balance.counts tag page).2) := by
  have hfound : (mismatches page).isEmpty = false ↔ ∃ tag ∈ closedTags,
      (Balance.counts tag page).1 ≠ (Balance.counts tag page).2 := by
    simp [mismatches]
  rw [← hfound]
  unfold closure
  dsimp only
  cases (mismatches page).isEmpty with
  | true => exact ⟨_, rfl, Iff.rfl⟩
  | false => exact ⟨_, rfl, Iff.rfl⟩

end Rule

namespace Balanced

open Written (Name Gap Value Attribute Closing)

variable {w : Balanced} {lost : List Name} {kept : List Piece}

theorem small_of_closedTags : ∀ tag ∈ Rule.closedTags, Piece.Small tag := by
  have hchars : ∀ tag ∈ Rule.closedTags, tag.toList.all isNameChar = true := by decide
  have hsmall : ∀ tag ∈ Rule.closedTags, lower tag.toList = tag.toList := by decide
  have hnonempty : ∀ tag ∈ Rule.closedTags, tag.toList ≠ [] := by decide
  exact fun tag htag => ⟨List.all_eq_true.mp (hchars tag htag), hsmall tag htag, hnonempty tag htag⟩

namespace Loses

theorem length_add (h : Loses w.pieces lost kept) :
    kept.countP (Piece.closes fun _ => true) + lost.length = w.ended.length := by
  have hcount := h.countP_closes fun _ => true
  rwa [Balanced.countP_closes, List.countP_true] at hcount

theorem tagBalance (h : Loses w.pieces lost kept) :
    Balance.tagBalance (render kept) =
      (w.ended.length, w.ended.length - lost.length) := by
  have hopens : kept.countP (Piece.opens (!Balance.voidTags.contains ·)) = w.ended.length := by
    rw [h.countP_opens, Balanced.countP_opens, List.countP_eq_length]
    · intro n hn
      have hvoid := not_isVoid_of_mem_ended hn
      rw [Name.isVoid] at hvoid
      rw [hvoid]
      rfl
    · intro name hname
      rw [List.contains_iff_mem.mpr hname]
      rfl
  rw [tagBalance_render, hopens, ← h.length_add, Nat.add_sub_cancel]

theorem isUnbalanced_iff (h : Loses w.pieces lost kept) :
    Rule.Skeleton.isUnbalanced (render kept) = true ↔ 2 < lost.length := by
  have hle := h.length_add
  rw [Rule.Skeleton.isUnbalanced, h.tagBalance]
  simp only [Bool.or_eq_true, decide_eq_true_eq]
  omega

theorem counts_ne_iff (h : Loses w.pieces lost kept) {tag : String} (htag : tag ∈ Rule.closedTags) :
    (Balance.counts tag (render kept)).1 ≠ (Balance.counts tag (render kept)).2 ↔
      ∃ n ∈ lost, n.lowered = tag := by
  have hvoid : ∀ tag ∈ Rule.closedTags, ∀ name ∈ Balance.voidTags, (name == tag) = false := by
    decide
  have hopens := h.countP_opens (· == tag)
  have hcloses := h.countP_closes (· == tag)
  rw [Balanced.countP_opens _ (hvoid tag htag)] at hopens
  rw [Balanced.countP_closes, ← hopens] at hcloses
  have hlost : 0 < lost.countP (·.lowered == tag) ↔ ∃ n ∈ lost, n.lowered = tag := by
    simp only [List.countP_pos_iff, beq_iff_eq]
  rw [counts_render (small_of_closedTags tag htag), ← hlost]
  dsimp only at hcloses ⊢
  omega

end Loses

/-- In well-formed markup as many end tags are called for as there are, and in markup that has lost some
of them the counts are apart by their number. The rule on the skeleton tells of it when three or more
are lost, and the rule on closed tags fails when one of them has a name it looks at. -/
theorem counts_lost_end_tags (w : Balanced) :
    Balance.tagBalance (render w.pieces) = (w.ended.length, w.ended.length) ∧
    (∀ d, ∃ o, Rule.closure.check d (render w.pieces) = .ok o ∧ o.passed = true) ∧
    ∀ lost kept, Loses w.pieces lost kept →
      lost.length ≤ w.ended.length ∧
      Balance.tagBalance (render kept) = (w.ended.length, w.ended.length - lost.length) ∧
      (∀ d, ∃ o, Rule.skeleton.check d (render kept) = .ok o ∧
        (Text.holds "possibly unclosed or malformed tags".toList o.message.toList = true ↔
          2 < lost.length)) ∧
      ∀ d, ∃ o, Rule.closure.check d (render kept) = .ok o ∧
        (o.passed = false ↔ ∃ n ∈ lost, n.lowered ∈ Rule.closedTags) := by
  have hclosure {lost kept} (h : Loses w.pieces lost kept) (d : Document) :
      ∃ o, Rule.closure.check d (render kept) = .ok o ∧
        (o.passed = false ↔ ∃ n ∈ lost, n.lowered ∈ Rule.closedTags) := by
    obtain ⟨o, ho, hfails⟩ := Rule.closure_fails_iff d (render kept)
    refine ⟨o, ho, hfails.trans ?_⟩
    constructor
    · rintro ⟨tag, htag, hne⟩
      obtain ⟨n, hn, rfl⟩ := (h.counts_ne_iff htag).mp hne
      exact ⟨n, hn, htag⟩
    · rintro ⟨n, hn, htag⟩
      exact ⟨n.lowered, htag, (h.counts_ne_iff htag).mpr ⟨n, hn, rfl⟩⟩
  refine ⟨(Loses.refl w.pieces).tagBalance, ?_, ?_⟩
  · intro d
    obtain ⟨o, ho, hfails⟩ := hclosure (Loses.refl w.pieces) d
    refine ⟨o, ho, eq_true_of_ne_false fun hpassed => ?_⟩
    obtain ⟨n, hn, -⟩ := hfails.mp hpassed
    exact List.not_mem_nil hn
  · intro lost kept h
    refine ⟨Nat.le.intro (Nat.add_comm _ _ ▸ h.length_add), h.tagBalance, ?_, hclosure h⟩
    intro d
    obtain ⟨o, ho, hraised⟩ := Rule.raised_iff d (render kept)
    exact ⟨o, ho, hraised.trans h.isUnbalanced_iff⟩

/-- A paragraph that has lost its end tag, with a value that ends in a slash and a void element. -/
theorem counts_lost_end_tag_of_paragraph :
    ∃ (w : Balanced) (lost : List Name) (kept : List Piece), Loses w.pieces lost kept ∧
      render w.pieces = "<P a=\"/\">b<br></p >".toList ∧ render kept = "<P a=\"/\">b<br>".toList ∧
      Balance.tagBalance (render w.pieces) = (1, 1) ∧
      Balance.tagBalance (render kept) = (1, 0) ∧
      ∀ d, ∃ o, Rule.closure.check d (render kept) = .ok o ∧ o.passed = false := by
  let space : Gap := ⟨[' '], List.forall_mem_singleton.mpr rfl⟩
  let empty : Gap := ⟨[], by simp⟩
  let value : Value := ⟨empty, empty, ['/'], by simp⟩
  let a : Attribute := ⟨space, by decide, ['a'], List.forall_mem_singleton.mpr rfl, some value⟩
  let paragraph : Tag := ⟨⟨'P', [], by decide, by simp⟩, [a], empty⟩
  let void : Tag := ⟨⟨'b', ['r'], by decide, List.forall_mem_singleton.mpr rfl⟩, [], empty⟩
  let closing : Closing paragraph.name := ⟨⟨'p', [], by decide, by simp⟩, by decide, space⟩
  let inside : Balanced := .text ['b'] (by decide) (.lone void false (.inr (by decide)) .nil)
  let w : Balanced := .element paragraph (by decide) inside closing .nil
  have hloses : Loses w.pieces [closing.name]
      [.opening paragraph false, .text ['b'] (by decide), .opening void false] :=
    .keep _ (.keep _ (.keep _ (.lose closing .nil)))
  obtain ⟨hcounts, -, hlost⟩ := counts_lost_end_tags w
  obtain ⟨-, hapart, -, hclosure⟩ := hlost _ _ hloses
  refine ⟨w, _, _, hloses, by decide, by decide, hcounts, hapart, ?_⟩
  intro d
  obtain ⟨o, ho, hfails⟩ := hclosure d
  exact ⟨o, ho, hfails.mpr ⟨closing.name, List.mem_cons_self, by decide⟩⟩

end Balanced

end PageGrader
