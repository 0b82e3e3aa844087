import PageGrader.Proofs.Findings
import PageGrader.Proofs.Hierarchy

namespace PageGrader

namespace Text

def breaks (s : String) : Nat := s.toList.count '\n'

theorem breaks_append (s t : String) : breaks (s ++ t) = breaks s + breaks t := by
  rw [breaks, String.toList_append, List.count_append, breaks, breaks]

theorem breaks_ofList (l : List Char) : breaks (String.ofList l) = l.count '\n' := by
  rw [breaks, String.toList_ofList]

def IsLine (s : String) : Prop := breaks s = 0

namespace IsLine

variable {s t : String}

/-- Checked on the characters, since a fixed text is nothing but its characters. -/
theorem literal {l : List Char} (h : l.count '\n' = 0) : IsLine (String.ofList l) :=
  (breaks_ofList l).trans h

theorem append (h : IsLine s) (h' : IsLine t) : IsLine (s ++ t) := by
  rw [IsLine, breaks_append, h, h']

theorem of_digits {l : List Char} (h : ∀ c ∈ l, c.isDigit = true) : IsLine (String.ofList l) :=
  literal (List.count_eq_zero_of_not_mem fun hfeed => absurd (h _ hfeed) (by decide))

theorem number (n : Nat) : IsLine (toString n) :=
  of_digits fun _ hc => Nat.isDigit_of_mem_toDigits (by decide) (by decide) hc

theorem integer (i : Int) : IsLine (toString i) := by
  cases i with
  | ofNat n => exact number n
  | negSucc n => exact .append (s := "-") (literal rfl) (number (n + 1))

theorem around {n : Nat} (h : IsLine s) (h' : IsLine t) : IsLine (s ++ toString n ++ t) :=
  (h.append (number n)).append h'

theorem counted {n : Nat} (h : IsLine s) : IsLine (toString n ++ s) := (number n).append h

theorem intercalate (hsep : IsLine s) {pieces : List String} (h : ∀ piece ∈ pieces, IsLine piece) :
    IsLine (s.intercalate pieces) := by
  induction pieces with
  | nil => exact literal rfl
  | cons piece rest ih =>
    obtain ⟨hpiece, hrest⟩ := List.forall_mem_cons.mp h
    cases rest with
    | nil => rwa [String.intercalate_singleton]
    | cons next others =>
      rw [String.intercalate_cons_cons]
      exact (hpiece.append hsep).append (ih hrest)

end IsLine

end Text

open Text (breaks IsLine)

/-- An outcome with so many line breaks in its message and none in its suggestion. -/
structure Outcome.Breaks (n : Nat) (o : Outcome) : Prop where
  message : breaks o.message = n
  suggestion : ∀ s ∈ o.suggestion, IsLine s

namespace Outcome

variable {message suggestion : String} {evidence : List Handle}

theorem breaks_pass (h : IsLine message) : (pass message evidence).Breaks 0 := ⟨h, nofun⟩

theorem breaks_fail (h : IsLine message) (hsuggestion : IsLine suggestion) :
    (fail message suggestion evidence).Breaks 0 :=
  ⟨h, by rintro _ ⟨⟩; exact hsuggestion⟩

end Outcome

def Breaking (n : Nat) (result : Except Breakdown Outcome) : Prop :=
  ∀ o, result = .ok o → o.Breaks n

namespace Breaking

variable {α : Type} {n : Nat} {message suggestion : String} {evidence : List Handle}

theorem of_breaks {o : Outcome} (h : o.Breaks n) : Breaking n (.ok o) := by
  rintro _ ⟨⟩
  exact h

theorem pass (h : IsLine message) : Breaking 0 (.ok (.pass message evidence)) :=
  of_breaks (Outcome.breaks_pass h)

theorem fail (h : IsLine message) (hsuggestion : IsLine suggestion) :
    Breaking 0 (.ok (.fail message suggestion evidence)) :=
  of_breaks (Outcome.breaks_fail h hsuggestion)

theorem bind_eq {first : Except Breakdown α} {a : α} {rest : α → Except Breakdown Outcome}
    (hfirst : first = .ok a) (h : Breaking n (rest a)) : Breaking n (first >>= rest) := by
  rw [hfirst]
  exact h

theorem bind {first : Except Breakdown α} {rest : α → Except Breakdown Outcome}
    (h : ∀ a, Breaking n (rest a)) : Breaking n (first >>= rest) := by
  cases first with
  | error e => exact nofun
  | ok a => exact bind_eq rfl (h a)

theorem ite {c : Prop} [Decidable c] {result other : Except Breakdown Outcome} (h : Breaking n result)
    (h' : Breaking n other) : Breaking n (if c then result else other) := by
  split
  · exact h
  · exact h'

end Breaking

namespace Rule

variable (d : Document) (page : List Char)

theorem breaking_listItems : Breaking 0 (listItems.check d page) :=
  .bind fun _ => .ite (.pass (.around (.literal rfl) (.literal rfl)))
    (.fail (.counted (.literal rfl)) (.literal rfl))

theorem breaking_targets : Breaking 0 (targets.check d page) :=
  .bind fun _ => .ite (.pass (.around (.literal rfl) (.literal rfl)))
    (.fail (.counted (.literal rfl)) (.append (.literal rfl) (.literal rfl)))

theorem breaking_sources : Breaking 0 (sources.check d page) := by
  refine .bind fun found => .bind fun images => .ite (.pass (.literal rfl)) (.fail ?_ (.literal rfl))
  refine .append (.intercalate (.literal rfl) ?_) (.literal rfl)
  simp only [List.mem_append, List.mem_ite_nil_left, List.mem_singleton]
  rintro _ (⟨-, rfl⟩ | ⟨-, rfl⟩) <;> exact .counted (.literal rfl)

theorem breaking_buttons : Breaking 0 (buttons.check d page) :=
  .bind fun _ => .ite (.pass (.around (.literal rfl) (.literal rfl)))
    (.fail (.counted (.literal rfl)) (.literal rfl))

theorem breaking_tables : Breaking 0 (tables.check d page) :=
  .bind fun _ => .ite (.pass (.literal rfl))
    (.fail (.around (.literal rfl) (.literal rfl)) (.literal rfl))

theorem breaking_presentational : Breaking 0 (presentational.check d page) :=
  .bind fun _ => .ite (.pass (.literal rfl))
    (.fail (.around (.literal rfl) (.literal rfl)) (.append (.literal rfl) (.literal rfl)))

theorem breaking_fileNames : Breaking 0 (fileNames.check d page) :=
  .bind fun _ => .ite (.pass (.literal rfl))
    (.fail (.counted (.literal rfl)) (.append (.literal rfl) (.literal rfl)))

theorem breaking_pageNames : Breaking 0 (pageNames.check d page) :=
  .bind fun _ => .ite (.pass (.literal rfl))
    (.fail (.counted (.literal rfl)) (.append (.literal rfl) (.literal rfl)))

theorem breaking_controls : Breaking 0 (controls.check d page) :=
  .bind fun _ => .bind fun _ => .ite (.pass (.literal rfl)) <|
    .ite (.pass (.around (.literal rfl) (.literal rfl)))
      (.fail (.counted (.literal rfl)) (.append (.literal rfl) (.literal rfl)))

theorem breaking_alternatives : Breaking 0 (alternatives.check d page) := by
  refine .bind fun images => .ite (.pass (.around (.literal rfl) (.literal rfl)))
    (.fail ?_ (.append (.literal rfl) (.literal rfl)))
  refine .append (.intercalate (.literal rfl) ?_) (.literal rfl)
  simp only [List.mem_append, List.mem_ite_nil_left, List.mem_singleton]
  rintro _ (⟨-, rfl⟩ | ⟨-, rfl⟩) <;> exact .counted (.literal rfl)

theorem breaking_imageSizes : Breaking 0 (imageSizes.check d page) := .pass (.literal rfl)

theorem breaking_singleTop : Breaking 0 (singleTop.check d page) := by
  refine .bind fun found => ?_
  split
  · exact .fail (.literal rfl) (.literal rfl)
  · exact .pass (.literal rfl)
  · exact .fail (.around (.literal rfl) (.literal rfl)) (.literal rfl)

theorem breaking_proportion : Breaking 0 (proportion.check d page) := by
  refine .bind fun divs => .bind fun spans => .bind fun found => .ite (.pass ?_) (.fail ?_ ?_)
  · exact .around (.around (.literal rfl) (.literal rfl)) (.literal rfl)
  · exact .around (.around (.literal rfl) (.literal rfl)) (.literal rfl)
  · exact .append (.literal rfl) (.literal rfl)

theorem breaking_encoding : Breaking 0 (encoding.check d page) := by
  refine .bind fun short => .bind fun long => ?_
  dsimp only
  split
  · exact .pass (.literal rfl)
  · exact .fail (.literal rfl) (.literal rfl)

theorem breaking_viewport : Breaking 0 (viewport.check d page) := by
  refine .bind fun described => ?_
  dsimp only
  split
  · exact .fail (.literal rfl) (.append (.literal rfl) (.literal rfl))
  · exact .ite (.pass (.literal rfl)) (.fail (.literal rfl) (.literal rfl))

theorem breaking_landmarks : Breaking 0 (landmarks.check d page) := by
  refine .bind_eq (mapM_first d) ?_
  -- What is missing is some of the landmarks that were looked for.
  have hnames : ∀ tag ∈ ((landmarkTags.map fun tag => (tag, (d.all tag).head?)).filter
      (·.2.isNone)).map (·.1), IsLine tag := by
    have hall : ∀ tag ∈ landmarkTags, breaks tag = 0 := by decide
    simp only [List.mem_map, List.mem_filter]
    rintro _ ⟨_, ⟨⟨tag, hmem, rfl⟩, -⟩, rfl⟩
    exact hall tag hmem
  refine .ite (.pass (.literal rfl)) (.fail ?_ ?_)
  · exact .append (.append (.literal rfl) (.intercalate (.literal rfl) hnames)) (.literal rfl)
  · refine .append (.append (.literal rfl) (.intercalate (.literal rfl) ?_)) (.literal rfl)
    rw [List.forall_mem_map]
    exact fun tag htag => .append (.append (.literal rfl) (hnames tag htag)) (.literal rfl)

theorem breaking_navigation : Breaking 0 (navigation.check d page) := by
  refine .bind fun navs => .ite (.pass (.literal rfl)) (.bind fun judged => ?_)
  refine .ite (.pass (.around (.literal rfl) (.literal rfl))) (.fail ?_ ?_)
  · refine .append (.append (.around (.counted (.literal rfl)) (.literal rfl))
      (.intercalate (.literal rfl) ?_)) (.literal rfl)
    have hall (reason : Navigation.Reason) : IsLine reason.text := by cases reason <;> exact .literal rfl
    simp only [List.mem_flatMap, List.mem_map]
    rintro _ ⟨_, -, reason, -, rfl⟩
    exact hall reason
  · exact .append (.append (.literal rfl) (.literal rfl)) (.literal rfl)

theorem breaking_skeleton : Breaking 0 (skeleton.check d page) := by
  refine .bind_eq (Skeleton.mapM_part d page) (.ite (.pass (.literal rfl))
    (.fail ?_ (.append (.literal rfl) (.literal rfl))))
  refine .append (.append (.literal rfl) (.intercalate (.literal rfl) ?_)) (.literal rfl)
  have hlacks : ∀ tag ∈ ["html", "head", "body"], breaks (Skeleton.Defect.lacks tag).text = 0 := by decide
  simp only [List.mem_append, List.mem_ite_nil_left, List.mem_ite_nil_right, List.mem_map,
    List.mem_filter, List.mem_singleton]
  rintro _ ⟨defect, ((⟨-, rfl⟩ | ⟨_, ⟨⟨tag, htag, rfl⟩, -⟩, rfl⟩) | ⟨-, rfl⟩) | ⟨-, rfl⟩, rfl⟩
  · exact .literal rfl
  · exact hlacks tag htag
  · exact .literal rfl
  · exact .literal rfl

theorem Mismatch.isLine_text {m : Mismatch} (h : IsLine m.tag) : IsLine m.text := by
  obtain ⟨tag, opened, closed⟩ := m
  exact .around (.around (.append (.append (.literal rfl) h) (.literal rfl)) (.literal rfl))
    (.literal rfl)

theorem breaking_closure : Breaking 0 (closure.check d page) := by
  refine .ite (.pass (.literal rfl)) (.fail ?_ (.append (.literal rfl) (.literal rfl)))
  refine .append (.append (.append (.literal rfl) (.intercalate (.literal rfl) ?_)) ?_) (.literal rfl)
  · have htags : ∀ tag ∈ closedTags, breaks tag = 0 := by decide
    rw [List.forall_mem_map]
    intro m hm
    obtain ⟨tag, htag, rfl⟩ := List.mem_map.mp (List.mem_filter.mp (List.mem_of_mem_take hm)).1
    exact Mismatch.isLine_text (htags tag htag)
  · split <;> exact .literal rfl

namespace Hierarchy

def Problem.landmark? : Problem → Option String
  | mainBefore name | footerBefore name => some name
  | _ => none

theorem isLine_text {p : Problem} (h : ∀ name ∈ p.landmark?, IsLine name) : IsLine p.text := by
  cases p with
  | mainBefore name | footerBefore name =>
    exact .append (.append (.literal rfl) (h name rfl)) (.literal rfl)
  | lateTop | headerWithoutTop | headerMixed | navItems | navWithoutList => exact .literal rfl
  | startsAt | beforeTop | headerTops | navHeadings => exact .around (.literal rfl) (.literal rfl)
  | skips =>
    exact .around (.around (.around (.literal rfl) (.literal rfl)) (.literal rfl)) (.literal rfl)

variable {sites : List Site} {f : Flag} {name : String}

/-- A landmark that is out of order is told by the name of another. -/
theorem exists_of_mem_landmarkFlags (h : f ∈ landmarkFlags sites)
    (hname : name ∈ f.problem.landmark?) : ∃ s ∈ sites, s.name = name := by
  induction sites with
  | nil => cases h
  | cons s later ih =>
    rcases List.mem_append.mp h with hfirst | hlater
    · obtain ⟨p, hp, rfl⟩ := List.mem_map.mp hfirst
      suffices name ∈ later.map (·.name) by
        obtain ⟨t, ht, htname⟩ := List.mem_map.mp this
        exact ⟨t, List.mem_cons_of_mem _ ht, htname⟩
      unfold landmarkProblems at hp
      split_ifs at hp
      · obtain ⟨n, hn, rfl⟩ := List.mem_map.mp hp
        obtain rfl := Option.some.inj hname
        exact (List.mem_filter.mp hn).1
      · rw [Option.mem_toList, Option.map_eq_some_iff] at hp
        obtain ⟨n, hn, rfl⟩ := hp
        obtain rfl := Option.some.inj hname
        exact List.mem_of_find?_eq_some hn
      · cases hp
    · obtain ⟨t, ht, htname⟩ := ih hlater
      exact ⟨t, List.mem_cons_of_mem _ ht, htname⟩

theorem isLine_of_mem_ordered {s : Site} (h : s ∈ ordered d) : IsLine s.name := by
  have hnames : ∀ name ∈ ["header", "nav", "main", "aside", "footer"], breaks name = 0 := by decide
  unfold ordered at h
  cases hbody : d.body? with
  | none =>
    rw [hbody] at h
    cases h
  | some body =>
    rw [hbody] at h
    exact hnames _ (List.contains_iff_mem.mp (List.mem_filter.mp h).2)

theorem isLine_of_mem_flags (h : f ∈ found (flags d)) : IsLine f.problem.text := by
  apply isLine_text
  intro name hname
  have hpart : f.problem.part = .order := by
    revert hname
    cases f.problem <;> simp [Problem.landmark?, Problem.part]
  rw [mem_flags, hpart] at h
  obtain ⟨s, hs, rfl⟩ := exists_of_mem_landmarkFlags h hname
  exact isLine_of_mem_ordered d hs

end Hierarchy

theorem breaking_hierarchy : Breaking 0 (hierarchy.check d page) := by
  refine .bind_eq (Hierarchy.flags_eq d) (.ite (.pass (.literal rfl)) (.fail ?_ ?_))
  · refine .append (.append (.literal rfl) (.intercalate (.literal rfl) ?_)) (.literal rfl)
    rw [List.forall_mem_map]
    exact fun f hf => Hierarchy.isLine_of_mem_flags d hf
  · exact .append (.literal rfl) (.literal rfl)

/-- The text of the first title in the head, without white space at its ends. -/
def headline (d : Document) : String :=
  ((d.all "head title").head?.map fun found => Text.trimmed found.text).getD ""

theorem breaking_title : Breaking (breaks (headline d)) (title.check d page) := by
  refine .bind_eq (d.first_of_inUse (by decide)) ?_
  unfold headline
  cases (d.all "head title").head? with
  | none => exact .fail (.literal rfl) (.literal rfl)
  | some found =>
    dsimp only [Option.map_some, Option.getD_some]
    split
    next hempty =>
      rw [String.isEmpty_iff.mp hempty]
      exact .fail (.literal rfl) (.literal rfl)
    next =>
      refine .of_breaks ⟨?_, nofun⟩
      have hbefore : IsLine "The document has a valid title: \"" := .literal rfl
      have hafter : IsLine "\"." := .literal rfl
      change breaks ("The document has a valid title: \"" ++ Text.trimmed found.text ++ "\".") = _
      rw [Text.breaks_append, Text.breaks_append, hbefore, hafter, Nat.zero_add, Nat.add_zero]

def breaksOf (c : Criterion) : Nat := if c = title.criterion then breaks (headline d) else 0

theorem breaking_standard :
    ∀ rule ∈ Registry.standard.rules, Breaking (breaksOf d rule.criterion) (rule.check d page) := by
  simp only [Registry.standard, List.forall_mem_cons, List.not_mem_nil, false_implies, implies_true]
  exact ⟨breaking_singleTop d page, breaking_listItems d page, breaking_targets d page,
    breaking_sources d page, breaking_buttons d page, breaking_tables d page,
    breaking_presentational d page, breaking_proportion d page, breaking_landmarks d page,
    breaking_fileNames d page, breaking_imageSizes d page, breaking_title d page,
    breaking_encoding d page, breaking_controls d page, breaking_pageNames d page,
    breaking_navigation d page, breaking_skeleton d page, breaking_closure d page,
    breaking_viewport d page, breaking_hierarchy d page, breaking_alternatives d page, trivial⟩

end Rule

namespace Image

theorem isLine_message (measured oversized unverifiable limit : Nat) :
    IsLine (message measured oversized unverifiable limit) := by
  refine .append ?_ ?_
  · split_ifs
    · exact .literal rfl
    · exact .around (.around (.literal rfl) (.literal rfl)) (.literal rfl)
    · exact .around (.counted (.literal rfl)) (.literal rfl)
  · split
    · exact .literal rfl
    · exact .around (.literal rfl) (.literal rfl)

theorem breaks_summary (limit : Nat) (known : List (Handle × Status)) :
    (summary limit known).Breaks 0 := by
  unfold summary
  dsimp only
  split
  · exact Outcome.breaks_pass (isLine_message ..)
  · exact Outcome.breaks_fail (isLine_message ..)
      (.append (.around (.literal rfl) (.literal rfl)) (.literal rfl))

theorem breaks_check (resolve : String → Option String) (limit : Nat) (probe : Probe)
    (sources : List Source) : (check resolve probe limit sources).Breaks 0 := by
  unfold check
  split
  · exact Outcome.breaks_pass (.literal rfl)
  · exact breaks_summary ..

end Image

theorem RedFlag.breaks_finding (flag : RedFlag) : flag.finding.outcome.Breaks 0 :=
  Outcome.breaks_fail (.append (.literal rfl) (by cases flag <;> exact .literal rfl)) (.literal rfl)

end PageGrader
