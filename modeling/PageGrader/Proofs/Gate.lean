import PageGrader.Proofs.RedFlag
import PageGrader.Proofs.Run

namespace PageGrader

open Text (fold)
open RedFlag (Named Reopens)

variable {page : List Char}

def beginsTag (c : Char) : Prop := c.isAlpha = true ∨ c = '!' ∨ c = '/'

/-- Somewhere on the page stands what looks like the start of a tag or of a declaration. -/
def Tagged (page : List Char) : Prop :=
  ∃ before c after, page = before ++ '<' :: c :: after ∧ beginsTag c

theorem Tagged.around (h : Tagged page) (before after : List Char) : Tagged (before ++ page ++ after) := by
  obtain ⟨before', c, after', rfl, hc⟩ := h
  exact ⟨before ++ before', c, after' ++ after, by simp only [List.append_assoc, List.cons_append], hc⟩

namespace Document

theorem hasMarkup_iff : hasMarkup page = true ↔ Tagged page := by
  have hcons {d : Char} {r : List Char} (h : Tagged r) : Tagged (d :: r) := by
    obtain ⟨before, c, after, rfl, hc⟩ := h
    exact ⟨d :: before, c, after, rfl, hc⟩
  induction page using hasMarkup.induct with
  | case1 c r ih =>
    have hbegins : (c.isAlpha || c == '!' || c == '/') = true ↔ beginsTag c := by
      simp [beginsTag, or_assoc]
    rw [hasMarkup, Bool.or_eq_true, hbegins]
    constructor
    · rintro (hc | hr)
      · exact ⟨[], c, r, rfl, hc⟩
      · exact hcons (ih.mp hr)
    · rintro ⟨before, d, after, heq, hd⟩
      cases before with
      | nil =>
        obtain ⟨rfl, -⟩ := List.cons.inj (List.cons.inj heq).2
        exact .inl hd
      | cons _ before => exact .inr (ih.mpr ⟨before, d, after, (List.cons.inj heq).2, hd⟩)
  | case2 d r hno ih =>
    rw [hasMarkup]
    · refine ⟨fun h => hcons (ih.mp h), ?_⟩
      rintro ⟨before, c, after, heq, hc⟩
      cases before with
      | nil =>
        obtain ⟨rfl, rfl⟩ := List.cons.inj heq
        exact absurd rfl (hno c after rfl)
      | cons _ before => exact ih.mpr ⟨before, c, after, (List.cons.inj heq).2, hc⟩
    · exact hno
  | case3 => exact ⟨nofun, by rintro ⟨before, c, after, heq, -⟩; simp at heq⟩

/-- A page with a `<` is not blank, so all that counts is whether it has a tag. -/
theorem read_of_mark (h : '<' ∈ page) :
    read page = if hasMarkup page then .ok (ofPage page) else .error .withoutMarkup := by
  have hblank : page.all Text.isBlank = false :=
    List.all_eq_false.mpr ⟨'<', h, by decide⟩
  rw [read, hblank]
  cases hasMarkup page <;> rfl

end Document

/-- A letter that names begin with is written as an ASCII letter, or as a long s. -/
theorem beginsTag_or_long_s {c letter : Char} (hletter : letter ∈ ['d', 'h', 'p', 's'])
    (h : fold c = letter) : beginsTag c ∨ (c = 'ſ' ∧ letter = 's') := by
  have halpha : letter.isAlpha = true :=
    List.all_eq_true.mp (by decide : ['d', 'h', 'p', 's'].all Char.isAlpha = true) letter hletter
  have hkelvin : fold '\u212a' ∉ ['d', 'h', 'p', 's'] := by decide +kernel
  have hlong : fold 'ſ' = 's' := by decide +kernel
  rcases Text.isAlpha_of_isAlpha_fold (h ▸ halpha) with hc | rfl | rfl
  · exact .inl (.inl hc)
  · exact .inr ⟨rfl, h.symm.trans hlong⟩
  · exact absurd (h ▸ hletter) hkelvin

namespace RedFlag

variable {tag : String} {name : List Char}

theorem tagged_of_headers (h : headers.isRaised page = true) : Tagged page := by
  obtain ⟨before, _, after, ⟨_, gap, _, ⟨c, d, v, hc, -, -, rfl⟩, -, -, rfl⟩, rfl⟩ := isRaised_iff.mp h
  have hbegins := (beginsTag_or_long_s (by decide) hc).resolve_right fun hs => absurd hs.2 (by decide)
  exact Tagged.around ⟨[], c, _, rfl, hbegins⟩ before after

theorem tagged_of_closing (h : closing.isRaised page = true) : Tagged page := by
  obtain ⟨before, _, after, ⟨_, gap, _, ⟨c, v, -, -, rfl⟩, -, -, rfl⟩, rfl⟩ := isRaised_iff.mp h
  exact Tagged.around ⟨[], '/', _, rfl, .inr (.inr rfl)⟩ before after

/-- Where nothing looks like a tag, only `span` can be the name of one, and it begins with a long s. -/
theorem long_s_of_named (huntagged : ¬ Tagged page) (htag : tag ∈ ["div", "p", "span"])
    (hname : Named tag name) {before after : List Char} (hpage : page = before ++ '<' :: (name ++ after)) :
    tag = "span" ∧ name.head? = some 'ſ' := by
  obtain ⟨letter, hmem, hhead, hspan⟩ : ∃ letter ∈ ['d', 'h', 'p', 's'],
      (tag.toList.map fold).head? = some letter ∧ (letter = 's' → tag = "span") := by
    simp only [List.mem_cons, List.not_mem_nil, or_false] at htag
    rcases htag with rfl | rfl | rfl
    · exact ⟨'d', by decide, by decide +kernel, by decide⟩
    · exact ⟨'p', by decide, by decide +kernel, by decide⟩
    · exact ⟨'s', by decide, by decide +kernel, fun _ => rfl⟩
  rw [← hname, List.head?_map] at hhead
  obtain ⟨c, hc, hfold⟩ := Option.map_eq_some_iff.mp hhead
  obtain ⟨name', rfl⟩ := List.head?_eq_some_iff.mp hc
  rcases beginsTag_or_long_s hmem hfold with hbegins | ⟨rfl, hs⟩
  · exact absurd ⟨before, c, name' ++ after, hpage, hbegins⟩ huntagged
  · exact ⟨hspan hs, hc⟩

/-- So the names of two openings in a row both begin with a long s. -/
theorem long_of_reopens (huntagged : ¬ Tagged page) (htag : tag ∈ ["div", "p", "span"])
    {before first inner gap second rest : List Char}
    (hpage : page = before ++ '<' :: (first ++ inner ++ '>' :: (gap ++ '<' :: (second ++ rest))))
    (h : Reopens tag first inner gap second rest) :
    tag = "span" ∧ first.head? = some 'ſ' ∧ second.head? = some 'ſ' := by
  have hhere : page = before ++ '<' :: (first ++ (inner ++ '>' :: (gap ++ '<' :: (second ++ rest)))) := by
    rw [hpage, List.append_assoc]
  have hlater : page = (before ++ '<' :: (first ++ inner ++ '>' :: gap)) ++ '<' :: (second ++ rest) := by
    rw [hpage]
    simp only [List.append_assoc, List.cons_append]
  obtain ⟨hspan, hfirst⟩ := long_s_of_named huntagged htag h.named hhere
  exact ⟨hspan, hfirst, (long_s_of_named huntagged htag h.again hlater).2⟩

/-- What is known of a page that raises a red flag without anything that looks like a tag. -/
structure LongOnly (page : List Char) : Prop where
  nesting : findings page = [nesting.finding]
  /-- Nothing but `span` opens again, with a long s both times. -/
  long : ∀ tag ∈ ["div", "p", "span"], ∀ before first inner gap second rest,
    page = before ++ '<' :: (first ++ inner ++ '>' :: (gap ++ '<' :: (second ++ rest))) →
      Reopens tag first inner gap second rest →
        tag = "span" ∧ first.head? = some 'ſ' ∧ second.head? = some 'ſ'
  mem : 'ſ' ∈ page

theorem longOnly_of_untagged (hraised : findings page ≠ []) (huntagged : ¬ Tagged page) : LongOnly page := by
  have hheaders : headers.isRaised page = false :=
    Bool.eq_false_iff.mpr fun h => huntagged (tagged_of_headers h)
  have hclosing : closing.isRaised page = false :=
    Bool.eq_false_iff.mpr fun h => huntagged (tagged_of_closing h)
  have hnesting : nesting.isRaised page = true := by
    by_contra hno
    exact hraised (by simp [findings, all, hheaders, hclosing, hno])
  refine ⟨by simp [findings, all, hheaders, hclosing, hnesting], ?_, ?_⟩
  · intro tag htag before first inner gap second rest hpage h
    exact long_of_reopens huntagged htag hpage h
  · obtain ⟨tag, htag, before, first, inner, gap, second, rest, hpage, h⟩ :=
      isRaised_nesting_iff.mp hnesting
    have hmem := List.mem_of_head? (long_of_reopens huntagged htag hpage h).2.1
    rw [hpage]
    simp [hmem]

theorem mark_mem_of_raised (hraised : findings page ≠ []) : '<' ∈ page := by
  by_cases htagged : Tagged page
  · obtain ⟨before, c, after, rfl, -⟩ := htagged
    simp
  · have hnesting : nesting.id ∈ (findings page).map (·.id) := by
      rw [(longOnly_of_untagged hraised htagged).nesting]
      exact List.mem_singleton.mpr rfl
    obtain ⟨tag, -, before, first, inner, gap, second, rest, rfl, -⟩ :=
      isRaised_nesting_iff.mp (id_mem_findings.mp hnesting)
    simp

end RedFlag

namespace Prepared

/-- The page can be run, and what is found begins with just its red flags: one finding for each rule
follows. -/
def KeepsFlags (registry : Registry) (page : List Char) : Prop :=
  ∃ p judged, ofPage registry page = .ok p ∧ p.findings = RedFlag.findings page ++ judged ∧
    judged.map (·.criterion) = registry.rules.map (·.criterion)

/-- A page with red flags is never refused as blank. It is run, with its flags in front, just if it has
something like the start of a tag; otherwise it is refused as having none, and then its only flag is a
`span` that opens again, with a long s both times. -/
theorem keeps_flags_iff (hraised : RedFlag.findings page ≠ []) :
    Document.read page ≠ .error .blank ∧
    (∀ registry, KeepsFlags registry page ↔ Tagged page) ∧
    (∀ registry, ofPage registry page = .error .withoutMarkup ↔ ¬ Tagged page) ∧
    (¬ Tagged page → RedFlag.LongOnly page) := by
  have hread := Document.read_of_mark (RedFlag.mark_mem_of_raised hraised)
  have hrefused (h : ¬ Tagged page) : Document.read page = .error .withoutMarkup := by
    rw [hread, if_neg fun hmarkup => h (Document.hasMarkup_iff.mp hmarkup)]
  have hrun (registry : Registry) (h : Tagged page) : KeepsFlags registry page := by
    rw [if_pos (Document.hasMarkup_iff.mpr h)] at hread
    exact ⟨_, _, ofPage_eq registry hread, rfl, Execution.criteria_run _ page registry.rules⟩
  have hstopped (registry : Registry) (h : ¬ Tagged page) :
      ofPage registry page = .error .withoutMarkup := by
    rw [ofPage, hrefused h]
    rfl
  refine ⟨?_, fun registry => ⟨?_, hrun registry⟩, fun registry => ⟨?_, hstopped registry⟩,
    RedFlag.longOnly_of_untagged hraised⟩
  · intro hblank
    rw [hread] at hblank
    split at hblank <;> cases hblank
  · rintro ⟨p, judged, hp, -⟩
    by_contra huntagged
    rw [hstopped registry huntagged] at hp
    cases hp
  · intro hstop htagged
    obtain ⟨p, judged, hp, -⟩ := hrun registry htagged
    rw [hp] at hstop
    cases hstop

/-- Two headings, the first without an end. -/
theorem keeps_flag_of_headings :
    RedFlag.findings "<h1><H2>".toList ≠ [] ∧ Tagged "<h1><H2>".toList ∧
      KeepsFlags .standard "<h1><H2>".toList := by
  have hraised : RedFlag.findings "<h1><H2>".toList ≠ [] := by decide
  have htagged : Tagged "<h1><H2>".toList := ⟨[], 'h', "1><H2>".toList, rfl, .inl (by decide)⟩
  exact ⟨hraised, htagged, ((keeps_flags_iff hraised).2.1 .standard).mpr htagged⟩

/-- With a long s a `span` raises its flag, and yet the page counts as one without any markup. -/
theorem flag_lost_at_gate :
    ¬ ∀ page, RedFlag.findings page ≠ [] → KeepsFlags .standard page := by
  intro hall
  obtain ⟨p, judged, hp, -⟩ := hall "<ſpan><ſpan>".toList (by decide +kernel)
  have hrefused : ofPage .standard "<ſpan><ſpan>".toList = .error .withoutMarkup := rfl
  rw [hrefused] at hp
  cases hp

end Prepared
end PageGrader
