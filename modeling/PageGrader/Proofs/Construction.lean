import PageGrader.Proofs.Ending

namespace PageGrader.Tree

open Markup (Tag Token)
open Nodes (Grows)

theorem not_isPart_of_space {e : Opened} (h : e.space ≠ .html) : e.isPart = false := by
  simp [Opened.isPart, Opened.among, h]

theorem mem_dropWhile {e : Opened} {s : List Opened} {may : Opened → Bool} (he : e ∈ s)
    (hmay : may e = false) : e ∈ s.dropWhile may := by
  rw [← List.takeWhile_append_dropWhile (p := may) (l := s)] at he
  refine (List.mem_append.mp he).resolve_left fun hmem => ?_
  exact Bool.false_ne_true (hmay.symm.trans (List.mem_takeWhile_imp hmem))

/-- What is wanted before anything else stops the search is open inside of all that does. -/
theorem exists_of_any_takeWhile {s : List Opened} {may wanted : Opened → Bool}
    (h : (s.takeWhile may).any wanted = true) :
    ∃ before e, s = before ++ e :: outside wanted s ∧ wanted e = true ∧
      ∀ f ∈ before ++ [e], may f = true := by
  induction s with
  | nil => cases h
  | cons e s ih =>
    rw [List.takeWhile_cons] at h
    split at h
    next he =>
      by_cases hw : wanted e = true
      · exact ⟨[], e, by simp [outside, hw], hw, by simpa using he⟩
      · rw [List.any_cons, Bool.eq_false_iff.mpr hw, Bool.false_or] at h
        obtain ⟨before, f, hs, hf, hmay⟩ := ih h
        refine ⟨e :: before, f, ?_, hf, ?_⟩
        · rw [outside, if_neg hw, List.cons_append, ← hs]
        · exact List.forall_mem_cons.mpr ⟨he, hmay⟩
    next => cases h

namespace Builder

variable {a b : Builder}

theorem renamed_mem (names : List String) (name : String) : renamed names name ∈ name :: names := by
  unfold renamed
  cases hfind : names.find? fun n => Text.lowered n == name with
  | none => exact List.mem_cons_self
  | some n => exact List.mem_cons_of_mem _ (List.mem_of_find?_eq_some hfind)

/-- Elements of drawings are the innermost ones in but a few modes. -/
theorem Laid.lasts_of_foreign (h : b.Laid) {e : Opened} (he : e ∈ b.stack.head?) (hspace : e.space ≠ .html) :
    b.mode.lasts = true ∨ b.mode = .inSelectInTable := by
  obtain ⟨s, hs⟩ := List.head?_eq_some_iff.mp he
  have hout {name : String} (hname : e.named name = true) : False := hspace (Opened.named_eq_true.mp hname).1
  have hfitting := h.fitting
  unfold Fitting at hfitting
  rw [hs] at hfitting
  cases hmode : b.mode with
  | initial | beforeHtml =>
    rw [hmode] at hfitting
    cases hfitting
  | beforeHead | afterHead =>
    rw [hmode] at hfitting
    obtain ⟨r, hr, hname⟩ := hfitting
    rw [(List.cons.inj hr).1] at hout
    exact (hout hname).elim
  | inHead =>
    rw [hmode] at hfitting
    obtain ⟨f, r, hf, hname, -⟩ := hfitting
    rw [(List.cons.inj hf).1] at hout
    exact (hout hname).elim
  | rawText =>
    rw [hmode] at hfitting
    obtain ⟨f, r, hf, -, hhtml, -⟩ := hfitting
    rw [(List.cons.inj hf).1] at hspace
    exact absurd hhtml hspace
  | inSelectInTable => exact .inr rfl
  | _ => exact .inl rfl

theorem Laid.stay (h : a.Laid) [hk : Keeps a b] {e : Opened} (he : e ∈ a.stack.head?)
    (hspace : e.space ≠ .html)
    (hopen : ∀ f ∈ a.stack, f.space = .html → f ∈ b.stack) : b.Laid := by
  rcases h.lasts_of_foreign he hspace with hmode | hmode
  · exact h.keep hmode
  · exact h.choose (by rw [hmode]; decide) fun f hf hname => hopen f hf (Opened.named_eq_true.mp hname).1

/-- What breaks out of a drawing closes nothing but parts of it. -/
theorem Laid.breakOut (h : b.Laid) {e : Opened} (he : e ∈ b.stack.head?) (hspace : e.space ≠ .html) :
    (b.popUntil holdsMarkup).Laid := by
  have hkeeps := h.grown.keeps
  have : Keeps b (b.popUntil holdsMarkup) := hkeeps.closeImplied fun f hf =>
    not_isPart_of_space fun hhtml => by
    simp [holdsMarkup, hhtml] at hf
  exact h.stay he hspace fun f hf hhtml => mem_dropWhile hf (by simp [holdsMarkup, hhtml])

theorem Laid.startInForeign (h : b.Laid) {e : Opened} (he : e ∈ b.stack.head?) (hspace : e.space ≠ .html)
    {tag : Tag} (hin : breaksOut tag = false) : (b.startInForeign tag).Laid := by
  have hkeeps := h.grown.keeps
  unfold Builder.startInForeign
  rw [Option.mem_def.mp he]
  dsimp only
  let name := if e.space == .svg then renamed drawingNames tag.name else tag.name
  have hname : name ∉ ["head", "body"] := by
    have htag : tag.name ∉ ["head", "body"] := fun hmem => by
      have hbreaks : ∀ n ∈ ["head", "body"], n ∈ breakingNames := by decide
      simp [breaksOut, hbreaks _ hmem] at hin
    have hdrawing : ∀ n ∈ drawingNames, n ∉ ["head", "body"] := by decide
    unfold name
    split
    · rcases List.mem_cons.mp (renamed_mem drawingNames tag.name) with hsame | hmem
      · rwa [hsame]
      · exact hdrawing _ hmem
    · exact htag
  have : Plain e.space { tag with name } := plain_of_space hspace hname
  refine h.stay he hspace fun f hf _ => ?_
  unfold startForeign
  dsimp only
  split
  · rw [snd_insertClosed]
    exact hf
  · rw [snd_insertIn]
    exact List.mem_cons_of_mem _ hf

/-- An end tag in a drawing closes parts of it. -/
theorem Laid.finishInForeign (h : b.Laid) {e : Opened} (he : e ∈ b.stack.head?) (hspace : e.space ≠ .html)
    {fits : Opened → Bool} (hopen : (b.stack.takeWhile (·.space != .html)).any fits = true) :
    (b.popThrough fits).Laid := by
  have hkeeps := h.grown.keeps
  obtain ⟨before, f, hstack, hf, hbefore⟩ := exists_of_any_takeWhile hopen
  have hplain : ∀ g ∈ before ++ [f], g.isPart = false := fun g hg =>
    not_isPart_of_space (by simpa using hbefore g hg)
  have hhand : AtHand fits b.stack := by
    rw [hstack]
    exact .append (fun g hg => hplain g (List.mem_append_left _ hg))
      (.here hf (hplain f (List.mem_append_right _ (List.mem_singleton_self f))))
  have := hkeeps.popThrough fun _ => hhand
  refine h.stay he hspace fun g hg hhtml => ?_
  rw [hstack, List.append_cons] at hg
  refine (List.mem_append.mp hg).resolve_left fun hmem => ?_
  have hout := hbefore g hmem
  rw [hhtml] at hout
  cases hout

theorem laid_readForeign (h : b.Laid) {e : Opened} (he : e ∈ b.stack.head?) (hspace : e.space ≠ .html)
    (token : Token) : (b.readForeign token).1.Laid := by
  have hbegun := h.begun fun hnil => by simp [hnil] at he
  unfold readForeign
  split
  · exact h.addText hbegun _
  next s =>
    dsimp only
    split
    · exact h.addText hbegun _
    · have hblocked : b.blockFrames.Laid := h.flags
      exact hblocked.addText hbegun _
  · exact h.addComment hbegun _
  next tag =>
    exact .ite (fun _ => h.breakOut he hspace) fun hin =>
      h.startInForeign he hspace (Bool.eq_false_iff.mpr hin)
  next name =>
    refine .ite (fun _ => h.breakOut he hspace) fun _ => ?_
    exact .ite (fun hopen => h.finishInForeign he hspace hopen) fun _ => h
  · exact h

theorem exists_of_readsForeign {token : Token} (h : b.readsForeign token = true) :
    ∃ e ∈ b.stack.head?, e.space ≠ .html := by
  unfold readsForeign at h
  split at h
  next => cases h
  next e he =>
    refine ⟨e, he, fun hhtml => ?_⟩
    rw [hhtml] at h
    cases h

theorem laid_readInMode (h : b.Laid) (token : Token) : (b.readInMode token).1.Laid := by
  unfold readInMode
  split
  next hmode => exact laid_readInitial h hmode token
  next hmode => exact laid_readBeforeHtml h hmode token
  next hmode => exact laid_readBeforeHead h hmode token
  next hmode => exact laid_readInHead h hmode token
  next hmode => exact laid_readAfterHead h hmode token
  next hmode => exact laid_readInBody h (by rw [hmode]; rfl) fun _ _ => .inl hmode
  next hmode => exact laid_readRawText h hmode token
  next hmode => exact laid_readInTable h (by rw [hmode]; decide) token
  next hmode => exact laid_readInTableText h hmode token
  next hmode => exact laid_readInCaption h hmode token
  next hmode => exact laid_readInColumnGroup h hmode token
  next hmode => exact laid_readInTableBody h hmode token
  next hmode => exact laid_readInRow h hmode token
  next hmode => exact laid_readInCell h hmode token
  next hmode => exact laid_readInSelect h (by rw [hmode]; decide) token
  next hmode => exact laid_readInSelectInTable h hmode token
  next hmode => exact laid_readInTemplate h hmode token
  next hmode => exact laid_readAfterBody h hmode token
  next hmode => exact laid_readInFrameset h hmode token
  next hmode => exact laid_readAfterFrameset h hmode token
  next hmode => exact laid_readAfterAfterBody h hmode token
  next hmode => exact laid_readAfterAfterFrameset h hmode token

/-- One token read in one mode leaves the page laid out. -/
theorem laid_read (h : b.Laid) (token : Token) : (b.read token).1.Laid := by
  unfold read
  split
  next hforeign =>
    obtain ⟨e, he, hspace⟩ := exists_of_readsForeign hforeign
    have hread := laid_readForeign h he hspace token
    -- What breaks out of a drawing is read again at once, in the mode.
    split
    all_goals
      next heq =>
        rw [heq] at hread
        first
        | exact hread
        | exact laid_readInMode hread token
  next => exact laid_readInMode h token

theorem laid_readThrough (n : Nat) (h : b.Laid) (token : Token) : (readThrough n b token).1.Laid := by
  induction n generalizing b with
  | zero => exact h
  | succ n ih =>
    have hread := laid_read h token
    rw [readThrough]
    split
    all_goals
      next heq =>
        rw [heq] at hread
        first
        | exact hread
        | exact ih hread

theorem laid_acceptText (n : Nat) (h : b.Laid) (s : List Char) : (acceptText n b s).Laid := by
  induction n generalizing b s with
  | zero => exact h
  | succ n ih =>
    rw [acceptText]
    split
    · exact h
    · exact ih (laid_readThrough _ h _) _

theorem laid_acceptDoctype (h : b.Laid) (d : Markup.Doctype) : (b.acceptDoctype d).Laid := by
  unfold acceptDoctype
  split
  next hmode =>
    obtain ⟨hstack, hbare, hhead⟩ := h.bare (by rw [beq_iff_eq.mp hmode]; decide)
    have hgrows : Grows b.nodes ((b.nodes.make .doctype).2.append 0 (b.nodes.make .doctype).1) :=
      h.grown.sound.standing.linked.grows_append_make (by rintro _ ⟨⟩) 0
    have hb : Grown b { b with nodes := (b.nodes.make .doctype).2.append 0 (b.nodes.make .doctype).1 } :=
      h.grown.regrow ⟨h.grown.sound.standing.grow hgrows.toAfter⟩ hgrows rfl
    exact laid_bare (grown_mk (h := hb)).refl (show Mode.beforeHtml ∈ [.initial, .beforeHtml] by decide)
      hstack (hbare.append_make rfl) hhead
  next => exact h

theorem laid_take (h : b.Laid) (token : Token) : (b.take token).1.Laid := by
  have hkept : Laid { b with skipsNewline := false } := h.flags
  unfold take
  dsimp only
  split
  · exact hkept
  · exact laid_acceptDoctype hkept _
  · exact laid_acceptText _ hkept _
  · exact laid_readThrough _ hkept _

end Builder

namespace Reading

variable {r : Reading}

theorem laid_take (h : r.builder.Laid) (token : Token) : (r.take token).builder.Laid := by
  have htake := Builder.laid_take h token
  unfold take
  split
  all_goals
    next heq =>
      rw [heq] at htake
      exact htake

theorem laid_takeAll (h : r.builder.Laid) (tokens : List Token) : (tokens.foldl take r).builder.Laid := by
  induction tokens generalizing r with
  | nil => exact h
  | cons token rest ih => exact ih (laid_take h token)

theorem laid_steps (h : r.builder.Laid) (page : List Char) : (page.foldl step r).builder.Laid := by
  induction page generalizing r with
  | nil => exact h
  | cons c rest ih =>
    refine ih ?_
    unfold step
    apply laid_takeAll
    exact h

end Reading

/-- The root is the first of all elements, before which there is nothing but comments and the like, and
there is one head and one body at most. -/
structure Nodes.Framed (ns : Nodes) : Prop where
  outer : ns.Bare ∨ ∃ r, ns.Leads r
  head : ns.Sole "head"
  body : ns.Sole "body"

theorem Builder.Laid.framed {b : Builder} (h : b.Laid) : b.nodes.Framed := by
  cases h.progress with
  | bare _ hbare =>
    have hnone (name : String) : b.nodes.Lacks name := fun id space htag => by
      rw [hbare.untagged] at htag
      cases htag
    exact ⟨.inl hbare, (hnone _).sole, (hnone _).sole⟩
  | rooted _ hleads _ hlacks => exact ⟨.inr hleads, hlacks.1.sole, hlacks.2.sole⟩
  | headed _ hleads _ hsole => exact ⟨.inr hleads, hsole.1, hsole.2⟩

theorem framed_nodesOf (page : List Char) : (nodesOf page).Framed := by
  have hread := Reading.laid_steps (r := {}) Builder.laid_empty (Markup.normalise page)
  exact (Reading.laid_takeAll hread _).framed

end PageGrader.Tree
