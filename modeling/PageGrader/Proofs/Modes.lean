import PageGrader.Proofs.Building
import PageGrader.Tree.Reading

namespace PageGrader.Tree

open Markup (Tag Token Attribute)

namespace Builder

variable {b : Builder} [h : b.Sound]

instance sound_addAttributes (id : Nat) (more : List Attribute) (framesetOk : Bool) :
    Sound { b with nodes := b.nodes.addAttributes id more, framesetOk } :=
  ⟨h.standing.grow (h.standing.linked.addAttributes id more)⟩

instance sound_mergeRoot (tag : Tag) : (b.mergeRoot tag).Sound := by
  unfold mergeRoot
  split
  next root _ =>
    have := sound_addAttributes (b := b) root.id tag.attributes b.framesetOk
    infer_instance
  next => exact h

instance soundWith_readInitial (token : Token) : SoundWith (b.readInitial token) := by
  unfold readInitial
  split <;> infer_instance

instance soundWith_readBeforeHtml (token : Token) : SoundWith (b.readBeforeHtml token) := by
  unfold readBeforeHtml
  split <;> infer_instance

instance sound_withHead (mode : Mode) : Sound { b with head := b.stack.head?, mode } :=
  ⟨h.standing.linked, h.standing.stack, fun e he => h.standing.stack e (List.mem_of_mem_head? he)⟩

instance soundWith_readBeforeHead (token : Token) : SoundWith (b.readBeforeHead token) := by
  unfold readBeforeHead
  split <;> infer_instance

instance sound_endTemplate : b.endTemplate.Sound := by
  unfold endTemplate
  infer_instance

instance soundWith_some (r r' : Builder × Next) [hr : SoundWith r] : SoundWith ((some r).getD r') := hr

instance soundWith_none (r : Builder × Next) [hr : SoundWith r] : SoundWith (none.getD r) := hr

instance soundWith_startInHead (tag : Tag) (r : Builder × Next) [SoundWith r] :
    SoundWith ((b.startInHead tag).getD r) := by
  unfold startInHead
  split_ifs <;> infer_instance

instance soundWith_readInHead (token : Token) : SoundWith (b.readInHead token) := by
  unfold readInHead
  split <;> infer_instance

omit h in
theorem soundWith_of_startInHead {tag : Tag} {r : Builder × Next} (hb : b.Sound)
    (hr : b.startInHead tag = some r) : SoundWith r := by
  have hget : (b.startInHead tag).getD (b, .done) = r := by rw [hr]; rfl
  exact hget ▸ soundWith_startInHead tag _

theorem sound_reopenHead {head : Opened} (hhead : b.head = some head) :
    Sound { b with stack := head :: b.stack } :=
  ⟨h.standing.push (h.standing.head head hhead)⟩

instance soundWith_readAfterHead (token : Token) : SoundWith (b.readAfterHead token) := by
  unfold readAfterHead
  split
  case h_3 tag =>
    dsimp only
    split_ifs
    all_goals try infer_instance
    split
    next head hhead _ =>
      have hreopened := sound_reopenHead hhead
      split
      next b' next hr =>
        have : b'.Sound := (soundWith_of_startInHead hreopened hr).sound
        infer_instance
      next => infer_instance
    next => infer_instance
  all_goals infer_instance

instance sound_blockFrames : b.blockFrames.Sound := ⟨h.standing⟩

instance sound_textInBody (s : List Char) : (b.textInBody s).Sound := by
  unfold textInBody
  infer_instance

instance sound_closeItem (names : List String) : (b.closeItem names).Sound := by
  unfold closeItem
  dsimp only
  split <;> infer_instance

instance sound_startForm (tag : Tag) : (b.startForm tag).Sound := by
  unfold startForm
  infer_instance

instance sound_startButton (tag : Tag) : (b.startButton tag).Sound := by
  unfold startButton
  infer_instance

instance sound_startNoBreak (tag : Tag) : (b.startNoBreak tag).Sound := by
  have := sound_closeFormatting (b := b.reconstruct) (show "nobr" ∈ formattingNames by decide)
  unfold startNoBreak
  infer_instance

instance sound_startBody (tag : Tag) : (b.startBody tag).Sound := by
  unfold startBody
  split <;> infer_instance

omit h in
theorem body_eq_some {body : Opened} (hbody : b.body = some body) :
    body ∈ b.stack ∧ body.isSpecial = true := by
  obtain ⟨hsecond, hnamed⟩ := Option.filter_eq_some_iff.mp hbody
  refine ⟨List.mem_reverse.mp (List.mem_of_getElem? hsecond), ?_⟩
  simp only [Opened.named, Bool.and_eq_true, beq_iff_eq] at hnamed
  simp [Opened.isSpecial, Opened.among, hnamed.1, hnamed.2]

theorem sound_withoutBody {body : Opened} (hbody : b.body = some body) :
    Sound { b with nodes := b.nodes.detach body.id, stack := b.root.toList } := by
  obtain ⟨hopen, hspecial⟩ := body_eq_some hbody
  have hformats := not_formats_of_special (h.standing.stack body hopen) hspecial
  have hsub : ∀ e ∈ b.root.toList, e ∈ b.stack := fun e he =>
    List.mem_of_getLast? (Option.mem_toList.mp he)
  exact ⟨(h.standing.shrink hsub).grow (h.standing.linked.detach fun hf => absurd hf hformats)⟩

instance sound_startFrameset (tag : Tag) : (b.startFrameset tag).Sound := by
  unfold startFrameset
  split
  next body _ hbody =>
    have := sound_withoutBody hbody
    infer_instance
  next => infer_instance

instance sound_startSelect (tag : Tag) : (b.startSelect tag).Sound := by
  unfold startSelect
  infer_instance

instance sound_startForeign (space : Space) (tag : Tag) : (b.startForeign space tag).Sound := by
  unfold startForeign
  infer_instance

-- Instance search follows the chain of tests, which is longer than its usual limit.
set_option synthInstance.maxSize 400 in
instance soundWith_startInBody (tag : Tag) : SoundWith (b.startInBody tag) := by
  unfold startInBody
  infer_instance

instance sound_finishForm : b.finishForm.Sound := by
  unfold finishForm
  split
  · infer_instance
  · split <;> infer_instance

instance soundWith_closeFormatting (name : String) (r : Builder × Next) [SoundWith r] :
    SoundWith (if formattingNames.contains name then (b.closeFormatting name, .done) else r) := by
  split
  next hname =>
    have := sound_closeFormatting (b := b) (List.contains_iff_mem.mp hname)
    infer_instance
  next => infer_instance

instance soundWith_finishInBody (name : String) : SoundWith (b.finishInBody name) := by
  unfold finishInBody
  infer_instance

instance soundWith_endOfTemplates : SoundWith b.endOfTemplates := by
  unfold endOfTemplates
  infer_instance

instance soundWith_readInBody (token : Token) : SoundWith (b.readInBody token) := by
  unfold readInBody
  split <;> infer_instance

instance soundWith_readFostered (token : Token) : SoundWith (b.readFostered token) := by
  unfold readFostered
  infer_instance

instance sound_toTable : b.toTable.Sound := sound_popUntil _

instance sound_toSection : b.toSection.Sound := sound_popUntil _

instance sound_toRow : b.toRow.Sound := sound_popUntil _

instance soundWith_textInTable (token : Token) : SoundWith (b.textInTable token) := by
  unfold textInTable
  infer_instance

instance soundWith_startInTable (tag : Tag) : SoundWith (b.startInTable tag) := by
  unfold startInTable
  infer_instance

instance soundWith_readInTable (token : Token) : SoundWith (b.readInTable token) := by
  unfold readInTable
  split <;> infer_instance

instance sound_releaseText : b.releaseText.Sound := by
  have hempty : Sound { b with tableText := [] } := inferInstance
  unfold releaseText
  dsimp only
  split
  · apply sound_foldl _ _ _ hempty
    intros
    infer_instance
  · apply sound_foldl _ _ _ hempty
    intros
    infer_instance

instance soundWith_readInTableText (token : Token) : SoundWith (b.readInTableText token) := by
  unfold readInTableText
  split <;> infer_instance

instance sound_endCaption : b.endCaption.Sound := by
  unfold endCaption
  infer_instance

instance soundWith_readInCaption (token : Token) : SoundWith (b.readInCaption token) := by
  unfold readInCaption
  dsimp only
  split <;> infer_instance

instance soundWith_readInColumnGroup (token : Token) : SoundWith (b.readInColumnGroup token) := by
  unfold readInColumnGroup
  dsimp only
  split <;> infer_instance

instance soundWith_readInTableBody (token : Token) : SoundWith (b.readInTableBody token) := by
  unfold readInTableBody
  dsimp only
  split <;> infer_instance

instance soundWith_readInRow (token : Token) : SoundWith (b.readInRow token) := by
  unfold readInRow
  dsimp only
  split <;> infer_instance

instance sound_endCell : b.endCell.Sound := by
  unfold endCell
  infer_instance

instance soundWith_readInCell (token : Token) : SoundWith (b.readInCell token) := by
  unfold readInCell
  split <;> infer_instance

instance sound_popIfCurrent (name : String) : (b.popIfCurrent name).Sound := by
  unfold popIfCurrent
  infer_instance

instance sound_endSelect : b.endSelect.Sound := by
  unfold endSelect
  infer_instance

instance soundWith_readInSelect (token : Token) : SoundWith (b.readInSelect token) := by
  unfold readInSelect
  split <;> infer_instance

instance soundWith_readInSelectInTable (token : Token) :
    SoundWith (b.readInSelectInTable token) := by
  unfold readInSelectInTable
  split <;> infer_instance

instance soundWith_readRawText (token : Token) : SoundWith (b.readRawText token) := by
  unfold readRawText
  split <;> infer_instance

instance soundWith_templateAs (mode : Mode) : SoundWith (b.templateAs mode) := by
  unfold templateAs
  infer_instance

instance soundWith_readInTemplate (token : Token) : SoundWith (b.readInTemplate token) := by
  unfold readInTemplate
  split <;> infer_instance

instance soundWith_readAfterBody (token : Token) : SoundWith (b.readAfterBody token) := by
  unfold readAfterBody
  split <;> infer_instance

instance soundWith_readAfterAfterBody (token : Token) : SoundWith (b.readAfterAfterBody token) := by
  unfold readAfterAfterBody
  split <;> infer_instance

instance sound_spaceOnly (s : List Char) : (b.spaceOnly s).Sound := by
  unfold spaceOnly
  infer_instance

instance soundWith_readInFrameset (token : Token) : SoundWith (b.readInFrameset token) := by
  unfold readInFrameset
  split <;> infer_instance

instance soundWith_readAfterFrameset (token : Token) : SoundWith (b.readAfterFrameset token) := by
  unfold readAfterFrameset
  split <;> infer_instance

instance soundWith_readAfterAfterFrameset (token : Token) :
    SoundWith (b.readAfterAfterFrameset token) := by
  unfold readAfterAfterFrameset
  split <;> infer_instance

instance sound_startInForeign (tag : Tag) : (b.startInForeign tag).Sound := by
  unfold startInForeign
  split <;> infer_instance

instance soundWith_readForeign (token : Token) : SoundWith (b.readForeign token) := by
  unfold readForeign
  split <;> infer_instance

instance soundWith_readInMode (token : Token) : SoundWith (b.readInMode token) := by
  unfold readInMode
  split <;> infer_instance

instance soundWith_read (token : Token) : SoundWith (b.read token) := by
  have hforeign : (b.readForeign token).1.Sound := inferInstance
  unfold read
  split
  · split
    next b' next hread =>
      rw [hread] at hforeign
      infer_instance
    next b' hread =>
      rw [hread] at hforeign
      infer_instance
  · infer_instance

instance soundWith_readThrough (n : Nat) (token : Token) : SoundWith (readThrough n b token) := by
  induction n generalizing b with
  | zero => exact ⟨h⟩
  | succ n ih =>
    have hread : (b.read token).1.Sound := inferInstance
    rw [readThrough]
    split
    all_goals
      next b' heq =>
        rw [heq] at hread
        infer_instance

instance soundWith_accept (token : Token) : SoundWith (b.accept token) := soundWith_readThrough _ token

instance sound_acceptText (n : Nat) (s : List Char) : (acceptText n b s).Sound := by
  induction n generalizing b s with
  | zero => exact h
  | succ n ih =>
    rw [acceptText]
    split
    · exact h
    · exact ih _

instance sound_acceptDoctype (d : Markup.Doctype) : (b.acceptDoctype d).Sound := by
  unfold acceptDoctype
  split
  · exact ⟨h.standing.grow (h.standing.linked.append_make .doctype 0)⟩
  · exact h

instance soundWith_take (token : Token) : SoundWith (b.take token) := by
  unfold take
  dsimp only
  split <;> infer_instance

end Builder

namespace Reading

theorem sound_take {r : Reading} (h : r.builder.Sound) (token : Token) :
    (r.take token).builder.Sound := by
  have htake : (r.builder.take token).1.Sound := inferInstance
  unfold take
  split
  all_goals
    next heq =>
      rw [heq] at htake
      exact htake

theorem sound_takeAll {r : Reading} (h : r.builder.Sound) (tokens : List Token) :
    (tokens.foldl take r).builder.Sound := by
  induction tokens generalizing r with
  | nil => exact h
  | cons token rest ih => exact ih (sound_take h token)

theorem sound_step {r : Reading} (h : r.builder.Sound) (c : Char) : (r.step c).builder.Sound := by
  unfold step
  apply sound_takeAll
  exact h

theorem sound_steps {r : Reading} (h : r.builder.Sound) (page : List Char) :
    (page.foldl step r).builder.Sound := by
  induction page generalizing r with
  | nil => exact h
  | cons c rest ih => exact ih (sound_step h c)

theorem linked_finish {r : Reading} (h : r.builder.Sound) : r.finish.Linked :=
  (sound_takeAll h _).standing.linked

end Reading

/-- Whatever the page, each of its nodes stands in one place at most, and looks up to its holder or past
formatting elements. -/
theorem linked_nodesOf (page : List Char) : (nodesOf page).Linked :=
  Reading.linked_finish (Reading.sound_steps Builder.sound_empty _)

end PageGrader.Tree
