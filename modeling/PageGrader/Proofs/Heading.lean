import PageGrader.Proofs.Hierarchy

namespace PageGrader.Heading

open Rule.Hierarchy (headings headingTags)

variable {digits pad : List Char} {start n level : Nat} {name : String}

/-- The number that is read when `start` is followed by more decimal digits. -/
def numberFrom (start : Nat) (digits : List Char) : Nat :=
  digits.foldl (fun n c => n * 10 + (c.toNat - '0'.toNat)) start

theorem numberFrom_cons (start : Nat) (c : Char) (rest : List Char) :
    numberFrom start (c :: rest) = numberFrom (start * 10 + (c.toNat - '0'.toNat)) rest :=
  List.foldl_cons ..

theorem le_numberFrom (start : Nat) (digits : List Char) : start ≤ numberFrom start digits := by
  induction digits generalizing start with
  | nil => exact Nat.le_refl start
  | cons c rest ih =>
    have hrest := ih (start * 10 + (c.toNat - '0'.toNat))
    rw [numberFrom_cons]
    omega

/-- A digit that is followed by another one stands for ten or more, unless it is a zero. -/
theorem eq_nil_of_numberFrom_lt (hpos : 0 < start) (hlt : numberFrom start digits < 10) :
    digits = [] := by
  cases digits with
  | nil => rfl
  | cons c rest =>
    have hle := le_numberFrom (start * 10 + (c.toNat - '0'.toNat)) rest
    rw [numberFrom_cons] at hlt
    omega

theorem value_digitChar (hlt : n < 10) : (Nat.digitChar n).toNat - '0'.toNat = n := by
  rw [Nat.toNat_digitChar_of_lt_ten hlt]
  exact Nat.add_sub_cancel_left ..

theorem eq_digitChar {c : Char} (h : c.isDigit = true) (hvalue : c.toNat - '0'.toNat = n) :
    c = Nat.digitChar n := by
  obtain ⟨hzero, hnine⟩ := Char.isDigit_iff_toNat.mp h
  have hnine' : '9'.toNat = '0'.toNat + 9 := rfl
  have hlt : n < 10 := by omega
  apply Char.toNat_inj.mp
  rw [Nat.toNat_digitChar_of_lt_ten hlt]
  change c.toNat = '0'.toNat + n
  omega

/-- Digits stand for a number from one to nine just if they are zeros and then its digit. -/
theorem numberFrom_zero_eq_iff (hdigits : ∀ c ∈ digits, c.isDigit = true) (hpos : 0 < n) (hlt : n < 10) :
    numberFrom 0 digits = n ↔ ∃ zeros, digits = List.replicate zeros '0' ++ [Nat.digitChar n] := by
  constructor
  · intro hnumber
    induction digits with
    | nil => exact absurd hnumber (Nat.ne_of_lt hpos)
    | cons c rest ih =>
      obtain ⟨hc, hrest⟩ := List.forall_mem_cons.mp hdigits
      rw [numberFrom_cons, Nat.zero_mul, Nat.zero_add] at hnumber
      rcases Nat.eq_zero_or_pos (c.toNat - '0'.toNat) with hzero | hvalue
      · rw [hzero] at hnumber
        obtain ⟨zeros, rfl⟩ := ih hrest hnumber
        refine ⟨zeros + 1, ?_⟩
        rw [eq_digitChar hc hzero, List.replicate_succ]
        rfl
      · obtain rfl : rest = [] := eq_nil_of_numberFrom_lt hvalue (by omega)
        exact ⟨0, congrArg (fun c => [c]) (eq_digitChar hc hnumber)⟩
  · rintro ⟨zeros, rfl⟩
    induction zeros with
    | zero =>
      rw [List.replicate_zero, List.nil_append, numberFrom_cons, Nat.zero_mul, Nat.zero_add]
      exact value_digitChar hlt
    | succ zeros ih => exact ih (List.forall_mem_cons.mp hdigits).2

structure Reads (digits : List Char) (n : Nat) : Prop where
  ne_nil : digits ≠ []
  isDigit : ∀ c ∈ digits, c.isDigit = true
  number : numberFrom 0 digits = n
  le : n ≤ 255

theorem reads_iff :
    (if !digits.isEmpty && digits.all Char.isDigit && decide (numberFrom 0 digits ≤ 255) then
      some (numberFrom 0 digits) else none) = some n ↔ Reads digits n := by
  rw [Option.ite_none_right_eq_some, Option.some_inj, Bool.and_eq_true, Bool.and_eq_true,
    Bool.not_eq_true', List.isEmpty_eq_false_iff, List.all_eq_true, decide_eq_true_eq]
  constructor
  · rintro ⟨⟨⟨hne, hdigits⟩, hle⟩, rfl⟩
    exact ⟨hne, hdigits, rfl, hle⟩
  · rintro ⟨hne, hdigits, rfl, hle⟩
    exact ⟨⟨⟨hne, hdigits⟩, hle⟩, rfl⟩

/-- A number is read from its digits, which may follow a plus sign. -/
theorem byte?_eq_some_iff {s : List Char} :
    byte? s = some n ↔ ∃ digits, (s = digits ∨ s = '+' :: digits) ∧ Reads digits n := by
  unfold byte?
  split
  next rest =>
    refine reads_iff.trans ⟨fun h => ⟨rest, .inr rfl, h⟩, ?_⟩
    rintro ⟨digits, hs | hs, hreads⟩
    · -- A plus sign is no digit.
      exact absurd (hreads.isDigit '+' (hs ▸ List.mem_cons_self)) (by decide)
    · obtain rfl := List.tail_eq_of_cons_eq hs
      exact hreads
  next hplus =>
    refine reads_iff.trans ⟨fun h => ⟨s, .inl rfl, h⟩, ?_⟩
    rintro ⟨digits, rfl | hs, hreads⟩
    · exact hreads
    · exact absurd hs (hplus digits)

/-- What may stand in front of the digit without a change of the number: zeros, also behind a plus
sign. -/
def IsPadding (pad : List Char) : Prop :=
  ∃ zeros, pad = List.replicate zeros '0' ∨ pad = '+' :: List.replicate zeros '0'

def spelled (pad : List Char) (level : Nat) : String :=
  String.ofList ('h' :: (pad ++ [Nat.digitChar level]))

theorem byte?_eq_some_iff_padded {s : List Char} (hpos : 0 < n) (hlt : n < 10) :
    byte? s = some n ↔ ∃ pad, IsPadding pad ∧ s = pad ++ [Nat.digitChar n] := by
  rw [byte?_eq_some_iff]
  constructor
  · rintro ⟨digits, hs, hreads⟩
    obtain ⟨zeros, rfl⟩ := (numberFrom_zero_eq_iff hreads.isDigit hpos hlt).mp hreads.number
    rcases hs with rfl | rfl
    · exact ⟨_, ⟨zeros, .inl rfl⟩, rfl⟩
    · exact ⟨_, ⟨zeros, .inr rfl⟩, rfl⟩
  · rintro ⟨pad, ⟨zeros, hpad⟩, rfl⟩
    have hdigits : ∀ c ∈ List.replicate zeros '0' ++ [Nat.digitChar n], c.isDigit = true := by
      intro c hc
      rcases List.mem_append.mp hc with hzero | hlast
      · obtain rfl := List.eq_of_mem_replicate hzero
        rfl
      · obtain rfl := List.mem_singleton.mp hlast
        rw [Nat.isDigit_digitChar, decide_eq_true hlt]
    have hnumber := (numberFrom_zero_eq_iff hdigits hpos hlt).mpr ⟨zeros, rfl⟩
    refine ⟨_, ?_, ⟨by simp, hdigits, hnumber, by omega⟩⟩
    rcases hpad with rfl | rfl
    · exact .inl rfl
    · exact .inr rfl

theorem levelOf?_eq_some_iff (name : String) (level : Nat) :
    levelOf? name = some level ↔
      (1 ≤ level ∧ level ≤ 6) ∧ ∃ pad, IsPadding pad ∧ name = spelled pad level := by
  have hname : ∀ s, name = String.ofList s ↔ name.toList = s := by
    intro s
    rw [← String.toList_inj, String.toList_ofList]
  simp only [spelled, hname]
  unfold levelOf?
  split
  next rest hrest =>
    rw [Option.filter_eq_some_iff, Bool.and_eq_true, decide_eq_true_eq, decide_eq_true_eq, and_comm,
      hrest]
    apply and_congr_right
    intro hlevel
    rw [byte?_eq_some_iff_padded (by omega) (by omega)]
    simp only [List.cons.injEq, true_and]
  next hother =>
    refine iff_of_false (by simp) ?_
    rintro ⟨-, pad, -, heq⟩
    exact hother _ heq

/-- The names of headings are those with nothing in front of the digit. -/
theorem mem_headingTags_iff :
    name ∈ headingTags ↔ ∃ level, levelOf? name = some level ∧ name = spelled [] level := by
  have htags : headingTags = (List.range' 1 6).map (spelled []) := by decide
  have hnone : IsPadding [] := ⟨0, .inl rfl⟩
  rw [htags, List.mem_map]
  constructor
  · rintro ⟨level, hlevel, rfl⟩
    rw [List.mem_range'_1] at hlevel
    exact ⟨level, (levelOf?_eq_some_iff _ level).mpr ⟨by omega, [], hnone, rfl⟩, rfl⟩
  · rintro ⟨level, hlevel, hname⟩
    obtain ⟨hbounds, -⟩ := (levelOf?_eq_some_iff name level).mp hlevel
    exact ⟨level, List.mem_range'_1.mpr (by omega), hname.symm⟩

def IsPadded (name : String) : Prop :=
  ∃ pad level, IsPadding pad ∧ pad ≠ [] ∧ (1 ≤ level ∧ level ≤ 6) ∧ name = spelled pad level

theorem eq_nil_of_spelled {other : Nat} (h : spelled pad level = spelled [] other) : pad = [] := by
  have hlists := String.ofList_injective h
  have hlengths := congrArg List.length hlists
  simp only [List.length_cons, List.length_append, List.length_nil] at hlengths
  exact List.eq_nil_of_length_eq_zero (by omega)

/-- The level and a selector agree on an element: it has a level just if the selector accepts it, and
then that of the digit in its name. -/
structure Agrees (sel : Selector) (s : Site) : Prop where
  accepts_iff : (∃ level, levelOf? s.name = some level) ↔ sel.accepts s = true
  digit : ∀ level, levelOf? s.name = some level → s.name = spelled [] level

theorem accepts_headings (s : Site) :
    (Document.anyTag headingTags).accepts s = true ↔ s.name ∈ headingTags := by
  rw [accepts_anyTag (by decide), List.contains_iff_mem]

theorem agrees_iff (s : Site) : Agrees (Document.anyTag headingTags) s ↔ ¬ IsPadded s.name := by
  constructor
  · rintro ⟨-, hdigit⟩ ⟨pad, level, hpad, hne, hbounds, hname⟩
    have hlevel := hdigit level ((levelOf?_eq_some_iff _ _).mpr ⟨hbounds, pad, hpad, hname⟩)
    exact hne (eq_nil_of_spelled (hname.symm.trans hlevel))
  · intro hplain
    have hdigit : ∀ level, levelOf? s.name = some level → s.name = spelled [] level := by
      intro level hlevel
      obtain ⟨hbounds, pad, hpad, hname⟩ := (levelOf?_eq_some_iff _ _).mp hlevel
      by_cases hnil : pad = []
      · rwa [hnil] at hname
      · exact absurd ⟨pad, level, hpad, hnil, hbounds, hname⟩ hplain
    refine ⟨?_, hdigit⟩
    rw [accepts_headings, mem_headingTags_iff]
    exact exists_congr fun level => (and_iff_left_of_imp (hdigit level)).symm

/-- The selector for headings finds, on a whole page and below an element, those that have a level and
only `h` and its digit as their name. A level is given to these and to the names with zeros or a plus
sign in front of the digit, so the two agree on just the elements whose name is none of the latter. -/
theorem one_notion_of_heading_iff (d : Document) :
    ∃ sel, Selector.read? headings = some sel ∧
      d.query headings = .ok (d.sites.filter sel.accepts) ∧
      (∀ s : Site, s.query headings = .ok (s.descendants.filter sel.accepts)) ∧
      (∀ s : Site, sel.accepts s = true ↔
        ∃ level, levelOf? s.name = some level ∧ s.name = spelled [] level) ∧
      (∀ name level, levelOf? name = some level ↔
        (1 ≤ level ∧ level ≤ 6) ∧ ∃ pad, IsPadding pad ∧ name = spelled pad level) ∧
      ∀ s : Site, Agrees sel s ↔ ¬ IsPadded s.name := by
  have hread : Selector.read? headings = some (Document.anyTag headingTags) := rfl
  refine ⟨_, hread, ?_, ?_, ?_, levelOf?_eq_some_iff, agrees_iff⟩
  · rw [Document.query_eq, Selector.read, hread]
    rfl
  · intro s
    rw [Site.query, Selector.read, hread]
    rfl
  · intro s
    rw [accepts_headings, mem_headingTags_iff]

/-- A zero in front of the digit hides an element from the selector but not from the level. -/
theorem heading_with_zero_unselected :
    ¬ ∀ (page : List Char) (d : Document) (sel : Selector), Document.read page = .ok d →
      Selector.read? headings = some sel → ∀ s ∈ d.sites, Agrees sel s := by
  intro hall
  let d := Document.ofPage "<h01>x</h01>".toList
  have hfound : (d.sites.find? (·.name == "h01")).isSome = true := by decide +kernel
  obtain ⟨s, hs, hname⟩ := List.find?_isSome.mp hfound
  rw [beq_iff_eq] at hname
  have hlevel : levelOf? s.name = some 1 := by
    rw [hname]
    decide
  have hagrees := hall "<h01>x</h01>".toList d (Document.anyTag headingTags) rfl rfl s hs
  have haccepted := hagrees.accepts_iff.mp ⟨1, hlevel⟩
  rw [accepts_headings, hname] at haccepted
  exact absurd haccepted (by decide)

end PageGrader.Heading
