import PageGrader.Proofs.Letters
import PageGrader.Proofs.Requests

namespace PageGrader

namespace Text

theorem toLower_eq_or_ascii (c : Char) : c.toLower = c ∨ c.toNat < 0x80 := by
  unfold Char.toLower
  split
  next h => exact .inr (Nat.lt_of_le_of_lt (UInt32.le_iff_toNat_le.mp h.2) (by decide))
  next => exact .inl rfl

/-- What does not depend on case for the first 128 characters does so for none. -/
theorem caseless_of_ascii {p : Char → Bool}
    (h : ∀ n : Fin 0x80, p (Char.ofNat n).toLower = p (Char.ofNat n)) : p ∘ Char.toLower = p := by
  funext c
  rcases toLower_eq_or_ascii c with heq | hascii
  · exact congrArg p heq
  · exact forall_ascii (fun c => p c.toLower = p c) h hascii

theorem dropWhile_lower {p : Char → Bool} (hp : p ∘ Char.toLower = p) (s : List Char) :
    (lower s).dropWhile p = lower (s.dropWhile p) := by
  rw [lower, List.dropWhile_map, hp, lower]

theorem filter_lower {p : Char → Bool} (hp : p ∘ Char.toLower = p) (s : List Char) :
    (lower s).filter p = lower (s.filter p) := by
  rw [lower, List.filter_map, hp, lower]

theorem all_lower {p : Char → Bool} (hp : p ∘ Char.toLower = p) (s : List Char) :
    (lower s).all p = s.all p := by
  rw [lower, List.all_map, hp]

theorem head_lower {p : Char → Bool} (hp : p ∘ Char.toLower = p) (s : List Char) :
    (lower s).head?.any p = s.head?.any p := by
  cases s with
  | nil => rfl
  | cons c s => exact congrFun hp c

theorem mem_of_mem_lower {d : Char} (hd : ∀ n : Fin 0x80, (Char.ofNat n).toLower = d → Char.ofNat n = d)
    {s : List Char} (h : d ∈ lower s) : d ∈ s := by
  obtain ⟨c, hc, heq⟩ := List.mem_map.mp h
  rcases toLower_eq_or_ascii c with hsame | hascii
  · exact heq ▸ hsame.symm ▸ hc
  · exact forall_ascii (fun c => c.toLower = d → c = d) hd hascii heq ▸ hc

end Text

namespace Address

variable {u v r : List Char}

def leading (s : List Char) : List Char :=
  (s.dropWhile fun c => decide (c.toNat ≤ 0x20)).filter fun c => !(c == '\t' || c == '\n' || c == '\r')

def trailing (s : List Char) : List Char :=
  ((s.reverse.dropWhile fun c => decide (c.toNat ≤ 0x20)).reverse).filter fun c =>
    !(c == '\t' || c == '\n' || c == '\r')

def inScheme (c : Char) : Bool := c.isAlphanum || c == '+' || c == '-' || c == '.'

theorem dropWhile_append_cons {p : Char → Bool} {c : Char} (hc : p c = false) (s t : List Char) :
    (s ++ c :: t).dropWhile p = s.dropWhile p ++ c :: t := by
  rw [List.dropWhile_append, List.dropWhile_cons_of_neg (by simp [hc])]
  split
  next hnil => rw [List.isEmpty_iff.mp hnil, List.nil_append]
  next => rfl

theorem cleaned_append (u r : List Char) : cleaned (u ++ ':' :: r) = leading u ++ ':' :: trailing r := by
  have hcolon : decide (':'.toNat ≤ 0x20) = false := by decide
  have hfront := dropWhile_append_cons (p := fun c => decide (c.toNat ≤ 0x20)) hcolon u r
  have hback := dropWhile_append_cons (p := fun c => decide (c.toNat ≤ 0x20)) hcolon r.reverse
    (u.dropWhile fun c => decide (c.toNat ≤ 0x20)).reverse
  rw [cleaned]
  simp only [hfront, List.reverse_append, List.reverse_cons, List.append_assoc, List.singleton_append,
    hback, List.reverse_reverse, List.filter_append]
  rfl

theorem lower_leading (s : List Char) : Text.lower (leading s) = leading (Text.lower s) := by
  have houter : (fun c : Char => decide (c.toNat ≤ 0x20)) ∘ Char.toLower =
      fun c => decide (c.toNat ≤ 0x20) := Text.caseless_of_ascii (by decide +kernel)
  have hkept : (fun c : Char => !(c == '\t' || c == '\n' || c == '\r')) ∘ Char.toLower =
      fun c => !(c == '\t' || c == '\n' || c == '\r') := Text.caseless_of_ascii (by decide +kernel)
  rw [leading, leading, Text.dropWhile_lower houter, Text.filter_lower hkept]

def isScheme (name : List Char) : Bool := name.all inScheme && name.head?.any Char.isAlpha

theorem isScheme_lower (name : List Char) : isScheme (Text.lower name) = isScheme name := by
  have hscheme : inScheme ∘ Char.toLower = inScheme := Text.caseless_of_ascii (by decide +kernel)
  have halpha : Char.isAlpha ∘ Char.toLower = Char.isAlpha := Text.caseless_of_ascii (by decide +kernel)
  rw [isScheme, isScheme, Text.all_lower hscheme, Text.head_lower halpha]

theorem scheme_append {name : List Char} (h : isScheme name = true) (r : List Char) :
    scheme? (name ++ ':' :: r) = some (Text.lower name, r) := by
  rw [isScheme, Bool.and_eq_true, List.all_eq_true] at h
  have htake : (name ++ ':' :: r).takeWhile inScheme = name := by
    rw [List.takeWhile_append_of_pos h.1, List.takeWhile_cons_of_neg (by decide), List.append_nil]
  have htake' : (name ++ ':' :: r).takeWhile (fun c => c.isAlphanum || c == '+' || c == '-' || c == '.') =
      name := htake
  rw [scheme?]
  simp only [htake', List.drop_left, h.2, if_true]

theorem scheme_cleaned (h : isScheme (leading u) = true) (r : List Char) :
    scheme? (cleaned (u ++ ':' :: r)) = some (leading (Text.lower u), trailing r) := by
  rw [cleaned_append, scheme_append h, lower_leading]

theorem resolve_of_scheme {base : Option Address} {s scheme : List Char}
    (h : scheme? (cleaned s) = some (scheme, r)) :
    resolve? base s =
      if (usualPort? scheme).isNone then other? scheme r
      else match base with
        | some (.web b) =>
          if (r.takeWhile isSlash).length < 2 && b.scheme == scheme then (relative? b r).map .web
          else (absolute? scheme (r.dropWhile isSlash)).map .web
        | _ => (absolute? scheme (r.dropWhile isSlash)).map .web := by
  unfold resolve?
  dsimp only
  rewrite [h]
  rfl

theorem resolve_recased (hlower : Text.lower u = Text.lower v) (h : isScheme (leading u) = true)
    (base : Option Address) (r : List Char) :
    resolve? base (u ++ ':' :: r) = resolve? base (v ++ ':' :: r) := by
  have h' : isScheme (leading v) = true := by
    rw [← isScheme_lower, lower_leading, ← hlower, ← lower_leading, isScheme_lower, h]
  rw [resolve_of_scheme (scheme_cleaned h r), resolve_of_scheme (scheme_cleaned h' r), hlower]

theorem scheme_absolute {scheme s : List Char} {a : WebAddress} (h : absolute? scheme s = some a) :
    a.scheme = scheme := by
  obtain ⟨⟨user, host, port, rest⟩, -, rfl⟩ := Option.map_eq_some_iff.mp h
  dsimp only
  split
  · split <;> rfl
  · rfl

theorem scheme_relative {base a : WebAddress} {s : List Char} (h : relative? base s = some a) :
    a.scheme = base.scheme := by
  unfold relative? at h
  split at h
  · exact Option.some.inj h ▸ rfl
  · exact Option.some.inj h ▸ rfl
  · exact Option.some.inj h ▸ rfl
  · exact scheme_absolute h
  · split_ifs at h
    · exact Option.some.inj h ▸ rfl
    · exact scheme_absolute h
    · exact Option.some.inj h ▸ rfl

theorem scheme_resolve {base : Option Address} {s scheme r : List Char} {a : Address}
    (hscheme : scheme? (cleaned s) = some (scheme, r)) (hweb : (usualPort? scheme).isSome)
    (h : resolve? base s = some a) : ∃ w, a = .web w ∧ w.scheme = scheme := by
  have hnot : (usualPort? scheme).isNone = false := by rw [← Option.not_isSome, hweb]; rfl
  rw [resolve_of_scheme hscheme, if_neg (by rw [hnot]; decide)] at h
  split at h
  next b =>
    split at h
    next hsame =>
      obtain ⟨w, hw, rfl⟩ := Option.map_eq_some_iff.mp h
      refine ⟨w, rfl, (scheme_relative hw).trans ?_⟩
      rw [Bool.and_eq_true] at hsame
      exact eq_of_beq hsame.2
    next =>
      obtain ⟨w, hw, rfl⟩ := Option.map_eq_some_iff.mp h
      exact ⟨w, rfl, scheme_absolute hw⟩
  next =>
    obtain ⟨w, hw, rfl⟩ := Option.map_eq_some_iff.mp h
    exact ⟨w, rfl, scheme_absolute hw⟩

theorem other_of_other {scheme s : List Char} {a : Address} (h : other? scheme s = some a) :
    ∃ isBase, a = .other scheme isBase := by
  unfold other? at h
  split_ifs at h
  · split at h
    · split_ifs at h
      exact ⟨_, (Option.some.inj h).symm⟩
    · exact ⟨_, (Option.some.inj h).symm⟩
  · split at h
    · obtain ⟨_, -, rfl⟩ := Option.map_eq_some_iff.mp h
      exact ⟨_, rfl⟩
    · exact ⟨_, (Option.some.inj h).symm⟩
    · exact ⟨_, (Option.some.inj h).symm⟩

theorem scheme_resolve_other {base : Option Address} {s scheme r : List Char} {a : Address}
    (hscheme : scheme? (cleaned s) = some (scheme, r)) (hother : (usualPort? scheme).isNone)
    (h : resolve? base s = some a) : ∃ isBase, a = .other scheme isBase := by
  rw [resolve_of_scheme hscheme, if_pos hother] at h
  exact other_of_other h

end Address

namespace Image

open Address (leading isScheme)

variable {name other rest w x : List Char} {s t : String} {base : Option String}

structure HasScheme (s : String) (name rest : List Char) : Prop where
  text : s.toList = name ++ ':' :: rest
  first : ':' ∉ name
  scheme : isScheme (leading name) = true

/-- Two sources that are the same but for the case of their scheme. -/
def Recased (s t : String) : Prop :=
  ∃ name other rest, HasScheme s name rest ∧ HasScheme t other rest ∧ Text.lower name = Text.lower other

theorem prefix_colon_iff (hw : ':' ∉ w) (hname : ':' ∉ name) :
    w ++ ':' :: x <+: name ++ ':' :: rest ↔ w = name ∧ x <+: rest := by
  induction w generalizing name with
  | nil =>
    cases name with
    | nil => simp
    | cons c name => simp [List.cons_prefix_cons, List.ne_of_not_mem_cons hname]
  | cons d w ih =>
    rw [List.mem_cons, not_or] at hw
    cases name with
    | nil => simp [List.cons_prefix_cons, Ne.symm hw.1]
    | cons c name =>
      rw [List.mem_cons, not_or] at hname
      simp [List.cons_prefix_cons, ih hw.2 hname.2, and_assoc]

theorem HasScheme.startsWith_iff (h : HasScheme s name rest) (start : String)
    (hstart : start.toList = w ++ ':' :: x) (hw : ':' ∉ w) :
    startsWith start s = true ↔ w = name ∧ x <+: rest := by
  rw [startsWith, List.isPrefixOf_iff_prefix, hstart, h.text, prefix_colon_iff hw h.first]

theorem HasScheme.isEmpty_eq_false (h : HasScheme s name rest) : s.isEmpty = false := by
  rw [Bool.eq_false_iff]
  intro hempty
  have htext := h.text
  rw [String.isEmpty_iff.mp hempty] at htext
  simp at htext

theorem HasScheme.startsWith_slashes (h : HasScheme s name rest) : startsWith "//" s = false := by
  rw [Bool.eq_false_iff]
  intro hslashes
  have htext : "//".toList = ['/', '/'] := rfl
  rw [startsWith, List.isPrefixOf_iff_prefix, h.text, htext] at hslashes
  have hscheme := h.scheme
  cases name with
  | nil => simp [List.cons_prefix_cons] at hslashes
  | cons c name =>
    obtain ⟨rfl, -⟩ := List.cons_prefix_cons.mp hslashes
    have hhead : leading ('/' :: name) = '/' :: name.filter _ := rfl
    rw [hhead, isScheme, List.all_cons] at hscheme
    cases hscheme

/-- Begun in small letters with one of the schemes that are told apart. -/
def Small (s : String) : Prop :=
  startsWith "data:" s = true ∨ startsWith "http://" s = true ∨ startsWith secure s = true

variable {resolve : String → Option String}

theorem plan_of_embedded (h : startsWith "data:" s = true) : plan resolve s = none := by
  rw [plan, h, Bool.or_true]
  rfl

theorem plan_of_secure (h : startsWith secure s = true) : plan resolve s = some (.ask s) := by
  have hdata : startsWith "data:" s = false := startsWith_eq_false h (by decide) (by decide)
  have hslashes : startsWith "//" s = false := startsWith_eq_false h (by decide) (by decide)
  have hnonempty : s.isEmpty = false := by
    rw [Bool.eq_false_iff]
    intro hempty
    rw [String.isEmpty_iff.mp hempty] at h
    exact absurd h (by decide)
  have habsolute : planAbsolute s = .ask s := if_pos h
  rw [plan, hnonempty, hdata, hslashes, h, Bool.or_true, habsolute]
  rfl

theorem HasScheme.plan_of_not_small (h : HasScheme s name rest) (hsmall : ¬ Small s) :
    plan resolve s = some (match resolve s with
      | some url => planAbsolute url
      | none => .give .withoutBase) := by
  rw [Small, not_or, not_or, Bool.not_eq_true, Bool.not_eq_true, Bool.not_eq_true] at hsmall
  rw [plan, h.isEmpty_eq_false, h.startsWith_slashes, hsmall.1, hsmall.2.1, hsmall.2.2]
  cases resolve s <;> rfl

theorem Recased.symm (h : Recased s t) : Recased t s := by
  obtain ⟨name, other, rest, hs, ht, hlower⟩ := h
  exact ⟨other, name, rest, ht, hs, hlower.symm⟩

theorem Recased.resolver_eq (h : Recased s t) (base : Option String) :
    resolver base s = resolver base t := by
  obtain ⟨name, other, rest, hs, ht, hlower⟩ := h
  simp only [resolver, hs.text, ht.text, Address.resolve_recased hlower hs.scheme]

theorem HasScheme.small_iff (h : HasScheme s name rest) :
    Small s ↔ name = "data".toList ∨ name = "http".toList ∧ ['/', '/'] <+: rest ∨
      name = "https".toList ∧ ['/', '/'] <+: rest := by
  have hdata := h.startsWith_iff "data:" (w := "data".toList) (x := []) rfl (by decide)
  have hhttp := h.startsWith_iff "http://" (w := "http".toList) (x := ['/', '/']) rfl (by decide)
  have hhttps := h.startsWith_iff secure (w := "https".toList) (x := ['/', '/']) rfl (by decide)
  rw [Small, hdata, hhttp, hhttps]
  simp only [List.nil_prefix, and_true, eq_comm]

theorem HasScheme.lower_of_small (h : HasScheme s name rest) (hsmall : Small s) :
    Text.lower name = name := by
  rcases h.small_iff.mp hsmall with rfl | ⟨rfl, -⟩ | ⟨rfl, -⟩
  · decide
  · decide
  · decide

/-- A source that has the scheme of a text but does not begin with it is not begun in small letters. -/
theorem HasScheme.not_small (h : HasScheme s name rest) (start : String)
    (hstart : start.toList = Text.lower name ++ ':' :: x) (hx : x <+: rest)
    (hnot : startsWith start s = false) : ¬ Small s := by
  intro hsmall
  rw [h.lower_of_small hsmall] at hstart
  rw [(h.startsWith_iff start hstart h.first).mpr ⟨rfl, hx⟩] at hnot
  cases hnot

theorem Recased.eq_of_small (h : Recased s t) (hs : Small s) (ht : Small t) : s = t := by
  obtain ⟨name, other, rest, hsource, hother, hlower⟩ := h
  rw [hsource.lower_of_small hs, hother.lower_of_small ht] at hlower
  rw [← String.toList_inj, hsource.text, hother.text, hlower]

theorem lowered_toList (s : String) : (Text.lowered s).toList = Text.lower s.toList :=
  String.toList_ofList

theorem HasScheme.startsWith_lowered_iff (h : HasScheme s name rest) (start : String)
    (hstart : start.toList = w ++ ':' :: x) (hw : ':' ∉ w) :
    startsWith start (Text.lowered s) = true ↔ w = Text.lower name ∧ x <+: Text.lower rest := by
  have hcolon : ':' ∉ Text.lower name :=
    fun hmem => h.first (Text.mem_of_mem_lower (by decide +kernel) hmem)
  have hlower : Text.lower (name ++ ':' :: rest) = Text.lower name ++ ':' :: Text.lower rest := by
    rw [Text.lower, List.map_append, List.map_cons]
    rfl
  rw [startsWith, List.isPrefixOf_iff_prefix, hstart, lowered_toList, h.text, hlower,
    prefix_colon_iff hw hcolon]

/-- A text that begins with a scheme in some case has that scheme. -/
theorem hasScheme_of_lowered {start : String} (hstart : start.toList = w ++ ':' :: x) (hw : ':' ∉ w)
    (hscheme : isScheme (leading w) = true) (h : startsWith start (Text.lowered s) = true) :
    ∃ name rest, HasScheme s name rest ∧ Text.lower name = w ∧ x <+: Text.lower rest := by
  rw [startsWith, List.isPrefixOf_iff_prefix, hstart, lowered_toList] at h
  obtain ⟨after, hafter⟩ := h
  rw [List.append_assoc, List.cons_append] at hafter
  obtain ⟨name, r, htext, hname, hr⟩ := List.map_eq_append_iff.mp hafter.symm
  obtain ⟨c, rest, rfl, hc, hrest⟩ := List.map_eq_cons_iff.mp hr
  have hlower : Text.lower name = w := hname
  have hcolon : c = ':' := by
    have hmem : ':' ∈ Text.lower [c] := by rw [← hc]; exact List.mem_singleton_self _
    exact (List.mem_singleton.mp (Text.mem_of_mem_lower (by decide +kernel) hmem)).symm
  subst hcolon
  refine ⟨name, rest, ⟨htext, ?_, ?_⟩, hlower, after, hrest.symm⟩
  · intro hmem
    apply hw
    rw [← hlower]
    exact List.mem_map.mpr ⟨':', hmem, rfl⟩
  · rwa [← Address.isScheme_lower, Address.lower_leading, hlower]

theorem slashes_of_lower (h : ['/', '/'] <+: Text.lower rest) : ['/', '/'] <+: rest := by
  have hslash (c : Char) (hc : c.toLower = '/') : c = '/' := by
    have hmem : '/' ∈ Text.lower [c] := by rw [← hc]; exact List.mem_singleton_self _
    exact (List.mem_singleton.mp (Text.mem_of_mem_lower (by decide +kernel) hmem)).symm
  match rest, h with
  | [], h => simp [Text.lower] at h
  | [_], h => simp [Text.lower, List.cons_prefix_cons] at h
  | c :: d :: rest, h =>
    simp only [Text.lower, List.map_cons, List.cons_prefix_cons] at h
    rw [hslash c h.1.symm, hslash d h.2.1.symm]
    exact ⟨rest, rfl⟩

theorem text_begins (a : WebAddress) : a.scheme ++ ':' :: ['/', '/'] <+: a.text := by
  have hmarks : "://".toList = ':' :: ['/', '/'] := rfl
  simp only [WebAddress.text, hmarks, List.append_assoc, List.prefix_append_right_inj, List.prefix_append]

/-- A source with a scheme is joined to an address with the same one in small letters. -/
theorem HasScheme.resolved (h : HasScheme s name rest) (hw : leading (Text.lower name) = w) {url : String}
    (hurl : resolver base s = some url) :
    ∃ tail, url.toList = w ++ ':' :: tail ∧ ((Address.usualPort? w).isSome → ['/', '/'] <+: tail) := by
  have hresolved : ∃ b a, Address.resolve? b s.toList = some a ∧ textOf a = url := by
    unfold resolver at hurl
    simp only [Option.bind_eq_bind, Option.bind_eq_some_iff, Option.pure_def, Option.some.injEq] at hurl
    obtain ⟨_, -, b, -, a, ha, rfl⟩ := hurl
    exact ⟨_, a, ha, rfl⟩
  obtain ⟨b, a, ha, rfl⟩ := hresolved
  have hscheme := Address.scheme_cleaned h.scheme rest
  rw [← h.text, hw] at hscheme
  by_cases hweb : (Address.usualPort? w).isSome
  · obtain ⟨a, rfl, rfl⟩ := Address.scheme_resolve hscheme hweb ha
    obtain ⟨tail, htail⟩ := text_begins a
    refine ⟨['/', '/'] ++ tail, ?_, fun _ => List.prefix_append _ _⟩
    rw [textOf, String.toList_ofList, ← htail, List.append_assoc, List.cons_append]
  · obtain ⟨isBase, rfl⟩ := Address.scheme_resolve_other hscheme (by simpa using hweb) ha
    exact ⟨[], String.toList_ofList, fun hsome => absurd hsome hweb⟩

/-- What is expected of joining: it does not see the case of a scheme, which it puts in small letters and
in front of what it answers. In the secure scheme slashes follow. -/
structure KeepsScheme (resolve : String → Option String) : Prop where
  recased : ∀ {s t}, Recased s t → resolve s = resolve t
  kept : ∀ {s name rest url}, HasScheme s name rest → resolve s = some url →
    ∃ tail, url.toList = leading (Text.lower name) ++ ':' :: tail ∧
      (leading (Text.lower name) = "https".toList → ['/', '/'] <+: tail)

theorem keepsScheme_resolver (base : Option String) : KeepsScheme (resolver base) where
  recased h := h.resolver_eq base
  kept h hurl := by
    obtain ⟨tail, htext, hslashes⟩ := h.resolved rfl hurl
    exact ⟨tail, htext, fun hsecure => hslashes (by rw [hsecure]; decide)⟩

theorem HasScheme.planAbsolute_resolved (h : HasScheme s name rest) (hresolve : KeepsScheme resolve)
    (hw : leading (Text.lower name) = w) (hfirst : ':' ∉ w) {url : String} (hurl : resolve s = some url) :
    planAbsolute url = if w = "https".toList then .ask url else .give .notSecure := by
  obtain ⟨tail, htext, hslashes⟩ := hresolve.kept h hurl
  rw [hw] at htext hslashes
  have hsecure : startsWith secure url = true ↔ w = "https".toList := by
    have hstart : secure.toList = "https".toList ++ ':' :: ['/', '/'] := rfl
    rw [startsWith, List.isPrefixOf_iff_prefix, htext, hstart, prefix_colon_iff (by decide) hfirst]
    constructor
    · exact fun ⟨heq, _⟩ => heq.symm
    · rintro rfl
      exact ⟨rfl, hslashes rfl⟩
  rw [planAbsolute]
  exact if_congr hsecure rfl rfl

/-- What is decided about a source that is written with capitals. -/
theorem HasScheme.plan_of_capitals (h : HasScheme s name rest) (hresolve : KeepsScheme resolve)
    (hsmall : ¬ Small s) (hw : leading (Text.lower name) = w) (hfirst : ':' ∉ w) :
    plan resolve s = some (match resolve s with
      | some url => if w = "https".toList then .ask url else .give .notSecure
      | none => .give .withoutBase) := by
  rw [h.plan_of_not_small hsmall]
  cases hurl : resolve s with
  | none => rfl
  | some url => exact congrArg some (h.planAbsolute_resolved hresolve hw hfirst hurl)

/-- What is decided about a source: nothing to do, asking, or giving up for a reason. Which address is
asked is left out. -/
def decision : Option Plan → Option (Option Obstacle) :=
  Option.map fun
    | .ask _ => none
    | .give why => some why

theorem decision_small_iff (hresolve : KeepsScheme resolve) (h : Recased s t) (hs : Small s)
    (ht : ¬ Small t) :
    decision (plan resolve s) = decision (plan resolve t) ↔
      startsWith "data:" (Text.lowered s) = false ∧ (resolve s).isSome := by
  rw [hresolve.recased h]
  obtain ⟨name, other, rest, hsource, hother, hlower⟩ := h
  have hdata := hsource.startsWith_lowered_iff "data:" (w := "data".toList) (x := []) rfl
    (by decide)
  rcases hsource.small_iff.mp hs with rfl | ⟨rfl, hslashes⟩ | ⟨rfl, hslashes⟩
  · have hembedded : startsWith "data:" s = true :=
      (hsource.startsWith_iff _ (w := "data".toList) (x := []) rfl (by decide)).mpr ⟨rfl, List.nil_prefix⟩
    have hcapitals := hother.plan_of_capitals hresolve ht (w := "data".toList) (by rw [← hlower]; decide)
      (by decide)
    rw [hdata.mpr ⟨by decide, List.nil_prefix⟩, plan_of_embedded hembedded, hcapitals]
    simp [decision]
  · have hinsecure : startsWith "http://" s = true :=
      (hsource.startsWith_iff _ (w := "http".toList) (x := ['/', '/']) rfl (by decide)).mpr ⟨rfl, hslashes⟩
    have hcapitals := hother.plan_of_capitals hresolve ht (w := "http".toList) (by rw [← hlower]; decide)
      (by decide)
    rw [Bool.eq_false_iff, ne_eq, hdata, plan_of_insecure _ hinsecure, hcapitals]
    cases resolve t <;> simp [decision, Text.lower]
  · have hsecure : startsWith secure s = true :=
      (hsource.startsWith_iff _ (w := "https".toList) (x := ['/', '/']) rfl (by decide)).mpr ⟨rfl, hslashes⟩
    have hcapitals := hother.plan_of_capitals hresolve ht (w := "https".toList) (by rw [← hlower]; decide)
      (by decide)
    rw [Bool.eq_false_iff, ne_eq, hdata, plan_of_secure hsecure, hcapitals]
    cases resolve t <;> simp [decision, Text.lower]

theorem plan_of_data (hresolve : KeepsScheme resolve) (h : startsWith "data:" (Text.lowered s) = true) :
    (plan resolve s = none ↔ startsWith "data:" s = true) ∧
      (startsWith "data:" s = false → ∃ why, plan resolve s = some (.give why)) := by
  obtain ⟨name, rest, hs, hlower, -⟩ := hasScheme_of_lowered (w := "data".toList) (x := []) rfl (by decide)
    (by decide) h
  have hcapitals (hdata : startsWith "data:" s = false) :
      ∃ why, plan resolve s = some (.give why) := by
    have hsmall : ¬ Small s := hs.not_small "data:" (by rw [hlower]; rfl) List.nil_prefix hdata
    rw [hs.plan_of_capitals hresolve hsmall (w := "data".toList) (by rw [hlower]; decide) (by decide)]
    cases resolve s with
    | none => exact ⟨.withoutBase, rfl⟩
    | some url => exact ⟨.notSecure, rfl⟩
  refine ⟨⟨fun hnone => ?_, plan_of_embedded⟩, hcapitals⟩
  by_contra hdata
  obtain ⟨why, hwhy⟩ := hcapitals (Bool.eq_false_iff.mpr hdata)
  rw [hnone] at hwhy
  cases hwhy

theorem plan_of_https (hresolve : KeepsScheme resolve) (h : startsWith secure (Text.lowered s) = true) :
    (∃ url, plan resolve s = some (.ask url)) ↔
      startsWith secure s = true ∨ (resolve s).isSome := by
  obtain ⟨name, rest, hs, hlower, hslashes⟩ := hasScheme_of_lowered (w := "https".toList)
    (x := ['/', '/']) rfl (by decide) (by decide) h
  by_cases hsecure : startsWith secure s = true
  · exact iff_of_true ⟨s, plan_of_secure hsecure⟩ (.inl hsecure)
  · have hsmall : ¬ Small s :=
      hs.not_small secure (by rw [hlower]; rfl) (slashes_of_lower hslashes) (Bool.eq_false_iff.mpr hsecure)
    rw [hs.plan_of_capitals hresolve hsmall (w := "https".toList) (by rw [hlower]; decide) (by decide)]
    cases resolve s <;> simp [hsecure]

theorem plan_of_http (hresolve : KeepsScheme resolve) (h : startsWith "http://" (Text.lowered s) = true) :
    plan resolve s = some (.give .notSecure) ↔
      startsWith "http://" s = true ∨ (resolve s).isSome := by
  obtain ⟨name, rest, hs, hlower, hslashes⟩ := hasScheme_of_lowered (w := "http".toList)
    (x := ['/', '/']) rfl (by decide) (by decide) h
  by_cases hinsecure : startsWith "http://" s = true
  · exact iff_of_true (plan_of_insecure _ hinsecure) (.inl hinsecure)
  · have hsmall : ¬ Small s :=
      hs.not_small "http://" (by rw [hlower]; rfl) (slashes_of_lower hslashes)
        (Bool.eq_false_iff.mpr hinsecure)
    rw [hs.plan_of_capitals hresolve hsmall (w := "http".toList) (by rw [hlower]; decide) (by decide)]
    cases resolve s <;> simp [hinsecure]

/-- Where neither begins in small letters, all is left to joining. -/
theorem plan_eq_of_not_small (hresolve : KeepsScheme resolve) (h : Recased s t) (hs : ¬ Small s)
    (ht : ¬ Small t) : plan resolve s = plan resolve t := by
  have hsame := hresolve.recased h
  obtain ⟨name, other, rest, hsource, hother, -⟩ := h
  rw [hsource.plan_of_not_small hs, hother.plan_of_not_small ht, hsame]

theorem Recased.startsWith_lowered (h : Recased s t) (start : String) :
    startsWith start (Text.lowered s) = startsWith start (Text.lowered t) := by
  obtain ⟨name, other, rest, hsource, hother, hlower⟩ := h
  rw [startsWith, startsWith, lowered_toList, lowered_toList, hsource.text, hother.text]
  simp only [Text.lower, List.map_append] at hlower ⊢
  rw [hlower]

theorem decision_iff (hresolve : KeepsScheme resolve) (h : Recased s t) :
    decision (plan resolve s) = decision (plan resolve t) ↔
      (Small s ↔ Small t) ∨ startsWith "data:" (Text.lowered s) = false ∧ (resolve s).isSome := by
  by_cases hs : Small s
  · by_cases ht : Small t
    · rw [h.eq_of_small hs ht]
      exact iff_of_true rfl (.inl Iff.rfl)
    · rw [decision_small_iff hresolve h hs ht]
      simp [hs, ht]
  · by_cases ht : Small t
    · rw [eq_comm, decision_small_iff hresolve h.symm ht hs, ← h.startsWith_lowered, hresolve.recased h]
      simp [hs, ht]
    · rw [plan_eq_of_not_small hresolve h hs ht]
      exact iff_of_true rfl (.inl (iff_of_false hs ht))

/-- However sources are joined, as long as schemes are kept: for two that differ in the case of theirs the
same is decided just if both or neither begin in small letters, or else they can be joined and are not
embedded data. So data are skipped in small letters only, and without a base only small letters tell what
is secure and what is not. -/
theorem same_decision_iff (base : Option String) : KeepsScheme (resolver base) ∧
    ∀ resolve, KeepsScheme resolve →
      (∀ s t, Recased s t →
        (decision (plan resolve s) = decision (plan resolve t) ↔
          (Small s ↔ Small t) ∨ startsWith "data:" (Text.lowered s) = false ∧ (resolve s).isSome) ∧
        (¬ Small s → ¬ Small t → plan resolve s = plan resolve t)) ∧
      ∀ s,
        (startsWith "data:" (Text.lowered s) = true →
          (plan resolve s = none ↔ startsWith "data:" s = true) ∧
          (startsWith "data:" s = false → ∃ why, plan resolve s = some (.give why))) ∧
        (startsWith "https://" (Text.lowered s) = true →
          ((∃ url, plan resolve s = some (.ask url)) ↔
            startsWith "https://" s = true ∨ (resolve s).isSome)) ∧
        (startsWith "http://" (Text.lowered s) = true →
          (plan resolve s = some (.give .notSecure) ↔
            startsWith "http://" s = true ∨ (resolve s).isSome)) := by
  refine ⟨keepsScheme_resolver base, fun resolve hresolve => ⟨fun s t h => ?_, fun s =>
    ⟨plan_of_data hresolve, plan_of_https hresolve, plan_of_http hresolve⟩⟩⟩
  exact ⟨decision_iff hresolve h, plan_eq_of_not_small hresolve h⟩

/-- A secure source in capitals, which a base makes good for. -/
theorem same_decision_with_base :
    let base := some "https://a.example/"
    Recased "https://a.example/x.png" "HTTPS://a.example/x.png" ∧
      decision (plan (resolver base) "https://a.example/x.png") =
        decision (plan (resolver base) "HTTPS://a.example/x.png") := by
  intro base
  have hrecased : Recased "https://a.example/x.png" "HTTPS://a.example/x.png" :=
    ⟨"https".toList, "HTTPS".toList, "//a.example/x.png".toList, ⟨rfl, by decide, by decide⟩,
      ⟨rfl, by decide, by decide⟩, by decide⟩
  obtain ⟨hresolver, hiff⟩ := same_decision_iff base
  refine ⟨hrecased, ((hiff _ hresolver).1 _ _ hrecased).1.mpr (.inr ?_)⟩
  decide +kernel

/-- Embedded data in capitals are given up and not skipped. -/
theorem data_in_capitals_given_up :
    ¬ ∀ (base : Option String) (s t : String), Recased s t →
      decision (plan (resolver base) s) = decision (plan (resolver base) t) := by
  intro hall
  have heq := hall none "data:,x" "DATA:,x" ⟨"data".toList, "DATA".toList, ",x".toList,
    ⟨rfl, by decide, by decide⟩, ⟨rfl, by decide, by decide⟩, by decide⟩
  have hne : decision (plan (resolver none) "data:,x") ≠ decision (plan (resolver none) "DATA:,x") := by
    decide +kernel
  exact hne heq

end Image

end PageGrader
