import PageGrader.Proofs.Measurement

namespace PageGrader.Image

section

variable {Base : Type} (parse : String → Option Base) (join : Base → String → Option String)

/-- Completes a relative source by a base, if that is given, can be read and can be joined with it. -/
def completed (base : Option String) (address : String) : Option String :=
  base.bind fun b => (parse b).bind fun b => join b address

inductive Incomplete (base : Option String) (address : String) : Prop where
  | missing (h : base = none)
  | unreadable {b : String} (h : base = some b) (hread : parse b = none)
  | unjoined {b : String} {r : Base} (h : base = some b) (hread : parse b = some r)
    (hjoin : join r address = none)

inductive Barred (base : Option String) (address : String) : Prop where
  | empty (h : address = "")
  | embedded (h : startsWith "data:" address = true)
  | insecure (h : startsWith "http://" address = true)
  | relative (hinsecure : startsWith "http://" address = false)
    (hsecure : startsWith "https://" address = false) (hscheme : startsWith "//" address = false)
    (h : Incomplete parse join base address)

variable {base : Option String} {address : String}

theorem completed_eq_none (h : Incomplete parse join base address) :
    completed parse join base address = none := by
  unfold completed
  cases h with
  | missing h => rw [h]; rfl
  | unreadable h hread => rw [h, Option.bind_some, hread]; rfl
  | unjoined h hread hjoin => rw [h, Option.bind_some, hread, Option.bind_some, hjoin]

theorem resolver_eq_completed (base : Option String) :
    resolver base = completed (fun b => Address.read? b.toList)
      (fun b address => (Address.resolve? (some b) address.toList).map textOf) base := by
  funext address
  unfold resolver completed
  simp only [Option.map_eq_bind]
  rfl

theorem startsWith_eq_false {one other : String} (h : startsWith one address = true)
    (hone : one.toList.isPrefixOf other.toList = false)
    (hother : other.toList.isPrefixOf one.toList = false) : startsWith other address = false := by
  rw [Bool.eq_false_iff]
  intro h'
  rcases List.prefix_or_prefix_of_prefix (List.isPrefixOf_iff_prefix.mp h)
    (List.isPrefixOf_iff_prefix.mp h') with hle | hle
  · rw [List.isPrefixOf_iff_prefix.mpr hle] at hone
    cases hone
  · rw [List.isPrefixOf_iff_prefix.mpr hle] at hother
    cases hother

end

variable (resolve : String → Option String)

def request? (source : Source) : Option Request :=
  match plan resolve source.address with
  | some (.ask url) => some ⟨source.node, url⟩
  | _ => none

theorem planAbsolute_cases (url : String) :
    (planAbsolute url = .ask url ∧ startsWith secure url = true) ∨
      (planAbsolute url = .give .notSecure ∧ startsWith secure url = false) := by
  unfold planAbsolute
  cases h : startsWith secure url with
  | true => exact .inl ⟨if_pos rfl, rfl⟩
  | false => exact .inr ⟨if_neg (by decide), rfl⟩

theorem secure_of_planAbsolute {url asked : String} (h : planAbsolute url = .ask asked) :
    startsWith secure asked = true := by
  rcases planAbsolute_cases url with ⟨hask, hsecure⟩ | ⟨hgive, -⟩
  · rw [hask] at h
    rwa [← Plan.ask.inj h]
  · rw [hgive] at h
    cases h

theorem secure_of_plan {address url : String} (h : plan resolve address = some (.ask url)) :
    startsWith secure url = true := by
  unfold plan at h
  split_ifs at h
  · exact secure_of_planAbsolute (Option.some.inj h)
  · exact secure_of_planAbsolute (Option.some.inj h)
  · split at h
    · exact secure_of_planAbsolute (Option.some.inj h)
    · cases Option.some.inj h

/-- A source in the clear is taken as it stands, since it is neither embedded nor without a scheme, and
then it is given up. -/
theorem plan_of_insecure {address : String} (h : startsWith "http://" address = true) :
    plan resolve address = some (.give .notSecure) := by
  have hdata : startsWith "data:" address = false := startsWith_eq_false h (by decide) (by decide)
  have hscheme : startsWith "//" address = false := startsWith_eq_false h (by decide) (by decide)
  have hsecure : startsWith secure address = false := startsWith_eq_false h (by decide) (by decide)
  have hnonempty : address.isEmpty = false := by
    rw [Bool.eq_false_iff]
    intro hempty
    rw [String.isEmpty_iff.mp hempty] at h
    exact absurd h (by decide)
  have habsolute : planAbsolute address = .give .notSecure := if_neg (by rw [hsecure]; decide)
  rw [plan, hnonempty, hdata, hscheme, h, habsolute]
  rfl

theorem plan_ne_ask {Base : Type} {parse : String → Option Base}
    {join : Base → String → Option String} {base : Option String} {address url : String}
    (h : Barred parse join base address) :
    plan (completed parse join base) address ≠ some (.ask url) := by
  cases h with
  | empty h =>
    subst h
    exact fun hask => by cases hask
  | embedded h =>
    rw [plan, h, Bool.or_true]
    exact fun hask => by cases hask
  | insecure h =>
    rw [plan_of_insecure _ h]
    exact fun hask => by cases Option.some.inj hask
  | relative hinsecure hsecure hscheme h =>
    have hplan : plan (completed parse join base) address =
        if address.isEmpty || startsWith "data:" address then none
        else some (.give .withoutBase) := by
      rw [plan, hinsecure, secure, hsecure, hscheme, completed_eq_none parse join h]
      rfl
    rw [hplan]
    split
    · exact fun hask => by cases hask
    · exact fun hask => by cases hask

theorem request?_eq_some {source : Source} {r : Request} :
    request? resolve source = some r ↔
      r.node = source.node ∧ plan resolve source.address = some (.ask r.url) := by
  obtain ⟨node, url⟩ := r
  unfold request?
  split
  next asked hplan =>
    rw [hplan, Option.some.injEq, Option.some.injEq, Request.mk.injEq, Plan.ask.injEq]
    exact and_congr_left' eq_comm
  next hplan =>
    refine iff_of_false (by simp) ?_
    rintro ⟨-, hask⟩
    exact hplan url hask

theorem requests_plans (sources : List Source) :
    requests (plans resolve sources) = sources.filterMap (request? resolve) := by
  rw [requests, plans, List.filterMap_filterMap]
  congr 1
  funext source
  unfold request?
  rcases plan resolve source.address with _ | _ | _ <;> rfl

/-- Whether a source has something to measure, but no server is asked for it. -/
def isUnasked (source : Source) : Bool :=
  (plan resolve source.address).isSome && (request? resolve source).isNone

def Answer.size? : Answer → Option Nat
  | .size bytes => some bytes
  | _ => none

theorem isUnverifiable_status (limit : Nat) (a : Answer) :
    (a.status limit).isUnverifiable = a.size?.isNone := by
  cases a with
  | size bytes => exact size_isUnverifiable bytes limit
  | unstated | failure _ | late => rfl

theorem isOversized_status (limit : Nat) (a : Answer) :
    (a.status limit).isOversized = a.size?.any (limit < ·) := by
  cases a with
  | size bytes => exact size_isOversized bytes limit
  | unstated | failure _ | late => rfl

/-- What is known of the images that are given up from the start. -/
def givenUp (images : List (Handle × Plan)) : List Status :=
  images.filterMap fun
    | (_, .give why) => some (.unverifiable why)
    | (_, .ask _) => none

variable (probe : Probe) (limit : Nat)

/-- An image is given up from the start, or its server is asked once and what it answers is known. -/
theorem countP_measured (told : Status → Bool) (images : List (Handle × Plan)) :
    (measured probe limit images).countP (told ·.2) =
      (givenUp images).countP told + (requests images).countP fun r => told ((probe r).status limit) := by
  induction images with
  | nil => rfl
  | cons image rest ih =>
    have hcons : measured probe limit (image :: rest) =
        (image.1, statusOf probe limit image.1 image.2) :: measured probe limit rest := rfl
    obtain ⟨node, url | why⟩ := image
    · have hrequests : requests ((node, .ask url) :: rest) = ⟨node, url⟩ :: requests rest := rfl
      rw [hcons, hrequests, List.countP_cons, List.countP_cons, ih, Nat.add_assoc]
      rfl
    · have hgivenUp : givenUp ((node, .give why) :: rest) = .unverifiable why :: givenUp rest := rfl
      rw [hcons, hgivenUp, List.countP_cons, List.countP_cons, ih, Nat.add_right_comm]
      rfl

theorem givenUp_unverifiable {images : List (Handle × Plan)} :
    ∀ status ∈ givenUp images, status.isUnverifiable = true ∧ status.isOversized = false := by
  intro status hmem
  obtain ⟨⟨node, url | why⟩, -, hstatus⟩ := List.mem_filterMap.mp hmem
  · cases hstatus
  · obtain rfl := Option.some.inj hstatus
    exact ⟨rfl, rfl⟩

theorem givenUp_length (sources : List Source) :
    (givenUp (plans resolve sources)).length = sources.countP (isUnasked resolve) := by
  rw [givenUp, plans, List.filterMap_filterMap, List.length_filterMap_eq_countP]
  congr 1
  funext source
  unfold isUnasked request?
  rcases plan resolve source.address with _ | _ | _ <;> rfl

/-- The message counts every image that is not given up by what its server answers. -/
theorem message_of_known {images : List (Handle × Plan)} {known : List (Handle × Status)}
    (hknown : known.Perm (measured probe limit images)) :
    (summary limit known).message =
      message ((requests images).countP fun r => (probe r).size?.isSome)
        ((requests images).countP fun r => (probe r).size?.any (limit < ·))
        ((givenUp images).length + (requests images).countP fun r => (probe r).size?.isNone) limit := by
  have hoversized : (tooLarge known).length =
      (requests images).countP fun r => (probe r).size?.any (limit < ·) := by
    -- An image that is given up has no size, so it adds nothing to those that are too large.
    have hnone : (givenUp images).countP Status.isOversized = 0 := by
      rw [List.countP_eq_zero]
      intro status hmem
      rw [(givenUp_unverifiable status hmem).2]
      decide
    rw [tooLarge_length, hknown.countP_eq, countP_measured probe limit Status.isOversized, hnone,
      Nat.zero_add]
    exact List.countP_congr fun r _ => by rw [isOversized_status]
  have hunverifiable : known.countP (·.2.isUnverifiable) =
      (givenUp images).length + (requests images).countP fun r => (probe r).size?.isNone := by
    have hall : (givenUp images).countP Status.isUnverifiable = (givenUp images).length :=
      List.countP_eq_length.mpr fun status hmem => (givenUp_unverifiable status hmem).1
    rw [hknown.countP_eq, countP_measured probe limit Status.isUnverifiable, hall]
    congr 1
    exact List.countP_congr fun r _ => by rw [isUnverifiable_status]
  have hlength : known.length = (givenUp images).length + (requests images).length := by
    have hcount := countP_measured probe limit (fun _ => true) images
    rw [List.countP_true, List.countP_true, List.countP_true] at hcount
    rw [hknown.length_eq, hcount]
  have hsplit := List.length_eq_countP_add_countP (fun r : Request => (probe r).size?.isSome)
    (l := requests images)
  have hrest : (requests images).countP (fun r => ¬ (probe r).size?.isSome = true) =
      (requests images).countP fun r => (probe r).size?.isNone :=
    List.countP_congr fun r _ => by cases (probe r).size? <;> simp
  rw [summary_message, told, hoversized, hunverifiable, hlength]
  congr 1
  omega

/-- The outcomes of some sources with the requests that were made, one for each order in which their
images can be done. -/
inductive Asks (s : Settings) (sources : List Source) : List Request → Outcome → Prop where
  | nothing (h : plans resolve sources = []) : Asks s sources [] (.pass "No images to check.")
  | all {p : Progress} (h : plans resolve sources ≠ [])
      (hreach : Progress.Reaches s.room probe s.limit (.start (plans resolve sources)) p)
      (hover : p.IsOver) :
    Asks s sources p.asked (summary s.limit p.known)

variable {resolve probe} {s : Settings} {sources : List Source}

theorem concludes_iff_asks {o : Outcome} :
    Concludes resolve s probe sources o ↔ ∃ asked, Asks resolve probe s sources asked o := by
  constructor
  · rintro (h | ⟨h, hreach, hover⟩)
    · exact ⟨_, .nothing h⟩
    · exact ⟨_, .all h hreach hover⟩
  · rintro ⟨_, h | ⟨h, hreach, hover⟩⟩
    · exact .nothing h
    · exact .all h hreach hover

variable (resolve probe) (s : Settings) (sources : List Source)

theorem exists_asks : ∃ asked o, Asks resolve probe s sources asked o := by
  by_cases h : plans resolve sources = []
  · exact ⟨_, _, .nothing h⟩
  · obtain ⟨p, hreach, hover⟩ := Progress.exists_over probe s.limit (room_pos s)
      (.start (plans resolve sources))
    exact ⟨_, _, .all h hreach hover⟩

variable {resolve probe s sources} {asked : List Request} {o : Outcome}

theorem Asks.asked_eq (h : Asks resolve probe s sources asked o) :
    asked = requests (plans resolve sources) := by
  cases h with
  | nothing h =>
    rw [h]
    rfl
  | all h hreach hover =>
    have hasked := (hreach.sound (Progress.sound_start _)).inOrder
    rwa [hover.1, requests, List.filterMap_nil, List.append_nil] at hasked

theorem Asks.message_eq (h : Asks resolve probe s sources asked o)
    (hplans : plans resolve sources ≠ []) :
    o.message = message (asked.countP fun r => (probe r).size?.isSome)
      (asked.countP fun r => (probe r).size?.any (s.limit < ·))
      (sources.countP (isUnasked resolve) + asked.countP fun r => (probe r).size?.isNone) s.limit := by
  have hasked := h.asked_eq
  cases h with
  | nothing hnil => exact absurd hnil hplans
  | all _ hreach hover =>
    have hperm := (hreach.sound (Progress.sound_start _)).known_perm hover
    rw [message_of_known probe s.limit hperm, givenUp_length, hasked]

/-- Whatever bases are and however they are joined, whatever servers answer and in which order, each
source whose plan is to ask makes one request and no other source makes any. What is asked is secure, and
nothing is asked for a source that is empty, embedded or insecure or that cannot be completed. A planned
source that nobody is asked for is among those that could not be verified. -/
theorem asks_once_for_each_source {Base : Type} (parse : String → Option Base)
    (join : Base → String → Option String) (s : Settings) (probe : Probe) (sources : List Source) :
    (∃ asked o, Asks (completed parse join s.base) probe s sources asked o) ∧
    (∀ asked o, Asks (completed parse join s.base) probe s sources asked o →
      asked.Perm (sources.filterMap (request? (completed parse join s.base))) ∧
      (plans (completed parse join s.base) sources ≠ [] →
        o.message = message (asked.countP fun r => (probe r).size?.isSome)
          (asked.countP fun r => (probe r).size?.any (s.limit < ·))
          (sources.countP (isUnasked (completed parse join s.base)) +
            asked.countP fun r => (probe r).size?.isNone) s.limit)) ∧
    (∀ source r, request? (completed parse join s.base) source = some r ↔
      r.node = source.node ∧
        plan (completed parse join s.base) source.address = some (.ask r.url)) ∧
    (∀ source r, request? (completed parse join s.base) source = some r →
      startsWith "https://" r.url = true ∧ ¬ Barred parse join s.base source.address) ∧
    ∀ o, Concludes (resolver s.base) s probe sources o ↔ ∃ asked,
      Asks (completed (fun b => Address.read? b.toList)
        (fun b address => (Address.resolve? (some b) address.toList).map textOf) s.base)
        probe s sources asked o := by
  refine ⟨exists_asks _ _ _ _, ?_, fun source r => request?_eq_some _, ?_, ?_⟩
  · intro asked o h
    refine ⟨?_, h.message_eq⟩
    rw [h.asked_eq, requests_plans]
  · intro source r hrequest
    obtain ⟨-, hplan⟩ := (request?_eq_some _).mp hrequest
    exact ⟨secure_of_plan _ hplan, fun hbarred => plan_ne_ask hbarred hplan⟩
  · intro o
    rw [← resolver_eq_completed]
    exact concludes_iff_asks

example : requests (plans (fun _ => none) [⟨⟨4, "img", 0⟩, "//a/1"⟩, ⟨⟨5, "img", 1⟩, "http://a/2"⟩,
    ⟨⟨6, "img", 2⟩, "3.png"⟩, ⟨⟨7, "img", 3⟩, "https://a/1"⟩]) =
      [⟨⟨4, "img", 0⟩, "https://a/1"⟩, ⟨⟨7, "img", 3⟩, "https://a/1"⟩] := by
  decide

end PageGrader.Image
