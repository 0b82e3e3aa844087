import Mathlib.Algebra.Ring.Int.Defs
import Mathlib.Algebra.Ring.Nat
import Mathlib.Data.List.Nodup
import PageGrader.Settings

namespace PageGrader

namespace Json

/-- What a value gives for a name, if it is a record with these names. -/
def given? (names : List String) (name : String) : Json → Option Json
  | obj fields => (obj fields).field? name
  | arr items => if items.length = names.length then items[names.idxOf name]? else none
  | _ => none

def IsWord (j : Json) : Prop := ∃ i : Int, 0 ≤ i ∧ i < 2 ^ 64 ∧ j = .int i

theorem word?_eq_some_iff {j : Json} {n : Nat} : j.word? = some n ↔ n < 2 ^ 64 ∧ j = .int n := by
  unfold word?
  split
  next m =>
    split
    next h =>
      constructor
      · intro hm
        obtain rfl := Option.some.inj hm
        exact ⟨h, rfl⟩
      · rintro ⟨-, hm⟩
        exact congrArg some (Int.ofNat.inj (Json.int.inj hm))
    next h =>
      refine iff_of_false (by simp) ?_
      rintro ⟨hn, hm⟩
      rw [Int.ofNat.inj (Json.int.inj hm)] at h
      exact h hn
  next h =>
    refine iff_of_false (by simp) ?_
    rintro ⟨-, rfl⟩
    exact h n rfl

theorem isSome_of_bind {α : Type} {given : Option Json} {read : Json → Option α} {a : α}
    (h : given.bind read = some a) : given.isSome = true := by
  obtain ⟨j, hj, -⟩ := Option.bind_eq_some_iff.mp h
  rw [hj]
  rfl

theorem lt_of_bind_word? {given : Option Json} {n : Nat} (h : given.bind word? = some n) :
    n < 2 ^ 64 := by
  obtain ⟨j, -, hj⟩ := Option.bind_eq_some_iff.mp h
  exact (word?_eq_some_iff.mp hj).1

theorem isWord_of_bind {given : Option Json} {j : Json} {n : Nat} (h : given.bind word? = some n)
    (hj : given = some j) : j.IsWord := by
  rw [hj] at h
  obtain ⟨hn, rfl⟩ := word?_eq_some_iff.mp h
  exact ⟨n, Int.natCast_nonneg n, by exact_mod_cast hn, rfl⟩

variable {names : List String} {name : String}

theorem lookup_filter (hname : name ∈ names) (fields : List (String × Json)) :
    (fields.filter fun f => names.contains f.1).lookup name = fields.lookup name := by
  induction fields with
  | nil => rfl
  | cons f rest ih =>
    obtain ⟨key, value⟩ := f
    cases hkey : name == key with
    | true =>
      obtain rfl := eq_of_beq hkey
      simp [hname]
    | false =>
      rw [List.filter_cons, List.lookup_cons, hkey]
      split
      · rw [List.lookup_cons, hkey]
        exact ih
      · exact ih

/-- With all names different, the last field of a name is the only one. -/
theorem lookup_reverse_zip (hnames : names.Nodup) (items : List Json)
    (hlength : items.length = names.length) (name : String) :
    (names.zip items).reverse.lookup name = items[names.idxOf name]? := by
  induction names generalizing items with
  | nil => simp [List.eq_nil_of_length_eq_zero hlength]
  | cons first rest ih =>
    obtain ⟨item, items, rfl⟩ := List.exists_cons_of_length_eq_add_one hlength
    obtain ⟨hfirst, hrest⟩ := List.nodup_cons.mp hnames
    have hlater := ih hrest items (Nat.succ.inj hlength)
    rw [List.zip_cons_cons, List.reverse_cons, List.lookup_append, hlater]
    cases hname : name == first with
    | true =>
      obtain rfl := eq_of_beq hname
      have hnone : items[rest.idxOf name]? = none := by
        rw [List.getElem?_eq_none_iff, List.idxOf_eq_length hfirst]
        exact Nat.le_of_eq (Nat.succ.inj hlength)
      rw [hnone]
      simp
    | false =>
      have hindex : (first :: rest).idxOf name = rest.idxOf name + 1 :=
        List.idxOf_cons_ne rest (Ne.symm (ne_of_beq_false hname))
      rw [hindex]
      simp [List.lookup_cons, hname]

/-- The values of a record are those it gives for its names, in order. -/
theorem record?_eq_some (hnames : names.Nodup) {j : Json} {values : List (Option Json)}
    (h : j.record? names = some values) : values = names.map fun name => j.given? names name := by
  cases j with
  | obj fields => exact (Option.some.inj h).symm
  | arr items =>
    simp only [record?, Option.ite_none_right_eq_some] at h
    obtain ⟨hlength, h⟩ := h
    obtain rfl := Option.some.inj h
    apply List.ext_getElem
    · simp [hlength]
    · intro i hi hi'
      simp only [List.length_map] at hi hi'
      simp [given?, hlength, hnames.idxOf_getElem]
  | null | bool _ | int _ | real _ | str _ => cases h

theorem given?_of_record?_eq_none {j : Json} (h : j.record? names = none) :
    j.given? names name = none := by
  cases j with
  | obj fields => cases h
  | arr items =>
    have hlength : items.length ≠ names.length := by
      intro hlength
      simp [record?, hlength] at h
    exact if_neg hlength
  | null | bool _ | int _ | real _ | str _ => rfl

theorem given?_filter (hname : name ∈ names) (fields : List (String × Json)) :
    (obj (fields.filter fun f => names.contains f.1)).given? names name =
      (obj fields).given? names name := by
  simp only [given?, field?, ← List.filter_reverse]
  exact lookup_filter hname fields.reverse

theorem given?_zip (hnames : names.Nodup) {items : List Json} (hlength : items.length = names.length)
    (name : String) : (obj (names.zip items)).given? names name = (arr items).given? names name := by
  simp only [given?, field?, if_pos hlength]
  exact lookup_reverse_zip hnames items hlength name

/-- What is asked of values of a kind that are kept as records, with the names of their fields, those
that may not be missing and those that stand for words. -/
structure Persists {α : Type} (names required words : List String) (Fits : α → Prop)
    (write : α → Json) (read : Json → Option α) : Prop where
  restores : ∀ a, Fits a → read (write a) = some a
  stable : ∀ j a, read j = some a → read (write a) = some a
  alike : ∀ j k : Json, (∀ name ∈ names, j.given? names name = k.given? names name) → read j = read k
  places : ∀ items, items.length = names.length → read (.arr items) = read (.obj (names.zip items))
  unknown : ∀ fields, read (.obj fields) = read (.obj (fields.filter fun f => names.contains f.1))
  missing : ∀ j, ∀ name ∈ required, j.given? names name = none → read j = none
  notWord : ∀ j, ∀ name ∈ words, ∀ v, j.given? names name = some v → ¬ v.IsWord → read j = none

theorem persists_of_given {α : Type} {names required words : List String} {Fits : α → Prop}
    {write : α → Json} {read : Json → Option α} (hnames : names.Nodup)
    (hrestores : ∀ a, Fits a → read (write a) = some a)
    (hfits : ∀ j a, read j = some a → Fits a)
    (halike : ∀ j k : Json, (∀ name ∈ names, j.given? names name = k.given? names name) →
      read j = read k)
    (hrequired : ∀ j a, read j = some a → ∀ name ∈ required, (j.given? names name).isSome)
    (hwords : ∀ j a, read j = some a → ∀ name ∈ words, ∀ v, j.given? names name = some v →
      v.IsWord) :
    Persists names required words Fits write read where
  restores := hrestores
  stable j a h := hrestores a (hfits j a h)
  alike := halike
  places items hlength := halike _ _ fun name _ => (given?_zip hnames hlength name).symm
  unknown fields := halike _ _ fun _ hname => (given?_filter hname fields).symm
  missing j name hname hnone := by
    rw [Option.eq_none_iff_forall_ne_some]
    intro a ha
    have hsome := hrequired j a ha name hname
    rw [hnone] at hsome
    cases hsome
  notWord j name hname v hv hword := by
    rw [Option.eq_none_iff_forall_ne_some]
    intro a ha
    exact hword (hwords j a ha name hname v hv)

end Json

namespace Settings

theorem nodup_names : names.Nodup := by decide

/-- Settings are read from a value just if it gives each of them, the base at will. -/
theorem ofJson?_eq_some_iff {j : Json} {s : Settings} :
    ofJson? j = some s ↔
      (j.given? names "max_image_bytes").bind Json.word? = some s.limit ∧
      (j.given? names "probe_timeout").bind Json.word? = some s.patience ∧
      (j.given? names "probe_concurrency").bind Json.word? = some s.concurrency ∧
      (j.given? names "check_image_sizes").bind Json.bool? = some s.measures ∧
      Json.optional? Json.str? (j.given? names "base_url") = some s.base := by
  cases hrecord : j.record? names with
  | none =>
    have hlimit : j.given? names "max_image_bytes" = none := Json.given?_of_record?_eq_none hrecord
    simp [ofJson?, hrecord, hlimit]
  | some values =>
    obtain rfl := Json.record?_eq_some nodup_names hrecord
    have hnames : (names.map fun name => j.given? names name) =
        [j.given? names "max_image_bytes", j.given? names "probe_timeout",
          j.given? names "probe_concurrency", j.given? names "check_image_sizes",
          j.given? names "base_url"] := rfl
    rw [ofJson?, hrecord, hnames]
    simp only [Option.bind_eq_bind, ← Option.bind_assoc, Option.bind_eq_some_iff]
    constructor
    · rintro ⟨limit, hlimit, patience, hpatience, concurrency, hconcurrency, measures, hmeasures, base,
        hbase, hs⟩
      obtain rfl := Option.some.inj hs
      exact ⟨hlimit, hpatience, hconcurrency, hmeasures, hbase⟩
    · rintro ⟨hlimit, hpatience, hconcurrency, hmeasures, hbase⟩
      exact ⟨_, hlimit, _, hpatience, _, hconcurrency, _, hmeasures, _, hbase, rfl⟩

def Fits (s : Settings) : Prop := s.limit < 2 ^ 64 ∧ s.patience < 2 ^ 64 ∧ s.concurrency < 2 ^ 64

theorem ofJson?_toJson {s : Settings} (h : s.Fits) : ofJson? s.toJson = some s := by
  obtain ⟨hlimit, hpatience, hconcurrency⟩ := h
  obtain ⟨limit, patience, concurrency, measures, base⟩ := s
  rw [ofJson?_eq_some_iff]
  refine ⟨?_, ?_, ?_, rfl, ?_⟩
  · exact Json.word?_eq_some_iff.mpr ⟨hlimit, rfl⟩
  · exact Json.word?_eq_some_iff.mpr ⟨hpatience, rfl⟩
  · exact Json.word?_eq_some_iff.mpr ⟨hconcurrency, rfl⟩
  · cases base with
    | none => rfl
    | some base => rfl

variable {j k : Json} {s : Settings}

theorem fits_of_ofJson? (h : ofJson? j = some s) : s.Fits := by
  obtain ⟨hlimit, hpatience, hconcurrency, -⟩ := ofJson?_eq_some_iff.mp h
  exact ⟨Json.lt_of_bind_word? hlimit, Json.lt_of_bind_word? hpatience,
    Json.lt_of_bind_word? hconcurrency⟩

theorem ofJson?_congr (h : ∀ name ∈ names, j.given? names name = k.given? names name) :
    ofJson? j = ofJson? k := by
  apply Option.ext
  intro s
  simp only [names, List.forall_mem_cons] at h
  obtain ⟨hlimit, hpatience, hconcurrency, hmeasures, hbase, -⟩ := h
  rw [ofJson?_eq_some_iff, ofJson?_eq_some_iff]
  unfold names
  rw [hlimit, hpatience, hconcurrency, hmeasures, hbase]

def required : List String :=
  ["max_image_bytes", "probe_timeout", "probe_concurrency", "check_image_sizes"]

def words : List String := ["max_image_bytes", "probe_timeout", "probe_concurrency"]

theorem given_of_ofJson? (h : ofJson? j = some s) :
    ∀ name ∈ required, (j.given? names name).isSome = true := by
  obtain ⟨hlimit, hpatience, hconcurrency, hmeasures, -⟩ := ofJson?_eq_some_iff.mp h
  simp only [required, List.forall_mem_cons]
  exact ⟨Json.isSome_of_bind hlimit, Json.isSome_of_bind hpatience, Json.isSome_of_bind hconcurrency,
    Json.isSome_of_bind hmeasures, List.forall_mem_nil _⟩

theorem isWord_of_ofJson? (h : ofJson? j = some s) :
    ∀ name ∈ words, ∀ v, j.given? names name = some v → v.IsWord := by
  obtain ⟨hlimit, hpatience, hconcurrency, -⟩ := ofJson?_eq_some_iff.mp h
  simp only [words, List.forall_mem_cons]
  exact ⟨fun _ => Json.isWord_of_bind hlimit, fun _ => Json.isWord_of_bind hpatience,
    fun _ => Json.isWord_of_bind hconcurrency, List.forall_mem_nil _⟩

theorem persists : Json.Persists names required words Fits toJson ofJson? :=
  Json.persists_of_given nodup_names (fun _ => ofJson?_toJson) (fun _ _ => fits_of_ofJson?)
    (fun _ _ => ofJson?_congr) (fun _ _ => given_of_ofJson?) (fun _ _ => isWord_of_ofJson?)

end Settings

namespace Handle

variable {j k : Json} {h : Handle}

theorem nodup_names : names.Nodup := by decide

theorem ofJson?_eq_some_iff :
    ofJson? j = some h ↔
      (j.given? names "index").bind Json.word? = some h.index ∧
      (j.given? names "tag").bind Json.str? = some h.tag ∧
      (j.given? names "occurrence").bind Json.word? = some h.occurrence := by
  cases hrecord : j.record? names with
  | none =>
    have hindex : j.given? names "index" = none := Json.given?_of_record?_eq_none hrecord
    simp [ofJson?, hrecord, hindex]
  | some values =>
    obtain rfl := Json.record?_eq_some nodup_names hrecord
    have hnames : (names.map fun name => j.given? names name) =
        [j.given? names "index", j.given? names "tag", j.given? names "occurrence"] := rfl
    rw [ofJson?, hrecord, hnames]
    simp only [Option.bind_eq_bind, ← Option.bind_assoc, Option.bind_eq_some_iff]
    constructor
    · rintro ⟨index, hindex, tag, htag, occurrence, hoccurrence, hh⟩
      obtain rfl := Option.some.inj hh
      exact ⟨hindex, htag, hoccurrence⟩
    · rintro ⟨hindex, htag, hoccurrence⟩
      exact ⟨_, hindex, _, htag, _, hoccurrence, rfl⟩

def Fits (h : Handle) : Prop := h.index < 2 ^ 64 ∧ h.occurrence < 2 ^ 64

theorem ofJson?_toJson (hfits : h.Fits) : ofJson? h.toJson = some h := by
  rw [ofJson?_eq_some_iff]
  refine ⟨?_, rfl, ?_⟩
  · exact Json.word?_eq_some_iff.mpr ⟨hfits.1, rfl⟩
  · exact Json.word?_eq_some_iff.mpr ⟨hfits.2, rfl⟩

theorem fits_of_ofJson? (hj : ofJson? j = some h) : h.Fits := by
  obtain ⟨hindex, -, hoccurrence⟩ := ofJson?_eq_some_iff.mp hj
  exact ⟨Json.lt_of_bind_word? hindex, Json.lt_of_bind_word? hoccurrence⟩

theorem ofJson?_congr (hj : ∀ name ∈ names, j.given? names name = k.given? names name) :
    ofJson? j = ofJson? k := by
  apply Option.ext
  intro h
  simp only [names, List.forall_mem_cons] at hj
  obtain ⟨hindex, htag, hoccurrence, -⟩ := hj
  rw [ofJson?_eq_some_iff, ofJson?_eq_some_iff]
  unfold names
  rw [hindex, htag, hoccurrence]

def words : List String := ["index", "occurrence"]

theorem given_of_ofJson? (hj : ofJson? j = some h) :
    ∀ name ∈ names, (j.given? names name).isSome = true := by
  obtain ⟨hindex, htag, hoccurrence⟩ := ofJson?_eq_some_iff.mp hj
  simp only [names, List.forall_mem_cons]
  exact ⟨Json.isSome_of_bind hindex, Json.isSome_of_bind htag, Json.isSome_of_bind hoccurrence,
    List.forall_mem_nil _⟩

theorem isWord_of_ofJson? (hj : ofJson? j = some h) :
    ∀ name ∈ words, ∀ v, j.given? names name = some v → v.IsWord := by
  obtain ⟨hindex, -, hoccurrence⟩ := ofJson?_eq_some_iff.mp hj
  simp only [words, List.forall_mem_cons]
  exact ⟨fun _ => Json.isWord_of_bind hindex, fun _ => Json.isWord_of_bind hoccurrence,
    List.forall_mem_nil _⟩

theorem persists : Json.Persists names names words Fits toJson ofJson? :=
  Json.persists_of_given nodup_names (fun _ => ofJson?_toJson) (fun _ _ => fits_of_ofJson?)
    (fun _ _ => ofJson?_congr) (fun _ _ => given_of_ofJson?) (fun _ _ => isWord_of_ofJson?)

end Handle

/-- Settings and handles whose numbers are words are the same once written and read, and what is read
from any value is. All fields in order are as good as the fields by their names, and fields with other
names count for nothing; but a field that is missing and has to be there, or a number that is no word,
and nothing is read. -/
theorem settings_and_handles_persist :
    Json.Persists Settings.names Settings.required Settings.words Settings.Fits Settings.toJson
      Settings.ofJson? ∧
    Json.Persists Handle.names Handle.names Handle.words Handle.Fits Handle.toJson Handle.ofJson? :=
  ⟨Settings.persists, Handle.persists⟩

example : Settings.ofJson? (.arr [.int 512000, .int 10, .int 8, .bool true, .null]) =
    some {} := rfl

end PageGrader
