import TypedRecord.Key

/-!
# TypedRecord.Entries

Ordered mappings, as lists of entries.

The list is the order in which keys were first entered. Writing to a key that is already there keeps
the key object and its place and changes only the value; a new key goes to the end.

* `Entries.find?`, `Entries.has` read, `Entries.put` writes, `Entries.erase` removes.
* `Entries.putAll` enters a whole mapping, entry by entry.
* `Named.ofList` does the same for entries under names.
-/

namespace TypedRecord

/-- An ordered mapping. -/
abbrev Entries (α : Type) := List (Key × α)

namespace Entries

variable {α : Type}

/-- The value at a key. -/
def find? (key : Key) : Entries α → Option α
  | [] => none
  | (k, v) :: rest => if k.same key then some v else find? key rest

/-- Whether a key is there. -/
def has (key : Key) (es : Entries α) : Bool := (find? key es).isSome

/-- The keys in order. -/
def keys (es : Entries α) : List Key := es.map Prod.fst

/-- The mapping with a value written to a key. -/
def put (key : Key) (value : α) : Entries α → Entries α
  | [] => [(key, value)]
  | (k, v) :: rest => if k.same key then (k, value) :: rest else (k, v) :: put key value rest

/-- The mapping without a key. -/
def erase (key : Key) : Entries α → Entries α
  | [] => []
  | (k, v) :: rest => if k.same key then rest else (k, v) :: erase key rest

/-- All entries of `more` written into `es`, in their order. -/
def putAll (es more : Entries α) : Entries α := more.foldl (fun acc e => acc.put e.1 e.2) es

/-- The mapping that a sequence of entries spells: of a repeated key the first place and the last
value count. -/
def ofList (es : List (Key × α)) : Entries α := putAll [] es

/-- The mapping without the entries of a key that is left out of sight. -/
def without (key : Key) (es : Entries α) : Entries α := es.filter fun e => !e.1.same key

@[simp] theorem find?_nil (key : Key) : find? key ([] : Entries α) = none := rfl

@[simp] theorem find?_cons (key k : Key) (v : α) (rest : Entries α) :
    find? key ((k, v) :: rest) = if k.same key then some v else find? key rest := rfl

@[simp] theorem has_nil (key : Key) : has key ([] : Entries α) = false := rfl

theorem has_cons (key k : Key) (v : α) (rest : Entries α) :
    has key ((k, v) :: rest) = (k.same key || has key rest) := by
  simp only [has, find?_cons]
  by_cases h : k.same key = true <;> simp [h]

@[simp] theorem find?_put_self (key : Key) (value : α) (es : Entries α) :
    find? key (put key value es) = some value := by
  induction es with
  | nil => simp [put]
  | cons e rest ih =>
    obtain ⟨k, v⟩ := e
    by_cases h : k.same key = true <;> simp [put, h, ih]

/-- What has been written to is not empty. -/
theorem put_ne_nil (key : Key) (value : α) (es : Entries α) : put key value es ≠ [] := by
  intro hnil
  have hfind := find?_put_self key value es
  rw [hnil] at hfind
  cases hfind

/-- Writing to one key leaves the others as they were. -/
theorem find?_put_of_ne {key other : Key} (h : key.same other = false) (value : α)
    (es : Entries α) : find? other (put key value es) = find? other es := by
  induction es with
  | nil => simp [put, h]
  | cons e rest ih =>
    obtain ⟨k, v⟩ := e
    by_cases hk : k.same key = true
    · have : k.same other = false := by rw [Key.same_congr hk]; exact h
      simp [put, hk, this]
    · simp [put, hk, ih]

@[simp] theorem has_put_self (key : Key) (value : α) (es : Entries α) :
    has key (put key value es) = true := by simp [has]

/-- Writing to a key that is there keeps the keys and their order. -/
theorem keys_put_of_has {key : Key} {es : Entries α} (h : has key es = true) (value : α) :
    keys (put key value es) = keys es := by
  induction es with
  | nil => simp at h
  | cons e rest ih =>
    obtain ⟨k, v⟩ := e
    by_cases hk : k.same key = true
    · simp [put, keys, hk]
    · rw [has_cons] at h
      simp only [hk, Bool.false_or] at h
      have := ih h
      simp only [keys] at this
      simp [put, keys, hk, this]

/-- Writing to a new key appends it. -/
theorem put_of_not_has {key : Key} {es : Entries α} (h : has key es = false) (value : α) :
    put key value es = es ++ [(key, value)] := by
  induction es with
  | nil => rfl
  | cons e rest ih =>
    obtain ⟨k, v⟩ := e
    rw [has_cons] at h
    simp only [Bool.or_eq_false_iff] at h
    simp [put, h.1, ih h.2]

/-- What is found at a key is found at every key that is the same. -/
theorem find?_congr {key other : Key} (h : key.same other = true) (es : Entries α) :
    find? key es = find? other es := by
  induction es with
  | nil => rfl
  | cons e rest ih =>
    obtain ⟨k, v⟩ := e
    have : k.same key = k.same other := by
      rw [Key.same_comm k key, Key.same_comm k other]
      exact Key.same_congr h k
    simp [this, ih]

/-- What is found is the value of an entry. -/
theorem exists_mem_of_find? {key : Key} {es : Entries α} {v : α} (h : find? key es = some v) :
    ∃ k, (k, v) ∈ es ∧ k.same key = true := by
  induction es with
  | nil => simp at h
  | cons e rest ih =>
    obtain ⟨k, w⟩ := e
    by_cases hk : k.same key = true
    · simp only [find?_cons, hk, if_true, Option.some.injEq] at h
      exact ⟨k, by simp [h], hk⟩
    · simp only [find?_cons, hk, if_false, Bool.false_eq_true] at h
      obtain ⟨k', hmem, hsame⟩ := ih h
      exact ⟨k', List.mem_cons_of_mem _ hmem, hsame⟩

/-- A key is there exactly when one of the keys is the same. -/
theorem has_iff {key : Key} {es : Entries α} :
    has key es = true ↔ ∃ k ∈ keys es, k.same key = true := by
  induction es with
  | nil => simp [keys]
  | cons e rest ih =>
    obtain ⟨k, v⟩ := e
    rw [has_cons, Bool.or_eq_true, ih]
    simp [keys]

/-- Mappings with the same keys have the same keys. -/
theorem has_of_keys_eq {β : Type} {es : Entries α} {fs : Entries β} (h : keys es = keys fs)
    (key : Key) : has key es = has key fs := by
  rw [Bool.eq_iff_iff, has_iff, has_iff, h]

/-- Of two writes to keys that are the same the second counts, under the first of the keys. -/
theorem put_put_same {key other : Key} (h : key.same other = true) (v w : α) (es : Entries α) :
    put other v (put key w es) = put key v es := by
  induction es with
  | nil => simp [put, h]
  | cons e rest ih =>
    obtain ⟨k, u⟩ := e
    have hother : k.same other = k.same key := by
      rw [Key.same_comm k other, Key.same_comm k key]
      exact (Key.same_congr h k).symm
    by_cases hk : k.same key = true <;> simp [put, hother, hk, ih]

/-- Of two writes to one key the second counts. -/
theorem put_put_self (key : Key) (v w : α) (es : Entries α) :
    put key v (put key w es) = put key v es := put_put_same (Key.same_refl key) v w es

/-- Two keys may be written in either order if one of them is there. -/
theorem put_comm {key other : Key} (hne : key.same other = false) {es : Entries α}
    (h : has key es = true) (v w : α) :
    put key v (put other w es) = put other w (put key v es) := by
  induction es with
  | nil => cases h
  | cons e rest ih =>
    obtain ⟨k, u⟩ := e
    by_cases hk : k.same key = true
    · have hother : k.same other = false := by rw [Key.same_congr hk]; exact hne
      simp [put, hk, hother]
    · rw [has_cons] at h
      simp only [hk, Bool.false_or] at h
      by_cases hother : k.same other = true <;> simp [put, hk, hother, ih h]

/-- Writing what is there changes nothing. -/
theorem put_of_find? {key : Key} {es : Entries α} {v : α} (h : find? key es = some v) :
    put key v es = es := by
  induction es with
  | nil => simp at h
  | cons e rest ih =>
    obtain ⟨k, w⟩ := e
    by_cases hk : k.same key = true
    · simp only [find?_cons, hk, if_true, Option.some.injEq] at h
      simp [put, hk, h]
    · simp only [find?_cons, hk, if_false, Bool.false_eq_true] at h
      simp [put, hk, ih h]

/-- Removing a key that has just been entered. -/
theorem erase_put_of_find? {key : Key} {es : Entries α} (h : find? key es = none) (v : α) :
    erase key (put key v es) = es := by
  induction es with
  | nil => simp [put, erase]
  | cons e rest ih =>
    obtain ⟨k, w⟩ := e
    by_cases hk : k.same key = true
    · simp [hk] at h
    · simp only [find?_cons, hk, if_false, Bool.false_eq_true] at h
      simp [put, erase, hk, ih h]

/-! ### Leaving a key out of sight -/

theorem mem_without {key : Key} {es : Entries α} {e : Key × α} :
    e ∈ without key es ↔ e ∈ es ∧ e.1.same key = false := by
  simp [without]

/-- The key that is left out is not found. -/
theorem find?_without_same {key other : Key} (h : key.same other = true) (es : Entries α) :
    find? other (without key es) = none := by
  cases hfind : find? other (without key es) with
  | none => rfl
  | some v =>
    obtain ⟨k, hmem, hk⟩ := exists_mem_of_find? hfind
    have hout : k.same key = false := (mem_without.mp hmem).2
    rw [Key.same_comm] at h
    rw [Key.same_trans hk h] at hout
    exact absurd hout (by simp)

/-- All other keys are found as they were. -/
theorem find?_without_of_ne {key other : Key} (h : key.same other = false) (es : Entries α) :
    find? other (without key es) = find? other es := by
  induction es with
  | nil => rfl
  | cons e rest ih =>
    obtain ⟨k, v⟩ := e
    by_cases hk : k.same key = true
    · have : k.same other = false := by rw [Key.same_congr hk]; exact h
      simpa [without, hk, this] using ih
    · simp only [without] at ih
      simp [without, hk, ih]

/-- Writing to the key that is left out does not show. -/
theorem without_put_same {key field : Key} (h : field.same key = true) (v : α) (es : Entries α) :
    without key (put field v es) = without key es := by
  induction es with
  | nil => simp [put, without, h]
  | cons e rest ih =>
    obtain ⟨k, w⟩ := e
    simp only [without] at ih
    by_cases hk : k.same field = true
    · have : k.same key = true := Key.same_trans hk h
      simp [put, without, hk, this]
    · by_cases hkey : k.same key = true <;> simp [put, without, hk, hkey, ih]

/-- Writing to another key shows. -/
theorem without_put_of_ne {key field : Key} (h : field.same key = false) (v : α) (es : Entries α) :
    without key (put field v es) = put field v (without key es) := by
  induction es with
  | nil => simp [put, without, h]
  | cons e rest ih =>
    obtain ⟨k, w⟩ := e
    simp only [without] at ih
    by_cases hk : k.same field = true
    · have : k.same key = false := by rw [Key.same_congr hk]; exact h
      simp [put, without, hk, this]
    · by_cases hkey : k.same key = true <;> simp [put, without, hk, hkey, ih]

/-- Removing another key shows. -/
theorem without_erase_of_ne {key field : Key} (h : field.same key = false) (es : Entries α) :
    without key (erase field es) = erase field (without key es) := by
  induction es with
  | nil => rfl
  | cons e rest ih =>
    obtain ⟨k, w⟩ := e
    simp only [without] at ih
    by_cases hk : k.same field = true
    · have : k.same key = false := by rw [Key.same_congr hk]; exact h
      simp [erase, without, hk, this]
    · by_cases hkey : k.same key = true <;> simp [erase, without, hk, hkey, ih]

/-- Removing the key that is left out does not show. -/
theorem without_erase_same {key field : Key} (h : field.same key = true) (es : Entries α) :
    without key (erase field es) = without key es := by
  induction es with
  | nil => rfl
  | cons e rest ih =>
    obtain ⟨k, w⟩ := e
    simp only [without] at ih
    by_cases hk : k.same field = true
    · have : k.same key = true := Key.same_trans hk h
      simp [erase, without, hk, this]
    · by_cases hkey : k.same key = true <;> simp [erase, without, hk, hkey, ih]

/-! ### Mappings with one entry a key -/

/-- No two entries have the same key. -/
def Distinct (es : Entries α) : Prop := es.Pairwise fun e f => e.1.same f.1 = false

/-- Where no two entries have the same key, every entry is found. -/
theorem Distinct.find?_of_mem {es : Entries α} (hdistinct : Distinct es) {k key : Key} {v : α}
    (hmem : (k, v) ∈ es) (hsame : k.same key = true) : find? key es = some v := by
  induction es with
  | nil => simp at hmem
  | cons e rest ih =>
    obtain ⟨k', w⟩ := e
    obtain ⟨hhead, htail⟩ := List.pairwise_cons.mp hdistinct
    rcases List.mem_cons.mp hmem with heq | hrest
    · obtain ⟨rfl, rfl⟩ := Prod.mk.inj heq
      simp [hsame]
    · have hne : k'.same key = false := by
        have := hhead _ hrest
        rw [Key.same_comm k' k] at this
        rw [Key.same_comm, ← Key.same_congr hsame, this]
      simp [hne, ih htail hrest]

/-- Where no two entries have the same key, entries of the same key are one. -/
theorem Distinct.eq_of_same {es : Entries α} (hdistinct : Distinct es) {e f : Key × α} (he : e ∈ es)
    (hf : f ∈ es) (hsame : e.1.same f.1 = true) : e = f := by
  induction es with
  | nil => cases he
  | cons first rest ih =>
    obtain ⟨hfirst, hrest⟩ := List.pairwise_cons.mp hdistinct
    rcases List.mem_cons.mp he with rfl | he' <;> rcases List.mem_cons.mp hf with rfl | hf'
    · rfl
    · rw [hfirst f hf'] at hsame
      cases hsame
    · rw [Key.same_comm, hfirst e he'] at hsame
      cases hsame
    · exact ih hrest he' hf'

/-- Where no two entries have the same key, the order of the entries makes no difference. -/
theorem Distinct.find?_of_perm {es fs : Entries α} (hdistinct : Distinct es) (hperm : es.Perm fs)
    (key : Key) : find? key es = find? key fs := by
  have hother : Distinct fs :=
    hperm.pairwise hdistinct fun {e f} (h : e.1.same f.1 = false) => by rwa [Key.same_comm]
  refine Option.ext fun v => ⟨fun h => ?_, fun h => ?_⟩
  · obtain ⟨k, hmem, hsame⟩ := exists_mem_of_find? h
    exact hother.find?_of_mem (hperm.mem_iff.mp hmem) hsame
  · obtain ⟨k, hmem, hsame⟩ := exists_mem_of_find? h
    exact hdistinct.find?_of_mem (hperm.mem_iff.mpr hmem) hsame

/-- Whether entries are distinct depends on their keys only. -/
theorem Distinct.of_keys_eq {β : Type} {es : Entries α} {fs : Entries β} (h : keys es = keys fs)
    (hdistinct : Distinct es) : Distinct fs := by
  have hkeys : (keys es).Pairwise fun k l => k.same l = false := List.pairwise_map.mpr hdistinct
  rw [h] at hkeys
  exact List.pairwise_map.mp hkeys

/-- Writing keeps entries distinct, since it enters no key that is there. -/
theorem Distinct.put {es : Entries α} (hdistinct : Distinct es) (key : Key) (value : α) :
    Distinct (put key value es) := by
  cases hkey : has key es with
  | true => exact hdistinct.of_keys_eq (keys_put_of_has hkey value).symm
  | false =>
    rw [put_of_not_has hkey]
    refine List.pairwise_append.mpr ⟨hdistinct, List.pairwise_singleton _ _, ?_⟩
    intro e he f hf
    obtain rfl := List.mem_singleton.mp hf
    cases hsame : e.1.same key with
    | false => rfl
    | true =>
      have hhas : has key es = true := has_iff.mpr ⟨e.1, List.mem_map_of_mem he, hsame⟩
      rw [hkey] at hhas
      cases hhas

theorem Distinct.putAll {es : Entries α} (hdistinct : Distinct es) (more : Entries α) :
    Distinct (putAll es more) := by
  induction more generalizing es with
  | nil => exact hdistinct
  | cons e rest ih => exact ih (hdistinct.put e.1 e.2)

theorem Distinct.without {es : Entries α} (hdistinct : Distinct es) (key : Key) :
    Distinct (without key es) := List.Pairwise.filter _ hdistinct

/-- Where no two entries have the same key, a key that is removed is gone. -/
theorem Distinct.erase_eq_without {es : Entries α} (hdistinct : Distinct es) (key : Key) :
    erase key es = Entries.without key es := by
  induction es with
  | nil => rfl
  | cons e rest ih =>
    obtain ⟨k, v⟩ := e
    obtain ⟨hhead, htail⟩ := List.pairwise_cons.mp hdistinct
    cases hk : k.same key with
    | true =>
      have hrest : rest.filter (fun f => !f.1.same key) = rest := by
        refine List.filter_eq_self.mpr fun f hf => ?_
        rw [Key.same_comm, ← Key.same_congr hk, hhead f hf]
        rfl
      simp [erase, Entries.without, hk, hrest]
    | false =>
      have hrest := ih htail
      simp only [Entries.without] at hrest
      simp [erase, Entries.without, hk, hrest]

theorem keys_without (key : Key) (es : Entries α) :
    keys (without key es) = (keys es).filter fun k => !k.same key := by
  unfold keys without
  rw [List.filter_map]
  rfl

/-! ### All that is under a key -/

/-- All values under a key. Of these the first is found; if the entries are distinct there is one at
most. -/
def under (key : Key) (es : Entries α) : List α := (es.filter fun e => e.1.same key).map Prod.snd

theorem find?_eq_head?_under (key : Key) (es : Entries α) : find? key es = (under key es).head? := by
  induction es with
  | nil => rfl
  | cons e rest ih =>
    obtain ⟨k, v⟩ := e
    cases hk : k.same key <;> simp [under, hk, ih]

theorem under_eq_nil_iff {key : Key} {es : Entries α} : under key es = [] ↔ has key es = false := by
  rw [has, find?_eq_head?_under]
  simp

/-- A value that is written takes the place of the first one. -/
theorem under_put_same (key : Key) (v : α) (es : Entries α) :
    under key (put key v es) = v :: (under key es).tail := by
  induction es with
  | nil => simp [put, under]
  | cons e rest ih =>
    obtain ⟨k, w⟩ := e
    simp only [under] at ih
    cases hk : k.same key <;> simp [put, under, hk, ih]

theorem under_erase_same (key : Key) (es : Entries α) :
    under key (erase key es) = (under key es).tail := by
  induction es with
  | nil => rfl
  | cons e rest ih =>
    obtain ⟨k, w⟩ := e
    simp only [under] at ih
    cases hk : k.same key <;> simp [erase, under, hk, ih]

/-- Writing to another key leaves all that is there. -/
theorem under_put_of_ne {key field : Key} (h : field.same key = false) (v : α) (es : Entries α) :
    under key (put field v es) = under key es := by
  induction es with
  | nil => simp [put, under, h]
  | cons e rest ih =>
    obtain ⟨k, w⟩ := e
    simp only [under] at ih
    cases hk : k.same field with
    | true =>
      have hkey : k.same key = false := by rw [Key.same_congr hk]; exact h
      simp [put, under, hk, hkey]
    | false => cases hkey : k.same key <;> simp [put, under, hk, hkey, ih]

/-! ### Entering a whole mapping -/

@[simp] theorem putAll_nil (es : Entries α) : putAll es [] = es := rfl

@[simp] theorem putAll_cons (es : Entries α) (e : Key × α) (more : Entries α) :
    putAll es (e :: more) = putAll (es.put e.1 e.2) more := rfl

theorem putAll_append (es more further : Entries α) :
    putAll es (more ++ further) = putAll (putAll es more) further := List.foldl_append

/-- What holds of all keys and of all values holds of them after one more is written. -/
theorem forall_mem_put {P : Key → Prop} {Q : α → Prop} {es : Entries α}
    (h : ∀ e ∈ es, P e.1 ∧ Q e.2) {key : Key} {value : α} (hkey : P key) (hvalue : Q value) :
    ∀ e ∈ put key value es, P e.1 ∧ Q e.2 := by
  induction es with
  | nil => exact List.forall_mem_singleton.mpr ⟨hkey, hvalue⟩
  | cons e rest ih =>
    obtain ⟨k, v⟩ := e
    obtain ⟨hfirst, hrest⟩ := List.forall_mem_cons.mp h
    by_cases hsame : k.same key = true
    · rw [put, if_pos hsame]
      exact List.forall_mem_cons.mpr ⟨⟨hfirst.1, hvalue⟩, hrest⟩
    · rw [put, if_neg hsame]
      exact List.forall_mem_cons.mpr ⟨hfirst, ih hrest⟩

theorem forall_mem_putAll {P : Key → Prop} {Q : α → Prop} {es more : Entries α}
    (h : ∀ e ∈ es, P e.1 ∧ Q e.2) (hmore : ∀ e ∈ more, P e.1 ∧ Q e.2) :
    ∀ e ∈ putAll es more, P e.1 ∧ Q e.2 := by
  induction more generalizing es with
  | nil => exact h
  | cons e rest ih =>
    obtain ⟨hfirst, hrest⟩ := List.forall_mem_cons.mp hmore
    exact ih (forall_mem_put h hfirst.1 hfirst.2) hrest

theorem find?_append (key : Key) (es fs : Entries α) :
    find? key (es ++ fs) = (find? key es).or (find? key fs) := by
  induction es with
  | nil => rfl
  | cons e rest ih =>
    obtain ⟨k, v⟩ := e
    by_cases h : k.same key = true <;> simp [h, ih]

/-- Entries of new and distinct keys are appended. -/
theorem putAll_of_distinct {es more : Entries α} (hdistinct : Distinct more)
    (hnew : ∀ e ∈ more, has e.1 es = false) : putAll es more = es ++ more := by
  induction more generalizing es with
  | nil => simp
  | cons e rest ih =>
    obtain ⟨k, v⟩ := e
    obtain ⟨hfirst, hrest⟩ := List.pairwise_cons.mp hdistinct
    obtain ⟨hk, hnews⟩ := List.forall_mem_cons.mp hnew
    have hstill : ∀ f ∈ rest, has f.1 (es ++ [(k, v)]) = false := by
      intro f hf
      have hes : find? f.1 es = none := by simpa [has] using hnews f hf
      simp [has, find?_append, hes, hfirst f hf]
    rw [putAll_cons, put_of_not_has hk, ih hrest hstill, List.append_assoc]
    rfl

theorem find?_put (key other : Key) (v : α) (es : Entries α) :
    find? other (put key v es) = if key.same other then some v else find? other es := by
  cases h : key.same other with
  | true => rw [if_pos rfl, ← find?_congr h, find?_put_self]
  | false => rw [if_neg (by simp), find?_put_of_ne h]

/-- Of the values that are written to a key the last one is found; where none is written, the one that
was there. -/
theorem find?_putAll (key : Key) (es more : Entries α) :
    find? key (putAll es more) = (find? key more.reverse).or (find? key es) := by
  induction more generalizing es with
  | nil => rfl
  | cons e rest ih =>
    obtain ⟨k, v⟩ := e
    rw [putAll_cons, ih, find?_put, List.reverse_cons, find?_append, find?_cons, find?_nil]
    cases find? key rest.reverse <;> cases k.same key <;> rfl

/-- The keys that are not among those that are known, each where it comes first. -/
def newKeys (known : List Key) : List Key → List Key
  | [] => []
  | k :: ks =>
    if known.any fun l => l.same k then newKeys known ks else k :: newKeys (known ++ [k]) ks

/-- The keys that are there stay in their places, and new ones follow in the order in which they are
first written. -/
theorem keys_putAll (es more : Entries α) :
    keys (putAll es more) = keys es ++ newKeys (keys es) (keys more) := by
  induction more generalizing es with
  | nil => simp [keys, newKeys]
  | cons e rest ih =>
    obtain ⟨k, v⟩ := e
    have hany : ((keys es).any fun l => l.same k) = has k es := by
      rw [Bool.eq_iff_iff, has_iff, List.any_eq_true]
    have hcons : keys ((k, v) :: rest) = k :: keys rest := rfl
    rw [putAll_cons, ih, hcons, newKeys, hany]
    cases hk : has k es with
    | true => rw [keys_put_of_has hk, if_pos rfl]
    | false =>
      have hput : keys (put k v es) = keys es ++ [k] := by simp [put_of_not_has hk, keys]
      rw [hput, if_neg (by simp), List.append_assoc]
      rfl

theorem newKeys_of_distinct {ks : List Key} (h : ks.Pairwise fun k l => k.same l = false)
    (known : List Key) :
    newKeys known ks = ks.filter fun k => !known.any fun l => l.same k := by
  induction ks generalizing known with
  | nil => rfl
  | cons k ks ih =>
    obtain ⟨hk, hks⟩ := List.pairwise_cons.mp h
    rw [newKeys, ih hks, ih hks, List.filter_cons]
    cases hany : known.any fun l => l.same k with
    | true => simp
    | false =>
      -- The first key is not the same as any of the others, so for them it does not count.
      have hrest : (ks.filter fun m => !(known ++ [k]).any fun l => l.same m) =
          ks.filter fun m => !known.any fun l => l.same m :=
        List.filter_congr fun m hm => by simp [hk m hm]
      rw [hrest]
      simp

/-- Where no key is written twice, the new keys follow in the order in which they are written. -/
theorem keys_putAll_of_distinct {more : Entries α} (hdistinct : Distinct more) (es : Entries α) :
    keys (putAll es more) = keys es ++ (keys more).filter fun k => !has k es := by
  have hkeys : (keys more).Pairwise fun k l => k.same l = false := List.pairwise_map.mpr hdistinct
  rw [keys_putAll, newKeys_of_distinct hkeys]
  congr 1
  refine List.filter_congr fun k _ => congrArg not ?_
  rw [Bool.eq_iff_iff, has_iff, List.any_eq_true]

/-- Where no key is written twice, what is written to a key is found there. -/
theorem find?_putAll_of_distinct {more : Entries α} (hdistinct : Distinct more) (key : Key)
    (es : Entries α) : find? key (putAll es more) = (find? key more).or (find? key es) := by
  induction more generalizing es with
  | nil => rfl
  | cons e rest ih =>
    obtain ⟨k, v⟩ := e
    obtain ⟨hk, hrest⟩ := List.pairwise_cons.mp hdistinct
    rw [putAll_cons, ih hrest, find?_put, find?_cons]
    cases hsame : k.same key with
    | false => simp
    | true =>
      have hnone : find? key rest = none := by
        cases hfind : find? key rest with
        | none => rfl
        | some w =>
          obtain ⟨l, hmem, hl⟩ := exists_mem_of_find? hfind
          have hne : k.same l = false := hk _ hmem
          rw [Key.same_congr hsame, Key.same_comm, hl] at hne
          cases hne
      simp [hnone]

/-- Writing to a key that is there may wait until other keys have been written. -/
theorem put_putAll_of_has {key : Key} {es more : Entries α} (h : has key es = true)
    (hmore : ∀ e ∈ more, e.1.same key = false) (v : α) :
    put key v (putAll es more) = putAll (put key v es) more := by
  induction more generalizing es with
  | nil => rfl
  | cons e rest ih =>
    obtain ⟨he, hrest⟩ := List.forall_mem_cons.mp hmore
    have hstill : has key (put e.1 e.2 es) = true := by
      rw [has, find?_put_of_ne he]
      exact h
    rw [Key.same_comm] at he
    rw [putAll_cons, putAll_cons, ih hstill hrest, put_comm he h]

/-- Entering a mapping after a write to it is entering it and then writing. -/
theorem putAll_put_of_distinct {more : Entries α} (hdistinct : Distinct more) (es : Entries α)
    (key : Key) (v : α) : putAll es (put key v more) = put key v (putAll es more) := by
  induction more generalizing es with
  | nil => rfl
  | cons e rest ih =>
    obtain ⟨k, w⟩ := e
    obtain ⟨hk, hrest⟩ := List.pairwise_cons.mp hdistinct
    cases hsame : k.same key with
    | false =>
      have hput : put key v ((k, w) :: rest) = (k, w) :: put key v rest := by simp [put, hsame]
      rw [hput, putAll_cons, putAll_cons, ih hrest]
    | true =>
      -- The key is entered first, and is not among those that are entered after it.
      have hput : put key v ((k, w) :: rest) = (k, v) :: rest := by simp [put, hsame]
      have hothers : ∀ e ∈ rest, e.1.same key = false := by
        intro e he
        rw [Key.same_comm, ← Key.same_congr hsame]
        exact hk e he
      have hhas : has key (put k w es) = true := by
        rw [has, find?_put, if_pos hsame]
        rfl
      rw [hput, putAll_cons, putAll_cons, put_putAll_of_has hhas hothers, put_put_same hsame]

/-- Two mappings that are entered one after the other may first be entered into one. -/
theorem putAll_putAll_of_distinct {more : Entries α} (hdistinct : Distinct more)
    (es further : Entries α) : putAll es (putAll more further) = putAll (putAll es more) further := by
  induction further generalizing more with
  | nil => rfl
  | cons e rest ih =>
    rw [putAll_cons, putAll_cons, ih (hdistinct.put e.1 e.2), putAll_put_of_distinct hdistinct]

/-! ### Changing every value -/

section Map

variable {β : Type} (f : α → β)

theorem find?_map (key : Key) (es : Entries α) :
    find? key (es.map fun e => (e.1, f e.2)) = (find? key es).map f := by
  induction es with
  | nil => rfl
  | cons e rest ih =>
    obtain ⟨k, v⟩ := e
    by_cases h : k.same key = true <;> simp [h, ih]

theorem map_put (key : Key) (value : α) (es : Entries α) :
    (put key value es).map (fun e => (e.1, f e.2)) =
      put key (f value) (es.map fun e => (e.1, f e.2)) := by
  induction es with
  | nil => rfl
  | cons e rest ih =>
    obtain ⟨k, v⟩ := e
    by_cases h : k.same key = true <;> simp [put, h, ih]

theorem map_putAll (es more : Entries α) :
    (putAll es more).map (fun e => (e.1, f e.2)) =
      putAll (es.map fun e => (e.1, f e.2)) (more.map fun e => (e.1, f e.2)) := by
  induction more generalizing es with
  | nil => rfl
  | cons e rest ih => rw [putAll_cons, ih, map_put, List.map_cons, putAll_cons]

end Map

end Entries

namespace Named

variable {α : Type}

/-- Named entries with a value written to a name: in its place if the name is there, else at the
end. -/
def put (name : String) (value : α) : List (String × α) → List (String × α)
  | [] => [(name, value)]
  | (n, v) :: rest => if n = name then (n, value) :: rest else (n, v) :: put name value rest

/-- The named entries that a sequence spells: of a repeated name the first place and the last value
count. -/
def ofList (es : List (String × α)) : List (String × α) :=
  es.foldl (fun acc e => put e.1 e.2 acc) []

/-- Writing to a new name appends it. -/
theorem put_of_not_mem {name : String} {es : List (String × α)} (h : name ∉ es.map Prod.fst)
    (value : α) : put name value es = es ++ [(name, value)] := by
  induction es with
  | nil => rfl
  | cons e rest ih =>
    obtain ⟨n, v⟩ := e
    simp only [List.map_cons, List.mem_cons, not_or] at h
    simp [put, Ne.symm h.1, ih h.2]

/-- Where no name is repeated, a sequence is the named entries that it spells. -/
theorem ofList_of_nodup {es : List (String × α)} (h : (es.map Prod.fst).Nodup) : ofList es = es := by
  have hfold (acc rest : List (String × α)) (hall : ((acc ++ rest).map Prod.fst).Nodup) :
      rest.foldl (fun acc e => put e.1 e.2 acc) acc = acc ++ rest := by
    induction rest generalizing acc with
    | nil => simp
    | cons e rest ih =>
      have hnew : e.1 ∉ acc.map Prod.fst := by
        intro hmem
        rw [List.map_append, List.nodup_append] at hall
        exact hall.2.2 _ hmem _ (by simp) rfl
      rw [List.foldl_cons, put_of_not_mem hnew, ih, List.append_assoc, List.singleton_append]
      simpa using hall
  exact hfold [] es h

end Named

end TypedRecord
