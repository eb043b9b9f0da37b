import Mathlib.Data.List.Induction
import TypedRecord.Record.SideData

/-!
# TypedRecord.Proofs.Record.SideHistory

Side data as what its history makes of it.

A history lists who stored what and who was cleared, in order. What an owner has under a key is the value
last stored there since the owner was last cleared (`latest?`), and the owners are those that have
something, in the order in which they came (`ownersOf`). Both are read off the history alone.

A `Book` is the same as a mapping from owners to mappings of their own, which every change rewrites.
`IsBookOf` says what such a mapping has to do with a history; one change keeps it
(`IsBookOf.change`), and so the book of a history answers what the history does (`isBookOf_bookOf`).
-/

namespace TypedRecord

namespace SideData

/-! ### Histories -/

/-- What may happen to side data: an owner has a value stored under a key, or it is cleared. -/
inductive Change
  | stored (owner key : Key) (v : Value)
  | cleared (owner : Key)

/-- Whom a change is about. -/
def Change.owner : Change → Key
  | .stored o _ _ | .cleared o => o

/-- Whether a change clears an owner. -/
def Change.clears (owner : Key) : Change → Bool
  | .cleared o => o.same owner
  | .stored _ _ _ => false

/-- The value that a change stores under a key of an owner, if it does. -/
def Change.value? (owner key : Key) : Change → Option Value
  | .stored o k v => if o.same owner && k.same key then some v else none
  | .cleared _ => none

/-- What has happened since an owner was last cleared, the latest change first. -/
def sinceCleared (owner : Key) (history : List Change) : List Change :=
  history.reverse.takeWhile fun change => !change.clears owner

/-- The value last stored under a key since its owner was last cleared. -/
def latest? (owner key : Key) (history : List Change) : Option Value :=
  (sinceCleared owner history).findSome? (Change.value? owner key)

/-- The owners after a change: whoever is new comes last, and whoever is cleared goes. -/
def Change.owners (known : List Key) : Change → List Key
  | .stored o _ _ => if known.any fun k => k.same o then known else known ++ [o]
  | .cleared o => known.filter fun k => !k.same o

/-- The owners in the order in which they came. -/
def ownersOf (history : List Change) : List Key := history.foldl Change.owners []

variable {owner key : Key} {history : List Change}

theorem latest?_stored (o k : Key) (v : Value) :
    latest? owner key (history ++ [.stored o k v]) =
      if o.same owner && k.same key then some v else latest? owner key history := by
  unfold latest? sinceCleared
  rw [List.reverse_append, List.reverse_singleton, List.singleton_append,
    List.takeWhile_cons_of_pos rfl, List.findSome?_cons, Change.value?]
  by_cases h : (o.same owner && k.same key) = true
  · rw [if_pos h, if_pos h]
  · rw [if_neg h, if_neg h]

theorem latest?_cleared (o : Key) :
    latest? owner key (history ++ [.cleared o]) =
      if o.same owner then none else latest? owner key history := by
  unfold latest? sinceCleared
  rw [List.reverse_append, List.reverse_singleton, List.singleton_append]
  cases h : o.same owner with
  | true =>
      rw [List.takeWhile_cons_of_neg (by simp [Change.clears, h])]
      rfl
  | false =>
      rw [List.takeWhile_cons_of_pos (by simp [Change.clears, h])]
      rfl

theorem ownersOf_append (change : Change) :
    ownersOf (history ++ [change]) = change.owners (ownersOf history) := by
  rw [ownersOf, List.foldl_append]
  rfl

/-! ### Books -/

/-- Side data by owner and key. -/
abbrev Book := Entries (Entries Value)

/-- What an owner has. -/
def Book.pageOf (owner : Key) (book : Book) : Entries Value := (book.find? owner).getD []

/-- The book after a change. -/
def Change.apply (book : Book) : Change → Book
  | .stored o k v => book.put o ((book.pageOf o).put k v)
  | .cleared o => book.without o

/-- The book of a history. -/
def bookOf (history : List Change) : Book := history.foldl Change.apply []

theorem bookOf_append (change : Change) :
    bookOf (history ++ [change]) = change.apply (bookOf history) := by
  rw [bookOf, List.foldl_append]
  rfl

/-- The page of an owner, after the page of some owner has been written. -/
theorem Book.pageOf_put (owner o : Key) (page : Entries Value) (book : Book) :
    Book.pageOf owner (book.put o page) = if o.same owner then page else book.pageOf owner := by
  unfold Book.pageOf
  rw [Entries.find?_put]
  cases o.same owner <;> rfl

/-- The page of an owner, after some owner has been cleared. -/
theorem Book.pageOf_without (owner o : Key) (book : Book) :
    Book.pageOf owner (book.without o) = if o.same owner then [] else book.pageOf owner := by
  unfold Book.pageOf
  cases h : o.same owner with
  | true => rw [Entries.find?_without_same h]; rfl
  | false => rw [Entries.find?_without_of_ne h]; rfl

/-- A change is about one owner, and what all others have stays. -/
theorem Change.find?_apply_of_ne {change : Change} (h : change.owner.same owner = false) (book : Book) :
    (change.apply book).find? owner = book.find? owner := by
  cases change with
  | stored o k v => exact Entries.find?_put_of_ne h _ book
  | cleared o => exact Entries.find?_without_of_ne h book

/-- What a book has to do with a history. -/
structure IsBookOf (history : List Change) (book : Book) : Prop where
  owners_eq : book.keys = ownersOf history
  distinct : book.Distinct
  find?_pageOf (owner key : Key) : (book.pageOf owner).find? key = latest? owner key history
  distinct_pageOf (owner : Key) : (book.pageOf owner).Distinct
  /-- Who has nothing is no owner. -/
  pageOf_ne_nil (owner : Key) (howner : book.has owner = true) : book.pageOf owner ≠ []

namespace IsBookOf

variable {book : Book}

theorem stored (h : IsBookOf history book) (o k : Key) (v : Value) :
    IsBookOf (history ++ [.stored o k v]) (Change.apply book (.stored o k v)) where
  owners_eq := by
    have hany : ((ownersOf history).any fun l => l.same o) = book.has o := by
      rw [← h.owners_eq, Bool.eq_iff_iff, Entries.has_iff, List.any_eq_true]
    rw [ownersOf_append, Change.owners, hany, Change.apply, ← h.owners_eq]
    cases ho : book.has o with
    | true => rw [Entries.keys_put_of_has ho, if_pos rfl]
    | false => simp [Entries.put_of_not_has ho, Entries.keys]
  distinct := h.distinct.put o _
  find?_pageOf owner key := by
    rw [Change.apply, Book.pageOf_put, latest?_stored]
    cases ho : o.same owner with
    | true =>
        have hpage : book.pageOf o = book.pageOf owner := by
          rw [Book.pageOf, Entries.find?_congr ho]
          rfl
        rw [if_pos rfl, Entries.find?_put, Bool.true_and, hpage, h.find?_pageOf]
    | false => exact h.find?_pageOf owner key
  distinct_pageOf owner := by
    rw [Change.apply, Book.pageOf_put]
    split
    · exact (h.distinct_pageOf o).put k v
    · exact h.distinct_pageOf owner
  pageOf_ne_nil owner howner := by
    rw [Change.apply] at howner ⊢
    rw [Book.pageOf_put]
    cases ho : o.same owner with
    | true =>
        rw [if_pos rfl]
        exact Entries.put_ne_nil k v (book.pageOf o)
    | false =>
        rw [Entries.has, Entries.find?_put_of_ne ho] at howner
        exact h.pageOf_ne_nil owner howner

theorem cleared (h : IsBookOf history book) (o : Key) :
    IsBookOf (history ++ [.cleared o]) (Change.apply book (.cleared o)) where
  owners_eq := by
    rw [ownersOf_append, Change.owners, ← h.owners_eq]
    exact Entries.keys_without o book
  distinct := h.distinct.without o
  find?_pageOf owner key := by
    rw [Change.apply, Book.pageOf_without, latest?_cleared]
    cases o.same owner with
    | true => rfl
    | false => exact h.find?_pageOf owner key
  distinct_pageOf owner := by
    rw [Change.apply, Book.pageOf_without]
    split
    · exact List.Pairwise.nil
    · exact h.distinct_pageOf owner
  pageOf_ne_nil owner howner := by
    rw [Change.apply] at howner ⊢
    rw [Book.pageOf_without]
    cases ho : o.same owner with
    | true =>
        rw [Entries.has, Entries.find?_without_same ho] at howner
        cases howner
    | false =>
        rw [Entries.has, Entries.find?_without_of_ne ho] at howner
        exact h.pageOf_ne_nil owner howner

/-- A change to both keeps them together. -/
theorem change (h : IsBookOf history book) (change : Change) :
    IsBookOf (history ++ [change]) (change.apply book) := by
  cases change with
  | stored o k v => exact h.stored o k v
  | cleared o => exact h.cleared o

/-- Owners are those for whom the history has something. -/
theorem has_iff (h : IsBookOf history book) :
    book.has owner = true ↔ ∃ key v, latest? owner key history = some v := by
  constructor
  · intro howner
    obtain ⟨⟨key, v⟩, hmem⟩ := List.exists_mem_of_ne_nil _ (h.pageOf_ne_nil owner howner)
    refine ⟨key, v, ?_⟩
    rw [← h.find?_pageOf]
    exact (h.distinct_pageOf owner).find?_of_mem hmem (Key.same_refl key)
  · rintro ⟨key, v, hlatest⟩
    rw [← h.find?_pageOf] at hlatest
    cases hfind : book.find? owner with
    | none =>
        rw [Book.pageOf, hfind] at hlatest
        cases hlatest
    | some page => rw [Entries.has, hfind, Option.isSome_some]

/-- A book is empty exactly while nobody has anything. -/
theorem ne_nil_iff (h : IsBookOf history book) :
    book ≠ [] ↔ ∃ owner key v, latest? owner key history = some v := by
  constructor
  · intro hbook
    obtain ⟨⟨owner, page⟩, hmem⟩ := List.exists_mem_of_ne_nil _ hbook
    have howner : book.has owner = true :=
      Entries.has_iff.mpr ⟨owner, List.mem_map_of_mem hmem, Key.same_refl owner⟩
    exact ⟨owner, h.has_iff.mp howner⟩
  · rintro ⟨owner, howner⟩ hnil
    have hhas : book.has owner = true := h.has_iff.mpr howner
    rw [hnil] at hhas
    cases hhas

end IsBookOf

/-- The book of a history answers what the history does. -/
theorem isBookOf_bookOf (history : List Change) : IsBookOf history (bookOf history) := by
  -- Histories grow at their end, and so does the induction.
  induction history using List.reverseRecOn with
  | nil =>
      exact ⟨rfl, List.Pairwise.nil, fun _ _ => rfl, fun _ => List.Pairwise.nil,
        fun _ howner => by cases howner⟩
  | append_singleton history change ih =>
      rw [bookOf_append]
      exact ih.change change

/-- Listed are exactly those who have something. -/
theorem exists_mem_ownersOf_iff :
    (∃ o ∈ ownersOf history, o.same owner = true) ↔ ∃ key v, latest? owner key history = some v := by
  have hbook := isBookOf_bookOf history
  rw [← hbook.owners_eq, ← Entries.has_iff, hbook.has_iff]

end SideData

end TypedRecord
