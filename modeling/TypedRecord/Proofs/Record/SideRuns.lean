import TypedRecord.Proofs.Record.BesideRuns
import TypedRecord.Proofs.Record.Contents
import TypedRecord.Proofs.Record.SideHistory

/-!
# TypedRecord.Proofs.Record.SideRuns

Side data answers by its history, whatever else happens to the record.

A record that starts without the reserved field keeps a book there (`Keeps`): the field holds the book,
and is not there while the book is empty. Operations on side data rewrite the book as their change says
(`keeps_put`, `keeps_clear`) or read it (`run_find`, `run_has`, `run_all`, `owners_eq`). Calls on other
fields keep it (`keeps_perform_avoiding`), also where a strict record goes back to the data from before a
write, for that is data with the same book. So a run leaves the book of its history (`keeps_after`), and
the main statement, `side_data_by_history`, is what a book answers.

The reserved field is followed with everything that is under its key, since data may have several entries
of one key: when the last owner is cleared only the first of them goes.
-/

namespace TypedRecord

/-- A value that is a key serves as that key. -/
theorem Value.asKey_eq {v : Value} {k : Key} (h : v.toKey? = some k) : v.asKey = .ok k := by
  rw [Value.asKey, h]

namespace SideData

variable {cat : Catalog} {t : TypeId} {field o k : Key} {book : Book} {r : Record}
  {owner key : Value}

/-! ### A book in a record -/

/-- A book as the entries of a mapping. -/
def Book.entries (book : Book) : Entries Value := book.map fun e => (e.1, .dict none e.2)

theorem Book.find?_entries (o : Key) (book : Book) :
    book.entries.find? o = (book.find? o).map (Value.dict none) := Entries.find?_map _ o book

theorem Book.has_entries (o : Key) (book : Book) : book.entries.has o = book.has o := by
  rw [Entries.has, Book.find?_entries, Option.isSome_map]
  rfl

theorem Book.entries_put (o : Key) (page : Entries Value) (book : Book) :
    Book.entries (book.put o page) = book.entries.put o (.dict none page) :=
  Entries.map_put _ o page book

theorem Book.keys_entries (book : Book) : book.entries.keys = book.keys := by
  unfold Book.entries Entries.keys
  rw [List.map_map]
  rfl

/-- One entry is removed where an owner is, and no owner has two. -/
theorem Book.erase_entries (hdistinct : book.Distinct) (o : Key) :
    book.entries.erase o = Book.entries (book.without o) := by
  have hentries : book.entries.Distinct := hdistinct.of_keys_eq book.keys_entries.symm
  rw [hentries.erase_eq_without]
  unfold Book.entries Entries.without
  rw [List.filter_map]
  rfl

theorem Book.entries_eq_nil_iff : book.entries = [] ↔ book = [] := List.map_eq_nil_iff

/-- The reserved field of a record holds a book, which may be empty. -/
structure Holds (t : TypeId) (field : Key) (book : Book) (r : Record) : Prop where
  type_eq : r.header.type.id = t
  under_eq : r.data.under field = [.dict none book.entries]

/-- A record keeps a book: its reserved field holds it, and is not there while the book is empty. -/
structure Keeps (t : TypeId) (field : Key) (book : Book) (r : Record) : Prop where
  type_eq : r.header.type.id = t
  under_eq : r.data.under field = if book = [] then [] else [.dict none book.entries]

theorem Holds.keeps (h : Holds t field book r) (hbook : book ≠ []) : Keeps t field book r :=
  ⟨h.type_eq, by rw [h.under_eq, if_neg hbook]⟩

theorem Keeps.holds (h : Keeps t field book r) (hbook : book ≠ []) : Holds t field book r :=
  ⟨h.type_eq, by rw [h.under_eq, if_neg hbook]⟩

theorem Holds.store?_eq (h : Holds t field book r) : store? field r = some (none, book.entries) := by
  rw [store?, Entries.find?_eq_head?_under, h.under_eq]
  rfl

theorem Keeps.find?_of_empty (h : Keeps t field [] r) : r.data.find? field = none := by
  rw [Entries.find?_eq_head?_under, h.under_eq, if_pos rfl]
  rfl

theorem Keeps.store?_of_empty (h : Keeps t field [] r) : store? field r = none := by
  rw [store?, h.find?_of_empty]

theorem Keeps.fieldOf_eq (h : Keeps t field book r) (hkey : cat.sideKey t = field) :
    fieldOf cat r = field := by
  rw [← hkey, ← h.type_eq]
  rfl

/-- The reserved field is there exactly while the book is not empty. -/
theorem Keeps.has_iff (h : Keeps t field book r) : r.data.has field = true ↔ book ≠ [] := by
  rw [← Bool.not_eq_false, ← Entries.under_eq_nil_iff, h.under_eq]
  by_cases hbook : book = [] <;> simp [hbook]

theorem keeps_nil (htype : r.header.type.id = t) (hempty : r.data.has field = false) :
    Keeps t field [] r :=
  ⟨htype, by rw [if_pos rfl]; exact Entries.under_eq_nil_iff.mpr hempty⟩

/-- Writing another book over the one that is there. -/
theorem Holds.run_putStore (h : Holds t field book r) (book' : Book) :
    (putStore field none book'.entries).run r =
        ⟨{ r with data := r.data.put field (.dict none book'.entries) }, [], .ok ()⟩ ∧
      Holds t field book' { r with data := r.data.put field (.dict none book'.entries) } :=
  ⟨rfl, h.type_eq, by rw [Entries.under_put_same, h.under_eq]; rfl⟩

/-! ### Storing -/

/-- What is done with the page of an owner. -/
theorem Holds.run_atOwner {α : Type} (h : Holds t field book r) {page page' : Entries Value}
    (hpage : book.find? o = some page) {act : Act Value α} {answer : α}
    (hact : act.run (.dict none page) = ⟨.dict none page', [], .ok answer⟩) :
    (atOwner field o act).run r =
      ⟨{ r with data := r.data.put field (.dict none (Book.entries (book.put o page'))) }, [],
        .ok answer⟩ := by
  have hfind : (book.entries.find? o).getD .nil = .dict none page := by
    rw [Book.find?_entries, hpage]
    rfl
  show atOwner field o act r = _
  unfold atOwner
  rw [h.store?_eq]
  simp only [hfind, hact, Book.entries_put]

/-- The reserved field is laid out where it is missing. -/
theorem Keeps.holds_ensure (h : Keeps t field book r) (shown : String) :
    ((ensure field shown).run r).result = .ok () ∧
      Holds t field book ((ensure field shown).run r).state := by
  unfold ensure
  rw [Act.run_get_bind]
  by_cases hbook : book = []
  · subst hbook
    simp only [h.store?_of_empty, h.find?_of_empty, Option.isNone_none, if_true, Option.getD_none]
    refine ⟨rfl, h.type_eq, ?_⟩
    show (r.data.put field (.dict none [])).under field = _
    rw [Entries.under_put_same, h.under_eq]
    rfl
  · have hholds := h.holds hbook
    rw [hholds.store?_eq, Option.isNone_some]
    exact ⟨rfl, hholds⟩

/-- Storing a value for an owner who has a page. -/
theorem Holds.holds_assign (h : Holds t field book r) (cat : Catalog) {page : Entries Value}
    (hpage : book.find? o = some page) (hk : key.toKey? = some k) (v : Value) :
    ((atOwner field o (assign cat key v)).run r).result = .ok () ∧
      Holds t field (book.put o (page.put k v))
        ((atOwner field o (assign cat key v)).run r).state := by
  have hassign : (assign cat key v).run (.dict none page) =
      ⟨.dict none (page.put k v), [], .ok ()⟩ := by
    unfold assign
    rw [Act.run_get_bind]
    simp only [Value.asKey_eq hk]
    rfl
  rw [h.run_atOwner hpage hassign]
  exact ⟨rfl, (h.run_putStore _).2⟩

/-- Storing a value is a change to the book, and ends well. -/
theorem keeps_put (h : Keeps t field book r) (hkey : cat.sideKey t = field)
    (howner : owner.toKey? = some o) (hk : key.toKey? = some k) (v : Value) :
    ((put cat owner key v).run r).result = .ok () ∧
      Keeps t field (Change.apply book (.stored o k v)) ((put cat owner key v).run r).state := by
  obtain ⟨hensured, hopen⟩ := h.holds_ensure (cat.typeAt r.header.type.id).sideField
  have hfield : Key.str (cat.typeAt r.header.type.id).sideField = field := by
    rw [← hkey, h.type_eq]
    rfl
  have hchange : Change.apply book (.stored o k v) ≠ [] := Entries.put_ne_nil o _ book
  unfold put
  rw [Act.run_get_bind]
  dsimp only
  rw [hfield, Act.run_bind_ok hensured]
  generalize ((ensure field (cat.typeAt r.header.type.id).sideField).run r).state = s at hopen ⊢
  rw [Value.asKey_eq howner, Act.run_ofExcept_bind, Act.run_get_bind, hopen.store?_eq]
  simp only [Book.has_entries]
  cases hpage : book.find? o with
  | some page =>
      have hhas : book.has o = true := by rw [Entries.has, hpage, Option.isSome_some]
      have hof : book.pageOf o = page := by rw [Book.pageOf, hpage, Option.getD_some]
      obtain ⟨hresult, hholds⟩ := hopen.holds_assign cat hpage hk v
      rw [Change.apply, hof] at hchange ⊢
      rw [hhas, Bool.not_true, if_neg Bool.false_ne_true]
      exact ⟨hresult, hholds.keeps hchange⟩
  | none =>
      -- An empty page is entered first, and written to then.
      have hhas : book.has o = false := by rw [Entries.has, hpage, Option.isSome_none]
      have hof : book.pageOf o = [] := by rw [Book.pageOf, hpage, Option.getD_none]
      obtain ⟨hput, hopened⟩ := hopen.run_putStore (book.put o [])
      obtain ⟨hresult, hholds⟩ :=
        hopened.holds_assign cat (Entries.find?_put_self o [] book) hk v
      rw [Entries.put_put_self] at hholds
      rw [Change.apply, hof] at hchange ⊢
      rw [hhas, Bool.not_false, if_pos rfl, ← Book.entries_put,
        Act.run_bind_ok (congrArg Outcome.result hput), hput]
      exact ⟨hresult, hholds.keeps hchange⟩

/-! ### Clearing -/

/-- Clearing an owner is a change to the book, and ends well. The reserved field goes with the last
owner. -/
theorem keeps_clear (h : Keeps t field book r) (hkey : cat.sideKey t = field)
    (hdistinct : book.Distinct) (howner : owner.toKey? = some o) :
    ((clear cat owner).run r).result = .ok () ∧
      Keeps t field (Change.apply book (.cleared o)) ((clear cat owner).run r).state := by
  unfold clear
  rw [Act.run_get_bind, h.fieldOf_eq hkey, Act.run_get_bind]
  by_cases hbook : book = []
  · subst hbook
    rw [h.store?_of_empty]
    exact ⟨rfl, h⟩
  · have hholds := h.holds hbook
    have hrest : remainder owner book.entries = .ok (Book.entries (book.without o)) := by
      have hsome : book.entries.isEmpty = false := by
        rw [List.isEmpty_eq_false_iff]
        exact fun hnil => hbook (Book.entries_eq_nil_iff.mp hnil)
      rw [remainder, hsome, if_neg Bool.false_ne_true, Value.asKey_eq howner, ← Book.erase_entries hdistinct]
      rfl
    rw [hholds.store?_eq]
    dsimp only
    rw [hrest, Act.run_ofExcept_bind]
    by_cases hleft : book.without o = []
    · have hnil : Book.entries (book.without o) = [] := Book.entries_eq_nil_iff.mpr hleft
      rw [if_pos hnil, Change.apply, hleft]
      refine ⟨rfl, h.type_eq, ?_⟩
      show (r.data.erase field).under field = _
      rw [Entries.under_erase_same, hholds.under_eq, if_pos rfl]
      rfl
    · rw [if_neg fun hnil => hleft (Book.entries_eq_nil_iff.mp hnil)]
      exact ⟨rfl, (hholds.run_putStore _).2.keeps hleft⟩

/-! ### Reading -/

/-- Reading in the page of an owner changes nothing. -/
theorem Holds.run_atOwner_of_read {α : Type} (h : Holds t field book r) {page : Entries Value}
    (hpage : book.find? o = some page) {act : Act Value α} {answer : α}
    (hact : act.run (.dict none page) = ⟨.dict none page, [], .ok answer⟩) :
    (atOwner field o act).run r = ⟨r, [], .ok answer⟩ := by
  have hfind : r.data.find? field = some (.dict none book.entries) := by
    rw [Entries.find?_eq_head?_under, h.under_eq]
    rfl
  rw [h.run_atOwner hpage hact, Entries.put_of_find? hpage, Entries.put_of_find? hfind]

/-- Who has no page has nothing under any key, and reads the default. -/
theorem run_find (h : Keeps t field book r) (hkey : cat.sideKey t = field)
    (howner : owner.toKey? = some o) (hk : key.toKey? = some k) (default : Value) :
    (find cat owner key default).run r =
      ⟨r, [], .ok (((book.pageOf o).find? k).getD default)⟩ := by
  have hlookUp (page : Entries Value) : (lookUp cat key default).run (.dict none page) =
      ⟨.dict none page, [], .ok ((page.find? k).getD default)⟩ := by
    unfold lookUp
    rw [Act.run_get_bind]
    simp only [Value.asKey_eq hk]
    rfl
  unfold find
  rw [Act.run_get_bind, h.fieldOf_eq hkey, Act.run_get_bind]
  by_cases hbook : book = []
  · subst hbook
    rw [h.store?_of_empty]
    rfl
  · have hholds := h.holds hbook
    rw [hholds.store?_eq]
    dsimp only
    rw [Value.asKey_eq howner, Act.run_ofExcept_bind, Book.has_entries, Entries.has, Book.pageOf]
    cases hpage : book.find? o with
    | none =>
        rw [Option.isSome_none, if_neg Bool.false_ne_true, Value.asKey_eq hk, Act.run_ofExcept_bind]
        rfl
    | some page =>
        rw [Option.isSome_some, if_pos rfl]
        exact hholds.run_atOwner_of_read hpage (hlookUp page)

theorem run_has (h : Keeps t field book r) (hkey : cat.sideKey t = field)
    (howner : owner.toKey? = some o) :
    (has cat owner).run r = ⟨r, [], .ok (book.has o)⟩ := by
  unfold has
  rw [Act.run_get_bind, Act.run_get_bind, h.fieldOf_eq hkey]
  by_cases hbook : book = []
  · subst hbook
    rw [h.store?_of_empty]
    rfl
  · rw [(h.holds hbook).store?_eq]
    dsimp only
    rw [Value.asKey_eq howner, Act.run_ofExcept_bind, Book.has_entries]
    rfl

theorem run_all (h : Keeps t field book r) (hkey : cat.sideKey t = field)
    (howner : owner.toKey? = some o) :
    (all cat owner).run r = ⟨r, [], .ok (book.pageOf o)⟩ := by
  have hcontents (page : Entries Value) : (contents cat).run (.dict none page) =
      ⟨.dict none page, [], .ok page⟩ := rfl
  unfold all
  rw [Act.run_get_bind, h.fieldOf_eq hkey, Act.run_get_bind]
  by_cases hbook : book = []
  · subst hbook
    rw [h.store?_of_empty]
    rfl
  · have hholds := h.holds hbook
    rw [hholds.store?_eq]
    dsimp only
    rw [Value.asKey_eq howner, Act.run_ofExcept_bind, Book.has_entries, Entries.has, Book.pageOf]
    cases hpage : book.find? o with
    | none => rfl
    | some page =>
        rw [Option.isSome_some, if_pos rfl]
        exact hholds.run_atOwner_of_read hpage (hcontents page)

theorem owners_eq (h : Keeps t field book r) (hkey : cat.sideKey t = field) :
    owners cat r = book.keys := by
  unfold owners
  rw [h.fieldOf_eq hkey]
  by_cases hbook : book = []
  · subst hbook
    rw [h.store?_of_empty]
    rfl
  · rw [(h.holds hbook).store?_eq]
    exact book.keys_entries

end SideData

namespace Record

open SideData

variable {cat : Catalog} {t : TypeId} {key : Key} {book : Book} {r : Record}

/-! ### Calls on other fields -/

/-- Writing another field keeps the book. -/
theorem keeps_of_put (h : Keeps t key book r) {field : Key} (hne : key.same field = false) (v : Value) :
    Keeps t key book { r with data := r.data.put field v } := by
  rw [Key.same_comm] at hne
  exact ⟨h.type_eq, by rw [Entries.under_put_of_ne hne, h.under_eq]⟩

theorem maintains_store_avoiding {field : Key} (hne : key.same field = false) (v : Value) :
    Act.Maintains (Keeps t key book) (store cat field v) := by
  unfold store
  refine .get_bind fun r _ => .bind (.of_lift _) fun replacement => .of_modify fun s hs => ?_
  exact keeps_of_put hs hne _

theorem maintains_storeAll_avoiding {fields : List (Key × Value)}
    (hne : ∀ e ∈ fields, key.same e.1 = false) :
    Act.Maintains (Keeps t key book) (storeAll cat fields) := by
  induction fields with
  | nil => exact .of_pure ()
  | cons e rest ih =>
      obtain ⟨hhead, htail⟩ := List.forall_mem_cons.mp hne
      exact .bind (maintains_store_avoiding hhead e.2) fun _ => ih htail

theorem maintains_get_avoiding {field : Key} (hne : key.same field = false) (default : Value) :
    Act.Maintains (Keeps t key book) (get cat field default) := by
  unfold get
  refine .get_bind fun r _ => ?_
  cases r.data.find? field with
  | none => exact .of_pure _
  | some v =>
      refine .bind (.of_lift _) fun replacement => ?_
      cases replacement with
      | none => exact .of_pure _
      | some w =>
          exact .bind (.of_modify fun s hs => keeps_of_put hs hne w) fun _ => .of_pure _

theorem maintains_stores_avoiding {call : Call} (havoids : call.avoids key = true) :
    Act.Maintains (Keeps t key book) (call.stores cat) := by
  cases call with
  | set field v | assign field v =>
      have hne : key.same field = false := by simpa [Call.avoids] using havoids
      exact maintains_store_avoiding hne v
  | update fields =>
      have hne : ∀ e ∈ fields, key.same e.1 = false := by simpa [Call.avoids] using havoids
      exact maintains_storeAll_avoiding hne
  | _ => exact .of_pure ()

/-- A write to other fields keeps the book, whether it is accepted, refused, taken back, or fails. -/
theorem keeps_write_avoiding (h : Keeps t key book r) {call : Call} {act : Act Record Bool}
    (hwrite : call.write? cat = some act) (havoids : call.avoids key = true) :
    Keeps t key book ((call.perform cat).run r).state := by
  obtain ⟨shown, hwritten⟩ := Call.written hwrite r
  have hstored : Keeps t key book ((call.stores cat).run r).state :=
    maintains_stores_avoiding havoids r h
  have htype := (called cat call r).role_eq.1
  refine ⟨by rw [htype, h.type_eq], ?_⟩
  rw [(Call.perform_write hwrite r).1]
  rcases hwritten.data_eq with hdata | hdata
  · rw [hdata, hstored.under_eq]
  · rw [hdata, h.under_eq]

theorem keeps_perform_avoiding (h : Keeps t key book r) {call : Call}
    (havoids : call.avoids key = true) : Keeps t key book ((call.perform cat).run r).state := by
  cases call with
  | set field v | assign field v | update fields => exact keeps_write_avoiding h rfl havoids
  | get field default =>
      have hne : key.same field = false := by simpa [Call.avoids] using havoids
      exact (maintains_get_avoiding hne default).bind (fun _ => .of_pure _) r h
  | getPresent field =>
      have hne : key.same field = false := by simpa [Call.avoids] using havoids
      have hget : Act.Maintains (Keeps t key book) (getPresent cat field) := by
        unfold getPresent
        refine .get_bind fun r _ => ?_
        split
        · exact maintains_get_avoiding hne .nil
        · exact .of_throw _
      exact hget.bind (fun _ => .of_pure _) r h
  | _ => cases havoids

/-! ### Calls on side data -/

/-- A call on side data, with an owner and a key by which a mapping may be indexed. -/
def Call.onSideData : Call → Bool
  | .sidePut owner name _ | .sideFind owner name _ => owner.toKey?.isSome && name.toKey?.isSome
  | .sideHas owner | .sideAll owner | .sideClear owner => owner.toKey?.isSome
  | .sideOwners => true
  | _ => false

/-- What a call changes in side data. -/
def Call.change? : Call → Option Change
  | .sidePut owner name v =>
    match owner.toKey?, name.toKey? with
    | some o, some k => some (.stored o k v)
    | _, _ => none
  | .sideClear owner => owner.toKey?.map .cleared
  | _ => none

/-- What calls change in side data, in order. -/
def changesOf (calls : List (Catalog × Call)) : List Change :=
  calls.filterMap fun c => c.2.change?

/-- Whether a call is about the side data of an owner. -/
def Call.concerns (o : Key) : Call → Bool
  | .sidePut owner _ _ | .sideFind owner _ _ | .sideHas owner | .sideAll owner | .sideClear owner =>
    owner.toKey?.any fun p => p.same o
  | _ => false

/-- What a call changes is about the owner whom the call is about. -/
theorem Call.owner_of_change? {call : Call} {change : Change} (h : call.change? = some change)
    {o : Key} (hother : call.concerns o = false) : change.owner.same o = false := by
  cases call with
  | sidePut owner name v =>
      simp only [Call.change?] at h
      split at h
      · next p k howner hname =>
          cases h
          simpa [Call.concerns, Change.owner, howner] using hother
      · cases h
  | sideClear owner =>
      simp only [Call.change?] at h
      obtain ⟨p, howner, rfl⟩ := Option.map_eq_some_iff.mp h
      simpa [Call.concerns, Change.owner, howner] using hother
  | _ => exact absurd h (by simp [Call.change?])

/-- A call on side data goes to a record beside. -/
theorem beside_of_onSideData (cat : Catalog) {call : Call} (hside : call.onSideData = true)
    (r : Record) : r.Beside cat ((call.perform cat).run r).state := by
  have hstart := Record.Beside.refl cat r
  cases call with
  | sidePut owner name v => exact (maintains_put owner name v).bind (fun _ => .of_pure _) r hstart
  | sideFind owner name v => exact (maintains_find owner name v).bind (fun _ => .of_pure _) r hstart
  | sideHas owner => exact (maintains_has owner).bind (fun _ => .of_pure _) r hstart
  | sideAll owner => exact (maintains_all owner).bind (fun _ => .of_pure _) r hstart
  | sideClear owner => exact (maintains_clear owner).bind (fun _ => .of_pure _) r hstart
  | sideOwners => exact hstart
  | _ => cases hside

/-- A call on side data ends well, and changes the book as it says. -/
theorem perform_onSideData (h : Keeps t key book r) (hkey : cat.sideKey t = key)
    (hdistinct : book.Distinct) {call : Call} (hside : call.onSideData = true) :
    (∃ answer, ((call.perform cat).run r).result = .ok answer) ∧
      Keeps t key ((call.change?.map (Change.apply book)).getD book)
        ((call.perform cat).run r).state := by
  cases call with
  | sidePut owner name v =>
      simp only [Call.onSideData, Bool.and_eq_true, Option.isSome_iff_exists] at hside
      obtain ⟨⟨o, howner⟩, k, hname⟩ := hside
      obtain ⟨hresult, hkeeps⟩ := keeps_put h hkey howner hname v
      simp only [Call.perform, Act.run_bind_pure, Call.change?, howner, hname, hresult]
      exact ⟨⟨_, rfl⟩, hkeeps⟩
  | sideClear owner =>
      obtain ⟨o, howner⟩ := Option.isSome_iff_exists.mp hside
      obtain ⟨hresult, hkeeps⟩ := keeps_clear h hkey hdistinct howner
      simp only [Call.perform, Act.run_bind_pure, Call.change?, howner, hresult]
      exact ⟨⟨_, rfl⟩, hkeeps⟩
  | sideFind owner name default =>
      simp only [Call.onSideData, Bool.and_eq_true, Option.isSome_iff_exists] at hside
      obtain ⟨⟨o, howner⟩, k, hname⟩ := hside
      simp only [Call.perform, Act.run_bind_pure, run_find h hkey howner hname]
      exact ⟨⟨_, rfl⟩, h⟩
  | sideHas owner =>
      obtain ⟨o, howner⟩ := Option.isSome_iff_exists.mp hside
      simp only [Call.perform, Act.run_bind_pure, run_has h hkey howner]
      exact ⟨⟨_, rfl⟩, h⟩
  | sideAll owner =>
      obtain ⟨o, howner⟩ := Option.isSome_iff_exists.mp hside
      simp only [Call.perform, Act.run_bind_pure, run_all h hkey howner]
      exact ⟨⟨_, rfl⟩, h⟩
  | sideOwners => exact ⟨⟨_, rfl⟩, h⟩
  | _ => cases hside

/-- So a call leaves the book of a history that goes on with what the call changes. -/
theorem keeps_perform {history : List Change} (h : Keeps t key (bookOf history) r)
    (hkey : cat.sideKey t = key) {call : Call}
    (hcall : call.onSideData = true ∨ call.avoids key = true) :
    Keeps t key (bookOf (history ++ call.change?.toList)) ((call.perform cat).run r).state := by
  rcases hcall with hside | havoids
  · have hkeeps := (perform_onSideData h hkey (isBookOf_bookOf history).distinct hside).2
    cases hchange : call.change? with
    | none =>
        rw [hchange] at hkeeps
        rw [Option.toList_none, List.append_nil]
        exact hkeeps
    | some change =>
        rw [hchange] at hkeeps
        rw [Option.toList_some, bookOf_append]
        exact hkeeps
  · have hnone : call.change? = none := by
      cases call with
      | set _ _ | assign _ _ | update _ | get _ _ | getPresent _ => rfl
      | _ => cases havoids
    rw [hnone, Option.toList_none, List.append_nil]
    exact keeps_perform_avoiding h havoids

/-- Records in whose books an owner has the same answer alike about the owner. -/
theorem reads_eq {r' : Record} {book' : Book} (h : Keeps t key book r) (h' : Keeps t key book' r')
    (hkey : cat.sideKey t = key) {owner : Value} {o : Key} (howner : owner.toKey? = some o)
    (hsame : book'.find? o = book.find? o) :
    (∀ name k default, name.toKey? = some k →
      ((find cat owner name default).run r').result =
        ((find cat owner name default).run r).result) ∧
      ((all cat owner).run r').result = ((all cat owner).run r).result ∧
      ((SideData.has cat owner).run r').result = ((SideData.has cat owner).run r).result := by
  have hpage : book'.pageOf o = book.pageOf o := by rw [Book.pageOf, hsame, Book.pageOf]
  refine ⟨?_, ?_, ?_⟩
  · intro name k default hname
    rw [run_find h hkey howner hname, run_find h' hkey howner hname, hpage]
  · rw [run_all h hkey howner, run_all h' hkey howner, hpage]
  · rw [run_has h hkey howner, run_has h' hkey howner, Entries.has, Entries.has, hsame]

/-! ### Runs -/

/-- A run of calls leaves the book of its history. -/
theorem keeps_after {calls : List (Catalog × Call)}
    (hcalls : ∀ c ∈ calls,
      c.1.sideKey t = key ∧ (c.2.onSideData = true ∨ c.2.avoids key = true))
    {history : List Change} (h : Keeps t key (bookOf history) r) :
    Keeps t key (bookOf (history ++ changesOf calls)) (r.after calls) := by
  induction calls generalizing r history with
  | nil =>
      rw [changesOf, List.filterMap_nil, List.append_nil]
      exact h
  | cons c calls ih =>
      obtain ⟨⟨hkey, hcall⟩, hrest⟩ := List.forall_mem_cons.mp hcalls
      have hkeeps := ih hrest (keeps_perform h hkey hcall)
      have hchanges : changesOf (c :: calls) = c.2.change?.toList ++ changesOf calls := by
        unfold changesOf
        rw [List.filterMap_cons]
        cases c.2.change? <;> rfl
      rw [hchanges, ← List.append_assoc]
      exact hkeeps

/-- Side data after a run of calls, on side data and on other fields, answers by what the run has stored
and cleared. What is read under a key of an owner is the value last stored there since the owner was
cleared; who has nothing is no owner, and the owners are listed as they came. The reserved field is there
exactly while someone has something. A call on side data ends well; it leaves all other fields, the flags
and the verdicts as they are, and every owner whom it is not about. -/
theorem side_data_by_history {calls : List (Catalog × Call)} (htype : r.header.type.id = t)
    (hempty : r.data.has key = false)
    (hcalls : ∀ c ∈ calls,
      c.1.sideKey t = key ∧ (c.2.onSideData = true ∨ c.2.avoids key = true))
    (hkey : cat.sideKey t = key) :
    let history := changesOf calls
    let s := r.after calls
    (∀ owner o, owner.toKey? = some o →
      (∀ name k default, name.toKey? = some k →
        (find cat owner name default).run s = ⟨s, [], .ok ((latest? o k history).getD default)⟩) ∧
      (∃ page, (all cat owner).run s = ⟨s, [], .ok page⟩ ∧ page.Distinct ∧
        ∀ k, page.find? k = latest? o k history) ∧
      ∃ present, (SideData.has cat owner).run s = ⟨s, [], .ok present⟩ ∧
        (present = true ↔ ∃ k v, latest? o k history = some v)) ∧
    (owners cat s = ownersOf history ∧
      ∀ o, (∃ p ∈ ownersOf history, p.same o = true) ↔ ∃ k v, latest? o k history = some v) ∧
    (s.data.has key = true ↔ ∃ o k v, latest? o k history = some v) ∧
    ∀ call : Call, call.onSideData = true →
      let s' := ((call.perform cat).run s).state
      (∃ answer, ((call.perform cat).run s).result = .ok answer) ∧ s.Beside cat s' ∧
        ∀ owner o, owner.toKey? = some o → call.concerns o = false →
          (∀ name k default, name.toKey? = some k →
            ((find cat owner name default).run s').result =
              ((find cat owner name default).run s).result) ∧
          ((all cat owner).run s').result = ((all cat owner).run s).result ∧
          ((SideData.has cat owner).run s').result = ((SideData.has cat owner).run s).result := by
  intro history s
  have hbook := isBookOf_bookOf history
  have hstart : Keeps t key (bookOf []) r := keeps_nil htype hempty
  have hkeeps : Keeps t key (bookOf history) s := keeps_after hcalls hstart
  refine ⟨?_, ?_, ?_, ?_⟩
  · intro owner o howner
    refine ⟨?_, ⟨_, run_all hkeeps hkey howner, hbook.distinct_pageOf o, hbook.find?_pageOf o⟩,
      ⟨_, run_has hkeeps hkey howner, hbook.has_iff⟩⟩
    intro name k default hname
    rw [run_find hkeeps hkey howner hname, hbook.find?_pageOf]
  · exact ⟨by rw [owners_eq hkeeps hkey, hbook.owners_eq], fun o => exists_mem_ownersOf_iff⟩
  · rw [hkeeps.has_iff, hbook.ne_nil_iff]
  · intro call hside s'
    obtain ⟨hends, hkeeps'⟩ := perform_onSideData hkeeps hkey hbook.distinct hside
    refine ⟨hends, beside_of_onSideData cat hside s, ?_⟩
    intro owner o howner hother
    refine reads_eq hkeeps hkeeps' hkey howner ?_
    cases hchange : call.change? with
    | none => rfl
    | some change => exact Change.find?_apply_of_ne (Call.owner_of_change? hchange hother) _

/-- Calls on a counter: two owners store something, a count is refused and others are written, and one
owner is cleared. -/
def sideCalls : List (Catalog × Call) :=
  [.sidePut (.str "loot") (.str "bonus") (.int 1), .sidePut (.str "hardcore") (.str "deaths") (.int 3),
    .set (.str "count") (.str "many"), .sidePut (.str "loot") (.str "bonus") (.int 2),
    .update [(.str "count", .int 7)], .sideClear (.str "hardcore")].map fun call => (counters, call)

/-- What was stored last for the owner who is left is read, and storing for the other one again leaves
it. -/
theorem side_data_by_history_of_counter : ∃ verdict r,
    makeCounter [(.str "count", .int 1)] = .ok (verdict, r) ∧ r.data.has (counters.sideKey 1) = false ∧
    let again := Call.sidePut (.str "hardcore") (.str "deaths") (.int 4)
    let s := r.after sideCalls
    ((find counters (.str "loot") (.str "bonus") .nil).run s).result = .ok (.int 2) ∧
      owners counters s = [.str "loot"] ∧
      s.data.has (counters.sideKey 1) = true ∧
      ((all counters (.str "loot")).run ((again.perform counters).run s).state).result =
        ((all counters (.str "loot")).run s).result := by
  obtain ⟨⟨verdict, r⟩, hmake, htest⟩ := @Act.exists_of_passes (Verdict × Record)
    (fun out => decide (out.2.header.type.id = 1) && !out.2.data.has (counters.sideKey 1))
    (makeCounter [(.str "count", .int 1)]) (by decide +kernel)
  simp only [Bool.and_eq_true, decide_eq_true_eq, Bool.not_eq_true'] at htest
  obtain ⟨htype, hempty⟩ := htest
  have hcalls : ∀ c ∈ sideCalls, c.1.sideKey 1 = counters.sideKey 1 ∧
      (c.2.onSideData = true ∨ c.2.avoids (counters.sideKey 1) = true) := by decide +kernel
  obtain ⟨hreads, ⟨howners, _⟩, hpresent, hside⟩ := side_data_by_history htype hempty hcalls rfl
  obtain ⟨hfind, _⟩ := hreads (.str "loot") _ rfl
  obtain ⟨_, _, hothers⟩ := hside (.sidePut (.str "hardcore") (.str "deaths") (.int 4)) rfl
  refine ⟨verdict, r, hmake, hempty, ?_, ?_, ?_, ?_⟩
  · rw [hfind (.str "bonus") _ .nil rfl]
    rfl
  · rw [howners]
    decide +kernel
  · exact hpresent.mpr ⟨.str "loot", .str "bonus", .int 2, rfl⟩
  · exact (hothers (.str "loot") _ rfl (by decide +kernel)).2.1

end Record

end TypedRecord
