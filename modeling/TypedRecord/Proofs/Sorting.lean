import TypedRecord.Key

/-!
# TypedRecord.Proofs.Sorting

Sorting comes to an end where all items can be compared.

A comparison may have no answer, and then sorting has none either. No step of sorting asks for anything
else, and none makes up an item. So if the items have a property, and any two things with the property
can be compared, there is a sorted list, and its items have the property (`ends_sort?`). How far the
steps leap does not matter for this; nor does it matter whether the answers make an order.

One item is sorted without any comparison (`sort?_single`).
-/

namespace TypedRecord

namespace Sorting

variable {α β γ : Type} {P : α → Prop}

/-! ### Computations that come to an end -/

/-- A computation ends, in something with a property. -/
def Ends (Q : β → Prop) (act : Option β) : Prop := ∃ b, act = some b ∧ Q b

/-- A computation with a state ends in something with a property, whatever the state. -/
def EndsFromAny (Q : β → Prop) (act : StateT Nat Option β) : Prop :=
  ∀ s, Ends (fun out => Q out.1) (act.run s)

theorem Ends.bind {Q : β → Prop} {R : γ → Prop} {act : Option β} {next : β → Option γ}
    (hact : Ends Q act) (hnext : ∀ b, Q b → Ends R (next b)) : Ends R (act >>= next) := by
  obtain ⟨b, rfl, hb⟩ := hact
  exact hnext b hb

namespace EndsFromAny

variable {Q : β → Prop} {R : γ → Prop}

theorem pure {b : β} (h : Q b) : EndsFromAny Q (pure b) := fun s => ⟨(b, s), rfl, h⟩

theorem lift {act : Option β} (h : Ends Q act) : EndsFromAny Q (liftM act) := by
  intro s
  obtain ⟨b, rfl, hb⟩ := h
  exact ⟨(b, s), rfl, hb⟩

theorem bind {act : StateT Nat Option β} {next : β → StateT Nat Option γ} (hact : EndsFromAny Q act)
    (hnext : ∀ b, Q b → EndsFromAny R (next b)) : EndsFromAny R (act >>= next) := by
  intro s
  rw [StateT.run_bind]
  exact (hact s).bind fun out hout => hnext out.1 hout out.2

theorem get_bind {next : Nat → StateT Nat Option γ} (h : ∀ s, EndsFromAny R (next s)) :
    EndsFromAny R (get >>= next) := fun s => h s s

theorem set_bind (s : Nat) {next : PUnit → StateT Nat Option γ} (h : EndsFromAny R (next ⟨⟩)) :
    EndsFromAny R (set s >>= next) := fun _ => h s

end EndsFromAny

/-! ### How far a property holds -/

section Reach

variable {holds : α → Option Bool} {items : List α} (h : ∀ x ∈ items, Ends (fun _ => True) (holds x))
include h

theorem ends_stride (fuel low step : Nat) :
    Ends (fun _ => True) (stride holds items fuel low step) := by
  induction fuel generalizing low step with
  | zero => exact ⟨_, rfl, trivial⟩
  | succ fuel ih =>
      unfold stride
      cases hitem : items[step]? with
      | none => exact ⟨_, rfl, trivial⟩
      | some x =>
          refine (h x (List.mem_of_getElem? hitem)).bind fun b _ => ?_
          cases b with
          | true => exact ih _ _
          | false => exact ⟨_, rfl, trivial⟩

theorem ends_halve (early fuel low high : Nat) :
    Ends (fun _ => True) (halve holds items early fuel low high) := by
  induction fuel generalizing low high with
  | zero => exact ⟨_, rfl, trivial⟩
  | succ fuel ih =>
      unfold halve
      by_cases hends : high ≤ low
      · rw [if_pos hends]
        exact ⟨_, rfl, trivial⟩
      · rw [if_neg hends]
        dsimp only
        cases hitem : items[low + (high - low - early) / 2]? with
        | none => exact ⟨_, rfl, trivial⟩
        | some x =>
            refine (h x (List.mem_of_getElem? hitem)).bind fun b _ => ?_
            cases b with
            | true => exact ih _ _
            | false => exact ih _ _

theorem ends_reach (early : Nat) : Ends (fun _ => True) (reach early holds items) := by
  unfold reach
  cases items with
  | nil => exact ⟨0, rfl, trivial⟩
  | cons x rest =>
      refine (h x List.mem_cons_self).bind fun b _ => ?_
      cases b with
      | true => exact (ends_stride h _ _ _).bind fun places _ => ends_halve h _ _ _ _
      | false => exact ⟨0, rfl, trivial⟩

end Reach

/-! ### Merging -/

/-- Any two things with a property can be compared. -/
def Comparable (before : α → α → Option Bool) (P : α → Prop) : Prop :=
  ∀ x y, P x → P y → Ends (fun _ => True) (before x y)

theorem ends_not {act : Option Bool} (h : Ends (fun _ => True) act) :
    Ends (fun _ => True) (not <$> act) := by
  obtain ⟨b, rfl, _⟩ := h
  exact ⟨!b, rfl, trivial⟩

theorem forall_mem_take {xs : List α} (h : ∀ x ∈ xs, P x) (n : Nat) : ∀ x ∈ xs.take n, P x :=
  fun x hx => h x (List.mem_of_mem_take hx)

theorem forall_mem_drop {xs : List α} (h : ∀ x ∈ xs, P x) (n : Nat) : ∀ x ∈ xs.drop n, P x :=
  fun x hx => h x (List.mem_of_mem_drop hx)

theorem forall_mem_reverse {xs : List α} (h : ∀ x ∈ xs, P x) : ∀ x ∈ xs.reverse, P x :=
  fun x hx => h x (List.mem_reverse.mp hx)

section Merge

variable {before : α → α → Option Bool} (hbefore : Comparable before P)
include hbefore

theorem ends_longFirst (d : Direction) {long short : α} (hlong : P long) (hshort : P short) :
    Ends (fun _ => True) (d.longFirst before long short) := by
  cases d with
  | forward => exact hbefore long short hlong hshort
  | backward => exact hbefore short long hshort hlong

theorem ends_mergeFrom (d : Direction) (fuel : Nat) (pace : Pace) (threshold : Nat)
    (taken short long : List α) (htaken : ∀ x ∈ taken, P x) (hshort : ∀ x ∈ short, P x)
    (hlong : ∀ x ∈ long, P x) :
    Ends (fun out => ∀ x ∈ out.1, P x) (mergeFrom d before fuel pace threshold taken short long) := by
  fun_induction mergeFrom d before fuel pace threshold taken short long with
  | case1 _ _ threshold taken short =>
      exact ⟨_, rfl, List.forall_mem_append.mpr ⟨forall_mem_reverse htaken, hshort⟩⟩
  | case2 _ _ threshold taken long =>
      exact ⟨_, rfl, List.forall_mem_append.mpr ⟨forall_mem_reverse htaken, hlong⟩⟩
  | case3 _ _ threshold taken s long =>
      refine ⟨_, rfl, ?_⟩
      simp only [List.forall_mem_append]
      exact ⟨⟨forall_mem_reverse htaken, hlong⟩, hshort⟩
  | case4 _ threshold taken short long =>
      refine ⟨_, rfl, ?_⟩
      simp only [List.forall_mem_append]
      exact ⟨⟨forall_mem_reverse htaken, hshort⟩, hlong⟩
  | case5 fuel shortWins longWins threshold taken s short l long _ ihlong ihshort =>
      obtain ⟨hs, hshorts⟩ := List.forall_mem_cons.mp hshort
      obtain ⟨hl, hlongs⟩ := List.forall_mem_cons.mp hlong
      refine (ends_longFirst hbefore d hl hs).bind fun b _ => ?_
      cases b with
      | true => exact ihlong (List.forall_mem_cons.mpr ⟨hl, htaken⟩) hshort hlongs
      | false => exact ihshort (List.forall_mem_cons.mpr ⟨hs, htaken⟩) hshorts hlong
  | case6 fuel longest _ taken short long _ _ _ _ threshold ih => exact ih htaken hshort hlong
  | case7 fuel longest threshold taken short long _ _ _ _ ih => exact ih htaken hshort hlong
  | case8 fuel moves longest threshold taken short l long _ _ ih =>
      obtain ⟨hl, _⟩ := List.forall_mem_cons.mp hlong
      have hreach := ends_reach (fun s hs => ends_not (ends_longFirst hbefore d hl (hshort s hs)))
        d.early
      refine hreach.bind fun n _ => ih n ?_ (forall_mem_drop hshort n) hlong
      exact List.forall_mem_append.mpr ⟨forall_mem_reverse (forall_mem_take hshort n), htaken⟩
  | case9 fuel moves longest threshold taken s short long _ _ ih =>
      obtain ⟨hs, _⟩ := List.forall_mem_cons.mp hshort
      have hreach := ends_reach (fun l hl => ends_longFirst hbefore d (hlong l hl) hs) d.early
      refine hreach.bind fun n _ => ih n ?_ hshort (forall_mem_drop hlong n)
      exact List.forall_mem_append.mpr ⟨forall_mem_reverse (forall_mem_take hlong n), htaken⟩
  | case10 fuel moves longest threshold taken s short long _ _ ih =>
      obtain ⟨hs, hshorts⟩ := List.forall_mem_cons.mp hshort
      exact ih (List.forall_mem_cons.mpr ⟨hs, htaken⟩) hshorts hlong
  | case11 fuel moves longest threshold taken short l long _ _ ih =>
      obtain ⟨hl, hlongs⟩ := List.forall_mem_cons.mp hlong
      exact ih (List.forall_mem_cons.mpr ⟨hl, htaken⟩) hshort hlongs

theorem ends_mergeToward (d : Direction) (threshold : Nat) {short long : List α}
    (hshort : ∀ x ∈ short, P x) (hlong : ∀ x ∈ long, P x) :
    Ends (fun out => ∀ x ∈ out.1, P x) (mergeToward d before threshold short long) :=
  ends_mergeFrom hbefore d _ _ _ _ _ _ (forall_mem_take hlong 1) hshort (forall_mem_drop hlong 1)

/-- Merging toward a direction, with the threshold that is at hand and is kept. -/
theorem ends_mergeKept (d : Direction) {short long : List α} (hshort : ∀ x ∈ short, P x)
    (hlong : ∀ x ∈ long, P x) {f : List α → List α}
    (hf : ∀ merged, (∀ x ∈ merged, P x) → ∀ x ∈ f merged, P x) :
    EndsFromAny (fun merged => ∀ x ∈ merged, P x) (do
      let (merged, threshold) ← mergeToward d before (← get) short long
      set threshold
      pure (f merged)) :=
  .get_bind fun threshold =>
    .bind (.lift (ends_mergeToward hbefore d threshold hshort hlong)) fun out hout =>
      .set_bind out.2 (.pure (hf out.1 hout))

theorem ends_merge {front back : List α} (hfront : ∀ x ∈ front, P x) (hback : ∀ x ∈ back, P x) :
    EndsFromAny (fun merged => ∀ x ∈ merged, P x) (merge before front back) := by
  unfold merge
  cases back with
  | nil => exact .pure hfront
  | cons first back' =>
      obtain ⟨hfirst, _⟩ := List.forall_mem_cons.mp hback
      have hreach := ends_reach (fun x hx => ends_not (hbefore first x hfirst (hfront x hx))) 0
      refine .bind (.lift hreach) fun kept _ => ?_
      have hhead := forall_mem_take hfront kept
      have hrest := forall_mem_drop hfront kept
      dsimp only
      cases hlast : (front.drop kept).getLast? with
      | none => exact .pure (List.forall_mem_append.mpr ⟨hhead, hback⟩)
      | some last =>
          have hlast := hrest last (List.mem_of_getLast? hlast)
          have hreach := ends_reach
            (fun x hx => ends_not (hbefore x last (forall_mem_reverse hback x hx) hlast)) 1
          refine .bind (.lift hreach) fun kept' _ => ?_
          have hback' := forall_mem_take hback ((first :: back').length - kept')
          have htail := forall_mem_drop hback ((first :: back').length - kept')
          -- Whatever is in the middle, what was kept of both runs stands around it.
          have haround (merged : List α) (hmerged : ∀ x ∈ merged, P x) :
              ∀ x ∈ front.take kept ++ merged ++
                (first :: back').drop ((first :: back').length - kept'), P x := by
            simp only [List.forall_mem_append]
            exact ⟨⟨hhead, hmerged⟩, htail⟩
          split
          · exact .pure (haround _ hrest)
          · split
            · exact ends_mergeKept hbefore .forward hrest hback' haround
            · exact ends_mergeKept hbefore .backward (forall_mem_reverse hback')
                (forall_mem_reverse hrest) fun merged hmerged =>
                  haround _ (forall_mem_reverse hmerged)

theorem ends_mergeAbove (p : Nat) {last : List α} {earlier : List (Pending α)}
    (hlast : ∀ x ∈ last, P x) (hearlier : ∀ e ∈ earlier, ∀ x ∈ e.run, P x) :
    EndsFromAny (fun out => (∀ x ∈ out.1, P x) ∧ ∀ e ∈ out.2, ∀ x ∈ e.run, P x)
      (mergeAbove before p last earlier) := by
  induction earlier generalizing last with
  | nil => exact .pure ⟨hlast, hearlier⟩
  | cons e earlier ih =>
      obtain ⟨he, hrest⟩ := List.forall_mem_cons.mp hearlier
      unfold mergeAbove
      by_cases hp : p < e.power
      · rw [if_pos hp]
        exact .bind (ends_merge hbefore he hlast) fun merged hmerged => ih hmerged hrest
      · rw [if_neg hp]
        exact .pure ⟨hlast, hearlier⟩

theorem ends_settle (n start length : Nat) {pending : List (Pending α)}
    (hpending : ∀ e ∈ pending, ∀ x ∈ e.run, P x) :
    EndsFromAny (fun out => ∀ e ∈ out, ∀ x ∈ e.run, P x)
      (settle before n start length pending) := by
  cases pending with
  | nil => exact .pure hpending
  | cons e earlier =>
      obtain ⟨he, hrest⟩ := List.forall_mem_cons.mp hpending
      exact .bind (ends_mergeAbove hbefore _ he hrest) fun out hout =>
        .pure (List.forall_mem_cons.mpr hout)

theorem ends_mergeAll {runs : List (List α)} (hruns : ∀ run ∈ runs, ∀ x ∈ run, P x) :
    EndsFromAny (fun merged => ∀ x ∈ merged, P x) (mergeAll before runs) := by
  fun_induction mergeAll before runs with
  | case1 => exact .pure fun x hx => by cases hx
  | case2 run => exact .pure (hruns run List.mem_cons_self)
  | case3 c b =>
      obtain ⟨hc, hb, _⟩ := List.forall_mem_cons.mp hruns |>.imp_right List.forall_mem_cons.mp
      exact ends_merge hbefore hb hc
  | case4 c b a rest _ ih =>
      simp only [List.forall_mem_cons] at hruns ih
      obtain ⟨hc, hb, ha, hrest⟩ := hruns
      exact .bind (ends_merge hbefore ha hb) fun merged hmerged => ih merged ⟨hc, hmerged, hrest⟩
  | case5 c b a rest _ ih =>
      simp only [List.forall_mem_cons] at hruns ih
      obtain ⟨hc, hb, ha, hrest⟩ := hruns
      exact .bind (ends_merge hbefore hb hc) fun merged hmerged => ih merged ⟨hmerged, ha, hrest⟩

/-! ### Runs -/

theorem ends_ascending {done : List α} {last : α} {items : List α} (hdone : ∀ x ∈ done, P x)
    (hlast : P last) (hitems : ∀ x ∈ items, P x) :
    Ends (fun out => (∀ x ∈ out.1, P x) ∧ ∀ x ∈ out.2, P x) (ascending before done last items) := by
  induction items generalizing done last with
  | nil => exact ⟨_, rfl, forall_mem_reverse (List.forall_mem_cons.mpr ⟨hlast, hdone⟩), hitems⟩
  | cons x xs ih =>
      obtain ⟨hx, hxs⟩ := List.forall_mem_cons.mp hitems
      have hrun : ∀ y ∈ last :: done, P y := List.forall_mem_cons.mpr ⟨hlast, hdone⟩
      refine (hbefore x last hx hlast).bind fun b _ => ?_
      cases b with
      | true => exact ⟨_, rfl, forall_mem_reverse hrun, hitems⟩
      | false => exact ih hrun hx hxs

theorem ends_descending {done : List α} {last : α} {items : List α} (hdone : ∀ x ∈ done, P x)
    (hlast : P last) (hitems : ∀ x ∈ items, P x) :
    Ends (fun out => (∀ x ∈ out.1, P x) ∧ ∀ x ∈ out.2, P x) (descending before done last items) := by
  induction items generalizing done last with
  | nil => exact ⟨_, rfl, List.forall_mem_cons.mpr ⟨hlast, hdone⟩, hitems⟩
  | cons x xs ih =>
      obtain ⟨hx, hxs⟩ := List.forall_mem_cons.mp hitems
      have hrun : ∀ y ∈ last :: done, P y := List.forall_mem_cons.mpr ⟨hlast, hdone⟩
      refine (hbefore x last hx hlast).bind fun b _ => ?_
      cases b with
      | true => exact ih hrun hx hxs
      | false => exact ⟨_, rfl, hrun, hitems⟩

theorem ends_firstRun {items : List α} (hitems : ∀ x ∈ items, P x) :
    Ends (fun out => (∀ x ∈ out.1, P x) ∧ ∀ x ∈ out.2, P x) (firstRun before items) := by
  match items, hitems with
  | [], hitems => exact ⟨_, rfl, hitems, hitems⟩
  | [x], hitems => exact ⟨_, rfl, hitems, fun y hy => by cases hy⟩
  | x :: y :: rest, hitems =>
      obtain ⟨hx, hrest⟩ := List.forall_mem_cons.mp hitems
      obtain ⟨hy, hrest⟩ := List.forall_mem_cons.mp hrest
      have hdone : ∀ z ∈ [x], P z := List.forall_mem_singleton.mpr hx
      refine (hbefore y x hy hx).bind fun b _ => ?_
      cases b with
      | true => exact ends_descending hbefore hdone hy hrest
      | false => exact ends_ascending hbefore hdone hy hrest

theorem ends_insert {run : List α} {x : α} (hrun : ∀ y ∈ run, P y) (hx : P x) :
    Ends (fun out => ∀ y ∈ out, P y) (insert before run x) := by
  have hholds (y : α) (hy : y ∈ run) := ends_not (hbefore x y hx (hrun y hy))
  refine (ends_halve hholds 0 _ _ _).bind fun place _ => ⟨_, rfl, ?_⟩
  have hbehind := List.forall_mem_cons.mpr ⟨hx, forall_mem_drop hrun place⟩
  exact List.forall_mem_append.mpr ⟨forall_mem_take hrun place, hbehind⟩

theorem ends_insertAll {run more : List α} (hrun : ∀ y ∈ run, P y) (hmore : ∀ y ∈ more, P y) :
    EndsFromAny (fun out => ∀ y ∈ out, P y)
      (more.foldlM (fun run x => (insert before run x : Option (List α))) run) := by
  induction more generalizing run with
  | nil => exact .pure hrun
  | cons x more ih =>
      obtain ⟨hx, hrest⟩ := List.forall_mem_cons.mp hmore
      rw [List.foldlM_cons]
      exact .bind (.lift (ends_insert hbefore hrun hx)) fun run' hrun' => ih hrun' hrest

theorem ends_collect (n fuel start : Nat) {pending : List (Pending α)} {items : List α}
    (hpending : ∀ e ∈ pending, ∀ x ∈ e.run, P x) (hitems : ∀ x ∈ items, P x) :
    EndsFromAny (fun out => ∀ e ∈ out, ∀ x ∈ e.run, P x)
      (collect before n fuel start pending items) := by
  induction fuel generalizing start pending items with
  | zero => exact .pure hpending
  | succ fuel ih =>
      cases items with
      | nil => exact .pure hpending
      | cons x items =>
          unfold collect
          refine .bind (.lift (ends_firstRun hbefore hitems)) fun out hout => ?_
          obtain ⟨run, rest⟩ := out
          obtain ⟨hrun, hrest⟩ := hout
          refine .bind (ends_insertAll hbefore hrun (forall_mem_take hrest _)) fun run hrun => ?_
          refine .bind (ends_settle hbefore n start run.length hpending) fun pending hpending => ?_
          exact ih _ (List.forall_mem_cons.mpr ⟨hrun, hpending⟩) (forall_mem_drop hrest _)

end Merge

/-- Items that can all be compared have a sorted list. -/
theorem ends_sort? {before : α → α → Option Bool} (hbefore : Comparable before P) {items : List α}
    (hitems : ∀ x ∈ items, P x) : Ends (fun sorted => ∀ x ∈ sorted, P x) (sort? before items) := by
  have hnone : ∀ e ∈ ([] : List (Pending α)), ∀ x ∈ e.run, P x := fun e he => by cases he
  have hsorted : EndsFromAny (fun sorted => ∀ x ∈ sorted, P x) (do
      let pending ← collect before items.length items.length 0 [] items
      mergeAll before (pending.map Pending.run)) :=
    .bind (ends_collect hbefore _ _ 0 hnone hitems) fun pending hpending =>
      ends_mergeAll hbefore (List.forall_mem_map.mpr hpending)
  obtain ⟨out, hrun, hout⟩ := hsorted leapLength
  exact ⟨out.1, congrArg (Option.map Prod.fst) hrun, hout⟩

/-- One item is sorted, whether or not it can be compared. -/
theorem sort?_single (before : α → α → Option Bool) (x : α) : sort? before [x] = some [x] := by
  have hcollect : collect before 1 1 0 [] [x] = pure [⟨[x], 0⟩] := rfl
  have hmerge : mergeAll before [[x]] = pure [x] := by rw [mergeAll]
  have hsort : sort? before [x] = (do
      let pending ← collect before 1 1 0 [] [x]
      mergeAll before (pending.map Pending.run) : StateT Nat Option (List α)).run' leapLength := rfl
  rw [hsort, hcollect, pure_bind, List.map_singleton, hmerge]
  rfl

end Sorting

end TypedRecord
