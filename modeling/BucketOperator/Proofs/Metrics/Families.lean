import BucketOperator.Metrics.Registry
import Mathlib.Data.List.Basic

/-!
# What a family says after some events

An event changes at most one series of a family. So a series is what the events about it have made
of it, in their order, whatever events there were in between: a counter is their number, and so is
the number of observations in a histogram.
-/

namespace BucketOperator.Metrics

namespace Family

/-- The series stand in increasing order of their label values, so none has those of another. -/
def IsSorted {α : Type} (family : Family α) : Prop := family.Pairwise fun s s' => s.1 < s'.1

/-- A family after an event, given which series an event is about, if any, and how it changes
that one. -/
def after {α : Type} (about? : Event → Option (List String)) (fresh : α)
    (change : Event → α → α) (family : Family α) (event : Event) : Family α :=
  match about? event with
  | some labels => family.update labels fresh (change event)
  | none => family

/-- What a counter or a gauge shows. -/
def value (family : Family Nat) (labels : List String) : Nat := (family.get? labels).getD 0

/-- How many observations a histogram holds. -/
def samples (family : Family Histogram) (labels : List String) : Nat :=
  (family.get? labels).elim 0 Histogram.count

/-- The sum of all series. -/
def total (family : Family Nat) : Nat := (family.map Prod.snd).foldr (· + ·) 0

section Updates

variable {α : Type} {family : Family α} {labels l : List String} {fresh : α} {change : α → α}

lemma mem_update {s : List String × α} (h : s ∈ family.update labels fresh change) :
    s ∈ family ∨ s.1 = labels ∧
      (s.2 = change fresh ∨ ∃ a, (labels, a) ∈ family ∧ s.2 = change a) := by
  induction family with
  | nil =>
    obtain rfl := List.mem_singleton.1 h
    exact .inr ⟨rfl, .inl rfl⟩
  | cons head rest ih =>
    obtain ⟨k, a⟩ := head
    unfold update at h
    split at h
    · rcases List.mem_cons.1 h with rfl | h
      · exact .inr ⟨rfl, .inl rfl⟩
      · exact .inl h
    · split at h
      · rename_i heq
        rcases List.mem_cons.1 h with rfl | h
        · exact .inr ⟨heq.symm, .inr ⟨a, heq ▸ List.mem_cons_self, rfl⟩⟩
        · exact .inl (List.mem_cons_of_mem _ h)
      · rcases List.mem_cons.1 h with rfl | h
        · exact .inl List.mem_cons_self
        · rcases ih h with h | ⟨hl, h | ⟨a', ha', h⟩⟩
          · exact .inl (List.mem_cons_of_mem _ h)
          · exact .inr ⟨hl, .inl h⟩
          · exact .inr ⟨hl, .inr ⟨a', List.mem_cons_of_mem _ ha', h⟩⟩

lemma IsSorted.update (h : family.IsSorted) : (family.update labels fresh change).IsSorted := by
  induction family with
  | nil => exact List.pairwise_singleton _ _
  | cons head rest ih =>
    obtain ⟨k, a⟩ := head
    obtain ⟨hk, hrest⟩ := List.pairwise_cons.1 h
    unfold Family.update
    split
    · rename_i hlt
      refine List.pairwise_cons.2 ⟨fun s hs => ?_, h⟩
      rcases List.mem_cons.1 hs with rfl | hs
      · exact hlt
      · exact List.lt_trans hlt (hk s hs)
    · split
      · exact List.pairwise_cons.2 ⟨hk, hrest⟩
      · rename_i hlt hne
        refine List.pairwise_cons.2 ⟨fun s hs => ?_, ih hrest⟩
        rcases mem_update hs with hs | ⟨hl, -⟩
        · exact hk s hs
        · rw [hl]
          exact Std.lt_of_le_of_ne (Std.not_lt.1 hlt) (Ne.symm hne)

lemma get?_cons {k : List String} {a : α} {rest : Family α} :
    get? ((k, a) :: rest) l = if l = k then some a else rest.get? l := by
  by_cases h : l = k
  · simp [get?, h]
  · simp [get?, List.lookup_cons, beq_eq_false_iff_ne.2 h, h]

lemma get?_eq_none_of_lt (h : ∀ s ∈ family, l < s.1) : family.get? l = none := by
  induction family with
  | nil => rfl
  | cons head rest ih =>
    obtain ⟨k, a⟩ := head
    have hne : l ≠ k := by
      rintro rfl
      exact List.lt_irrefl _ (h _ List.mem_cons_self)
    rw [get?_cons, if_neg hne]
    exact ih fun s hs => h s (List.mem_cons_of_mem _ hs)

lemma get?_update (h : family.IsSorted) : (family.update labels fresh change).get? l =
    if l = labels then some (change ((family.get? labels).getD fresh)) else family.get? l := by
  induction family with
  | nil => rw [update, get?_cons]; rfl
  | cons head rest ih =>
    obtain ⟨k, a⟩ := head
    obtain ⟨hk, hrest⟩ := List.pairwise_cons.1 h
    unfold update
    split
    · rename_i hlt
      have hnone : get? ((k, a) :: rest) labels = none := by
        refine get?_eq_none_of_lt fun s hs => ?_
        rcases List.mem_cons.1 hs with rfl | hs
        · exact hlt
        · exact List.lt_trans hlt (hk s hs)
      rw [get?_cons, hnone, Option.getD_none]
    · split
      · rename_i heq
        subst heq
        rw [get?_cons, get?_cons, get?_cons, if_pos rfl, Option.getD_some]
        split <;> rfl
      · rename_i hne
        rw [get?_cons, get?_cons, get?_cons, ih hrest, if_neg hne]
        split
        · rename_i hl
          rw [if_neg (hl ▸ Ne.symm hne)]
        · rfl

lemma total_update_succ (family : Family Nat) (labels : List String) :
    (family.update labels 0 (· + 1)).total = family.total + 1 := by
  induction family with
  | nil => rfl
  | cons head rest ih =>
    obtain ⟨k, n⟩ := head
    unfold update
    split
    · simp [total]
      omega
    · split
      · simp [total]
        omega
      · simp only [total, List.map_cons, List.foldr_cons] at ih ⊢
        omega

end Updates

section Runs

variable {α : Type} {about? : Event → Option (List String)} {fresh : α}
  {change : Event → α → α} {family : Family α} {labels : List String}

lemma IsSorted.after (h : family.IsSorted) (event : Event) :
    (family.after about? fresh change event).IsSorted := by
  unfold Family.after
  split
  · exact h.update
  · exact h

/-- An event changes the series that it is about. -/
lemma get?_after (h : family.IsSorted) (event : Event) :
    ((family.after about? fresh change event).get? labels).getD fresh =
      if about? event = some labels then change event ((family.get? labels).getD fresh)
      else (family.get? labels).getD fresh := by
  unfold after
  split
  · rename_i labels' heq
    rw [get?_update h, heq]
    by_cases hl : labels = labels'
    · simp [hl]
    · simp [hl, Ne.symm hl]
  · rename_i heq
    simp [heq]

/-- A series is what the events about it have made of it. -/
theorem get?_foldl_after (h : family.IsSorted) (events : List Event) :
    ((events.foldl (after about? fresh change) family).get? labels).getD fresh =
      (events.filter fun e => about? e = some labels).foldl (fun a e => change e a)
        ((family.get? labels).getD fresh) := by
  induction events generalizing family with
  | nil => rfl
  | cons event events ih =>
    rw [List.foldl_cons, ih (h.after event), get?_after h event]
    by_cases habout : about? event = some labels
    · simp [habout]
    · simp [habout]

/-- What holds of a fresh series, and whatever events do to it, holds of all series. -/
lemma forall_mem_foldl_after {P : α → Prop} (hfresh : P fresh)
    (hchange : ∀ e a, P a → P (change e a)) (h : ∀ s ∈ family, P s.2) (events : List Event) :
    ∀ s ∈ events.foldl (after about? fresh change) family, P s.2 := by
  induction events generalizing family with
  | nil => exact h
  | cons event events ih =>
    refine ih fun s hs => ?_
    unfold after at hs
    split at hs
    · rcases mem_update hs with hs | ⟨-, heq | ⟨a, ha, heq⟩⟩
      · exact h s hs
      · exact heq ▸ hchange event _ hfresh
      · exact heq ▸ hchange event _ (h _ ha)
    · exact h s hs

lemma length_filter_about (events : List Event) :
    (events.filter fun e => about? e = some labels).length =
      (events.filterMap about?).count labels := by
  rw [List.count_filterMap, List.countP_eq_length_filter]
  congr 1
  apply List.filter_congr
  intro e _
  rw [Bool.eq_iff_iff, decide_eq_true_iff, beq_iff_eq]

/-- What each event about a series adds one to counts these events. -/
lemma size_foldl_after {I : α → Prop} (size : α → Nat) (hfresh : I fresh ∧ size fresh = 0)
    (hchange : ∀ e a, I a → I (change e a) ∧ size (change e a) = size a + 1)
    (events : List Event) :
    size (((events.foldl (after about? fresh change) []).get? labels).getD fresh) =
      (events.filterMap about?).count labels := by
  have hruns : ∀ (es : List Event) (a : α), I a →
      size (es.foldl (fun a e => change e a) a) = size a + es.length := by
    intro es
    induction es with
    | nil => exact fun a _ => rfl
    | cons e es ih =>
      intro a ha
      obtain ⟨hI, hsize⟩ := hchange e a ha
      rw [List.foldl_cons, ih _ hI, hsize, List.length_cons]
      omega
  have hstart : ((get? [] labels).getD fresh : α) = fresh := rfl
  rw [get?_foldl_after List.Pairwise.nil, hstart, hruns _ _ hfresh.1, hfresh.2, Nat.zero_add,
    length_filter_about]

/-- A counter is the number of events about it. -/
lemma value_counted (events : List Event) :
    (events.foldl (after about? 0 fun _ => (· + 1)) []).value labels =
      (events.filterMap about?).count labels :=
  size_foldl_after (I := fun _ => True) id ⟨trivial, rfl⟩ (fun _ _ _ => ⟨trivial, rfl⟩) events

/-- All events about a family of counters are counted in one of its series. -/
lemma total_counted (events : List Event) :
    (events.foldl (after about? 0 fun _ => (· + 1)) []).total =
      (events.filterMap about?).length := by
  have hruns : ∀ family : Family Nat,
      (events.foldl (after about? 0 fun _ => (· + 1)) family).total =
        family.total + (events.filterMap about?).length := by
    induction events with
    | nil => exact fun family => rfl
    | cons event events ih =>
      intro family
      rw [List.foldl_cons, ih, after]
      cases habout : about? event with
      | none => simp [habout]
      | some labels =>
        simp only [total_update_succ, List.filterMap_cons, habout, List.length_cons]
        omega
  rw [hruns []]
  exact Nat.zero_add _

/-- A gauge that is only ever set to one shows whether there was an event about it. -/
lemma value_set (events : List Event) :
    (events.foldl (after about? 0 fun _ _ => 1) []).value labels = 1 ↔
      labels ∈ events.filterMap about? := by
  have hset : ∀ (es : List Event) (n : Nat), es.foldl (fun _ _ => 1) n = 1 ↔ es ≠ [] ∨ n = 1 := by
    intro es
    induction es with
    | nil => simp
    | cons e es ih => simp [ih]
  rw [value, get?_foldl_after List.Pairwise.nil, hset, ← List.count_pos_iff, ← length_filter_about,
    List.length_pos_iff]
  simp [get?]

end Runs

end Family

/-! ### Histograms -/

namespace Histogram

/-- There is a count for each bound and one for what lies beyond them. -/
def Fits (bounds : List Binary64) (h : Histogram) : Prop := h.counts.length = bounds.length + 1

/-- The running totals of a histogram never fall, and the last one is the number of observations. -/
structure IsCumulative (bounds : List Binary64) (h : Histogram) : Prop where
  length : h.cumulative.length = bounds.length + 1
  rising : h.cumulative.Pairwise (· ≤ ·)
  last : h.cumulative.getLast? = some h.count

section Observations

variable {bounds : List Binary64} {value : Binary64} {counts : List Nat} {h : Histogram}

lemma length_place : (place value bounds counts).length = counts.length := by
  induction counts generalizing bounds with
  | nil => cases bounds <;> rfl
  | cons count counts ih =>
    cases bounds with
    | nil => rfl
    | cons bound bounds =>
      rw [place]
      split
      · rfl
      · rw [List.length_cons, ih, List.length_cons]

/-- An observation falls on one bound, or beyond all. -/
lemma count_place (h : bounds.length < counts.length) :
    (place value bounds counts).foldr (· + ·) 0 = counts.foldr (· + ·) 0 + 1 := by
  induction counts generalizing bounds with
  | nil => cases h
  | cons count counts ih =>
    cases bounds with
    | nil =>
      simp only [place, List.foldr_cons]
      omega
    | cons bound bounds =>
      have hrest : (place value bounds counts).foldr (· + ·) 0 = counts.foldr (· + ·) 0 + 1 :=
        ih (Nat.lt_of_succ_lt_succ h)
      rw [place]
      split
      · simp only [List.foldr_cons]
        omega
      · simp only [List.foldr_cons, hrest]
        omega

lemma Fits.observe (hfits : h.Fits bounds) : (h.observe bounds value).Fits bounds :=
  length_place.trans hfits

lemma Fits.count_observe (hfits : h.Fits bounds) :
    (h.observe bounds value).count = h.count + 1 :=
  count_place (hfits ▸ Nat.lt_succ_self _)

lemma fits_empty : (empty bounds.length).Fits bounds := List.length_replicate

lemma count_empty (n : Nat) : (empty n).count = 0 :=
  List.sum_replicate_nat.trans (Nat.mul_zero _)

lemma length_runningTotals (before : Nat) :
    (runningTotals before counts).length = counts.length := by
  induction counts generalizing before with
  | nil => rfl
  | cons count counts ih => rw [runningTotals, List.length_cons, ih, List.length_cons]

lemma le_of_mem_runningTotals {before n : Nat} (h : n ∈ runningTotals before counts) :
    before ≤ n := by
  induction counts generalizing before with
  | nil => cases h
  | cons count counts ih =>
    rcases List.mem_cons.1 h with rfl | h
    · exact Nat.le_add_right _ _
    · exact Nat.le_trans (Nat.le_add_right _ _) (ih h)

lemma pairwise_runningTotals (before : Nat) : (runningTotals before counts).Pairwise (· ≤ ·) := by
  induction counts generalizing before with
  | nil => exact List.Pairwise.nil
  | cons count counts ih =>
    exact List.pairwise_cons.2 ⟨fun n hn => le_of_mem_runningTotals hn, ih _⟩

lemma getLast?_runningTotals (before : Nat) (h : counts ≠ []) :
    (runningTotals before counts).getLast? = some (before + counts.foldr (· + ·) 0) := by
  induction counts generalizing before with
  | nil => exact absurd rfl h
  | cons count counts ih =>
    cases counts with
    | nil => simp [runningTotals]
    | cons next rest =>
      have hlast := ih (before + count) (List.cons_ne_nil _ _)
      rw [runningTotals, List.getLast?_cons, hlast, Option.getD_some]
      exact congrArg some (Nat.add_assoc ..)

lemma Fits.isCumulative (hfits : h.Fits bounds) : h.IsCumulative bounds where
  length := (length_runningTotals 0).trans hfits
  rising := pairwise_runningTotals 0
  last := by
    have hne : h.counts ≠ [] := List.ne_nil_of_length_eq_add_one hfits
    rw [cumulative, getLast?_runningTotals 0 hne, Nat.zero_add]
    rfl

end Observations

end Histogram

namespace Family

variable {about? : Event → Option (List String)} {duration : Event → Binary64}
  {bounds : List Binary64} {labels : List String}

/-- A family of histograms after the durations of some events. -/
abbrev timed (about? : Event → Option (List String)) (bounds : List Binary64)
    (duration : Event → Binary64) (events : List Event) : Family Histogram :=
  events.foldl (after about? (.empty bounds.length) fun e => .observe bounds (duration e)) []

/-- A histogram holds an observation for each event about it. -/
lemma samples_timed (events : List Event) :
    (timed about? bounds duration events).samples labels =
      (events.filterMap about?).count labels := by
  have hcount : (((timed about? bounds duration events).get? labels).getD
      (.empty bounds.length)).count = (events.filterMap about?).count labels :=
    size_foldl_after (I := fun h => h.Fits bounds) Histogram.count
      ⟨Histogram.fits_empty, Histogram.count_empty _⟩
      (fun e h hfits => ⟨hfits.observe, hfits.count_observe⟩) events
  rw [← hcount, samples]
  cases (timed about? bounds duration events).get? labels with
  | none => exact (Histogram.count_empty _).symm
  | some h => rfl

lemma isCumulative_timed (events : List Event) :
    ∀ s ∈ timed about? bounds duration events, s.2.IsCumulative bounds := by
  intro s hs
  have hfits := forall_mem_foldl_after (P := fun h => h.Fits bounds) Histogram.fits_empty
    (fun e h hfits => Histogram.Fits.observe hfits) (fun _ h => nomatch h) events s hs
  exact hfits.isCumulative

end Family

end BucketOperator.Metrics
