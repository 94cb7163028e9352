import BucketOperator.Proofs.Retry
import Mathlib.Algebra.Group.Nat.Defs

/-!
# Rounds of attempts

Repeated attempts are a list of rounds, each an attempt that asked for another one and the interval
that was waited after it, and a last attempt. The intervals are those that the backoff yields one
after the other. The last attempt asks for no other one, or finds the backoff spent. A run of
attempts obeys this law, and whatever obeys it is a run. A run that is cut has made as many rounds
as are allowed, or was cut in an attempt, or its backoff cannot be advanced.
-/

namespace BucketOperator

/-- An interval that was waited, and the time when the backoff was asked for it. -/
structure Wait where
  now : Nat
  duration : Nat

/-- The exchanges of a wait. -/
def Wait.exchanges (wait : Wait) : Trace World :=
  [⟨.clock, wait.now⟩, ⟨.sleep wait.duration, ()⟩]

namespace Backoff

/-- Asked for intervals one after the other, a backoff that was started at some time yields each of
them within its budget, and is left as another one. -/
inductive Grants (start : Nat) : Backoff → List Wait → Backoff → Prop where
  | nil (backoff : Backoff) : Grants start backoff [] backoff
  | cons {backoff next left : Backoff} {now : Nat} {waits : List Wait}
      (hbudget : backoff.isSpent (now - start) = false) (hnext : backoff.advance? = some next)
      (rest : Grants start next waits left) :
      Grants start backoff (⟨now, backoff.current⟩ :: waits) left

/-! ### The intervals between calls -/

/-- How long is waited after so many other intervals between calls, in nanoseconds: 100 ms that are
doubled each time, and 10 s at most. -/
def callWait (n : Nat) : Nat := min (100 * 2 ^ n) 10000 * Duration.nanosPerMilli

/-- The backoff of calls after so many intervals. -/
def calling (n : Nat) : Backoff := { forCalls with current := callWait n }

lemma callWait_of_le {n : Nat} (h : 7 ≤ n) : callWait n = callWait 7 := by
  have hpow : 2 ^ 7 ≤ 2 ^ n := Nat.pow_le_pow_right (by decide) h
  rw [callWait, callWait, Nat.min_eq_right (by omega), Nat.min_eq_right (by decide)]

lemma advance_calling (n : Nat) : (calling n).advance? = some (calling (n + 1)) := by
  have hgrowing : ∀ n < 7, (calling n).advance? = some (calling (n + 1)) := by decide +kernel
  have hconstant : (calling 7).advance? = some (calling 7) := by decide +kernel
  rcases Nat.lt_or_ge n 7 with h | h
  · exact hgrowing n h
  · have hsame : ∀ {m : Nat}, 7 ≤ m → calling m = calling 7 := fun hm => by
      rw [calling, callWait_of_le hm, calling]
    rw [hsame h, hsame (Nat.le_succ_of_le h), hconstant]

variable {start n : Nat} {waits : List Wait}

lemma isSpent_calling {elapsed : Nat} :
    (calling n).isSpent elapsed = false ↔ elapsed < 120000 * Duration.nanosPerMilli := by
  change decide (120000 * Duration.nanosPerMilli ≤ elapsed) = false ↔ _
  rw [decide_eq_false_iff_not, Nat.not_le]

/-- A wait in its place between calls: it has the length of that place, and was asked for within two
minutes. -/
def IsCallWait (start n : Nat) (wait : Wait) : Prop :=
  wait.duration = callWait n ∧ wait.now - start < 120000 * Duration.nanosPerMilli

lemma grants_calling_iff : (∃ left, (calling n).Grants start waits left) ↔
    ∀ i wait, waits[i]? = some wait → IsCallWait start (n + i) wait := by
  induction waits generalizing n with
  | nil => exact ⟨fun _ => nofun, fun _ => ⟨_, .nil _⟩⟩
  | cons wait waits ih =>
    constructor
    · rintro ⟨left, h⟩
      cases h with
      | cons hbudget hnext rest =>
        rw [advance_calling, Option.some.injEq] at hnext
        subst hnext
        intro i wait hi
        cases i with
        | zero =>
          cases hi
          exact ⟨rfl, isSpent_calling.1 hbudget⟩
        | succ i =>
          have hrest := ih.1 ⟨left, rest⟩ i wait hi
          rwa [Nat.succ_add, ← Nat.add_succ] at hrest
    · intro h
      obtain ⟨now, duration⟩ := wait
      obtain ⟨rfl, hnow⟩ := h 0 _ rfl
      obtain ⟨left, hrest⟩ : ∃ left, (calling (n + 1)).Grants start waits left := by
        refine ih.2 fun i wait hi => ?_
        rw [Nat.succ_add, ← Nat.add_succ]
        exact h (i + 1) wait hi
      exact ⟨left, .cons (isSpent_calling.2 hnow) (advance_calling n) hrest⟩

/-- The intervals between calls are 100 ms, 200 ms and so on up to 10 s, for two minutes. -/
theorem grants_forCalls_iff : (∃ left, forCalls.Grants start waits left) ↔
    ∀ i wait, waits[i]? = some wait → IsCallWait start i wait := by
  have hcalls : (∃ left, (calling 0).Grants start waits left) ↔
      ∀ i wait, waits[i]? = some wait → IsCallWait start (0 + i) wait := grants_calling_iff
  simp only [Nat.zero_add] at hcalls
  exact hcalls

end Backoff

namespace Retry

variable {α : Type}

/-- An attempt that was followed by another one, with what it asked and the wait in between. -/
structure Round (α : Type) where
  asked : Trace World
  outcome : α
  wait : Wait

def Round.exchanges (round : Round α) : Trace World := round.asked ++ round.wait.exchanges

/-- How repeated attempts end: with an outcome that asks for no other attempt, or with one that
does when the backoff is spent. -/
inductive Ending (α : Type) where
  | settled (a : α)
  | spent (a : α)

/-- The outcome of the last attempt. -/
def Ending.outcome : Ending α → α
  | .settled a => a
  | .spent a => a

section Law

variable {A : Trace World → α → Prop} {Again : α → Prop} {start patience : Nat}
  {backoff next : Backoff} {rounds : List (Round α)} {t : Trace World} {ending : Ending α}

/-- The rounds of a run: in each an attempt was made, as `A` tells, and asked for another one, and
the backoff yielded the interval that was waited. -/
structure Repeated (A : Trace World → α → Prop) (Again : α → Prop) (start : Nat) (backoff : Backoff)
    (rounds : List (Round α)) (left : Backoff) : Prop where
  attempts : ∀ round ∈ rounds, A round.asked round.outcome ∧ Again round.outcome
  waits : backoff.Grants start (rounds.map Round.wait) left

/-- The law of repetition: after the rounds one more attempt is made. It asks for no other one, or
the backoff is spent. -/
inductive Obeys (A : Trace World → α → Prop) (Again : α → Prop) (start : Nat) (backoff : Backoff)
    (rounds : List (Round α)) : Trace World → Ending α → Prop where
  | settled {left : Backoff} {u : Trace World} {a : α}
      (hrounds : Repeated A Again start backoff rounds left) (hlast : A u a) (ha : ¬ Again a) :
      Obeys A Again start backoff rounds (rounds.flatMap Round.exchanges ++ u) (.settled a)
  | spent {left : Backoff} {u : Trace World} {a : α} {now : Nat}
      (hrounds : Repeated A Again start backoff rounds left) (hlast : A u a) (ha : Again a)
      (hspent : left.isSpent (now - start) = true) :
      Obeys A Again start backoff rounds
        (rounds.flatMap Round.exchanges ++ (u ++ [⟨.clock, now⟩])) (.spent a)

/-- Attempts that are repeated with a fresh backoff, at most as many as are allowed. -/
def Persists (A : Trace World → α → Prop) (Again : α → Prop) (backoff : Backoff) (patience : Nat)
    (t : Trace World) (ending : Ending α) : Prop :=
  ∃ (start : Nat) (rounds : List (Round α)) (u : Trace World), t = ⟨.clock, start⟩ :: u ∧
    rounds.length < patience ∧ Obeys A Again start backoff rounds u ending

/-- Where repeated attempts are cut: as many of them as are allowed have asked for another one, or
an attempt is cut itself, as `Cut` tells, or the backoff cannot be advanced. -/
inductive Breaks (A : Trace World → α → Prop) (Again : α → Prop) (Cut : Trace World → Prop)
    (start : Nat) (backoff : Backoff) (patience : Nat) : Trace World → Prop where
  | exhausted {rounds : List (Round α)} {left : Backoff}
      (hrounds : Repeated A Again start backoff rounds left) (hlength : rounds.length = patience) :
      Breaks A Again Cut start backoff patience (rounds.flatMap Round.exchanges)
  | interrupted {rounds : List (Round α)} {left : Backoff} {u : Trace World}
      (hrounds : Repeated A Again start backoff rounds left) (hlength : rounds.length < patience)
      (hcut : Cut u) :
      Breaks A Again Cut start backoff patience (rounds.flatMap Round.exchanges ++ u)
  | stuck {rounds : List (Round α)} {left : Backoff} {u : Trace World} {a : α} {now : Nat}
      (hrounds : Repeated A Again start backoff rounds left) (hlength : rounds.length < patience)
      (hlast : A u a) (ha : Again a) (hbudget : left.isSpent (now - start) = false)
      (hnext : left.advance? = none) :
      Breaks A Again Cut start backoff patience
        (rounds.flatMap Round.exchanges ++ (u ++ [⟨.clock, now⟩]))

/-- Attempts that are repeated with a fresh backoff and are cut. -/
def Collapses (A : Trace World → α → Prop) (Again : α → Prop) (Cut : Trace World → Prop)
    (backoff : Backoff) (patience : Nat) (t : Trace World) : Prop :=
  ∃ (start : Nat) (u : Trace World), t = ⟨.clock, start⟩ :: u ∧
    Breaks A Again Cut start backoff patience u

lemma repeated_nil : Repeated A Again start backoff [] backoff := ⟨nofun, .nil _⟩

lemma repeated_cons_iff {asked : Trace World} {outcome : α} {wait : Wait} {left : Backoff} :
    Repeated A Again start backoff (⟨asked, outcome, wait⟩ :: rounds) left ↔
      A asked outcome ∧ Again outcome ∧ backoff.isSpent (wait.now - start) = false ∧
        wait.duration = backoff.current ∧
        ∃ next, backoff.advance? = some next ∧ Repeated A Again start next rounds left := by
  constructor
  · rintro ⟨hattempts, hwaits⟩
    obtain ⟨⟨hfirst, hagain⟩, hrest⟩ := List.forall_mem_cons.1 hattempts
    cases hwaits with
    | cons hbudget hnext hwaits =>
      exact ⟨hfirst, hagain, hbudget, rfl, _, hnext, hrest, hwaits⟩
  · obtain ⟨now, duration⟩ := wait
    rintro ⟨hfirst, hagain, hbudget, rfl, next, hnext, hrest, hwaits⟩
    exact ⟨List.forall_mem_cons.2 ⟨⟨hfirst, hagain⟩, hrest⟩, .cons hbudget hnext hwaits⟩

/-- The first of several rounds is followed by a run with what is left of the backoff. -/
lemma obeys_cons_iff {asked : Trace World} {outcome : α} {wait : Wait} :
    Obeys A Again start backoff (⟨asked, outcome, wait⟩ :: rounds) t ending ↔
      A asked outcome ∧ Again outcome ∧ backoff.isSpent (wait.now - start) = false ∧
        wait.duration = backoff.current ∧ ∃ next u, backoff.advance? = some next ∧
          t = asked ++ wait.exchanges ++ u ∧ Obeys A Again start next rounds u ending := by
  constructor
  · intro h
    cases h with
    | settled hrounds hlast ha =>
      obtain ⟨hfirst, hagain, hbudget, hduration, next, hnext, hrest⟩ :=
        repeated_cons_iff.1 hrounds
      exact ⟨hfirst, hagain, hbudget, hduration, next, _, hnext, List.append_assoc _ _ _,
        .settled hrest hlast ha⟩
    | spent hrounds hlast ha hspent =>
      obtain ⟨hfirst, hagain, hbudget, hduration, next, hnext, hrest⟩ :=
        repeated_cons_iff.1 hrounds
      exact ⟨hfirst, hagain, hbudget, hduration, next, _, hnext, List.append_assoc _ _ _,
        .spent hrest hlast ha hspent⟩
  · rintro ⟨hfirst, hagain, hbudget, hduration, next, u, hnext, rfl, h⟩
    have hcons : ∀ {left : Backoff}, Repeated A Again start next rounds left →
        Repeated A Again start backoff (⟨asked, outcome, wait⟩ :: rounds) left := fun hrest =>
      repeated_cons_iff.2 ⟨hfirst, hagain, hbudget, hduration, next, hnext, hrest⟩
    cases h with
    | settled hrest hlast ha =>
      have hrun := Obeys.settled (hcons hrest) hlast ha
      rwa [List.flatMap_cons, List.append_assoc] at hrun
    | spent hrest hlast ha hspent =>
      have hrun := Obeys.spent (hcons hrest) hlast ha hspent
      rwa [List.flatMap_cons, List.append_assoc] at hrun

lemma obeys_nil_iff : Obeys A Again start backoff [] t ending ↔
    (∃ a, A t a ∧ ¬ Again a ∧ ending = .settled a) ∨
      ∃ (u : Trace World) (a : α) (now : Nat), t = u ++ [⟨.clock, now⟩] ∧ A u a ∧ Again a ∧
        backoff.isSpent (now - start) = true ∧ ending = .spent a := by
  constructor
  · intro h
    cases h with
    | settled hrounds hlast ha => exact .inl ⟨_, hlast, ha, rfl⟩
    | spent hrounds hlast ha hspent =>
      obtain ⟨-, hwaits⟩ := hrounds
      cases hwaits
      exact .inr ⟨_, _, _, rfl, hlast, ha, hspent, rfl⟩
  · rintro (⟨a, hlast, ha, rfl⟩ | ⟨u, a, now, rfl, hlast, ha, hspent, rfl⟩)
    · exact .settled repeated_nil hlast ha
    · exact .spent repeated_nil hlast ha hspent

lemma Persists.not_again {a : α} (h : Persists A Again backoff patience t (.settled a)) :
    ¬ Again a := by
  obtain ⟨start, rounds, u, -, -, hobeys⟩ := h
  cases hobeys with
  | settled hrounds hlast ha => exact ha

lemma Persists.again {a : α} (h : Persists A Again backoff patience t (.spent a)) : Again a := by
  obtain ⟨start, rounds, u, -, -, hobeys⟩ := h
  cases hobeys with
  | spent hrounds hlast ha hspent => exact ha

/-- Nothing but the time is asked for after the last attempt. -/
lemma Persists.exists_last (h : Persists A Again backoff patience t ending) :
    ∃ before last after, t = before ++ last ++ after ∧ A last ending.outcome ∧
      (after = [] ∨ ∃ now : Nat, after = [⟨.clock, now⟩]) := by
  obtain ⟨start, rounds, u, rfl, -, hobeys⟩ := h
  cases hobeys with
  | @settled left u a hrounds hlast ha =>
    exact ⟨⟨.clock, start⟩ :: rounds.flatMap Round.exchanges, u, [], by simp, hlast, .inl rfl⟩
  | @spent left u a now hrounds hlast ha hspent =>
    exact ⟨⟨.clock, start⟩ :: rounds.flatMap Round.exchanges, u, [⟨.clock, now⟩], by simp, hlast,
      .inr ⟨now, rfl⟩⟩

/-- Where no attempt asks for another one, there is only one. -/
lemma Persists.exists_only (h : Persists A Again backoff patience t ending)
    (hA : ∀ u a, u ⊆ t → A u a → ¬ Again a) : ∃ (start : Nat) (u : Trace World),
      t = ⟨.clock, start⟩ :: u ∧ A u ending.outcome := by
  obtain ⟨start, rounds, u, rfl, -, hobeys⟩ := h
  cases hobeys with
  | @settled left u a hrounds hlast ha =>
    cases rounds with
    | nil => exact ⟨start, u, rfl, hlast⟩
    | cons round rounds =>
      obtain ⟨hfirst, hagain⟩ := hrounds.attempts round List.mem_cons_self
      refine absurd hagain (hA _ _ ?_ hfirst)
      simp [Round.exchanges]
  | @spent left u a now hrounds hlast ha hspent =>
    refine absurd ha (hA _ _ (fun e he => ?_) hlast)
    exact List.mem_cons_of_mem _ (List.mem_append_right _ (List.mem_append_left _ he))

/-- What is cut has asked for another attempt, or is cut in one, if any attempt is allowed. -/
lemma Collapses.exists_again {Cut : Trace World → Prop}
    (h : Collapses A Again Cut backoff patience t) (hpatience : 0 < patience) :
    (∃ u a, u ⊆ t ∧ A u a ∧ Again a) ∨ ∃ u, u ⊆ t ∧ Cut u := by
  obtain ⟨start, u, rfl, hbreaks⟩ := h
  cases hbreaks with
  | @exhausted rounds left hrounds hlength =>
    cases rounds with
    | nil => exact absurd hlength (Nat.ne_of_lt hpatience)
    | cons round rounds =>
      obtain ⟨hfirst, hagain⟩ := hrounds.attempts round List.mem_cons_self
      exact .inl ⟨_, _, by simp [Round.exchanges], hfirst, hagain⟩
  | interrupted hrounds hlength hcut => exact .inr ⟨_, by simp, hcut⟩
  | stuck hrounds hlength hlast ha hbudget hnext =>
    refine .inl ⟨_, _, fun e he => ?_, hlast, ha⟩
    exact List.mem_cons_of_mem _ (List.mem_append_right _ (List.mem_append_left _ he))

end Law

/-! ### Runs obey the law -/

section Runs

open Program (yields_bind_iff yields_ask_iff yields_done_iff)

variable {attempt : Program World α} {again : α → Bool} {start patience : Nat} {backoff : Backoff}
  {t : Trace World} {a : α}

lemma exists_obeys_of_yields
    (h : (inWorld attempt (attemptFrom again start patience backoff)).Yields t a) :
    ∃ rounds ending, rounds.length < patience ∧ a = ending.outcome ∧
      Obeys attempt.Yields (fun a => again a = true) start backoff rounds t ending := by
  induction patience generalizing backoff t with
  | zero => exact absurd h Program.not_yields_cut
  | succ patience ih =>
    rw [inWorld_attemptFrom_succ, yields_bind_iff] at h
    obtain ⟨t₁, t₂, b, rfl, h₁, h₂⟩ := h
    cases hb : again b with
    | false =>
      simp only [proceed, hb, Bool.false_eq_true, if_false] at h₂
      obtain ⟨rfl, rfl⟩ := yields_done_iff.1 h₂
      rw [List.append_nil]
      exact ⟨[], .settled a, Nat.succ_pos _, rfl,
        obeys_nil_iff.2 (.inl ⟨a, h₁, by simp [hb], rfl⟩)⟩
    | true =>
      simp only [proceed, hb, if_true] at h₂
      obtain ⟨now, t₃, rfl, h₃⟩ := yields_ask_iff.1 h₂
      split at h₃
      next hspent =>
        obtain ⟨rfl, rfl⟩ := yields_done_iff.1 h₃
        exact ⟨[], .spent a, Nat.succ_pos _, rfl,
          obeys_nil_iff.2 (.inr ⟨t₁, a, now, rfl, h₁, hb, hspent, rfl⟩)⟩
      next hbudget =>
        split at h₃
        · simp at h₃
        next next hnext =>
          obtain ⟨⟨⟩, t₄, rfl, h₄⟩ := yields_ask_iff.1 h₃
          obtain ⟨rounds, ending, hlength, ha, hrest⟩ := ih h₄
          refine ⟨⟨t₁, b, ⟨now, backoff.current⟩⟩ :: rounds, ending, Nat.succ_lt_succ hlength, ha,
            ?_⟩
          refine obeys_cons_iff.2 ⟨h₁, hb, eq_false_of_ne_true hbudget, rfl, next, t₄, hnext, ?_,
            hrest⟩
          rw [List.append_assoc]
          rfl

/-- After a round, what is left of the attempts is to be made. -/
lemma after_round {asked : Trace World} {outcome : α} {now : Nat} {next : Backoff}
    (hasked : attempt.Yields asked outcome) (hagain : again outcome = true)
    (hbudget : backoff.isSpent (now - start) = false) (hnext : backoff.advance? = some next) :
    (inWorld attempt (attemptFrom again start (patience + 1) backoff)).After
      (Round.exchanges ⟨asked, outcome, ⟨now, backoff.current⟩⟩)
      (inWorld attempt (attemptFrom again start patience next)) := by
  rw [inWorld_attemptFrom_succ]
  refine hasked.bind_after ?_
  simp only [proceed, hagain, if_true, hnext]
  refine .answered ?_
  rw [if_neg (by simp [hbudget])]
  exact .answered (.here _)

lemma after_rounds {rounds : List (Round α)} {left : Backoff}
    (h : Repeated attempt.Yields (fun a => again a = true) start backoff rounds left) :
    (inWorld attempt (attemptFrom again start (patience + rounds.length) backoff)).After
      (rounds.flatMap Round.exchanges)
      (inWorld attempt (attemptFrom again start patience left)) := by
  induction rounds generalizing backoff with
  | nil =>
    obtain ⟨-, hwaits⟩ := h
    cases hwaits
    exact .here _
  | cons round rounds ih =>
    obtain ⟨asked, outcome, ⟨now, duration⟩⟩ := round
    obtain ⟨hasked, hagain, hbudget, rfl, next, hnext, hrest⟩ := repeated_cons_iff.1 h
    exact Program.after_append_iff.2 ⟨_, after_round hasked hagain hbudget hnext, ih hrest⟩

/-- The last of the attempts that are allowed. -/
lemma after_last {rounds : List (Round α)} {left : Backoff} {u : Trace World}
    {q : Program World α} (hlength : rounds.length < patience)
    (h : Repeated attempt.Yields (fun a => again a = true) start backoff rounds left)
    (hlast : ∀ n, (attempt.bind (proceed attempt again start n left)).After u q) :
    (inWorld attempt (attemptFrom again start patience backoff)).After
      (rounds.flatMap Round.exchanges ++ u) q := by
  obtain ⟨n, rfl⟩ := Nat.exists_eq_add_of_lt hlength
  rw [show rounds.length + n + 1 = n + 1 + rounds.length by omega]
  refine Program.after_append_iff.2 ⟨_, after_rounds h, ?_⟩
  rw [inWorld_attemptFrom_succ]
  exact hlast n

lemma yields_of_obeys {rounds : List (Round α)} {ending : Ending α}
    (hlength : rounds.length < patience)
    (h : Obeys attempt.Yields (fun a => again a = true) start backoff rounds t ending) :
    (inWorld attempt (attemptFrom again start patience backoff)).Yields t ending.outcome := by
  cases h with
  | @settled left u a hrounds hlast ha =>
    refine after_last hlength hrounds fun n => ?_
    refine Program.yields_bind_iff.2 ⟨u, [], a, (List.append_nil u).symm, hlast, ?_⟩
    rw [proceed, if_neg ha]
    exact .here _
  | @spent left u a now hrounds hlast ha hspent =>
    refine after_last hlength hrounds fun n => hlast.bind_after ?_
    rw [proceed, if_pos ha]
    refine .answered ?_
    rw [if_pos hspent]
    exact .here _

/-- The runs of repeated attempts are those that obey the law. -/
theorem yields_persist_iff :
    (inWorld attempt (persist patience again backoff)).Yields t a ↔
      ∃ ending, Persists attempt.Yields (fun a => again a = true) backoff patience t ending ∧
        a = ending.outcome := by
  rw [inWorld_persist]
  constructor
  · intro h
    obtain ⟨start, u, rfl, hu⟩ := yields_ask_iff.1 h
    obtain ⟨rounds, ending, hlength, rfl, hobeys⟩ := exists_obeys_of_yields hu
    exact ⟨ending, ⟨start, rounds, u, rfl, hlength, hobeys⟩, rfl⟩
  · rintro ⟨ending, ⟨start, rounds, u, rfl, hlength, hobeys⟩, rfl⟩
    exact yields_ask_iff.2 ⟨start, u, rfl, yields_of_obeys hlength hobeys⟩

/-! ### Runs that are cut -/

/-- A run that is cut after a round is one that is cut with what is left of the backoff. -/
lemma Breaks.cons {A : Trace World → α → Prop} {Again : α → Prop} {Cut : Trace World → Prop}
    {asked u : Trace World} {now : Nat} {next : Backoff} (hfirst : A asked a) (hagain : Again a)
    (hbudget : backoff.isSpent (now - start) = false) (hnext : backoff.advance? = some next)
    (h : Breaks A Again Cut start next patience u) :
    Breaks A Again Cut start backoff (patience + 1)
      (asked ++ ⟨.clock, now⟩ :: ⟨.sleep backoff.current, ()⟩ :: u) := by
  have hcons : ∀ {rounds : List (Round α)} {left : Backoff},
      Repeated A Again start next rounds left →
        Repeated A Again start backoff (⟨asked, a, ⟨now, backoff.current⟩⟩ :: rounds) left :=
    fun hrest => repeated_cons_iff.2 ⟨hfirst, hagain, hbudget, rfl, next, hnext, hrest⟩
  cases h with
  | exhausted hrest hlength =>
    have hrun : Breaks A Again Cut start backoff (patience + 1) _ :=
      .exhausted (hcons hrest) (congrArg Nat.succ hlength)
    rwa [List.flatMap_cons, Round.exchanges, List.append_assoc] at hrun
  | interrupted hrest hlength hcut =>
    have hrun := Breaks.interrupted (hcons hrest) (Nat.succ_lt_succ hlength) hcut
    rwa [List.flatMap_cons, Round.exchanges, List.append_assoc, List.append_assoc] at hrun
  | stuck hrest hlength hlast ha hspent hstuck =>
    have hrun : Breaks A Again Cut start backoff (patience + 1) _ :=
      .stuck (hcons hrest) (Nat.succ_lt_succ hlength) hlast ha hspent hstuck
    rwa [List.flatMap_cons, Round.exchanges, List.append_assoc, List.append_assoc] at hrun

lemma breaks_of_after_cut
    (h : (inWorld attempt (attemptFrom again start patience backoff)).After t .cut) :
    Breaks attempt.Yields (fun a => again a = true) (attempt.After · .cut) start backoff patience
      t := by
  induction patience generalizing backoff t with
  | zero =>
    obtain ⟨rfl, -⟩ := Program.after_cut_iff.1 h
    exact .exhausted repeated_nil rfl
  | succ patience ih =>
    rw [inWorld_attemptFrom_succ, Program.bind_after_cut_iff] at h
    rcases h with h | ⟨t₁, t₂, b, rfl, h₁, h₂⟩
    · exact .interrupted repeated_nil (Nat.succ_pos _) h
    cases hb : again b with
    | false => simp [proceed, hb] at h₂
    | true =>
      simp only [proceed, hb, if_true] at h₂
      obtain ⟨now, t₃, rfl, h₃⟩ := Program.ask_after_cut_iff.1 h₂
      split at h₃
      · simp at h₃
      next hbudget =>
        have hbudget := eq_false_of_ne_true hbudget
        split at h₃
        next hnext =>
          obtain ⟨rfl, -⟩ := Program.after_cut_iff.1 h₃
          exact .stuck repeated_nil (Nat.succ_pos _) h₁ hb hbudget hnext
        next next hnext =>
          obtain ⟨⟨⟩, t₄, rfl, h₄⟩ := Program.ask_after_cut_iff.1 h₃
          exact .cons h₁ hb hbudget hnext (ih h₄)

lemma after_cut_of_breaks
    (h : Breaks attempt.Yields (fun a => again a = true) (attempt.After · .cut) start backoff
      patience t) :
    (inWorld attempt (attemptFrom again start patience backoff)).After t .cut := by
  cases h with
  | exhausted hrounds hlength =>
    have hcut : (inWorld attempt (attemptFrom again start (0 + _) backoff)).After _ .cut :=
      after_rounds hrounds
    rwa [Nat.zero_add, hlength] at hcut
  | interrupted hrounds hlength hcut =>
    exact after_last hlength hrounds fun n => Program.bind_after_cut_iff.2 (.inl hcut)
  | @stuck rounds left u a now hrounds hlength hlast ha hbudget hnext =>
    refine after_last hlength hrounds fun n => hlast.bind_after ?_
    simp only [proceed, ha, if_true, hnext]
    refine .answered ?_
    rw [if_neg (by simp [hbudget])]
    exact .here _

/-- Where repeated attempts are cut. -/
theorem persist_after_cut_iff :
    (inWorld attempt (persist patience again backoff)).After t .cut ↔
      Collapses attempt.Yields (fun a => again a = true) (attempt.After · .cut) backoff patience
        t := by
  rw [inWorld_persist]
  constructor
  · intro h
    obtain ⟨start, u, rfl, hu⟩ := Program.ask_after_cut_iff.1 h
    exact ⟨start, u, rfl, breaks_of_after_cut hu⟩
  · rintro ⟨start, u, rfl, hu⟩
    exact Program.ask_after_cut_iff.2 ⟨start, u, rfl, after_cut_of_breaks hu⟩

end Runs

end Retry

end BucketOperator
