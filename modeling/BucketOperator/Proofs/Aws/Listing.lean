import BucketOperator.Proofs.Aws.Session
import BucketOperator.Proofs.Program.Breaking

/-!
# Listings in pages

A listing is asked for page by page, and each page says where the next one begins. Whatever is done
with the pages, a run that gets through has asked for all of them in order, and a run breaks off
only where an answer is fatal. It is cut only when there are more pages than may be asked for.
-/

namespace BucketOperator.Aws

open Program (IsScripted Follows)

/-- No page follows one that gives no token, an empty one, or the one it was asked for with. -/
def Page.IsLast {α : Type} (page : Page α) (token : Option String) : Prop :=
  page.next = none ∨ page.next = some "" ∨ page.next = token

/-- The pages of a listing, each with the token it is asked for with: a page begins where the one
before says, and none follows the last one. -/
inductive IsListing {α : Type} : Option String → List (Option String × Page α) → Prop where
  | last {token : Option String} {page : Page α} (h : page.IsLast token) :
    IsListing token [(token, page)]
  | more {token : Option String} {page : Page α} {next : String}
      {rest : List (Option String × Page α)} (hmore : ¬ page.IsLast token)
      (hnext : page.next = some next) (hrest : IsListing (some next) rest) :
    IsListing token ((token, page) :: rest)

/-- The entries of all pages, in order. -/
def listed {α : Type} (pages : List (Option String × Page α)) : List α :=
  pages.flatMap fun p => p.2.entries

section Listings

variable {α : Type} {token : Option String} {page : Page α} {next : String}
  {pages rest : List (Option String × Page α)}

lemma following?_eq_some_iff :
    page.following? token = some next ↔ ¬ page.IsLast token ∧ page.next = some next := by
  rw [Page.following?, Option.filter_eq_some_iff, decide_eq_true_iff]
  constructor
  · rintro ⟨hnext, hne, hnew⟩
    refine ⟨?_, hnext⟩
    rw [Page.IsLast, hnext]
    rintro (⟨⟨⟩⟩ | hempty | hsame)
    · exact hne (Option.some.inj hempty)
    · exact hnew hsame
  · rintro ⟨hmore, hnext⟩
    refine ⟨hnext, ?_, ?_⟩
    · rintro rfl
      exact hmore (.inr (.inl hnext))
    · intro hsame
      exact hmore (.inr (.inr (hnext.trans hsame)))

lemma following?_eq_none_iff : page.following? token = none ↔ page.IsLast token := by
  constructor
  · intro hnone
    by_contra hmore
    obtain ⟨next, hnext⟩ := Option.ne_none_iff_exists'.1 fun h => hmore (.inl h)
    rw [following?_eq_some_iff.2 ⟨hmore, hnext⟩] at hnone
    cases hnone
  · intro hlast
    rw [Option.eq_none_iff_forall_ne_some]
    intro next hnext
    exact (following?_eq_some_iff.1 hnext).1 hlast

lemma isListing_cons_of_none (h : page.following? token = none) :
    IsListing token ((token, page) :: rest) ↔ rest = [] := by
  have hlast := following?_eq_none_iff.1 h
  constructor
  · intro hlisting
    cases hlisting with
    | last => rfl
    | more hmore => exact absurd hlast hmore
  · rintro rfl
    exact .last hlast

lemma isListing_cons_of_some (h : page.following? token = some next) :
    IsListing token ((token, page) :: rest) ↔ IsListing (some next) rest := by
  obtain ⟨hmore, hnext⟩ := following?_eq_some_iff.1 h
  constructor
  · intro hlisting
    cases hlisting with
    | last hlast => exact absurd hlast hmore
    | more _ hnext' hrest =>
      rw [hnext, Option.some.injEq] at hnext'
      exact hnext' ▸ hrest
  · exact .more hmore hnext

lemma IsListing.exists_cons (h : IsListing token pages) :
    ∃ page rest, pages = (token, page) :: rest := by
  cases h <;> exact ⟨_, _, rfl⟩

/-- From every page on there is a listing. -/
lemma exists_isListing (token : Option String) (page : Page α) :
    ∃ rest, IsListing token ((token, page) :: rest) := by
  by_cases hlast : page.IsLast token
  · exact ⟨[], .last hlast⟩
  · obtain ⟨next, hnext⟩ := Option.ne_none_iff_exists'.1 fun h => hlast (.inl h)
    exact ⟨[(some next, ⟨[], none⟩)], .more hlast hnext (.last (.inl rfl))⟩

lemma listed_cons (p : Option String × Page α) (pages : List (Option String × Page α)) :
    listed (p :: pages) = p.2.entries ++ listed pages := List.flatMap_cons

end Listings

variable {α β γ : Type} {session : Session} {x : Operation α} {f : α → Operation β}
  {fatal? : Exchange World → Option BucketOperator.Failure} {S R : Scripts World α}
  {T Q : α → Scripts World β} {C : Trace World → Prop} {D : α → Trace World → Prop}
  {bucket operation : String}

/-! ### Steps of an operation -/

lemma run_bind_steps : (x >>= f).run session =
    ((ExceptT.mk (x.run session) : ExceptT BucketOperator.Failure (Program World) α) >>=
      fun a => ExceptT.mk ((f a).run session)).run := by
  rw [run_bind, ExceptT.run_bind]
  change _ = Program.bind (x.run session) _
  congr 1
  funext r
  cases r <;> rfl

lemma isScripted_bind (hx : (x.run session).IsScripted fatal? S R C)
    (hf : ∀ t a, S t a → ((f a).run session).IsScripted fatal? (T a) (Q a) (D a))
    (hgoesOn : ∀ t a, S t a → ∃ t' b, T a t' b) :
    ((x >>= f).run session).IsScripted fatal? (S.andThen T) (R.andThen Q)
      fun t => C t ∨ ∃ t₁ t₂ a, t = t₁ ++ t₂ ∧ S t₁ a ∧ D a t₂ := by
  rw [run_bind_steps]
  exact .bind hx hf hgoesOn

/-- Steps after something with one script have this script first. -/
lemma isScripted_after {s : Trace World} {a : α} {S' R' : Scripts World β}
    (hx : (x.run session).Follows fatal? s a) (hf : ((f a).run session).IsScripted fatal? S' R' C)
    (hgoesOn : ∃ t b, S' t b) :
    ((x >>= f).run session).IsScripted fatal? (fun t b => ∃ t', t = s ++ t' ∧ S' t' b)
      (fun t b => ∃ t', t = s ++ t' ∧ R' t' b) fun t => ∃ t', t = s ++ t' ∧ C t' := by
  refine (isScripted_bind (T := fun _ => S') (Q := fun _ => R') (D := fun _ => C) hx ?_
    fun _ _ _ => hgoesOn).mono ?_ ?_ ?_
  · rintro _ _ ⟨-, rfl⟩
    exact hf
  · rintro _ b ⟨_, t', _, rfl, ⟨rfl, -⟩, h⟩
    exact ⟨t', rfl, h⟩
  · rintro _ b ⟨t', rfl, h⟩
    exact ⟨s, t', a, rfl, ⟨rfl, rfl⟩, h⟩
  · rintro _ (⟨⟨⟩⟩ | ⟨_, t', _, rfl, ⟨rfl, -⟩, h⟩)
    exact ⟨t', rfl, h⟩

lemma follows_bind {s s' : Trace World} {a : α} {b : β}
    (hx : (x.run session).Follows fatal? s a) (hf : ((f a).run session).Follows fatal? s' b) :
    ((x >>= f).run session).Follows fatal? (s ++ s') b := by
  refine (isScripted_after hx hf ⟨s', b, rfl, rfl⟩).mono ?_ ?_ ?_
  · rintro _ _ ⟨_, rfl, rfl, rfl⟩
    exact ⟨rfl, rfl⟩
  · rintro _ _ ⟨rfl, rfl⟩
    exact ⟨s', rfl, rfl, rfl⟩
  · rintro _ ⟨_, _, ⟨⟩⟩

lemma follows_return (a : α) : ((return a : Operation α).run session).Follows fatal? [] a :=
  IsScripted.done a

/-- What is done with every element of a list is done with one after the other. -/
lemma follows_for {step : γ → Operation Unit} {done : γ → Trace World}
    (hstep : ∀ x, ((step x).run session).Follows fatal? (done x) ()) (xs : List γ) :
    (Operation.run session (forIn xs PUnit.unit fun x _ => do
      step x
      pure (ForInStep.yield PUnit.unit))).Follows fatal? (xs.flatMap done) PUnit.unit := by
  induction xs with
  | nil => exact follows_return _
  | cons x xs ih =>
    rw [List.forIn_cons, List.flatMap_cons, ← List.append_nil (done x)]
    exact follows_bind (follows_bind (hstep x) (follows_return _)) ih

lemma isScripted_map {g : α → β} (hx : (x.run session).IsScripted fatal? S R C) :
    ((g <$> x).run session).IsScripted fatal? (fun t b => ∃ a, S t a ∧ b = g a)
      (fun t b => ∃ a, R t a ∧ b = g a) C := by
  rw [map_eq_pure_bind]
  refine (isScripted_bind hx (fun _ a _ => follows_return (g a)) fun _ _ _ =>
    ⟨[], _, rfl, rfl⟩).mono ?_ ?_ ?_
  · rintro _ _ ⟨t, _, a, rfl, ht, rfl, rfl⟩
    rw [List.append_nil]
    exact ⟨a, ht, rfl⟩
  · rintro t _ ⟨a, ht, rfl⟩
    exact ⟨t, [], a, (List.append_nil t).symm, ht, rfl, rfl⟩
  · rintro t (ht | ⟨_, _, _, _, _, ⟨⟩⟩)
    exact ht

/-! ### Single calls -/

/-- What a call comes to as a named part of an operation. -/
def report (bucket operation : String) (r : Except Failure α) : Except BucketOperator.Failure α :=
  r.mapError fun failure => .provider bucket operation (.aws failure)

lemma report_eq_ok_iff {r : Except Failure α} {a : α} :
    report bucket operation r = .ok a ↔ r = .ok a := by
  cases r <;> simp [report, Except.mapError]

lemma isScripted_named_iam (call : IamCall) (a₀ : call.Output)
    (hfatal : ∀ r : Except Failure call.Output,
      fatal? ⟨.iam session call, r⟩ = failure? (report bucket operation r)) :
    ((named bucket operation (callIam call)).run session).IsScripted fatal?
      (fun t a => t = [⟨.iam session call, .ok a⟩]) (fun t a => t = [⟨.iam session call, .ok a⟩])
      fun _ => False :=
  IsScripted.askGranted (I := World) (c := .iam session call) .ok a₀ hfatal
    fun _ _ => report_eq_ok_iff

lemma isScripted_named_s3 (call : S3Operation) (a₀ : call.Output)
    (hfatal : ∀ r : Except Failure call.Output,
      fatal? ⟨.s3 session ⟨bucket, call⟩, r⟩ = failure? (report bucket operation r)) :
    ((named bucket operation (callS3 bucket call)).run session).IsScripted fatal?
      (fun t a => t = [⟨.s3 session ⟨bucket, call⟩, .ok a⟩])
      (fun t a => t = [⟨.s3 session ⟨bucket, call⟩, .ok a⟩]) fun _ => False :=
  IsScripted.askGranted (I := World) (c := .s3 session ⟨bucket, call⟩) .ok a₀ hfatal
    fun _ _ => report_eq_ok_iff

/-! ### Page after page -/

section Pages

/-- Ask for a page after the other and do something with each. All pages are returned. -/
def throughPages (list : Option String → Operation (Page α)) (visit : Page α → Operation Unit) :
    Nat → Option String → Operation (List (Option String × Page α))
  | 0, _ => ExceptT.mk .cut
  | patience + 1, token => do
    let page ← list token
    visit page
    match page.following? token with
    | some next => List.cons (token, page) <$> throughPages list visit patience (some next)
    | none => return [(token, page)]

/-- What follows a page and what is done with it. -/
def pagesFrom (list : Option String → Operation (Page α)) (visit : Page α → Operation Unit)
    (patience : Nat) (token : Option String) (page : Page α) :
    Operation (List (Option String × Page α)) :=
  match page.following? token with
  | some next => List.cons (token, page) <$> throughPages list visit patience (some next)
  | none => return [(token, page)]

variable {list : Option String → Operation (Page α)} {visit : Page α → Operation Unit}
  {patience : Nat} {token : Option String}

lemma throughPages_succ : throughPages list visit (patience + 1) token =
    list token >>= fun page => visit page >>= fun _ => pagesFrom list visit patience token page :=
  rfl

lemma forPages_eq : forPages list visit patience token =
    (fun _ => ()) <$> throughPages list visit patience token := by
  induction patience generalizing token with
  | zero => rfl
  | succ patience ih =>
    simp only [forPages, throughPages, map_bind]
    congr! 4 with page
    cases page.following? token with
    | none => rfl
    | some next =>
      simp only [ih, Functor.map_map]

lemma collectPages_eq : collectPages list patience token =
    listed <$> throughPages list (fun _ => return ()) patience token := by
  induction patience generalizing token with
  | zero => rfl
  | succ patience ih =>
    simp only [collectPages, throughPages, map_bind, pure_bind]
    congr! 2 with page
    cases page.following? token with
    | none => simp [listed]
    | some next =>
      simp only [ih, map_eq_pure_bind, bind_assoc, pure_bind, listed_cons]

/-! ### Scripts of a listing -/

/-- An operation asks for a page and does nothing else. -/
abbrev AsksPages (session : Session) (fatal? : Exchange World → Option BucketOperator.Failure)
    (list : Option String → Operation (Page α))
    (exchange : Option String → Page α → Exchange World) : Prop :=
  ∀ token, ((list token).run session).IsScripted fatal? (fun t page => t = [exchange token page])
    (fun t page => t = [exchange token page]) fun _ => False

variable {exchange : Option String → Page α → Exchange World} {visited : Page α → Trace World}
  {allowed : Nat → Prop} {page : Page α} {t : Trace World}
  {pages : List (Option String × Page α)}

/-- The scripts of going through the pages of a listing, of which there may be so many. -/
def walks (exchange : Option String → Page α → Exchange World) (visited : Page α → Trace World)
    (allowed : Nat → Prop) (token : Option String) :
    Scripts World (List (Option String × Page α)) :=
  fun t pages => IsListing token pages ∧ allowed pages.length ∧
    t = pages.flatMap fun p => exchange p.1 p.2 :: visited p.2

/-- What is left of them after the first page. -/
def walksOn (exchange : Option String → Page α → Exchange World) (visited : Page α → Trace World)
    (allowed : Nat → Prop) (token : Option String) (page : Page α) :
    Scripts World (List (Option String × Page α)) :=
  fun t pages => ∃ rest, pages = (token, page) :: rest ∧ IsListing token pages ∧
    allowed rest.length ∧ t = rest.flatMap fun p => exchange p.1 p.2 :: visited p.2

lemma walks_iff : walks exchange visited allowed token t pages ↔
    ∃ page t', t = exchange token page :: (visited page ++ t') ∧
      walksOn exchange visited (fun n => allowed (n + 1)) token page t' pages := by
  constructor
  · rintro ⟨hpages, hallowed, rfl⟩
    obtain ⟨page, rest, rfl⟩ := hpages.exists_cons
    exact ⟨page, _, rfl, rest, rfl, hpages, hallowed, rfl⟩
  · rintro ⟨page, _, rfl, rest, rfl, hpages, hallowed, rfl⟩
    exact ⟨hpages, hallowed, rfl⟩

lemma walksOn_iff_of_none (h : page.following? token = none) :
    walksOn exchange visited allowed token page t pages ↔
      allowed 0 ∧ t = [] ∧ pages = [(token, page)] := by
  constructor
  · rintro ⟨rest, rfl, hlisting, hallowed, rfl⟩
    obtain rfl := (isListing_cons_of_none h).1 hlisting
    exact ⟨hallowed, rfl, rfl⟩
  · rintro ⟨hallowed, rfl, rfl⟩
    exact ⟨[], rfl, (isListing_cons_of_none h).2 rfl, hallowed, rfl⟩

lemma walksOn_iff_of_some {next : String} (h : page.following? token = some next) :
    walksOn exchange visited allowed token page t pages ↔
      ∃ rest, walks exchange visited allowed (some next) t rest ∧
        pages = (token, page) :: rest := by
  constructor
  · rintro ⟨rest, rfl, hlisting, hallowed, rfl⟩
    exact ⟨rest, ⟨(isListing_cons_of_some h).1 hlisting, hallowed, rfl⟩, rfl⟩
  · rintro ⟨rest, ⟨hlisting, hallowed, rfl⟩, rfl⟩
    exact ⟨rest, rfl, (isListing_cons_of_some h).2 hlisting, hallowed, rfl⟩

lemma exists_walksOn (exchange : Option String → Page α → Exchange World)
    (visited : Page α → Trace World) (token : Option String) (page : Page α) :
    ∃ t pages, walksOn exchange visited (fun _ => True) token page t pages :=
  have ⟨rest, hrest⟩ := exists_isListing token page
  ⟨_, _, rest, rfl, hrest, trivial, rfl⟩

/-- Going through a listing asks for its pages in order and does with each what is to be done
directly after it was asked for. -/
theorem throughPages_isScripted (hlist : AsksPages session fatal? list exchange)
    (hvisit : ∀ page, ((visit page).run session).Follows fatal? (visited page) ())
    (isPage : Exchange World → Bool) (hpage : ∀ token page, isPage (exchange token page) = true) :
    ((throughPages list visit patience token).run session).IsScripted fatal?
      (walks exchange visited (fun _ => True) token)
      (walks exchange visited (· ≤ patience) token) fun t => patience ≤ t.countP isPage := by
  induction patience generalizing token with
  | zero =>
    refine IsScripted.ofCut ?_ (Nat.zero_le _)
    rintro _ _ ⟨hpages, hlength, -⟩
    obtain ⟨page, rest, rfl⟩ := hpages.exists_cons
    cases hlength
  | succ patience ih =>
    have hrest (page : Page α) :
        ((pagesFrom list visit patience token page).run session).IsScripted fatal?
          (walksOn exchange visited (fun _ => True) token page)
          (walksOn exchange visited (· ≤ patience) token page)
          fun t => patience ≤ t.countP isPage := by
      unfold pagesFrom
      cases h : page.following? token with
      | none =>
        refine (follows_return [(token, page)]).mono ?_ ?_ ?_
        · rintro _ _ ⟨rfl, rfl⟩
          exact (walksOn_iff_of_none h).2 ⟨trivial, rfl, rfl⟩
        · intro t pages ht
          exact ((walksOn_iff_of_none h).1 ht).2
        · rintro _ ⟨⟩
      | some next =>
        refine (isScripted_map ih).mono ?_ ?_ fun _ ht => ht
        · exact fun t pages => (walksOn_iff_of_some h).2
        · exact fun t pages => (walksOn_iff_of_some h).1
    rw [throughPages_succ]
    refine (isScripted_bind (hlist token) (fun _ page _ => isScripted_after (hvisit page)
      (hrest page) (exists_walksOn exchange visited token page)) ?_).mono ?_ ?_ ?_
    · intro _ page _
      obtain ⟨t, pages, ht⟩ := exists_walksOn exchange visited token page
      exact ⟨_, pages, t, rfl, ht⟩
    · rintro _ pages ⟨_, _, page, rfl, rfl, t, rfl, ht⟩
      exact walks_iff.2 ⟨page, t, rfl, ht⟩
    · intro _ pages ht
      obtain ⟨page, _, rfl, rest, rfl, hlisting, hlength, rfl⟩ := walks_iff.1 ht
      exact ⟨_, _, page, rfl, rfl, _, rfl, rest, rfl, hlisting, Nat.le_of_succ_le_succ hlength, rfl⟩
    · rintro _ (⟨⟨⟩⟩ | ⟨_, _, page, rfl, rfl, t, rfl, ht⟩)
      rw [List.singleton_append, List.countP_cons_of_pos (hpage token page), List.countP_append]
      omega

/-- The entries of a listing are collected by asking for one page after the other. -/
theorem collectPages_isScripted (hlist : AsksPages session fatal? list exchange)
    (isPage : Exchange World → Bool) (hpage : ∀ token page, isPage (exchange token page) = true) :
    ((collectPages list patience token).run session).IsScripted fatal?
      (fun t entries => ∃ pages, IsListing token pages ∧
        t = pages.map (fun p => exchange p.1 p.2) ∧ entries = listed pages)
      (fun t entries => ∃ pages, IsListing token pages ∧ pages.length ≤ patience ∧
        t = pages.map (fun p => exchange p.1 p.2) ∧ entries = listed pages)
      fun t => patience ≤ t.countP isPage := by
  rw [collectPages_eq]
  refine (isScripted_map (throughPages_isScripted hlist
    (fun _ => follows_return ()) isPage hpage)).mono ?_ ?_ fun _ ht => ht
  · rintro _ _ ⟨pages, ⟨hpages, -, rfl⟩, rfl⟩
    exact ⟨pages, hpages, List.map_eq_flatMap.symm, rfl⟩
  · rintro _ _ ⟨pages, hpages, hlength, rfl, rfl⟩
    exact ⟨pages, ⟨hpages, hlength, List.map_eq_flatMap⟩, rfl⟩

/-- All pages of a listing are visited, each directly after it was asked for. -/
theorem forPages_isScripted (hlist : AsksPages session fatal? list exchange)
    (hvisit : ∀ page, ((visit page).run session).Follows fatal? (visited page) ())
    (isPage : Exchange World → Bool) (hpage : ∀ token page, isPage (exchange token page) = true) :
    ((forPages list visit patience token).run session).IsScripted fatal?
      (fun t _ => ∃ pages, IsListing token pages ∧
        t = pages.flatMap fun p => exchange p.1 p.2 :: visited p.2)
      (fun t _ => ∃ pages, IsListing token pages ∧ pages.length ≤ patience ∧
        t = pages.flatMap fun p => exchange p.1 p.2 :: visited p.2)
      fun t => patience ≤ t.countP isPage := by
  rw [forPages_eq]
  refine (isScripted_map (throughPages_isScripted hlist hvisit isPage hpage)).mono ?_ ?_
    fun _ ht => ht
  · rintro _ _ ⟨pages, ⟨hpages, -, rfl⟩, rfl⟩
    exact ⟨pages, hpages, rfl⟩
  · rintro _ _ ⟨pages, hpages, hlength, rfl⟩
    exact ⟨pages, ⟨hpages, hlength, rfl⟩, rfl⟩

end Pages

end BucketOperator.Aws
