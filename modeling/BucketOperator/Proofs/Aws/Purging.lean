import BucketOperator.Aws.Storage
import BucketOperator.Proofs.Aws.Listing
import BucketOperator.Proofs.Program.Guarantee
import Mathlib.Logic.Function.Basic
import Mathlib.Order.BooleanAlgebra.Set

/-!
# Purging a bucket

A bucket is deleted only when all that it was listed to hold is gone. Each page of the listing is
purged by one request before the next page is asked for, and the bucket itself comes last. A run
that fails has purged the first pages and nothing else.
-/

namespace BucketOperator.Aws

open Program (IsScripted Follows)

/-- What the operator calls an operation in its failures. -/
def S3Operation.part : S3Operation → String
  | .headBucket => "head bucket"
  | .createBucket _ => "create bucket"
  | .putLifecycle _ => "put bucket lifecycle configuration"
  | .deleteLifecycle => "delete bucket lifecycle"
  | .putPolicy _ => "put bucket policy"
  | .putTagging _ => "put bucket tagging"
  | .listObjects .. => "list objects"
  | .deleteObjects _ => "delete objects"
  | .deleteBucket => "delete bucket"

/-- The failure of a run in which an S3 call fails. -/
def s3Failure? (bucket : String) : Exchange World → Option BucketOperator.Failure
  | ⟨.s3 _ call, (r : Except Failure call.operation.Output)⟩ =>
    failure? (report bucket call.operation.part r)
  | _ => none

namespace Storage

/-- A page of a bucket's objects is listed. -/
def listedPage (session : Session) (bucket : String) (token : Option String)
    (page : Page (Option String)) : Exchange World :=
  ⟨.s3 session ⟨bucket, .listObjects pageSize token⟩, .ok page⟩

/-- The keys of a page, if it has any, are deleted by one request. Entries may lack a key. -/
def purgedPage (session : Session) (bucket : String) (page : Page (Option String)) :
    Trace World :=
  match page.entries.filterMap id with
  | [] => []
  | keys => [⟨.s3 session ⟨bucket, .deleteObjects keys⟩, .ok ()⟩]

/-- Pages are listed and purged one after the other. -/
def purging (session : Session) (bucket : String)
    (pages : List (Option String × Page (Option String))) : Trace World :=
  pages.flatMap fun p => listedPage session bucket p.1 p.2 :: purgedPage session bucket p.2

/-- A bucket is purged and then deleted. -/
def removal (session : Session) (bucket : String)
    (pages : List (Option String × Page (Option String))) : Trace World :=
  purging session bucket pages ++ [⟨.s3 session ⟨bucket, .deleteBucket⟩, .ok ()⟩]

/-- Whether a call lists objects. -/
def isListingObjects : Exchange World → Bool
  | ⟨.s3 _ ⟨_, .listObjects ..⟩, _⟩ => true
  | _ => false

/-- The keys of the objects in each bucket. -/
abbrev Store := String → Set String

/-- The objects a call removes, and from which bucket: those that a granted deletion names. -/
def removed? : Exchange World → Option (String × List String)
  | ⟨.s3 _ ⟨bucket, .deleteObjects keys⟩, .ok _⟩ => some (bucket, keys)
  | _ => none

/-- A store without some objects of a bucket. -/
def Store.without (s : Store) (bucket : String) (keys : List String) : Store :=
  Function.update s bucket (s bucket \ {key | key ∈ keys})

/-- A store after a call. -/
def Store.next (s : Store) (e : Exchange World) : Store :=
  match removed? e with
  | some (bucket, keys) => s.without bucket keys
  | none => s

/-- S3 as a world that holds objects. -/
def holding : Behaviour World Store := fun s c r s' => s' = s.next ⟨c, r⟩

variable {bucket : Bucket} {session : Session} {patience : Nat}

/-! ### What a run does -/

lemma purgePage_follows (page : Page (Option String)) :
    ((purgePage bucket page).run session).Follows (s3Failure? bucket.spec.name)
      (purgedPage session bucket.spec.name page) () := by
  have hkeys : keysOf page = page.entries.filterMap id := rfl
  unfold purgePage purgedPage
  rw [hkeys]
  cases page.entries.filterMap id with
  | nil => exact follows_return ()
  | cons key keys =>
    exact IsScripted.follows (isScripted_named_s3 (.deleteObjects (key :: keys)) () fun _ => rfl)

lemma remove_isScripted : ((remove bucket patience).run session).IsScripted
    (s3Failure? bucket.spec.name)
    (fun t _ => ∃ pages, IsListing none pages ∧ t = removal session bucket.spec.name pages)
    (fun t _ => ∃ pages, IsListing none pages ∧ pages.length ≤ patience ∧
      t = removal session bucket.spec.name pages)
    fun t => patience ≤ t.countP isListingObjects := by
  have hlist : AsksPages session (s3Failure? bucket.spec.name)
      (fun token => named bucket.spec.name "list objects"
        (callS3 bucket.spec.name (.listObjects pageSize token)))
      (listedPage session bucket.spec.name) :=
    fun token => isScripted_named_s3 (.listObjects pageSize token) ⟨[], none⟩ fun _ => rfl
  have hbucket : ((named bucket.spec.name "delete bucket"
      (callS3 bucket.spec.name .deleteBucket)).run session).Follows (s3Failure? bucket.spec.name)
      [⟨.s3 session ⟨bucket.spec.name, .deleteBucket⟩, .ok ()⟩] () :=
    IsScripted.follows (isScripted_named_s3 .deleteBucket () fun _ => rfl)
  refine (isScripted_bind (forPages_isScripted hlist purgePage_follows isListingObjects
    fun _ _ => rfl) (fun _ _ _ => hbucket) fun _ _ _ => ⟨_, (), rfl, rfl⟩).mono ?_ ?_ ?_
  · rintro _ _ ⟨_, _, _, rfl, ⟨pages, hlisting, rfl⟩, rfl, -⟩
    exact ⟨pages, hlisting, rfl⟩
  · rintro _ _ ⟨pages, hlisting, hlength, rfl⟩
    exact ⟨_, _, (), rfl, ⟨pages, hlisting, hlength, rfl⟩, rfl, rfl⟩
  · rintro _ (h | ⟨_, _, _, _, _, ⟨⟩⟩)
    exact h

/-! ### What is gone -/

variable {name : String} {pages gone : List (Option String × Page (Option String))}
  {t last : Trace World} {e : Exchange World} {r : Except BucketOperator.Failure Unit}
  {s s' : Store}

lemma removed?_of_failed {failure : BucketOperator.Failure} (h : s3Failure? name e = some failure) :
    removed? e = none := by
  unfold removed?
  split
  · cases h
  · rfl

lemma Store.without_nil (s : Store) (name : String) : s.without name [] = s := by
  simp [without]

lemma Store.without_append (s : Store) (name : String) (keys keys' : List String) :
    (s.without name keys).without name keys' = s.without name (keys ++ keys') := by
  have hkeys : {key | key ∈ keys ++ keys'} = {key | key ∈ keys} ∪ {key | key ∈ keys'} := by
    ext key
    exact List.mem_append
  rw [without, without, without, Function.update_self, Function.update_idem, Set.sdiff_sdiff, hkeys]

lemma foldl_next_of_none (h : ∀ e ∈ last, removed? e = none) : last.foldl Store.next s = s := by
  induction last with
  | nil => rfl
  | cons e last ih =>
    have hnext : s.next e = s := by rw [Store.next, h e List.mem_cons_self]
    rw [List.foldl_cons, hnext]
    exact ih fun e he => h e (List.mem_cons_of_mem _ he)

lemma foldl_next_purging : (purging session name gone).foldl Store.next s =
    s.without name (gone.flatMap fun p => p.2.entries.filterMap id) := by
  induction gone generalizing s with
  | nil => exact (s.without_nil name).symm
  | cons p gone ih =>
    have hpage : (purgedPage session name p.2).foldl Store.next s =
        s.without name (p.2.entries.filterMap id) := by
      unfold purgedPage
      cases p.2.entries.filterMap id with
      | nil => exact (s.without_nil name).symm
      | cons key keys => rfl
    rw [purging, List.flatMap_cons, List.foldl_append, List.flatMap_cons, ← Store.without_append,
      ← hpage]
    exact ih

/-- A run has purged the first pages of the listing, and all of them if it succeeds. -/
lemma exists_gone (h : Performance (s3Failure? name) (removal session name pages) () t r) :
    ∃ gone last, gone <+: pages ∧ t = purging session name gone ++ last ∧
      (∀ e ∈ last, removed? e = none) ∧ (r = .ok () → gone = pages) := by
  induction pages generalizing t with
  | nil =>
    refine ⟨[], t, List.nil_prefix, rfl, ?_, fun _ => rfl⟩
    rcases Performance.of_singleton h with ⟨rfl, -⟩ | ⟨failed, failure, -, hfatal, rfl, -⟩
    · exact List.forall_mem_singleton.2 rfl
    · exact List.forall_mem_singleton.2 (removed?_of_failed hfatal)
  | cons p pages ih =>
    have hsplit : removal session name (p :: pages) =
        [listedPage session name p.1 p.2] ++ (purgedPage session name p.2 ++
          removal session name pages) := by
      simp [removal, purging]
    rw [hsplit] at h
    rcases h.of_append () with ⟨failure, rfl, hlist⟩ | ⟨t, rfl, hrest⟩
    · -- the page could not be listed
      obtain ⟨-, ⟨⟩⟩ | ⟨failed, _, -, hfatal, rfl, -⟩ := hlist.of_singleton
      exact ⟨[], [failed], List.nil_prefix, rfl,
        List.forall_mem_singleton.2 (removed?_of_failed hfatal), by rintro ⟨⟩⟩
    rcases hrest.of_append () with ⟨failure, rfl, hpurge⟩ | ⟨t, rfl, hpages⟩
    · -- the page could not be purged
      unfold purgedPage at hpurge
      cases hkeys : p.2.entries.filterMap id with
      | nil =>
        rw [hkeys] at hpurge
        obtain ⟨-, ⟨⟩⟩ := hpurge.of_nil
      | cons key keys =>
        rw [hkeys] at hpurge
        obtain ⟨-, ⟨⟩⟩ | ⟨failed, _, -, hfatal, rfl, -⟩ := hpurge.of_singleton
        refine ⟨[], [listedPage session name p.1 p.2, failed], List.nil_prefix, rfl, ?_,
          by rintro ⟨⟩⟩
        exact List.forall_mem_cons.2 ⟨rfl, List.forall_mem_singleton.2 (removed?_of_failed hfatal)⟩
    obtain ⟨gone, last, hgone, rfl, hlast, hok⟩ := ih hpages
    refine ⟨p :: gone, last, List.prefix_cons_inj p |>.2 hgone, ?_, hlast, ?_⟩
    · simp [purging]
    · intro hr
      rw [hok hr]

/-- A bucket is purged before it is deleted. A run lists the objects page by page and purges each
page that has keys by one request for exactly these; when all pages are purged it deletes the
bucket. It ends at the first call that fails, with the failure of that call, and the objects of the
pages it has purged are gone and no others. It is cut only if there are more pages than may be
listed. -/
theorem purged_before_deleted (bucket : Bucket) (session : Session) (patience : Nat) :
    (∀ t r, ((remove bucket patience).run session).Yields t r →
      ∃ pages, IsListing none pages ∧
        Performance (s3Failure? bucket.spec.name) (removal session bucket.spec.name pages) () t r) ∧
    (∀ pages t r, IsListing none pages → pages.length ≤ patience →
      Performance (s3Failure? bucket.spec.name) (removal session bucket.spec.name pages) () t r →
      ((remove bucket patience).run session).Yields t r) ∧
    (∀ t, ((remove bucket patience).run session).After t .cut →
      patience ≤ t.countP isListingObjects) ∧
    (∀ pages t r s s',
      Performance (s3Failure? bucket.spec.name) (removal session bucket.spec.name pages) () t r →
      Along holding s t s' → ∃ gone last, gone <+: pages ∧
        t = purging session bucket.spec.name gone ++ last ∧ (∀ e ∈ last, removed? e = none) ∧
        s' = s.without bucket.spec.name (gone.flatMap fun p => p.2.entries.filterMap id) ∧
        (r = .ok () → gone = pages)) := by
  refine ⟨?_, ?_, remove_isScripted.cut, ?_⟩
  · intro t r ht
    obtain ⟨_, _, ⟨pages, hpages, rfl⟩, hperformance⟩ := remove_isScripted.keeps t r ht
    exact ⟨pages, hpages, hperformance⟩
  · intro pages t r hpages hlength hperformance
    exact remove_isScripted.performs _ () ⟨pages, hpages, hlength, rfl⟩ t r hperformance
  · intro pages t r s s' hperformance hs
    obtain ⟨gone, last, hgone, rfl, hlast, hok⟩ := exists_gone hperformance
    refine ⟨gone, last, hgone, rfl, hlast, ?_, hok⟩
    rw [along_iff_foldl.1 hs, List.foldl_append, foldl_next_purging, foldl_next_of_none hlast]

/-! ### A page that could not be purged -/

/-- A record of a bucket that is to be deleted. -/
def crowded : Bucket where
  metadata := .empty
  spec :=
    { name := "logs"
      expirationDays := none
      reclaimPolicy := .delete
      accessRole := none
      tags := [] }
  status := none

/-- An empty page, one with an entry that lacks its key, and the last one. -/
def threePages : List (Option String × Page (Option String)) :=
  [(none, ⟨[], some "second"⟩), (some "second", ⟨[some "a", none, some "b"], some "third"⟩),
    (some "third", ⟨[some "c"], none⟩)]

/-- The objects of the last page are not deleted. -/
def failedPurge : Trace World :=
  [⟨.s3 default ⟨"logs", .listObjects 1000 none⟩, .ok ⟨[], some "second"⟩⟩,
    ⟨.s3 default ⟨"logs", .listObjects 1000 (some "second")⟩,
      .ok ⟨[some "a", none, some "b"], some "third"⟩⟩,
    ⟨.s3 default ⟨"logs", .deleteObjects ["a", "b"]⟩, .ok ()⟩,
    ⟨.s3 default ⟨"logs", .listObjects 1000 (some "third")⟩, .ok ⟨[some "c"], none⟩⟩,
    ⟨.s3 default ⟨"logs", .deleteObjects ["c"]⟩, .error .dispatch⟩]

/-- A store with the three objects. -/
def stocked : Store := fun _ => {"a", "b", "c"}

/-- The run ends with the failure, and the objects of the pages before are gone. -/
theorem failedPurge_ends :
    ((remove crowded 3).run default).Yields failedPurge
      (.error (.provider "logs" "delete objects" (.aws .dispatch))) ∧
    Along holding stocked failedPurge (stocked.without "logs" ["a", "b"]) ∧
    ∃ gone last, gone <+: threePages ∧ failedPurge = purging default "logs" gone ++ last ∧
      stocked.without "logs" ["a", "b"] =
        stocked.without "logs" (gone.flatMap fun p => p.2.entries.filterMap id) := by
  obtain ⟨-, hperforms, -, hgone⟩ := purged_before_deleted crowded default 3
  have hlisting : IsListing none threePages :=
    .more (by simp [Page.IsLast]) rfl (.more (by simp [Page.IsLast]) rfl (.last (.inl rfl)))
  have hperformance : Performance (s3Failure? "logs") (removal default "logs" threePages) ()
      failedPurge (.error (.provider "logs" "delete objects" (.aws .dispatch))) :=
    @Performance.broken _ _ _ _ _ _ (failedPurge.take 4)
      [⟨.s3 default ⟨"logs", .deleteBucket⟩, .ok ()⟩]
      ⟨.s3 default ⟨"logs", .deleteObjects ["c"]⟩, .ok ()⟩ _ _ rfl rfl rfl
  have hworld : Along holding stocked failedPurge (stocked.without "logs" ["a", "b"]) :=
    along_iff_foldl.2 rfl
  obtain ⟨gone, last, hprefix, hrun, -, hstore, -⟩ := hgone threePages _ _ _ _ hperformance hworld
  exact ⟨hperforms threePages _ _ hlisting (by decide) hperformance, hworld, gone, last, hprefix,
    hrun, hstore⟩

end Storage

end BucketOperator.Aws
