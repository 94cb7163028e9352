import BucketOperator.Azure.Naming
import Mathlib.Logic.Relation
import Mathlib.Tactic.Common

/-!
# What names tell

The name of an account is a normal form: it keeps the letters and digits of a bucket's name up to
the longest name, without regard to their case, and nothing else. So buckets may share it. The
paths of a container and of an endpoint end in the whole name of the bucket, and tell it.
-/

namespace BucketOperator.Azure

/-! ### Letters and digits -/

/-- A small letter or a digit of ASCII. -/
def IsLowerOrDigit (c : Char) : Prop := ('a' ≤ c ∧ c ≤ 'z') ∨ ('0' ≤ c ∧ c ≤ '9')

/-- A letter or a digit of ASCII. -/
def IsLetterOrDigit (c : Char) : Prop := IsLowerOrDigit c ∨ ('A' ≤ c ∧ c ≤ 'Z')

instance : DecidablePred IsLetterOrDigit :=
  fun _ => inferInstanceAs (Decidable ((_ ∧ _ ∨ _ ∧ _) ∨ _ ∧ _))

/-- The letters and digits of a text, in lower case. -/
def lettersOf (text : List Char) : List Char :=
  (text.filter fun c => IsLetterOrDigit c).map Char.toLower

/-- A text with one character more or less that is no letter or digit, or with one in the other
case. -/
inductive Respelling : List Char → List Char → Prop where
  | inserted (before after : List Char) {c : Char} (h : ¬ IsLetterOrDigit c) :
      Respelling (before ++ after) (before ++ c :: after)
  | removed (before after : List Char) {c : Char} (h : ¬ IsLetterOrDigit c) :
      Respelling (before ++ c :: after) (before ++ after)
  | raised (before after : List Char) (c : Char) :
      Respelling (before ++ c :: after) (before ++ c.toUpper :: after)
  | lowered (before after : List Char) (c : Char) :
      Respelling (before ++ c :: after) (before ++ c.toLower :: after)

section Letters

variable {c d : Char} {text text' : List Char}

lemma le_iff_toNat_le : c ≤ d ↔ c.toNat ≤ d.toNat := UInt32.le_iff_toNat_le

lemma isLowerOrDigit_iff : IsLowerOrDigit c ↔
    (97 ≤ c.toNat ∧ c.toNat ≤ 122) ∨ (48 ≤ c.toNat ∧ c.toNat ≤ 57) := by
  simp only [IsLowerOrDigit, le_iff_toNat_le]
  rfl

lemma isCapital_iff : ('A' ≤ c ∧ c ≤ 'Z') ↔ 65 ≤ c.toNat ∧ c.toNat ≤ 90 := by
  simp only [le_iff_toNat_le]
  rfl

lemma isLetterOrDigit_iff : IsLetterOrDigit c ↔ c.isAlphanum = true := by
  delta Char.isAlphanum Char.isAlpha Char.isLower Char.isUpper Char.isDigit
  simp only [IsLetterOrDigit, IsLowerOrDigit, Bool.or_eq_true, Bool.and_eq_true, decide_eq_true_eq,
    Char.le_def, ge_iff_le]
  tauto

lemma toLower_of_not (h : ¬ ('A' ≤ c ∧ c ≤ 'Z')) : c.toLower = c := dif_neg h

lemma toUpper_of_not (h : ¬ ('a' ≤ c ∧ c ≤ 'z')) : c.toUpper = c := dif_neg h

lemma toNat_toLower (h : 'A' ≤ c ∧ c ≤ 'Z') : c.toLower.toNat = c.toNat + 32 := by
  have hval : c.toLower.val = c.val + ('a'.val - 'A'.val) := by
    delta Char.toLower
    rw [dif_pos (show c.val ≥ 'A'.val ∧ c.val ≤ 'Z'.val from h)]
  have hnat : c.toLower.toNat = (c.toNat + ('a'.val - 'A'.val).toNat) % 2 ^ 32 :=
    (congrArg UInt32.toNat hval).trans (UInt32.toNat_add _ _)
  have hstep : ('a'.val - 'A'.val).toNat = 32 := rfl
  rw [isCapital_iff] at h
  omega

lemma toNat_toUpper (h : 'a' ≤ c ∧ c ≤ 'z') : c.toUpper.toNat + 32 = c.toNat := by
  have hval : c.toUpper.val = c.val + ('A'.val - 'a'.val) := by
    delta Char.toUpper
    rw [dif_pos (show 'a'.val ≤ c.val ∧ c.val ≤ 'z'.val from h)]
  have hnat : c.toUpper.toNat = (c.toNat + ('A'.val - 'a'.val).toNat) % 2 ^ 32 :=
    (congrArg UInt32.toNat hval).trans (UInt32.toNat_add _ _)
  have hstep : ('A'.val - 'a'.val).toNat = 2 ^ 32 - 32 := rfl
  have hsmall : 97 ≤ c.toNat ∧ c.toNat ≤ 122 := ⟨le_iff_toNat_le.1 h.1, le_iff_toNat_le.1 h.2⟩
  omega

lemma toLower_eq_self (h : IsLowerOrDigit c) : c.toLower = c := by
  rw [isLowerOrDigit_iff] at h
  refine toLower_of_not ?_
  rw [isCapital_iff]
  omega

lemma isLowerOrDigit_toLower (h : IsLetterOrDigit c) : IsLowerOrDigit c.toLower := by
  rcases h with h | h
  · rwa [toLower_eq_self h]
  · rw [isLowerOrDigit_iff, toNat_toLower h]
    rw [isCapital_iff] at h
    omega

lemma toLower_toLower (c : Char) : c.toLower.toLower = c.toLower := by
  by_cases h : 'A' ≤ c ∧ c ≤ 'Z'
  · exact toLower_eq_self (isLowerOrDigit_toLower (.inr h))
  · rw [toLower_of_not h, toLower_of_not h]

lemma toLower_toUpper (c : Char) : c.toUpper.toLower = c.toLower := by
  by_cases h : 'a' ≤ c ∧ c ≤ 'z'
  · have hupper := toNat_toUpper h
    have hcapital : 'A' ≤ c.toUpper ∧ c.toUpper ≤ 'Z' := by
      have hsmall : 97 ≤ c.toNat ∧ c.toNat ≤ 122 := ⟨le_iff_toNat_le.1 h.1, le_iff_toNat_le.1 h.2⟩
      rw [isCapital_iff]
      omega
    have hback : c.toUpper.toLower.toNat = c.toNat := (toNat_toLower hcapital).trans hupper
    rw [toLower_eq_self (.inl h)]
    exact Char.ext (UInt32.toNat_inj.1 hback)
  · rw [toUpper_of_not h]

lemma isLetterOrDigit_toLower_iff : IsLetterOrDigit c.toLower ↔ IsLetterOrDigit c := by
  by_cases h : 'A' ≤ c ∧ c ≤ 'Z'
  · exact iff_of_true (.inl (isLowerOrDigit_toLower (.inr h))) (.inr h)
  · rw [toLower_of_not h]

/-- Case makes no difference to what the letters and digits are. -/
lemma isLetterOrDigit_congr (h : c.toLower = d.toLower) :
    IsLetterOrDigit c ↔ IsLetterOrDigit d := by
  rw [← isLetterOrDigit_toLower_iff, h, isLetterOrDigit_toLower_iff]

lemma lettersOf_append : lettersOf (text ++ text') = lettersOf text ++ lettersOf text' := by
  simp [lettersOf]

lemma lettersOf_cons_of_not (h : ¬ IsLetterOrDigit c) : lettersOf (c :: text) = lettersOf text := by
  simp [lettersOf, h]

lemma lettersOf_cons_congr (h : c.toLower = d.toLower) :
    lettersOf (c :: text) = lettersOf (d :: text) := by
  by_cases hc : IsLetterOrDigit c
  · simp [lettersOf, hc, (isLetterOrDigit_congr h).1 hc, h]
  · rw [lettersOf_cons_of_not hc, lettersOf_cons_of_not (mt (isLetterOrDigit_congr h).2 hc)]

lemma isLowerOrDigit_of_mem_lettersOf (h : c ∈ lettersOf text) : IsLowerOrDigit c := by
  obtain ⟨d, hd, rfl⟩ := List.mem_map.1 h
  exact isLowerOrDigit_toLower (of_decide_eq_true (List.mem_filter.1 hd).2)

lemma lettersOf_eq_self (h : ∀ c ∈ text, IsLowerOrDigit c) : lettersOf text = text := by
  have hall : text.filter (fun c => IsLetterOrDigit c) = text :=
    List.filter_eq_self.2 fun c hc => decide_eq_true (.inl (h c hc))
  rw [lettersOf, hall]
  exact (List.map_congr_left fun c hc => toLower_eq_self (h c hc)).trans (List.map_id text)

lemma length_lettersOf : (lettersOf text).length = text.countP fun c => IsLetterOrDigit c := by
  rw [lettersOf, List.length_map, List.countP_eq_length_filter]

lemma Respelling.lettersOf_eq (h : Respelling text text') : lettersOf text' = lettersOf text := by
  cases h with
  | inserted before after h => rw [lettersOf_append, lettersOf_append, lettersOf_cons_of_not h]
  | removed before after h => rw [lettersOf_append, lettersOf_append, lettersOf_cons_of_not h]
  | raised before after c =>
    rw [lettersOf_append, lettersOf_append, lettersOf_cons_congr (toLower_toUpper c)]
  | lowered before after c =>
    rw [lettersOf_append, lettersOf_append, lettersOf_cons_congr (toLower_toLower c)]

lemma lettersOf_eq_of_respellings (h : Relation.ReflTransGen Respelling text text') :
    lettersOf text' = lettersOf text := by
  induction h with
  | refl => rfl
  | tail _ hstep ih => rw [hstep.lettersOf_eq, ih]

end Letters

/-! ### Names of accounts -/

section Names

variable {n m : String}

lemma toList_accountName (n : String) :
    (accountName n).toList = (lettersOf n.toList).take maxAccountName := by
  have hfilter : n.toList.filter Char.isAlphanum = n.toList.filter fun c => IsLetterOrDigit c := by
    apply List.filter_congr
    intro c _
    rw [Bool.eq_iff_iff, decide_eq_true_iff, isLetterOrDigit_iff]
  rw [accountName, String.toList_ofList, hfilter, lettersOf]

lemma isLowerOrDigit_of_mem_accountName {c : Char} (h : c ∈ (accountName n).toList) :
    IsLowerOrDigit c := by
  rw [toList_accountName] at h
  exact isLowerOrDigit_of_mem_lettersOf (List.mem_of_mem_take h)

lemma slash_notMem_accountName (name : String) : '/' ∉ (accountName name).toList := by
  intro h
  exact absurd (isLowerOrDigit_of_mem_accountName h) (by simp [IsLowerOrDigit])

lemma length_accountName (n : String) :
    (accountName n).length = min maxAccountName (n.toList.countP fun c => IsLetterOrDigit c) := by
  rw [← String.length_toList, toList_accountName, List.length_take, length_lettersOf]

lemma accountName_accountName (n : String) : accountName (accountName n) = accountName n := by
  apply String.toList_inj.1
  rw [toList_accountName (accountName n),
    lettersOf_eq_self fun c hc => isLowerOrDigit_of_mem_accountName hc]
  apply List.take_of_length_le
  rw [toList_accountName]
  exact List.length_take_le _ _

/-- Two names give the same account name if their letters and digits agree that far. -/
lemma accountName_eq_iff : accountName n = accountName m ↔
    ∀ i < maxAccountName, (lettersOf n.toList)[i]? = (lettersOf m.toList)[i]? := by
  rw [← String.toList_inj, toList_accountName, toList_accountName, List.ext_getElem?_iff]
  apply forall_congr'
  intro i
  by_cases hi : i < maxAccountName
  · rw [List.getElem?_take_of_lt hi, List.getElem?_take_of_lt hi]
    exact (imp_iff_right hi).symm
  · rw [List.getElem?_take_eq_none (Nat.le_of_not_lt hi),
      List.getElem?_take_eq_none (Nat.le_of_not_lt hi)]
    exact iff_of_true rfl fun h => absurd h hi

lemma accountName_eq_of_respellings
    (h : Relation.ReflTransGen Respelling n.toList m.toList) : accountName m = accountName n := by
  rw [accountName_eq_iff, lettersOf_eq_of_respellings h]
  exact fun _ _ => rfl

end Names

/-! ### Paths -/

/-- A text is determined by what stands before a slash in it. -/
lemma eq_of_append_slash {x y r r' : List Char} (hx : '/' ∉ x) (hy : '/' ∉ y)
    (h : x ++ '/' :: r = y ++ '/' :: r') : x = y := by
  have hupto : ∀ {z r : List Char}, '/' ∉ z → (z ++ '/' :: r).takeWhile (· != '/') = z := by
    intro z r hz
    rw [List.takeWhile_append_of_pos]
    · simp
    · intro c hc
      simp only [bne_iff_ne, ne_eq]
      rintro rfl
      exact hz hc
  rw [← hupto hx, h, hupto hy]

namespace ResourceIds

variable {cluster : AzureContext} {n m : String}

lemma accountName_of : (of cluster n).accountName = Azure.accountName n := rfl

lemma bucketName_of : (of cluster n).bucketName = n := rfl

lemma group_of (cluster : AzureContext) (n m : String) :
    (of cluster n).group = (of cluster m).group := rfl

/-- The name of the account ends where the next slash is, so the name of the bucket can be read off
the end. -/
lemma container_inj (h : (of cluster n).container = (of cluster m).container) : n = m := by
  have hchars := congrArg String.toList h
  simp only [container, storageAccount, accountName_of, bucketName_of, ToString.toString,
    group_of cluster n m, String.toList_append, List.append_assoc,
    List.append_cancel_left_eq] at hchars
  have haccount := eq_of_append_slash (slash_notMem_accountName n) (slash_notMem_accountName m)
    hchars
  rw [haccount] at hchars
  exact String.toList_inj.1 (by simpa using hchars)

lemma privateEndpoint_inj
    (h : (of cluster n).privateEndpoint = (of cluster m).privateEndpoint) : n = m := by
  have hchars := congrArg String.toList h
  apply String.toList_inj.1
  simpa [privateEndpoint, bucketName_of, ToString.toString,
    group_of cluster n m] using hchars

end ResourceIds

/-- The name of an account consists of small letters and digits, as many as the bucket's name has up
to the longest name; it is its own account name, and it is the same however the bucket's name is
respelled. Two names share it exactly if their letters and digits agree so far but for their case.
Containers and endpoints are not shared. -/
theorem accountName_is_normal (n : String) :
    (∀ c ∈ (accountName n).toList, IsLowerOrDigit c) ∧
    (accountName n).length = min 24 (n.toList.countP fun c => IsLetterOrDigit c) ∧
    accountName (accountName n) = accountName n ∧
    (∀ m : String, Relation.ReflTransGen Respelling n.toList m.toList →
      accountName m = accountName n) ∧
    (∀ m : String, accountName n = accountName m ↔
      ∀ i < 24, (lettersOf n.toList)[i]? = (lettersOf m.toList)[i]?) ∧
    ∀ (cluster : AzureContext) (m : String),
      ((ResourceIds.of cluster n).container = (ResourceIds.of cluster m).container ↔ n = m) ∧
      ((ResourceIds.of cluster n).privateEndpoint =
        (ResourceIds.of cluster m).privateEndpoint ↔ n = m) := by
  refine ⟨fun c hc => isLowerOrDigit_of_mem_accountName hc, length_accountName n,
    accountName_accountName n, fun m h => accountName_eq_of_respellings h,
    fun m => accountName_eq_iff, ?_⟩
  intro cluster m
  refine ⟨⟨ResourceIds.container_inj, ?_⟩, ResourceIds.privateEndpoint_inj, ?_⟩
  · rintro rfl
    rfl
  · rintro rfl
    rfl

/-- A capital letter becomes a small one, and a hyphen and a letter that is not of ASCII go. -/
theorem respelled_shares_account :
    Relation.ReflTransGen Respelling "Logs-ß".toList "logs".toList ∧
      accountName "logs" = accountName "Logs-ß" := by
  have hfirst : "Logs-ß".toList = ['L', 'o', 'g', 's', '-', 'ß'] := by decide
  have hlast : "logs".toList = ['l', 'o', 'g', 's'] := by decide
  have h : Relation.ReflTransGen Respelling "Logs-ß".toList "logs".toList := by
    rw [hfirst, hlast]
    refine .head (.lowered [] ['o', 'g', 's', '-', 'ß'] 'L') ?_
    refine .head (.removed ['l', 'o', 'g', 's'] ['ß'] (by decide)) ?_
    exact .single (.removed ['l', 'o', 'g', 's'] [] (by decide))
  exact ⟨h, (accountName_is_normal "Logs-ß").2.2.2.1 "logs" h⟩

end BucketOperator.Azure
