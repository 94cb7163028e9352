import BucketOperator.Proofs.Json.Likeness
import BucketOperator.Proofs.Kubernetes.Asking
import BucketOperator.Proofs.Program.Coupling

/-!
# Answers that differ in a client secret

The control plane may tell two runs the same, but for the value of a client secret. What the
operator reads of such answers is the same as well, and only a secret keeps the difference.
-/

namespace BucketOperator.Kubernetes

open Json

/-! ### Documents -/

/-- Bytes that are a text which is not empty. -/
def HoldsText (bytes : ByteArray) : Prop :=
  ∃ text, String.fromUTF8? bytes = some text ∧ text ≠ ""

/-- The value of a client secret as a document has it. -/
def IsClientSecret (tree : Tree) : Prop := ∃ bytes, readBytes tree = some bytes ∧ HoldsText bytes

/-- Data that differ in the value of a client secret at most. -/
def DataAlike : Tree → Tree → Prop :=
  Tree.Alike "clientSecret" fun tree tree' => IsClientSecret tree ∧ IsClientSecret tree'

/-- Objects that differ in the value of a client secret among their data at most. -/
def DocumentsAlike : Tree → Tree → Prop := Tree.Alike "data" DataAlike

/-- Bodies that hold such objects, or no document. -/
def Body.Alike (body body' : Body) : Prop := Option.Rel DocumentsAlike body.tree? body'.tree?

/-- Replies that differ in the value of a client secret at most. -/
inductive Reply.Alike : Reply → Reply → Prop where
  | unreachable : Reply.Alike .unreachable .unreachable
  | answered (status : Nat) {body body' : Body} (h : body.Alike body') :
    Reply.Alike (.answered status body) (.answered status body')

lemma Reply.Alike.refl : ∀ reply : Reply, reply.Alike reply
  | .unreachable => .unreachable
  | .answered status _ => .answered status (rel_refl .same _)

/-! ### What is read -/

/-- What is read of documents that differ in a client secret at most. -/
def ReadsAlike {α : Type} (read : Tree → Option α) (S : α → α → Prop) : Prop :=
  ∀ tree tree', DocumentsAlike tree tree' → Option.Rel S (read tree) (read tree')

/-- Bytes are the same, or hold text both. -/
def BytesAlike (bytes bytes' : ByteArray) : Prop :=
  bytes = bytes' ∨ HoldsText bytes ∧ HoldsText bytes'

/-- Secrets that differ in a client secret at most. -/
structure Secret.Alike (secret secret' : Secret) : Prop where
  metadata : secret.metadata = secret'.metadata
  data : Option.Rel (StringMap.Alike "clientSecret" BytesAlike) secret.data secret'.data

/-- Config maps that differ in such a value at most. -/
def ConfigMap.Alike (configMap configMap' : ConfigMap) : Prop :=
  Option.Rel (StringMap.Alike "clientSecret" fun _ _ => True) configMap.data configMap'.data

/-- Records that differ in their data at most. -/
def RecordsAlike (record record' : Json) : Prop :=
  ∀ key, key ≠ "data" → record.get? key = record'.get? key

section Reading

variable {α : Type} {S : α → α → Prop} {read : Tree → Option α} {tree tree' : Tree}

lemma exists_text_of_isClientSecret (h : IsClientSecret tree) :
    ∃ text, tree = .string (some text) := by
  obtain ⟨bytes, hbytes, -⟩ := h
  rcases tree with _ | _ | _ | (_ | text) | _ | _
  case string.some => exact ⟨text, rfl⟩
  all_goals cases hbytes

lemma dataAlike_denote (h : DataAlike tree tree') :
    Tree.BothDenote tree tree' ∧ tree.depth = tree'.depth := by
  constructor
  · refine rel_mono (h.rel_value? ?_) fun _ _ _ => trivial
    rintro secret secret' ⟨hsecret, hsecret'⟩
    obtain ⟨text, rfl⟩ := exists_text_of_isClientSecret hsecret
    obtain ⟨text', rfl⟩ := exists_text_of_isClientSecret hsecret'
    exact .some trivial
  · refine h.depth_eq ?_
    rintro secret secret' ⟨hsecret, hsecret'⟩
    obtain ⟨text, rfl⟩ := exists_text_of_isClientSecret hsecret
    obtain ⟨text', rfl⟩ := exists_text_of_isClientSecret hsecret'
    rfl

/-- A status has no data, so it is read the same. -/
lemma readsAlike_status : ReadsAlike Status.read Eq := by
  intro tree tree' h
  rw [rel_eq_iff]
  cases h with
  | same tree => rfl
  | object h =>
    simp only [Status.read]
    rw [(Tree.Alike.object h).closedFields?_eq (by decide)]

lemma readsAlike_bucket : ReadsAlike Bucket.read Eq := by
  intro tree tree' h
  rw [rel_eq_iff]
  cases h with
  | same tree => rfl
  | object h =>
    simp only [Bucket.read]
    rw [(Tree.Alike.object h).closedFields?_eq (by decide)]

/-- The value of a record differs in its data at most. -/
lemma readsAlike_json? : ReadsAlike Tree.json? RecordsAlike :=
  fun _ _ h => h.rel_json? fun _ _ => dataAlike_denote

/-- A record is its value, once its metadata have been read. -/
lemma readsAlike_record : ReadsAlike readRecord RecordsAlike := by
  intro tree tree' h
  cases h with
  | same tree => exact rel_refl (fun _ _ _ => rfl) _
  | object h =>
    have hobject : ∀ members, readRecord (.object members) =
        ((Tree.object members).closedFields? ["metadata"]).bind fun fields =>
          (fields.orElse "metadata" .empty Metadata.read).bind fun _ =>
            (Tree.object members).json? := fun _ => rfl
    rw [hobject, hobject, (Tree.Alike.object h).closedFields?_eq (by decide)]
    refine rel_bind_self fun fields => ?_
    refine rel_bind_self fun _ => ?_
    exact readsAlike_json? _ _ (.object h)

lemma hasOnly_eq {name key text : String} {R : Tree → Tree → Prop} {fields fields' : Tree.Fields}
    (h : List.Forall₂ (AlikeAt name R) fields fields') (hkey : key ≠ name) :
    hasOnly fields key text = hasOnly fields' key text := by
  rw [hasOnly, hasOnly, Tree.filter_fields_eq h hkey]

/-- Data are read as maps that differ in a client secret at most. -/
lemma rel_readData {R : α → α → Prop} {read : Tree → Option α} {fields fields' : Tree.Fields}
    (h : List.Forall₂ (AlikeAt "data" DataAlike) fields fields') (hR : ∀ a, R a a)
    (hread : ∀ tree tree', IsClientSecret tree → IsClientSecret tree' →
      Option.Rel R (read tree) (read tree')) :
    Option.Rel (Option.Rel (StringMap.Alike "clientSecret" R))
      (fields.optionalAll "data" (Tree.readMap read))
      (fields'.optionalAll "data" (Tree.readMap read)) := by
  refine Tree.rel_optionalAll h (fun _ => ⟨fun _ _ => rfl, rel_refl hR _⟩) ?_
  intro tree tree' hdata
  exact hdata.rel_readOption (hdata.rel_readMap hR fun _ _ hsecret => hread _ _ hsecret.1 hsecret.2)

/-- Bytes of a client secret are text both times. -/
lemma rel_readBytes (h : IsClientSecret tree) (h' : IsClientSecret tree') :
    Option.Rel BytesAlike (readBytes tree) (readBytes tree') := by
  obtain ⟨bytes, hread, htext⟩ := h
  obtain ⟨bytes', hread', htext'⟩ := h'
  rw [hread, hread']
  exact .some (.inr ⟨htext, htext'⟩)

lemma rel_readString (h : IsClientSecret tree) (h' : IsClientSecret tree') :
    Option.Rel (fun _ _ => True) tree.readString tree'.readString := by
  obtain ⟨text, rfl⟩ := exists_text_of_isClientSecret h
  obtain ⟨text', rfl⟩ := exists_text_of_isClientSecret h'
  exact .some trivial

/-- Secrets are read with the same metadata, and data that differ in a client secret at most. -/
lemma readsAlike_secret : ReadsAlike Secret.read Secret.Alike := by
  intro tree tree' h
  refine rel_bind h.rel_openFields? fun fields fields' hfields => ?_
  have hother : ∀ {β : Type} {key : String} {read : Tree → Option β}, key ≠ "data" →
      fields.optionalAll key read = fields'.optionalAll key read := Tree.optionalAll_eq hfields
  rw [hasOnly_eq hfields (by decide), hasOnly_eq hfields (by decide), hother (by decide),
    hother (by decide), hother (by decide), hother (by decide)]
  refine rel_bind_self fun _ => ?_
  refine rel_bind_self fun _ => ?_
  refine rel_bind_self fun _ => ?_
  refine rel_bind_self fun _ => ?_
  refine rel_bind_self fun metadata => ?_
  exact rel_bind (rel_readData hfields (fun _ => .inl rfl) fun _ _ => rel_readBytes)
    fun data data' hdata => .some ⟨rfl, hdata⟩

lemma readsAlike_configMap : ReadsAlike ConfigMap.read ConfigMap.Alike := by
  intro tree tree' h
  refine rel_bind h.rel_openFields? fun fields fields' hfields => ?_
  have hother : ∀ {β : Type} {key : String} {read : Tree → Option β}, key ≠ "data" →
      fields.optionalAll key read = fields'.optionalAll key read := Tree.optionalAll_eq hfields
  rw [hasOnly_eq hfields (by decide), hasOnly_eq hfields (by decide), hother (by decide),
    hother (by decide), hother (by decide)]
  refine rel_bind_self fun _ => ?_
  refine rel_bind_self fun _ => ?_
  refine rel_bind_self fun _ => ?_
  refine rel_bind_self fun _ => ?_
  exact rel_bind (rel_readData hfields (fun _ => trivial) fun _ _ => rel_readString)
    fun data data' hdata => .some hdata

/-- What a deletion answers is read the same if the object is read or not read both times. -/
lemma ReadsAlike.deleted (h : ReadsAlike read S) : ReadsAlike (readDeleted read) Eq := by
  intro tree tree' halike
  refine rel_bind (readsAlike_json? tree tree' halike) fun value value' hvalue => ?_
  rw [hvalue "kind" (by decide)]
  split
  · exact rel_bind (readsAlike_status tree tree' halike) fun _ _ _ => .some rfl
  · exact rel_bind (h tree tree' halike) fun _ _ _ => .some rfl

end Reading

/-! ### Outcomes -/

section Outcomes

variable {α : Type} {S : α → α → Prop} {read : Tree → Option α} {body body' : Body}
  {reply reply' : Reply} {outcome outcome' : Except Failure Body}

lemma rel_read (h : body.Alike body') (hread : ReadsAlike read S) :
    Option.Rel S (body.tree?.bind read) (body'.tree?.bind read) :=
  rel_bind h hread

lemma agree_decode (h : body.Alike body') (hread : ReadsAlike read S) :
    Agree S (body.decode read) (body'.decode read) := by
  have hrel := rel_read h hread
  rw [Body.decode, Body.decode]
  generalize body.tree?.bind read = a, body'.tree?.bind read = a' at hrel
  cases hrel with
  | none => exact .error _
  | some h => exact .ok h

/-- Replies that are alike come to the same failure, or to bodies that are alike. -/
lemma Reply.Alike.agree_outcome (h : reply.Alike reply') :
    Agree Body.Alike reply.outcome reply'.outcome := by
  cases h with
  | unreachable => exact .error _
  | @answered status body body' h =>
    rw [Reply.outcome, Reply.outcome, rel_eq_iff.1 (rel_read h readsAlike_status)]
    split
    · split <;> exact .error _
    · exact .ok h

/-- So they tell the same of an object, or of objects that are related. -/
lemma agree_told (h : Agree Body.Alike outcome outcome') (hread : ReadsAlike read S) :
    Agree (Option.Rel S) (told read outcome) (told read outcome') := by
  cases h with
  | error failure =>
    rcases failure with ⟨code, _ | _⟩ | _ | _ | _
    case status.true => exact .ok .none
    all_goals exact .error _
  | @ok body body' h =>
    have hdecode := agree_decode h hread
    rw [told, told]
    generalize body.decode read = decoded, body'.decode read = decoded' at hdecode
    cases hdecode with
    | error failure => exact .error failure
    | ok h => exact .ok (.some h)

end Outcomes

end BucketOperator.Kubernetes
