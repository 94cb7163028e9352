import BucketOperator.Aws.AccessRole
import BucketOperator.Proofs.Program.Repetition

/-!
# Operations in a session

An operation of the AWS adapters makes its calls one after the other, and the first failure ends
it.
-/

namespace BucketOperator.Aws

variable {α β : Type} {session : Session} {bucket operation : String}

/-- How an operation goes on after its first part. -/
def resume (session : Session) (f : α → Operation β) :
    Except BucketOperator.Failure α → Program World (Except BucketOperator.Failure β)
  | .ok a => (f a).run session
  | .error failure => .done (.error failure)

/-- What a call comes to as a named part of an operation when what it is about may be absent. -/
def reportOr (bucket operation : String) (absent : α) :
    Except Failure α → Except BucketOperator.Failure α
  | .ok a => .ok a
  | .error failure =>
    if failure.isNoSuchEntity then .ok absent
    else .error (.provider bucket operation (.aws failure))

lemma run_bind (x : Operation α) (f : α → Operation β) :
    (x >>= f).run session = (x.run session).bind (resume session f) := by
  rw [Operation.run, ExceptT.run_bind, Program.bind_eq, Program.substitute_bind]
  congr 1
  funext r
  cases r <;> rfl

lemma run_namedOrAbsent_iam (call : IamCall) (absent : call.Output) :
    (namedOrAbsent bucket operation absent (callIam call)).run session =
      .ask (.iam session call) fun r => .done (reportOr bucket operation absent r) := by
  change Program.ask _ _ = Program.ask _ _
  congr 1
  funext (r : Except Failure call.Output)
  cases r with
  | ok a => rfl
  | error failure =>
    change Program.substitute (I := Api) (J := World) (Call.serve session)
      (if failure.isNoSuchEntity = true then .done (Except.ok absent)
        else .done (.error (BucketOperator.Failure.provider bucket operation (.aws failure)))) = _
    by_cases h : failure.isNoSuchEntity = true
    · simp [reportOr, h, Program.substitute]
    · simp [reportOr, h, Program.substitute]

lemma run_find? {record : Bucket} {role : String} :
    (AccessRole.find? record role).run session = .ask (.iam session (.getRole role))
      fun r => .done (reportOr record.spec.name "get role" none r) :=
  run_namedOrAbsent_iam (.getRole role) none

end BucketOperator.Aws
