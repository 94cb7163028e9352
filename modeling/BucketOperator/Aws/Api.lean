import BucketOperator.World

/-!
# What the AWS adapters ask for

Calls to S3 and IAM, and listings that come in pages.
-/

namespace BucketOperator.Aws

inductive Call where
  | s3 (call : S3Call)
  | iam (call : IamCall)

/-- What a call answers. -/
def Call.Answer : Call → Type
  | .s3 call => Except Failure call.operation.Output
  | .iam call => Except Failure call.Output

/-- S3 and IAM. -/
abbrev Api : Interface := ⟨Call, Call.Answer⟩

/-- How a call is made in a session. -/
def Call.serve (session : Session) : (c : Call) → Program World c.Answer
  | .s3 call => World.s3 session call
  | .iam call => World.iam session call

/-- Steps of an adapter operation; the first failure ends them. -/
abbrev Operation := ExceptT BucketOperator.Failure (Program Api)

/-- The program of an operation in a session. -/
def Operation.run {α : Type} (session : Session) (operation : Operation α) :
    Program World (Except BucketOperator.Failure α) :=
  (ExceptT.run operation).substitute (Call.serve session)

/-- Make an S3 call. -/
def callS3 (bucket : String) (operation : S3Operation) :
    Program Api (Except Failure operation.Output) :=
  .ask (.s3 ⟨bucket, operation⟩) .done

/-- Make an IAM call. -/
def callIam (call : IamCall) : Program Api (Except Failure call.Output) := .ask (.iam call) .done

/-- Make a call as a named part of an operation on a bucket. -/
def named {α : Type} (bucket operation : String) (call : Program Api (Except Failure α)) :
    Operation α :=
  ExceptT.mk do return (← call).mapError fun failure => .provider bucket operation (.aws failure)

/-- Whether IAM says that there is no such entity. -/
def Failure.isNoSuchEntity : Failure → Bool
  | .service "NoSuchEntity" _ => true
  | _ => false

/-- Make a call whose target may be absent. -/
def namedOrAbsent {α : Type} (bucket operation : String) (absent : α)
    (call : Program Api (Except Failure α)) : Operation α :=
  ExceptT.mk do
    match ← call with
    | .ok a => return .ok a
    | .error failure =>
      if failure.isNoSuchEntity then return .ok absent
      else return .error (.provider bucket operation (.aws failure))

/-- Where the page after this one starts. There is none after a page that gives no token, an empty
one, or the one it was asked for with. -/
def Page.following? {α : Type} (page : Page α) (token : Option String) : Option String :=
  page.next.filter fun next => next ≠ "" ∧ some next ≠ token

/-- List page after page and do something with each. At most `patience` pages are listed. -/
def forPages {α : Type} (list : Option String → Operation (Page α))
    (visit : Page α → Operation Unit) : Nat → Option String → Operation Unit
  | 0, _ => ExceptT.mk .cut
  | patience + 1, token => do
    let page ← list token
    visit page
    match page.following? token with
    | some next => forPages list visit patience (some next)
    | none => return ()

/-- The entries of all pages. -/
def collectPages {α : Type} (list : Option String → Operation (Page α)) :
    Nat → Option String → Operation (List α)
  | 0, _ => ExceptT.mk .cut
  | patience + 1, token => do
    let page ← list token
    match page.following? token with
    | some next => return page.entries ++ (← collectPages list patience (some next))
    | none => return page.entries

end BucketOperator.Aws
