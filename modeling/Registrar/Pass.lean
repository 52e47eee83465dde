import Registrar.Event
import Registrar.Failure

/- A pass as a program: it asks the remote, goes on by the answers and tells its log. What it does
   with every possible answer is part of it; running it against a remote picks one way through. -/
namespace Registrar

/-- Before each request the pass looks whether it is cancelled; then the request is not made. -/
inductive Answer (α : Type) where
  | cancelled
  | refused (e : RemoteError)
  | granted (a : α)

inductive Pass (α : Type) : Type where
  | done (a : α)
  | note (e : Event) (next : Pass α)
  | ask (q : Request) (next : Answer q.Reply → Pass α)

namespace Pass

def bind : Pass α → (α → Pass β) → Pass β
  | .done a, f => f a
  | .note e next, f => .note e (bind next f)
  | .ask q next, f => .ask q fun a => bind (next a) f

instance : Monad Pass where
  pure := .done
  bind := bind

theorem bind_done (p : Pass α) : p.bind .done = p := by
  induction p with
  | done a => rfl
  | note e next ih => simp [bind, ih]
  | ask q next ih => simp [bind, ih]

theorem bind_assoc (p : Pass α) (f : α → Pass β) (g : β → Pass γ) :
    (p.bind f).bind g = p.bind fun a => (f a).bind g := by
  induction p with
  | done a => rfl
  | note e next ih => simp [bind, ih]
  | ask q next ih => simp [bind, ih]

instance : LawfulMonad Pass :=
  LawfulMonad.mk' Pass bind_done (fun _ _ => rfl) bind_assoc

end Pass

abbrev Attempt := ExceptT Failure Pass

namespace Attempt

def tell (e : Event) : Attempt Unit := ExceptT.mk (.note e (.done (.ok ())))

def send (q : Request) : Attempt (Except RemoteError q.Reply) :=
  ExceptT.mk (.ask q fun
    | .cancelled =>
      .note (.cancelled q.operation) (.done (.error (.cancelled q.operation.name)))
    | .refused e => .done (.ok (.error e))
    | .granted a => .done (.ok (.ok a)))

def demand (q : Request) : Attempt q.Reply := do
  match ← send q with
  | .ok a => pure a
  | .error e => throw (.remote e)

def outcome (a : Attempt α) : Attempt (Except Failure α) := ExceptT.lift a.run

end Attempt

structure Transcript (σ α : Type) where
  result : α
  calls : List Request
  events : List Event
  state : σ

def cancelledAfter (limit : Option Nat) (made : Nat) : Bool := limit.any (· ≤ made)

def Pass.run (remote : Remote σ) (limit : Option Nat) : Pass α → Nat → σ → Transcript σ α
  | .done a, _, s => ⟨a, [], [], s⟩
  | .note e next, made, s =>
    let t := run remote limit next made s
    { t with events := e :: t.events }
  | .ask q next, made, s =>
    if cancelledAfter limit made then run remote limit (next .cancelled) made s
    else
      let (answer, s) := remote.answer s q
      let t :=
        match answer with
        | .ok a => run remote limit (next (.granted a)) (made + 1) s
        | .error e => run remote limit (next (.refused e)) (made + 1) s
      { t with calls := q :: t.calls }

def Attempt.run (remote : Remote σ) (limit : Option Nat) (a : Attempt α) (s : σ) :
    Transcript σ (Except Failure α) :=
  Pass.run remote limit (ExceptT.run a) 0 s

end Registrar
