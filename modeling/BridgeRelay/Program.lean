/-!
# Interactive programs

A program asks its surroundings one request at a time and goes on with the answer. Programs are data: what runs
them, with whatever answers and however interleaved, is separate. A loop is a constructor of its own, so that
programs which never end are finite values too.
-/

namespace BridgeRelay

/-- The requests that a program may make, and what each is answered with. -/
structure Interface where
  Request : Type
  Answer : Request → Type

/-- A program that ends, if it does, with a value of type `α`. -/
inductive Program (I : Interface) : Type → Type 1 where
  | done {α : Type} (value : α) : Program I α
  | ask {α : Type} (request : I.Request) (next : I.Answer request → Program I α) : Program I α
  /-- runs `body` from `state` until it gives a result on the right -/
  | loop {σ β α : Type} (body : σ → Program I (σ ⊕ β)) (state : σ) (next : β → Program I α) : Program I α

namespace Program

variable {I J : Interface} {α β σ : Type}

/-- The program that makes one request. -/
def request (r : I.Request) : Program I (I.Answer r) := .ask r .done

/-- One program and then another, which depends on its value. -/
def bind {α β : Type} : Program I α → (α → Program I β) → Program I β
  | done a, f => f a
  | ask r next, f => ask r fun answer => (next answer).bind f
  | loop body s next, f => loop body s fun b => (next b).bind f

instance : Monad (Program I) where
  pure := done
  bind := bind

/-- Runs `body` from a state until it gives a result on the right. -/
def iterate (state : σ) (body : σ → Program I (σ ⊕ β)) : Program I β := .loop body state .done

/-- The program with each request carried out by a program of another interface. -/
def translate (f : (r : I.Request) → Program J (I.Answer r)) : {α : Type} → Program I α → Program J α
  | _, done a => done a
  | _, ask r next => (f r).bind fun answer => (next answer).translate f
  | _, loop body s next => loop (fun s => (body s).translate f) s fun b => (next b).translate f

/-! ## Steps -/

/-- What a program does first. -/
inductive Head (I : Interface) (α : Type) : Type 1 where
  | done (value : α)
  | ask (request : I.Request) (next : I.Answer request → Program I α)
  /-- goes on without a request -/
  | silent (next : Program I α)

/-- What a program does first. A loop unfolds once, silently. -/
def head : Program I α → Head I α
  | done a => .done a
  | ask r next => .ask r next
  | loop body s next => .silent ((body s).bind fun
      | .inl s => loop body s next
      | .inr b => next b)

/-! ## Laws -/

@[simp] theorem done_bind (a : α) (f : α → Program I β) : (done a).bind f = f a := rfl

@[simp] theorem bind_done (p : Program I α) : p.bind done = p := by
  induction p with
  | done a => rfl
  | ask r next ih => simp [bind, ih]
  | loop body s next _ ih => simp [bind, ih]

theorem bind_assoc {γ : Type} (p : Program I α) (f : α → Program I β) (g : β → Program I γ) :
    (p.bind f).bind g = p.bind fun a => (f a).bind g := by
  induction p with
  | done a => rfl
  | ask r next ih => simp [bind, ih]
  | loop body s next _ ih => simp [bind, ih]

instance : LawfulMonad (Program I) :=
  LawfulMonad.mk' _ (fun p => bind_done p) (fun _ _ => rfl) bind_assoc

end Program

/-! ## Exchanges -/

/-- A request and its answer. -/
structure Exchange (I : Interface) where
  request : I.Request
  answer : I.Answer request

end BridgeRelay
