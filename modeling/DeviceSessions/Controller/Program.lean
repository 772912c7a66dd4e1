import DeviceSessions.Controller.Event
import DeviceSessions.Error
import DeviceSessions.Session.Call
import DeviceSessions.Token.Basic
import DeviceSessions.User.Basic

/-!
# Programs that call

A program is a tree: it is done, or it makes one call and goes on with the answer. What the answers
are is not said here, so one program runs against any store, whether it works or fails, and several
programs can be run call by call in any order.
-/

namespace DeviceSessions

/-- How a call that has a deadline ends: with a result, or not in time. -/
inductive Reply (α : Type) where
  | answered (result : Result α)
  | late
  deriving Repr

/-- A call of a controller to those it works with. -/
inductive Call where
  | findUser (email : String)
  | store (call : StoreCall)
  | decoy
  | compare (hash password : String)
  | issue (kind : TokenKind) (user : Uuid)
  | parse (token : String)
  | log (event : Event)
  deriving DecidableEq, Repr

/-- What a call is answered with. The decoy is a hash to compare with where there is no other. -/
def Call.Answer : Call → Type
  | findUser _ => Reply (Option User)
  | store call => Reply call.Answer
  | decoy => Option String
  | compare .. => Result Unit
  | issue .. => Result IssuedToken
  | parse _ => Result Claims
  | log _ => Unit

/-- A program that ends with a value. -/
inductive Program (α : Type) where
  | done (a : α)
  | ask (call : Call) (next : call.Answer → Program α)

namespace Program

/-- Goes on with the value of a program. -/
def bind {α β : Type} (p : Program α) (f : α → Program β) : Program β :=
  match p with
  | done a => f a
  | ask call next => ask call fun x => (next x).bind f

instance : Monad Program where
  pure := done
  bind := bind

/-- Makes one call. -/
def call (c : Call) : Program c.Answer := ask c done

/-- Runs a program in a world that answers calls and changes with them. -/
def run {α σ : Type} (answer : (c : Call) → σ → c.Answer × σ) : Program α → σ → α × σ
  | done a, world => (a, world)
  | ask c next, world => run answer (next (answer c world).1) (answer c world).2

end Program

/-- A program that ends with a value or an error. -/
abbrev Action := ExceptT Error Program

namespace Action

/-- Ends with a result that is known. -/
def ofResult {α : Type} (r : Result α) : Action α := ExceptT.mk (.done r)

/-- Makes one call that cannot fail. -/
def call (c : Call) : Action c.Answer := ExceptT.lift (Program.call c)

/-- Reports an event. -/
def log (level : Level) (message : String) (fields : List (String × FieldValue) := []) :
    Action Unit :=
  call (.log ⟨level, message, fields⟩)

end Action

end DeviceSessions
