import DeviceSessions.Controller.Basic
import DeviceSessions.Password.Verifier
import DeviceSessions.Token.Check
import DeviceSessions.User.Directory

/-!
# Worlds

A world answers the calls of a controller: it has a clock, the streams from which identifiers and
salts are drawn, an issuer, a verifier, and behind them a backend with the sessions and the users.
Calls can be made to wait or to fail, one by one.
-/

namespace DeviceSessions

/-- What can be made to wait or to fail. -/
inductive Target where
  | create
  | isValid
  | revokeAll
  | revokeDevice
  | listDevices
  | findDevice
  | renameDevice
  | deleteDevice
  | findUser
  | hash
  | compare
  | issue (kind : TokenKind)
  | parse
  deriving DecidableEq, Repr

/-- The target that a call of a store is. -/
def StoreCall.target : StoreCall → Target
  | create .. => .create
  | isValid .. => .isValid
  | revokeAll _ => .revokeAll
  | revokeDevice .. => .revokeDevice
  | listDevices _ => .listDevices
  | findDevice .. => .findDevice
  | renameDevice .. => .renameDevice
  | deleteDevice .. => .deleteDevice

/-- What happens to a call: it waits, and then fails or goes on. The call itself may be made before
all that, and its answer lost. -/
structure Fault where
  delay : Span := ⟨0⟩
  failure : Option Error := none
  after : Bool := false
  deriving DecidableEq, Repr

namespace Fault

/-- The end of a call with the result `r` and a deadline. -/
def close {α : Type} (f : Fault) (deadline : Span) (r : Result α) : Reply α :=
  if f.delay ≤ deadline then
    match f.failure with
    | some e => .answered (.error e)
    | none => .answered r
  else .late

/-- Makes a call under a fault. A call that waits too long or fails is not made, unless it is made
before that. -/
def apply {α σ : Type} (f : Fault) (deadline : Span) (make : σ → Result α × σ) (s : σ) :
    Reply α × σ :=
  if f.after then
    let (r, s) := make s
    (f.close deadline r, s)
  else if f.delay ≤ deadline then
    match f.failure with
    | some e => (.answered (.error e), s)
    | none =>
      let (r, s) := make s
      (.answered r, s)
  else (.late, s)

end Fault

/-- What keeps sessions and users. -/
structure Backend (σ : Type) where
  store : (call : StoreCall) → Instant → σ → Result call.Answer × σ
  findUser : String → σ → Result (Option User) × σ

/-- A store and a directory in memory. -/
structure Memory where
  store : SessionStore := {}
  directory : Directory := {}
  deriving Repr

namespace Memory

/-- The store and the directory as a backend, which never fails. -/
def backend : Backend Memory where
  store call now m :=
    let (answer, store) := m.store.answer now call
    (.ok answer, { m with store })
  findUser email m := (.ok (m.directory.find? email), m)

end Memory

/-- A world around a backend of type `σ`. -/
structure World (σ : Type) where
  now : Instant
  deadline : Span
  issuer : Issuer
  verifier : Verifier
  ids : Nat → Uuid
  salts : Nat → Bytes
  state : σ
  faults : Target → Option Fault := fun _ => none
  idsDrawn : Nat := 0
  saltsDrawn : Nat := 0
  decoy : Option (Option String) := none
  hashes : Nat := 0
  compares : Nat := 0
  log : List Event := []

namespace World

variable {σ : Type}

/-- The password of the decoy. -/
def decoyPassword : String := "sessionkeeper-decoy-password"

/-- The error that calls of a target fail with at once. -/
def failure? (w : World σ) (target : Target) : Option Error := (w.faults target).bind Fault.failure

/-- Draws an identifier. -/
def drawId (w : World σ) : Uuid × World σ :=
  (w.ids w.idsDrawn, { w with idsDrawn := w.idsDrawn + 1 })

/-- Hashes a password under a fresh salt. -/
def hash (w : World σ) (password : String) : Result String × World σ :=
  let w := { w with hashes := w.hashes + 1 }
  match w.failure? .hash with
  | some e => (.error e, w)
  | none =>
    (.ok (w.verifier.hash password (w.salts w.saltsDrawn)),
      { w with saltsDrawn := w.saltsDrawn + 1 })

/-- The decoy, which is hashed when it is first asked for and kept from then on, even if that
failed. -/
def askDecoy (w : World σ) : Option String × World σ :=
  match w.decoy with
  | some kept => (kept, w)
  | none =>
    let (r, w) := w.hash decoyPassword
    (r.toOption, { w with decoy := some r.toOption })

/-- Compares a password with a hash. -/
def compare (w : World σ) (hash password : String) : Result Unit × World σ :=
  let w := { w with compares := w.compares + 1 }
  match w.failure? .compare with
  | some e => (.error e, w)
  | none => (Verifier.compare hash password, w)

/-- Issues a token; no identifier is drawn where the token would end out of range. -/
def issue (w : World σ) (kind : TokenKind) (user : Uuid) : Result IssuedToken × World σ :=
  match w.failure? (.issue kind) with
  | some e => (.error e, w)
  | none =>
    match w.issuer.expiry kind w.now with
    | .error e => (.error e, w)
    | .ok _ =>
      let (id, drawn) := w.drawId
      (w.issuer.issue kind user w.now id, drawn)

/-- Checks a token. -/
def parse (w : World σ) (token : String) : Result Claims :=
  match w.failure? .parse with
  | some e => .error e
  | none => w.issuer.parse token w.now

/-- Makes a call of the backend, under the fault of its target if there is one. -/
def make {α : Type} (w : World σ) (target : Target) (call : σ → Result α × σ) :
    Reply α × World σ :=
  match w.faults target with
  | some f =>
    let (reply, state) := f.apply w.deadline call w.state
    (reply, { w with state })
  | none =>
    let (r, state) := call w.state
    (.answered r, { w with state })

/-- The answer of the world to a call, and the world after it. -/
def answer (b : Backend σ) : (call : Call) → World σ → call.Answer × World σ
  | .findUser email, w => w.make .findUser (b.findUser email)
  | .store call, w => w.make call.target (b.store call w.now)
  | .decoy, w => w.askDecoy
  | .compare hash password, w => w.compare hash password
  | .issue kind user, w => w.issue kind user
  | .parse token, w => (w.parse token, w)
  | .log event, w => ((), { w with log := w.log ++ [event] })

/-- Runs an action in the world. -/
def run {α : Type} (b : Backend σ) (w : World σ) (action : Action α) : Result α × World σ :=
  Program.run (answer b) action.run w

/-- The world with its clock moved by nanoseconds; out of range it stays. -/
def advance (w : World σ) (nanos : Int) : World σ :=
  { w with now := (Instant.ofNanos? (w.now.toNanos + nanos)).getD w.now }

/-- The world with the fault of one target set or cleared. -/
def setFault (w : World σ) (target : Target) (fault : Option Fault) : World σ :=
  { w with faults := fun t => if t = target then fault else w.faults t }

/-- The events since the log was last taken. -/
def takeLog (w : World σ) : List Event × World σ := (w.log, { w with log := [] })

end World

end DeviceSessions
