import DeviceSessions.Digest.Argon2
import DeviceSessions.Error
import DeviceSessions.Password.Phc

/-!
# Passwords

Hashing passwords with Argon2id, and comparing a password with a stored hash. The costs of a
comparison are those of the stored hash.
-/

namespace DeviceSessions

/-- Why costs are refused. -/
inductive CostFault where
  | littleMemory
  | fewPasses
  | fewLanes
  | manyLanes
  deriving DecidableEq, Repr

/-- The wording of the fault. -/
def CostFault.message : CostFault → String
  | littleMemory => "memory cost is too small"
  | fewPasses => "time cost is too small"
  | fewLanes => "not enough threads"
  | manyLanes => "too many threads"

/-- The fault as one of a stored hash. -/
def CostFault.ofHash : CostFault → PhcFault
  | manyLanes => .badValue .tooLong
  | _ => .badValue .tooShort

/-- What a hash costs: memory in KiB, passes over it, and lanes. -/
structure Costs where
  memory : UInt32
  passes : UInt32
  lanes : UInt32
  memory_ge : 8 ≤ memory.toNat
  lanes_le_memory : lanes.toNat * 8 ≤ memory.toNat
  passes_pos : 1 ≤ passes.toNat
  lanes_pos : 1 ≤ lanes.toNat
  lanes_le : lanes.toNat ≤ 0xffffff
  deriving DecidableEq, Repr

namespace Costs

/-- The usual costs. -/
def usual : Costs := ⟨19456, 2, 1, by decide, by decide, by decide, by decide, by decide⟩

/-- The least costs. -/
def least : Costs := ⟨8, 1, 1, by decide, by decide, by decide, by decide, by decide⟩

/-- The product in the second test is one of 32 bits; where it wraps, the lanes are too many. -/
theorem of_checks {memory passes lanes : UInt32} (h₁ : ¬memory < 8) (h₂ : ¬memory < lanes * 8)
    (h₃ : ¬passes < 1) (h₄ : ¬lanes < 1) (h₅ : ¬0xffffff < lanes) :
    8 ≤ memory.toNat ∧ lanes.toNat * 8 ≤ memory.toNat ∧ 1 ≤ passes.toNat ∧ 1 ≤ lanes.toNat ∧
      lanes.toNat ≤ 0xffffff := by
  simp only [UInt32.lt_iff_toNat_lt, UInt32.toNat_mul, UInt32.toNat_ofNat] at *
  omega

/-- The costs with these numbers. -/
def of (memory passes lanes : UInt32) : Except CostFault Costs :=
  if h₁ : memory < 8 then .error .littleMemory
  else if h₂ : memory < lanes * 8 then .error .littleMemory
  else if h₃ : passes < 1 then .error .fewPasses
  else if h₄ : lanes < 1 then .error .fewLanes
  else if h₅ : 0xffffff < lanes then .error .manyLanes
  else
    have h := of_checks h₁ h₂ h₃ h₄ h₅
    .ok ⟨memory, passes, lanes, h.1, h.2.1, h.2.2.1, h.2.2.2.1, h.2.2.2.2⟩

end Costs

/-- Hashes new passwords at some costs. -/
structure Verifier where
  costs : Costs := .usual
  deriving DecidableEq, Repr

namespace Verifier

open Digest

/-- The verifier with these costs. -/
def ofCosts (memory passes lanes : UInt32) : Result Verifier :=
  match Costs.of memory passes lanes with
  | .ok costs => .ok ⟨costs⟩
  | .error fault => .error ⟨.hashing, "Invalid Argon2 parameters: " ++ fault.message, false⟩

/-- The names of the variants of the function. -/
def variants : List (List Char × Argon2Variant) :=
  [("argon2d".toList, .d), ("argon2i".toList, .i), ("argon2id".toList, .id)]

/-- The parameters of a hash at some costs. -/
def parameters (costs : Costs) : List (List Char × List Char) :=
  [(['m'], Nat.toDigits 10 costs.memory.toNat), (['t'], Nat.toDigits 10 costs.passes.toNat),
   (['p'], Nat.toDigits 10 costs.lanes.toNat)]

/-- The hash of a password under a salt. -/
def hashed (v : Verifier) (password : String) (salt : Bytes) : Phc :=
  let input : Argon2Input :=
    { variant := .id, version := 0x13, memory := v.costs.memory.toNat,
      passes := v.costs.passes.toNat, lanes := v.costs.lanes.toNat, outputSize := 32, data := [] }
  { algorithm := "argon2id".toList, version := some 0x13, parameters := parameters v.costs,
    salt := some (Base64.encodeList Base64.standard salt),
    output := some (argon2 input (Bytes.ofText password) salt) }

/-- The text of the hash of a password under a salt. -/
def hash (v : Verifier) (password : String) (salt : Bytes) : String :=
  (v.hashed password salt).write

/-- The parameters of a stored hash as they are read one by one. -/
structure Chosen where
  memory : UInt32 := 19456
  passes : UInt32 := 2
  lanes : UInt32 := 1
  data : Bytes := []
  deriving DecidableEq, Repr

/-- Reads one parameter of a stored hash. A key identifier has no effect. -/
def Chosen.read (c : Chosen) (parameter : List Char × List Char) : Except PhcFault Chosen :=
  let (name, value) := parameter
  if name = ['m'] then do return { c with memory := ← Phc.number value }
  else if name = ['t'] then do return { c with passes := ← Phc.number value }
  else if name = ['p'] then do return { c with lanes := ← Phc.number value }
  else if name = "keyid".toList then do
    let _ ← Phc.base64 8 value
    return c
  else if name = "data".toList then do return { c with data := ← Phc.base64 32 value }
  else .error .badName

/-- The version of a stored hash. -/
def versionOf : Option Nat → Except PhcFault Nat
  | none => .ok 0x13
  | some n => if n = 0x10 ∨ n = 0x13 then .ok n else .error .unknownVersion

/-- The output for a password with all that a stored hash says, in the size of its output. -/
def recompute (phc : Phc) (salt : List Char) (size : Nat) (password : String) :
    Except PhcFault Bytes := do
  let chosen ← phc.parameters.foldlM Chosen.read {}
  let costs ←
    match Costs.of chosen.memory chosen.passes chosen.lanes with
    | .ok costs => pure costs
    | .error fault => throw fault.ofHash
  let variant ←
    match variants.lookup phc.algorithm with
    | some variant => pure variant
    | none => throw .unknownAlgorithm
  let version ← versionOf phc.version
  let salt ← Phc.base64 64 salt
  if salt.length < 8 then throw (.badSalt .tooShort)
  return argon2
    { variant, version, memory := costs.memory.toNat, passes := costs.passes.toNat,
      lanes := costs.lanes.toNat, outputSize := size, data := chosen.data }
    (Bytes.ofText password) salt

/-- Whether a password is the one of a stored hash; a hash without salt or output is of none. -/
def verify (phc : Phc) (password : String) : Except PhcFault Bool :=
  match phc.salt, phc.output with
  | some salt, some output => do
    let computed ← recompute phc salt output.length password
    return decide (computed = output)
  | _, _ => .ok false

/-- Compares a password with a stored hash. -/
def compare (hash password : String) : Result Unit :=
  match Phc.read hash with
  | .error fault => .error ⟨.hashing, "Invalid password hash format: " ++ fault.message, false⟩
  | .ok phc =>
    match verify phc password with
    | .ok true => .ok ()
    | .ok false => .error ⟨.invalidCredentials, "Password does not match", false⟩
    | .error fault => .error ⟨.hashing, "Password verification failed: " ++ fault.message, false⟩

end Verifier

end DeviceSessions
