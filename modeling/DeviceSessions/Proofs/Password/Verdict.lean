import DeviceSessions.Password.Verifier
import DeviceSessions.Proofs.Password.Grammar

/-!
# Verdicts on passwords

A comparison says what the stored text says: which texts a password agrees with, which it is refused
for, and which cannot be computed again. The costs at which new passwords are hashed have no part in
it.
-/

namespace DeviceSessions.Verifier

open Digest Phc

/-! ### What the parameters say -/

/-- The parameters that can be computed with. -/
inductive Admissible : List Char × List Char → Prop
  | number {name : List Char} (known : name ∈ [['m'], ['t'], ['p']]) (n : UInt32) :
      Admissible (name, Nat.toDigits 10 n.toNat)
  | keyIdentifier {bs : Bytes} (few : bs.length ≤ 8) :
      Admissible ("keyid".toList, Base64.encodeList Base64.standard bs)
  | data {bs : Bytes} (few : bs.length ≤ 32) :
      Admissible ("data".toList, Base64.encodeList Base64.standard bs)

/-- The value of the last parameter with a name. -/
def lastValue (name : List Char) (ps : List (List Char × List Char)) : Option (List Char) :=
  (ps.filter fun p => p.1 = name).getLast?.map Prod.snd

/-- What the parameters give under a name, or else the usual. -/
def valueOf {α : Type} (read : List Char → α) (name : List Char) (usual : α)
    (ps : List (List Char × List Char)) : α :=
  ((lastValue name ps).map read).getD usual

/-- The number that digits write. -/
def numberOf (digits : List Char) : UInt32 := UInt32.ofNat (Text.decimal digits)

/-- The bytes that digits in base 64 write. -/
def bytesOf (digits : List Char) : Bytes := (Base64.decodeList? Base64.standard digits).getD []

/-- What has been chosen, with what parameters give in its place. -/
def Chosen.given (c : Chosen) (ps : List (List Char × List Char)) : Chosen where
  memory := valueOf numberOf ['m'] c.memory ps
  passes := valueOf numberOf ['t'] c.passes ps
  lanes := valueOf numberOf ['p'] c.lanes ps
  data := valueOf bytesOf "data".toList c.data ps

theorem lastValue_append (name : List Char) (ps qs : List (List Char × List Char)) :
    lastValue name (ps ++ qs) = (lastValue name qs).or (lastValue name ps) := by
  rw [lastValue, List.filter_append, List.getLast?_append, Option.map_or]
  rfl

theorem valueOf_append {α : Type} (read : List Char → α) (name : List Char) (usual : α)
    (ps qs : List (List Char × List Char)) :
    valueOf read name usual (ps ++ qs) = valueOf read name (valueOf read name usual ps) qs := by
  unfold valueOf
  rw [lastValue_append]
  cases lastValue name qs <;> rfl

theorem valueOf_singleton {α : Type} (read : List Char → α) (name : List Char) (usual : α)
    (p : List Char × List Char) :
    valueOf read name usual [p] = if p.1 = name then read p.2 else usual := by
  unfold valueOf lastValue
  split <;> simp [*]

theorem numberOf_toDigits (n : UInt32) : numberOf (Nat.toDigits 10 n.toNat) = n := by
  rw [numberOf, Text.decimal_toDigits, UInt32.ofNat_toNat]

theorem bytesOf_encodeList (bs : Bytes) : bytesOf (Base64.encodeList Base64.standard bs) = bs := by
  rw [bytesOf, Base64.decodeList?_encodeList Base64.standard_sound]
  rfl

theorem numberOf_number {value : List Char} {n : UInt32} (digits : Phc.number value = .ok n) :
    numberOf value = n := by
  rw [number_eq_ok_iff.mp digits, numberOf_toDigits]

theorem Admissible.of_number {name value : List Char} {n : UInt32}
    (known : name ∈ [['m'], ['t'], ['p']]) (digits : Phc.number value = .ok n) :
    Admissible (name, value) := by
  rw [number_eq_ok_iff.mp digits]
  exact .number known n

theorem Chosen.given_append (c : Chosen) (ps qs : List (List Char × List Char)) :
    c.given (ps ++ qs) = (c.given ps).given qs := by
  simp only [given, valueOf_append]

/-- Each of the three costs is read as a number. -/
theorem Chosen.read_number {c c' : Chosen} {name value : List Char}
    (known : name ∈ [['m'], ['t'], ['p']]) :
    c.read (name, value) = .ok c' ↔
      (∃ n, Phc.number value = .ok n) ∧ c' = c.given [(name, value)] := by
  simp only [given, valueOf_singleton]
  simp only [List.mem_cons, List.not_mem_nil, or_false] at known
  constructor
  · intro read
    obtain rfl | rfl | rfl := known
    all_goals
      obtain ⟨n, digits, done⟩ := bind_ok read
      cases done
      exact ⟨⟨n, digits⟩, by simp [numberOf_number digits]⟩
  · rintro ⟨⟨n, digits⟩, rfl⟩
    obtain rfl | rfl | rfl := known <;> simp [Chosen.read, digits, numberOf_number digits]

theorem Chosen.read_eq_ok_iff {c c' : Chosen} {p : List Char × List Char} :
    c.read p = .ok c' ↔ Admissible p ∧ c' = c.given [p] := by
  constructor
  · intro read
    obtain ⟨name, value⟩ := p
    by_cases known : name ∈ [['m'], ['t'], ['p']]
    · obtain ⟨⟨n, digits⟩, same⟩ := (read_number known).mp read
      exact ⟨.of_number known digits, same⟩
    simp only [List.mem_cons, List.not_mem_nil, or_false, not_or] at known
    obtain ⟨noMemory, noPasses, noLanes⟩ := known
    dsimp only [Chosen.read] at read
    rw [if_neg noMemory, if_neg noPasses, if_neg noLanes] at read
    simp only [given, valueOf_singleton]
    split at read
    · rename_i named
      subst named
      obtain ⟨bs, digits, done⟩ := bind_ok read
      cases done
      obtain ⟨few, rfl⟩ := base64_eq_ok_iff.mp digits
      exact ⟨.keyIdentifier few, by simp⟩
    split at read
    · rename_i named
      subst named
      obtain ⟨bs, digits, done⟩ := bind_ok read
      cases done
      obtain ⟨few, rfl⟩ := base64_eq_ok_iff.mp digits
      exact ⟨.data few, by simp [bytesOf_encodeList]⟩
    · cases read
  · rintro ⟨admissible, rfl⟩
    cases admissible with
    | number known n => exact (read_number known).mpr ⟨⟨n, number_toDigits⟩, rfl⟩
    | keyIdentifier few => simp [Chosen.read, given, valueOf_singleton, base64_encodeList few]
    | data few =>
      simp [Chosen.read, given, valueOf_singleton, base64_encodeList few, bytesOf_encodeList]

theorem foldlM_read_eq_ok_iff {c c' : Chosen} {ps : List (List Char × List Char)} :
    ps.foldlM Chosen.read c = .ok c' ↔ (∀ p ∈ ps, Admissible p) ∧ c' = c.given ps := by
  induction ps generalizing c with
  | nil =>
    rw [List.foldlM_nil]
    exact ⟨fun done => ⟨by simp, (Except.ok.inj done).symm⟩, fun ⟨_, same⟩ => same ▸ rfl⟩
  | cons p ps ih =>
    rw [List.foldlM_cons, List.forall_mem_cons, ← List.singleton_append, Chosen.given_append]
    constructor
    · intro read
      obtain ⟨next, first, others⟩ := bind_ok read
      obtain ⟨admissible, rfl⟩ := Chosen.read_eq_ok_iff.mp first
      obtain ⟨rest, same⟩ := ih.mp others
      exact ⟨⟨admissible, rest⟩, same⟩
    · rintro ⟨⟨admissible, rest⟩, same⟩
      rw [Chosen.read_eq_ok_iff.mpr ⟨admissible, rfl⟩]
      exact ih.mpr ⟨rest, same⟩

/-! ### The function and its settings -/

/-- All that an output depends on besides password and salt. -/
structure Hasher where
  variant : Argon2Variant
  version : Nat
  costs : Costs
  data : Bytes
  outputSize : Option Nat
  deriving DecidableEq, Repr

namespace Hasher

/-- The settings in numbers; an output has 32 bytes where no size is set. -/
def input (h : Hasher) : Argon2Input where
  variant := h.variant
  version := h.version
  memory := h.costs.memory.toNat
  passes := h.costs.passes.toNat
  lanes := h.costs.lanes.toNat
  outputSize := h.outputSize.getD 32
  data := h.data

/-- The output for a password under a salt in base 64. -/
def output (h : Hasher) (password : String) (salt : List Char) : Except PhcFault Bytes := do
  let salt ← Phc.base64 64 salt
  if salt.length < 8 then throw (.badSalt .tooShort)
  return argon2 h.input (Bytes.ofText password) salt

/-- The name of a variant. -/
def nameOf : Argon2Variant → List Char
  | .d => "argon2d".toList
  | .i => "argon2i".toList
  | .id => "argon2id".toList

/-- A new hash, with all that is needed to compute it again. -/
def hash (h : Hasher) (password : String) (salt : List Char) : Except PhcFault Phc := do
  let output ← h.output password salt
  let data := if h.data.isEmpty then [] else
    [("data".toList, Base64.encodeList Base64.standard h.data)]
  return {
    algorithm := nameOf h.variant, version := some h.version,
    parameters := parameters h.costs ++ data, salt := some salt, output := some output }

/-- The costs that parameters have chosen. -/
def costsOf (c : Chosen) : Except PhcFault Costs :=
  match Costs.of c.memory c.passes c.lanes with
  | .ok costs => .ok costs
  | .error fault => .error fault.ofHash

/-- The variant with a name. -/
def variantOf (name : List Char) : Except PhcFault Argon2Variant :=
  match variants.lookup name with
  | some variant => .ok variant
  | none => .error .unknownAlgorithm

/-- The function with the settings of a stored hash in place of its own. -/
def customized (h : Hasher) (phc : Phc) : Except PhcFault Hasher := do
  let chosen ← phc.parameters.foldlM Chosen.read {}
  let costs ← costsOf chosen
  let variant ← variantOf phc.algorithm
  let version ← versionOf phc.version
  return { h with
    variant, version, costs, data := chosen.data, outputSize := phc.output.map List.length }

/-- Whether a password is the one of a stored hash. -/
def verify (h : Hasher) (phc : Phc) (password : String) : Except PhcFault Bool :=
  match phc.salt, phc.output with
  | some salt, some output => do
    let h ← h.customized phc
    let computed ← h.output password salt
    return decide (computed = output)
  | _, _ => .ok false

end Hasher

/-- The function that a verifier is set up with. -/
def hasher (v : Verifier) : Hasher := ⟨.id, 0x13, v.costs, [], none⟩

/-- The text of a new hash, or why there is none. -/
def make (v : Verifier) (password : String) (salt : Bytes) : Result String :=
  match v.hasher.hash password (Base64.encodeList Base64.standard salt) with
  | .ok phc => .ok phc.write
  | .error fault => .error ⟨.hashing, "Password hashing failed: " ++ fault.message, false⟩

/-- Compares a password with a stored hash, by the function that the verifier is set up with. -/
def check (v : Verifier) (hash password : String) : Result Unit :=
  match Phc.read hash with
  | .error fault => .error ⟨.hashing, "Invalid password hash format: " ++ fault.message, false⟩
  | .ok phc =>
    match v.hasher.verify phc password with
    | .ok true => .ok ()
    | .ok false => .error ⟨.invalidCredentials, "Password does not match", false⟩
    | .error fault => .error ⟨.hashing, "Password verification failed: " ++ fault.message, false⟩

theorem Hasher.output_eq_ok_iff {h : Hasher} {password : String} {salt : List Char}
    {output : Bytes} :
    h.output password salt = .ok output ↔
      ∃ bs, salt = Base64.encodeList Base64.standard bs ∧ (8 ≤ bs.length ∧ bs.length ≤ 64) ∧
        output = argon2 h.input (Bytes.ofText password) bs := by
  constructor
  · intro done
    obtain ⟨bs, decoded, computed⟩ := bind_ok done
    obtain ⟨few, rfl⟩ := base64_eq_ok_iff.mp decoded
    change (if bs.length < 8 then Except.error (PhcFault.badSalt .tooShort)
      else Except.ok (argon2 h.input (Bytes.ofText password) bs)) = _ at computed
    split at computed
    · cases computed
    · rename_i enough
      exact ⟨bs, rfl, ⟨Nat.not_lt.mp enough, few⟩, (Except.ok.inj computed).symm⟩
  · rintro ⟨bs, rfl, ⟨enough, few⟩, rfl⟩
    unfold Hasher.output
    rw [base64_encodeList few, ok_bind]
    change (if bs.length < 8 then _ else _) = _
    rw [if_neg (Nat.not_lt.mpr enough)]
    rfl

/-! ### What is computed again -/

theorem costs_of (c : Costs) : Costs.of c.memory c.passes c.lanes = .ok c := by
  obtain ⟨memory, passes, lanes, memory_ge, lanes_le_memory, passes_pos, lanes_pos, lanes_le⟩ := c
  have product : (lanes * 8).toNat = lanes.toNat * 8 := by
    rw [UInt32.toNat_mul]
    change lanes.toNat * 8 % 4294967296 = _
    omega
  have h₁ : ¬memory < 8 := by
    rw [UInt32.lt_iff_toNat_lt]
    exact Nat.not_lt.mpr memory_ge
  have h₂ : ¬memory < lanes * 8 := by
    rw [UInt32.lt_iff_toNat_lt, product]
    exact Nat.not_lt.mpr lanes_le_memory
  have h₃ : ¬passes < 1 := by
    rw [UInt32.lt_iff_toNat_lt]
    exact Nat.not_lt.mpr passes_pos
  have h₄ : ¬lanes < 1 := by
    rw [UInt32.lt_iff_toNat_lt]
    exact Nat.not_lt.mpr lanes_pos
  have h₅ : ¬0xffffff < lanes := by
    rw [UInt32.lt_iff_toNat_lt]
    exact Nat.not_lt.mpr lanes_le
  unfold Costs.of
  rw [dif_neg h₁, dif_neg h₂, dif_neg h₃, dif_neg h₄, dif_neg h₅]

theorem costs_of_eq_ok_iff {memory passes lanes : UInt32} {c : Costs} :
    Costs.of memory passes lanes = .ok c ↔
      c.memory = memory ∧ c.passes = passes ∧ c.lanes = lanes := by
  constructor
  · intro accepted
    unfold Costs.of at accepted
    repeat' split at accepted
    all_goals cases accepted
    exact ⟨rfl, rfl, rfl⟩
  · rintro ⟨rfl, rfl, rfl⟩
    exact costs_of c

theorem versionOf_eq_ok_iff {version : Option Nat} {n : Nat} :
    versionOf version = .ok n ↔ n = version.getD 0x13 ∧ (n = 0x10 ∨ n = 0x13) := by
  cases version with
  | none =>
    rw [versionOf, Except.ok.injEq, Option.getD_none]
    omega
  | some k =>
    rw [versionOf, Option.getD_some]
    split
    · rw [Except.ok.injEq]
      omega
    · exact iff_of_false (fun h => nomatch h) (by omega)

/-- The settings that a stored hash prescribes: version, costs and data stand in it or are the usual
ones, and the size is that of its output. -/
structure Prescribes (phc : Phc) (h : Hasher) : Prop where
  variant : variants.lookup phc.algorithm = some h.variant
  version : h.version = phc.version.getD 0x13
  supported : h.version = 0x10 ∨ h.version = 0x13
  admissible : ∀ p ∈ phc.parameters, Admissible p
  memory : h.costs.memory = valueOf numberOf ['m'] 19456 phc.parameters
  passes : h.costs.passes = valueOf numberOf ['t'] 2 phc.parameters
  lanes : h.costs.lanes = valueOf numberOf ['p'] 1 phc.parameters
  data : h.data = valueOf bytesOf "data".toList [] phc.parameters
  outputSize : h.outputSize = phc.output.map List.length

/-- The salt of a stored hash, of at least 8 bytes. -/
def Salted (phc : Phc) (salt : Bytes) : Prop :=
  phc.salt = some (Base64.encodeList Base64.standard salt) ∧ 8 ≤ salt.length ∧ salt.length ≤ 64

theorem Hasher.costsOf_eq_ok_iff {c : Chosen} {costs : Costs} :
    costsOf c = .ok costs ↔
      costs.memory = c.memory ∧ costs.passes = c.passes ∧ costs.lanes = c.lanes := by
  rw [← costs_of_eq_ok_iff, costsOf]
  cases Costs.of c.memory c.passes c.lanes with
  | error fault => exact iff_of_false (fun h => nomatch h) (fun h => nomatch h)
  | ok costs => rw [Except.ok.injEq, Except.ok.injEq]

theorem Hasher.variantOf_eq_ok_iff {name : List Char} {variant : Argon2Variant} :
    variantOf name = .ok variant ↔ variants.lookup name = some variant := by
  unfold variantOf
  cases variants.lookup name with
  | none => exact iff_of_false (fun h => nomatch h) (fun h => nomatch h)
  | some known => rw [Except.ok.injEq, Option.some.injEq]

/-- Of the settings that a function had before, none is left. -/
theorem Hasher.customized_eq_ok_iff {h h' : Hasher} {phc : Phc} :
    h.customized phc = .ok h' ↔ Prescribes phc h' := by
  constructor
  · intro done
    obtain ⟨chosen, read, done⟩ := bind_ok done
    obtain ⟨costs, accepted, done⟩ := bind_ok done
    obtain ⟨variant, named, done⟩ := bind_ok done
    obtain ⟨version, numbered, done⟩ := bind_ok done
    obtain ⟨admissible, rfl⟩ := foldlM_read_eq_ok_iff.mp read
    obtain ⟨memory, passes, lanes⟩ := costsOf_eq_ok_iff.mp accepted
    obtain ⟨version, supported⟩ := versionOf_eq_ok_iff.mp numbered
    cases done
    exact ⟨variantOf_eq_ok_iff.mp named, version, supported, admissible, memory, passes, lanes, rfl,
      rfl⟩
  · rintro ⟨variant, version, supported, admissible, memory, passes, lanes, data, outputSize⟩
    have read := foldlM_read_eq_ok_iff (c := {}).mpr ⟨admissible, rfl⟩
    have accepted := (costsOf_eq_ok_iff (c := Chosen.given {} phc.parameters)).mpr
      ⟨memory, passes, lanes⟩
    unfold customized
    rw [read, ok_bind, accepted, ok_bind, variantOf_eq_ok_iff.mpr variant, ok_bind,
      versionOf_eq_ok_iff.mpr ⟨version, supported⟩, ok_bind]
    change Except.ok _ = _
    rw [← outputSize]
    obtain ⟨_, _, _, _, _⟩ := h'
    cases data
    rfl

/-- The function set up by a stored hash computes the output again. -/
theorem Hasher.recompute_eq (h : Hasher) {phc : Phc} {salt : List Char} {output : Bytes}
    (made : phc.output = some output) (password : String) :
    recompute phc salt output.length password =
      h.customized phc >>= fun h => h.output password salt := by
  unfold recompute customized costsOf variantOf
  simp only [bind_assoc]
  cases phc.parameters.foldlM Chosen.read {} with
  | error fault => rfl
  | ok chosen =>
    simp only [ok_bind]
    cases Costs.of chosen.memory chosen.passes chosen.lanes with
    | error fault => rfl
    | ok costs =>
      simp only [ok_bind]
      cases variants.lookup phc.algorithm with
      | none => rfl
      | some variant =>
        simp only [ok_bind]
        cases versionOf phc.version with
        | error fault => rfl
        | ok version =>
          rw [made]
          rfl

theorem Hasher.verify_eq (h : Hasher) (phc : Phc) (password : String) :
    h.verify phc password = Verifier.verify phc password := by
  unfold Hasher.verify Verifier.verify
  cases phc.salt with
  | none => rfl
  | some salt =>
    cases made : phc.output with
    | none => rfl
    | some output =>
      dsimp only
      rw [h.recompute_eq made, bind_assoc]

/-- The settings of the verifier itself have no part in a comparison. -/
theorem check_eq (v : Verifier) (hash password : String) :
    v.check hash password = Verifier.compare hash password := by
  unfold check
  simp only [Hasher.verify_eq]
  rfl

/-! ### Verdicts -/

/-- What a password gives under the settings and the salt of a stored hash. -/
def Computes (phc : Phc) (q : String) (computed : Bytes) : Prop :=
  ∃ h salt, Prescribes phc h ∧ Salted phc salt ∧ computed = argon2 h.input (Bytes.ofText q) salt

/-- A stored hash refuses a password: it lacks a salt or an output, or the password gives another
output. -/
def Refuses (phc : Phc) (q : String) : Prop :=
  phc.salt = none ∨ phc.output = none ∨
    ∃ computed, Computes phc q computed ∧ phc.output ≠ some computed

theorem recompute_eq_ok_iff {phc : Phc} {salt : List Char} {output computed : Bytes} {q : String}
    (salted : phc.salt = some salt) (made : phc.output = some output) :
    recompute phc salt output.length q = .ok computed ↔ Computes phc q computed := by
  rw [({} : Verifier).hasher.recompute_eq made]
  constructor
  · intro done
    obtain ⟨h, customized, out⟩ := bind_ok done
    obtain ⟨bs, rfl, size, same⟩ := Hasher.output_eq_ok_iff.mp out
    exact ⟨h, bs, Hasher.customized_eq_ok_iff.mp customized, ⟨salted, size⟩, same⟩
  · rintro ⟨h, bs, prescribes, ⟨salted', size⟩, same⟩
    rw [Hasher.customized_eq_ok_iff.mpr prescribes]
    exact Hasher.output_eq_ok_iff.mpr ⟨bs, Option.some.inj (salted.symm.trans salted'), size, same⟩

theorem verify_of_given {phc : Phc} {salt : List Char} {output : Bytes} {q : String}
    {verdict : Bool} (salted : phc.salt = some salt) (made : phc.output = some output) :
    verify phc q = .ok verdict ↔
      ∃ computed, Computes phc q computed ∧ decide (computed = output) = verdict := by
  unfold verify
  rw [salted, made]
  constructor
  · intro done
    obtain ⟨computed, again, same⟩ := bind_ok done
    exact ⟨computed, (recompute_eq_ok_iff salted made).mp again, Except.ok.inj same⟩
  · rintro ⟨computed, computes, rfl⟩
    dsimp only
    rw [(recompute_eq_ok_iff salted made).mpr computes]
    rfl

theorem verify_of_lacking {phc : Phc} (lacking : phc.salt = none ∨ phc.output = none) (q : String) :
    verify phc q = .ok false := by
  unfold verify
  obtain salt | output := lacking
  · rw [salt]
  · rw [output]
    cases phc.salt <;> rfl

theorem given_of_not_lacking {phc : Phc} (complete : ¬(phc.salt = none ∨ phc.output = none)) :
    ∃ salt output, phc.salt = some salt ∧ phc.output = some output := by
  rw [not_or] at complete
  obtain ⟨salt, salted⟩ := Option.ne_none_iff_exists'.mp complete.1
  obtain ⟨output, made⟩ := Option.ne_none_iff_exists'.mp complete.2
  exact ⟨salt, output, salted, made⟩

theorem verify_eq_ok_true_iff {phc : Phc} {q : String} :
    verify phc q = .ok true ↔ ∃ computed, Computes phc q computed ∧ phc.output = some computed := by
  constructor
  · intro agrees
    by_cases lacking : phc.salt = none ∨ phc.output = none
    · rw [verify_of_lacking lacking] at agrees
      cases agrees
    · obtain ⟨salt, output, salted, made⟩ := given_of_not_lacking lacking
      obtain ⟨computed, computes, same⟩ := (verify_of_given salted made).mp agrees
      exact ⟨computed, computes, made.trans (congrArg some (of_decide_eq_true same).symm)⟩
  · rintro ⟨computed, computes, made⟩
    have ⟨_, _, _, ⟨salted, _⟩, _⟩ := computes
    exact (verify_of_given salted made).mpr ⟨computed, computes, decide_eq_true rfl⟩

theorem verify_eq_ok_false_iff {phc : Phc} {q : String} :
    verify phc q = .ok false ↔ Refuses phc q := by
  constructor
  · intro refused
    by_cases lacking : phc.salt = none ∨ phc.output = none
    · exact lacking.imp_right .inl
    · obtain ⟨salt, output, salted, made⟩ := given_of_not_lacking lacking
      obtain ⟨computed, computes, other⟩ := (verify_of_given salted made).mp refused
      refine .inr (.inr ⟨computed, computes, fun same => ?_⟩)
      exact of_decide_eq_false other (Option.some.inj (made.symm.trans same)).symm
  · rintro (salt | output | ⟨computed, computes, other⟩)
    · exact verify_of_lacking (.inl salt) q
    · exact verify_of_lacking (.inr output) q
    · cases made : phc.output with
      | none => exact verify_of_lacking (.inr made) q
      | some output =>
        have ⟨_, _, _, ⟨salted, _⟩, _⟩ := computes
        have differs : computed ≠ output := fun same => other (made.trans (congrArg some same.symm))
        exact (verify_of_given salted made).mpr ⟨computed, computes, decide_eq_false differs⟩

/-- Comparing agrees where the text is that of a hash whose output the password gives again. -/
theorem compare_eq_ok_iff {text q : String} :
    Verifier.compare text q = .ok () ↔
      ∃ phc computed, phc.Valid ∧ text = phc.write ∧ Computes phc q computed ∧
        phc.output = some computed := by
  unfold Verifier.compare
  constructor
  · intro agrees
    split at agrees
    · cases agrees
    rename_i phc read
    split at agrees
    · rename_i verified
      obtain ⟨valid, whole⟩ := read_eq_ok_iff.mp read
      obtain ⟨computed, computes, made⟩ := verify_eq_ok_true_iff.mp verified
      exact ⟨phc, computed, valid, whole, computes, made⟩
    · cases agrees
    · cases agrees
  · rintro ⟨phc, computed, valid, whole, computes, made⟩
    rw [read_eq_ok_iff.mpr ⟨valid, whole⟩]
    dsimp only
    rw [verify_eq_ok_true_iff.mpr ⟨computed, computes, made⟩]

theorem compare_of_refuses {phc : Phc} {text q : String} (read : Phc.read text = .ok phc)
    (refuses : Refuses phc q) :
    Verifier.compare text q = .error ⟨.invalidCredentials, "Password does not match", false⟩ := by
  unfold Verifier.compare
  rw [read]
  dsimp only
  rw [verify_eq_ok_false_iff.mpr refuses]

/-- Where comparing fails, a hash refuses the password, or nothing can be computed with the text. -/
theorem kind_of_compare {text q : String} {e : Error}
    (failed : Verifier.compare text q = .error e) :
    (e.kind = .invalidCredentials ↔ ∃ phc : Phc, phc.Valid ∧ text = phc.write ∧ Refuses phc q) ∧
      (e.kind ≠ .invalidCredentials → e.kind = .hashing) := by
  by_cases refused : ∃ phc : Phc, phc.Valid ∧ text = phc.write ∧ Refuses phc q
  · obtain ⟨phc, valid, whole, refuses⟩ := refused
    rw [compare_of_refuses (read_eq_ok_iff.mpr ⟨valid, whole⟩) refuses] at failed
    cases failed
    exact ⟨iff_of_true rfl ⟨phc, valid, whole, refuses⟩, fun other => absurd rfl other⟩
  · suffices e.kind = .hashing by
      rw [this]
      exact ⟨iff_of_false (fun same => nomatch same) refused, fun _ => rfl⟩
    unfold Verifier.compare at failed
    split at failed
    · cases failed
      rfl
    rename_i phc read
    split at failed
    · cases failed
    · rename_i verified
      obtain ⟨valid, whole⟩ := read_eq_ok_iff.mp read
      exact absurd ⟨phc, valid, whole, verify_eq_ok_false_iff.mp verified⟩ refused
    · cases failed
      rfl

end DeviceSessions.Verifier
