import DeviceSessions.Proofs.Password.Verdict

/-!
# Password hash round trip

The text of a fresh hash is read back as that hash, and a comparison computes the same output from
it again, so a password agrees with each of its hashes, whichever verifier is asked.
-/

namespace DeviceSessions

/-! ### Sizes of digests -/

namespace Digest

theorem length_littleEndian (size n : Nat) : (Bytes.littleEndian size n).length = size := by
  simp [Bytes.littleEndian]

theorem Words16.length_toBytes (r : Words16) : r.toBytes.length = 128 := by
  simp [Words16.toBytes, Words16.toList, length_littleEndian]

theorem length_blake2b {size : Nat} (small : size ≤ 64) (message : Bytes) :
    (blake2b size message).length = size := by
  unfold blake2b
  rw [List.length_take, Words16.length_toBytes]
  omega

theorem length_argon2 {p : Argon2Input} (small : p.outputSize ≤ 64) (password salt : Bytes) :
    (argon2 p password salt).length = p.outputSize := by
  unfold argon2 Argon2.longHash
  dsimp only
  rw [if_pos small, length_blake2b small]

end Digest

namespace Verifier

open Digest Phc

variable (v : Verifier) (password : String) {salt : Bytes}

/-! ### Fresh hashes -/

theorem length_output {output : Bytes} (made : (v.hashed password salt).output = some output) :
    output.length = 32 := by
  cases made
  exact length_argon2 (p := v.hasher.input) (Nat.le_of_ble_eq_true rfl) _ _

theorem mem_parameters {c : Costs} {p : List Char × List Char} (member : p ∈ parameters c) :
    ∃ n ∈ [['m'], ['t'], ['p']], ∃ k : UInt32, p = (n, Nat.toDigits 10 k.toNat) := by
  simp only [parameters, List.mem_cons, List.not_mem_nil, or_false] at member
  obtain rfl | rfl | rfl := member
  · exact ⟨['m'], by decide, c.memory, rfl⟩
  · exact ⟨['t'], by decide, c.passes, rfl⟩
  · exact ⟨['p'], by decide, c.lanes, rfl⟩

theorem isParameters_parameters (c : Costs) : IsParameters (parameters c) where
  each p member := by
    obtain ⟨n, known, k, rfl⟩ := mem_parameters member
    have named : ∀ n ∈ [['m'], ['t'], ['p']], name n = .ok n := by decide
    have digits := length_toDigits k.toNat_lt
    exact ⟨(name_eq_ok_iff.mp (named n known)).1, Nat.le_trans digits (by decide),
      isValueChar_toDigits _⟩
  short := by
    have first := length_toDigits c.memory.toNat_lt
    have second := length_toDigits c.passes.toNat_lt
    have third := length_toDigits c.lanes.toNat_lt
    have sizes : ∀ k, byteSize (Nat.toDigits 10 k) = (Nat.toDigits 10 k).length :=
      fun k => byteSize_of_value (isValueChar_toDigits k)
    simp only [parameters, writeParameters, byteSize_append, byteSize_cons, sizes,
      List.cons_append, List.nil_append]
    have marks : 'm'.utf8Size = 1 ∧ 't'.utf8Size = 1 ∧ 'p'.utf8Size = 1 ∧ '='.utf8Size = 1 ∧
        ','.utf8Size = 1 := by decide
    omega

theorem valid_hashed (size : salt.length = 16) : (v.hashed password salt).Valid where
  named := (name_eq_ok_iff.mp (show name "argon2id".toList = .ok "argon2id".toList from rfl)).1
  numbered n given := Option.some.inj given ▸ by decide
  parameters := isParameters_parameters v.costs
  apart := nofun
  ending := by
    have digits := Base64.length_encodeList Base64.standard salt
    refine ⟨fun cs given => ?_, fun bs made => ?_, nofun⟩
    · rw [← Option.some.inj given]
      exact ⟨by omega, by omega, isValueChar_encodeList salt⟩
    · have bytes := v.length_output password made
      exact ⟨by omega, by omega⟩

/-- The text of a fresh hash is read back. -/
theorem read_hash (salt : Bytes) (size : salt.length = 16) :
    Phc.read (v.hash password salt) = .ok (v.hashed password salt) :=
  read_eq_ok_iff.mpr ⟨v.valid_hashed password size, rfl⟩

/-- A verifier makes the texts that it is said to make. -/
theorem make_eq (v : Verifier) (password : String) {salt : Bytes} (enough : 8 ≤ salt.length)
    (few : salt.length ≤ 64) : v.make password salt = .ok (v.hash password salt) := by
  unfold make Hasher.hash
  rw [Hasher.output_eq_ok_iff.mpr ⟨salt, rfl, ⟨enough, few⟩, rfl⟩]
  rfl

theorem given_parameters (c : Costs) :
    Chosen.given {} (parameters c) = ⟨c.memory, c.passes, c.lanes, []⟩ := by
  simp [Chosen.given, valueOf, lastValue, parameters, numberOf_toDigits]

/-- A new hash prescribes the settings of its verifier, and an output of 32 bytes. -/
theorem prescribes_hashed :
    Prescribes (v.hashed password salt) ⟨.id, 0x13, v.costs, [], some 32⟩ := by
  have chosen := (given_parameters v.costs).symm
  have size : (v.hashed password salt).output.map List.length = some 32 :=
    congrArg some (v.length_output password rfl)
  exact {
    variant := rfl, version := rfl, supported := .inr rfl,
    admissible := fun p member => by
      obtain ⟨n, known, k, rfl⟩ := mem_parameters member
      exact .number known k
    memory := congrArg Chosen.memory chosen, passes := congrArg Chosen.passes chosen,
    lanes := congrArg Chosen.lanes chosen, data := congrArg Chosen.data chosen,
    outputSize := size.symm }

theorem salted_hashed (size : salt.length = 16) : Salted (v.hashed password salt) salt := by
  refine ⟨rfl, ?_, ?_⟩ <;> omega

theorem computes_hashed (size : salt.length = 16) (q : String) :
    Computes (v.hashed password salt) q (argon2 v.hasher.input (Bytes.ofText q) salt) :=
  ⟨_, salt, v.prescribes_hashed password, v.salted_hashed password size, rfl⟩

/-- A password agrees with its hash, at whatever costs. -/
theorem compare_hash (salt : Bytes) (size : salt.length = 16) :
    Verifier.compare (v.hash password salt) password = .ok () :=
  compare_eq_ok_iff.mpr
    ⟨_, _, v.valid_hashed password size, rfl, v.computes_hashed password size password, rfl⟩

/-! ### Every verifier -/

/-- Every verifier makes hashes that say all of what it is set up with, and every verifier judges
them alike: by what stands in the text, not by what it is set up with itself. Of any text whatever,
it refuses a password exactly where a valid hash lacks salt or output or the password gives another
output; where it fails otherwise, the text cannot be computed with. -/
theorem any_verifier (a b : Verifier) (password : String) {salt : Bytes} (size : salt.length = 16) :
    a.make password salt = .ok (a.hash password salt) ∧
    (∃ phc, Phc.read (a.hash password salt) = .ok phc ∧
      phc = ⟨"argon2id".toList, some 0x13, parameters a.costs,
        some (Base64.encodeList Base64.standard salt),
        some (argon2 a.hasher.input (Bytes.ofText password) salt)⟩ ∧
      Prescribes phc ⟨.id, 0x13, a.costs, [], some 32⟩ ∧ Salted phc salt ∧
      (argon2 a.hasher.input (Bytes.ofText password) salt).length = 32) ∧
    b.check (a.hash password salt) password = .ok () ∧
    (∀ q, argon2 a.hasher.input (Bytes.ofText q) salt ≠
        argon2 a.hasher.input (Bytes.ofText password) salt →
      b.check (a.hash password salt) q =
        .error ⟨.invalidCredentials, "Password does not match", false⟩) ∧
    ∀ text q, b.check text q = Verifier.compare text q ∧
      (b.check text q = .ok () ↔
        ∃ phc computed, phc.Valid ∧ text = phc.write ∧ Computes phc q computed ∧
          phc.output = some computed) ∧
      ∀ e, b.check text q = .error e →
        (e.kind = .invalidCredentials ↔
            ∃ phc : Phc, phc.Valid ∧ text = phc.write ∧ Refuses phc q) ∧
          (e.kind ≠ .invalidCredentials → e.kind = .hashing) := by
  have read := a.read_hash password salt size
  refine ⟨?_, ?_, ?_, ?_, ?_⟩
  · exact a.make_eq password (by omega) (by omega)
  · exact ⟨_, read, rfl, a.prescribes_hashed password, a.salted_hashed password size,
      a.length_output password rfl⟩
  · rw [check_eq]
    exact a.compare_hash password salt size
  · intro q differs
    rw [check_eq]
    refine compare_of_refuses read (.inr (.inr ⟨_, a.computes_hashed password size q, ?_⟩))
    exact fun same => differs (Option.some.inj same).symm
  · intro text q
    rw [check_eq]
    exact ⟨rfl, compare_eq_ok_iff, fun e => kind_of_compare⟩

theorem any_verifier_usual :
    (List.replicate 16 (0 : UInt8)).length = 16 ∧
    Verifier.check {} (Verifier.hash ⟨.least⟩ "correct horse" (List.replicate 16 0))
      "correct horse" = .ok () :=
  ⟨rfl, (any_verifier ⟨.least⟩ {} "correct horse" rfl).2.2.1⟩

example : Verifier.check {} "$argon2id$v=19$m=8,t=1,p=1" "correct horse" =
    .error ⟨.invalidCredentials, "Password does not match", false⟩ := by decide +kernel

example : Verifier.check {} "not-a-phc-string" "correct horse" =
    .error ⟨.hashing, "Invalid password hash format: password hash string missing field", false⟩ :=
  by decide +kernel

end Verifier

end DeviceSessions
