import DeviceSessions.Device.Resolve
import DeviceSessions.Proofs.Bytes
import DeviceSessions.Proofs.Device.Address

/-!
# Which connections come from a device, and from which

A connection comes from a device if it tells a user agent and an address, and from the same device
as another one if it tells the same, up to white space around them.
-/

namespace DeviceSessions

namespace DeviceMetadata

/-- The metadata without white space around its texts. -/
def trimmed (m : DeviceMetadata) : DeviceMetadata := ⟨Text.trim m.ip, Text.trim m.userAgent⟩

/-- The text whose digest names the device. -/
def digested (m : DeviceMetadata) : String := Text.trim m.userAgent ++ "|" ++ Text.trim m.ip

/-- Everything that can become of a connection. -/
inductive Resolves (m : DeviceMetadata) : Result DeviceIdentity → Prop where
  | noAddress (ip : Text.trim m.ip = "") :
      Resolves m (.error ⟨.incorrectDevice, "Missing client IP address", false⟩)
  | noAgent (ip : Text.trim m.ip ≠ "") (agent : Text.trim m.userAgent = "") :
      Resolves m (.error ⟨.incorrectDevice, "Missing user-agent", false⟩)
  | malformed (ip : Text.trim m.ip ≠ "") (agent : Text.trim m.userAgent ≠ "")
      (address : ¬ Address.WellFormed (Text.trim m.ip).toList) :
      Resolves m (.error ⟨.incorrectDevice, "Malformed client IP address", false⟩)
  | device {d : DeviceIdentity} (ip : Text.trim m.ip ≠ "") (agent : Text.trim m.userAgent ≠ "")
      (address : Address.WellFormed (Text.trim m.ip).toList)
      (id : d.id = Bytes.hex (Digest.sha256 (Bytes.ofText m.digested))) : Resolves m (.ok d)

theorem resolve_cases (m : DeviceMetadata) : m.Resolves m.resolve := by
  unfold resolve
  dsimp only
  split
  · exact .noAddress ‹_›
  · rename_i ip
    split
    · exact .noAgent ip ‹_›
    · rename_i agent
      split
      · rename_i address
        rw [Bool.not_eq_true'] at address
        refine .malformed ip agent fun wellFormed => ?_
        rw [Address.isAddress_iff.mpr wellFormed] at address
        cases address
      · rename_i address
        rw [Bool.not_eq_true', Bool.not_eq_false] at address
        exact .device ip agent (Address.isAddress_iff.mp address) rfl

theorem resolve_ok {m : DeviceMetadata} {d : DeviceIdentity} (resolved : m.resolve = .ok d) :
    Address.WellFormed (Text.trim m.ip).toList ∧
      d.id = Bytes.hex (Digest.sha256 (Bytes.ofText m.digested)) := by
  have become := m.resolve_cases
  rw [resolved] at become
  cases become with
  | device _ _ address id => exact ⟨address, id⟩

theorem resolve_of_wellFormed {m : DeviceMetadata} (agent : Text.trim m.userAgent ≠ "")
    (address : Address.WellFormed (Text.trim m.ip).toList) : ∃ d, m.resolve = .ok d := by
  have become := m.resolve_cases
  generalize m.resolve = r at become ⊢
  cases become with
  | noAddress ip =>
    rw [ip] at address
    exact absurd address Address.not_wellFormed_nil
  | noAgent _ missing => exact absurd missing agent
  | malformed _ _ wrong => exact absurd address wrong
  | device => exact ⟨_, rfl⟩

/-- An address has no bar in it, so the last bar of the digested text stands before it. -/
theorem digested_injective {m n : DeviceMetadata}
    (address : Address.WellFormed (Text.trim m.ip).toList)
    (address' : Address.WellFormed (Text.trim n.ip).toList) (same : m.digested = n.digested) :
    Text.trim m.userAgent = Text.trim n.userAgent ∧ Text.trim m.ip = Text.trim n.ip := by
  have parts : ∀ k : DeviceMetadata, k.digested.toList =
      (Text.trim k.userAgent).toList ++ '|' :: (Text.trim k.ip).toList := by
    intro k
    simp [digested]
  have cut := congrArg (fun text => Text.cutLast '|' text.toList) same
  rw [parts, parts, Text.cutLast_append address.bar_not_mem,
    Text.cutLast_append address'.bar_not_mem] at cut
  obtain ⟨userAgent, ip⟩ := Prod.mk.inj (Option.some.inj cut)
  exact ⟨String.toList_injective userAgent, String.toList_injective ip⟩

/-- A connection comes from a device if and only if it tells a user agent and a well-formed address.
Of the things that are missing or wrong the first is reported: the address is missing, the user agent
is missing, the address is malformed. -/
theorem resolve_exact (m : DeviceMetadata) :
    ((∃ d, m.resolve = .ok d) ↔
        Text.trim m.userAgent ≠ "" ∧ Address.WellFormed (Text.trim m.ip).toList) ∧
      (m.resolve = .error ⟨.incorrectDevice, "Missing client IP address", false⟩ ↔
        Text.trim m.ip = "") ∧
      (m.resolve = .error ⟨.incorrectDevice, "Missing user-agent", false⟩ ↔
        Text.trim m.ip ≠ "" ∧ Text.trim m.userAgent = "") ∧
      (m.resolve = .error ⟨.incorrectDevice, "Malformed client IP address", false⟩ ↔
        Text.trim m.ip ≠ "" ∧ Text.trim m.userAgent ≠ "" ∧
          ¬ Address.WellFormed (Text.trim m.ip).toList) := by
  have become := m.resolve_cases
  have found := @resolve_of_wellFormed m
  generalize m.resolve = r at become found ⊢
  cases become with
  | noAddress ip => simp_all
  | noAgent ip agent => simp_all
  | malformed ip agent address => simp_all
  | device ip agent address id => simp_all

/-- Two connections come from one device if and only if they tell the same user agent and the same
address, unless the digests of different texts collide; white space around them is not told. -/
theorem resolve_id_eq_iff {m n : DeviceMetadata} {d e : DeviceIdentity} (resolved : m.resolve = .ok d)
    (resolved' : n.resolve = .ok e)
    (noCollision : Digest.sha256 (Bytes.ofText m.digested) = Digest.sha256 (Bytes.ofText n.digested) →
      Bytes.ofText m.digested = Bytes.ofText n.digested) :
    (d.id = e.id ↔ Text.trim m.userAgent = Text.trim n.userAgent ∧ Text.trim m.ip = Text.trim n.ip) ∧
      ∀ k : DeviceMetadata, k.trimmed.resolve = k.resolve := by
  obtain ⟨address, id⟩ := resolve_ok resolved
  obtain ⟨address', id'⟩ := resolve_ok resolved'
  refine ⟨⟨fun same => ?_, fun ⟨userAgent, ip⟩ => ?_⟩, fun k => ?_⟩
  · rw [id, id'] at same
    exact digested_injective address address'
      (Bytes.ofText_injective (noCollision (Bytes.hex_injective same)))
  · rw [id, id', digested, digested, userAgent, ip]
  · simp only [resolve, trimmed, Text.trim_trim]

/-- A connection whose user agent holds a bar and an address behind it. -/
def barred : DeviceMetadata := ⟨" ::1 ", "Firefox|10.0.0.1"⟩

/-- A connection from that address. -/
def barless : DeviceMetadata := ⟨"10.0.0.1", "Firefox"⟩

/-- The bar in a user agent does not make one device of two. -/
theorem resolve_id_ne_barred :
    ∃ d e, barred.resolve = .ok d ∧ barless.resolve = .ok e ∧
      Digest.sha256 (Bytes.ofText barred.digested) ≠ Digest.sha256 (Bytes.ofText barless.digested) ∧
      d.id ≠ e.id ∧ barred.trimmed.resolve = .ok d := by
  have agents : Text.trim barred.userAgent = "Firefox|10.0.0.1" ∧
      Text.trim barless.userAgent = "Firefox" := by decide
  obtain ⟨d, resolved⟩ : ∃ d, barred.resolve = .ok d :=
    resolve_of_wellFormed (by decide) (Address.isAddress_iff.mp (by decide))
  obtain ⟨e, resolved'⟩ : ∃ e, barless.resolve = .ok e :=
    resolve_of_wellFormed (by decide) (Address.isAddress_iff.mp (by decide))
  have apart : Digest.sha256 (Bytes.ofText barred.digested) ≠
      Digest.sha256 (Bytes.ofText barless.digested) := by decide +kernel
  obtain ⟨ids, trims⟩ := resolve_id_eq_iff resolved resolved' fun same => absurd same apart
  refine ⟨d, e, resolved, resolved', apart, fun same => ?_, (trims barred).trans resolved⟩
  have agent := (ids.mp same).1
  rw [agents.1, agents.2] at agent
  exact absurd agent (by decide)

end DeviceMetadata

end DeviceSessions
