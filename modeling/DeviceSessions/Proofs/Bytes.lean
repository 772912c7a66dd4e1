import DeviceSessions.Uuid
import DeviceSessions.Json.Reader

/-!
# Bytes round trips

The UTF-8 form of a text and the hexadecimal form of bytes are read back, and so is a UUID.
-/

namespace DeviceSessions

/-! ### UTF-8 -/

theorem toList_loop (bs : ByteArray) (i : Nat) (done : List UInt8) :
    ByteArray.toList.loop bs i done = done.reverse ++ bs.data.toList.drop i := by
  fun_induction ByteArray.toList.loop bs i done with
  | case1 i done inside ih =>
    have bound : i < bs.data.toList.length := inside
    have read : bs.get! i = bs.data.toList[i] := by
      have present : bs.data[i]! = bs.data[i] := getElem!_pos bs.data i inside
      exact present
    rw [ih, read, List.drop_eq_getElem_cons bound, List.reverse_cons, List.append_assoc]
    rfl
  | case2 i done outside =>
    have bound : bs.data.toList.length ≤ i := Nat.le_of_not_lt outside
    rw [List.drop_eq_nil_of_le bound, List.append_nil]

namespace Bytes

theorem toArray_ofText (text : String) : (ofText text).toArray = text.toUTF8.data := by
  unfold ofText ByteArray.toList
  rw [toList_loop]
  exact Array.toArray_toList

theorem ofText_injective {s t : String} (same : ofText s = ofText t) : s = t := by
  have arrays : s.toUTF8.data = t.toUTF8.data := by
    rw [← toArray_ofText, ← toArray_ofText, same]
  have bytes : s.toByteArray = t.toByteArray := ByteArray.ext arrays
  exact String.toByteArray_inj.mp bytes

end Bytes

namespace Json.Symbol

/-- The bytes of a text stand for its characters. -/
theorem ofBytes_ofText (text : String) : ofBytes (Bytes.ofText text) = ofText text := by
  unfold ofBytes
  have valid : text.toUTF8.IsValidUTF8 := text.isValidUTF8
  have decoded : String.fromUTF8? ⟨(Bytes.ofText text).toArray⟩ = some text := by
    rw [Bytes.toArray_ofText]
    unfold String.fromUTF8?
    rw [dif_pos valid]
    rfl
  rw [decoded]

end Json.Symbol

/-! ### Hexadecimal -/

namespace Bytes

theorem hexValue?_hexDigit : ∀ n < 16, hexValue? (hexDigit n) = some n := by decide

theorem ofHex?_hexPair (bs : Bytes) : ofHex? (bs.flatMap hexPair) = some bs := by
  induction bs with
  | nil => rfl
  | cons b rest ih =>
    have small := b.toNat_lt
    have high := hexValue?_hexDigit (b.toNat / 16) (by omega)
    have low := hexValue?_hexDigit (b.toNat % 16) (by omega)
    have byte : UInt8.ofNat (16 * (b.toNat / 16) + b.toNat % 16) = b := by
      rw [Nat.div_add_mod, UInt8.ofNat_toNat]
    change ofHex? (hexDigit _ :: hexDigit _ :: rest.flatMap hexPair) = _
    simp only [ofHex?, high, low, ih, Option.bind_eq_bind, Option.bind_some, byte]
    rfl

theorem length_hexPair (bs : Bytes) : (bs.flatMap hexPair).length = 2 * bs.length := by
  induction bs with
  | nil => rfl
  | cons b rest ih =>
    rw [List.flatMap_cons, List.length_append, ih, List.length_cons]
    change 2 + _ = _
    omega

theorem hex_injective {a b : Bytes} (same : hex a = hex b) : a = b := by
  have digits : a.flatMap hexPair = b.flatMap hexPair := String.ofList_injective same
  have read := congrArg ofHex? digits
  rw [ofHex?_hexPair, ofHex?_hexPair] at read
  exact Option.some.inj read

end Bytes

/-! ### UUIDs -/

namespace Uuid

theorem ofHyphenated?_groups {a b c d e : List Char} (first : a.length = 8) (second : b.length = 4)
    (third : c.length = 4) (fourth : d.length = 4) (fifth : e.length = 12) :
    ofHyphenated? (a ++ '-' :: b ++ '-' :: c ++ '-' :: d ++ '-' :: e) =
      ofDigits? (a ++ b ++ c ++ d ++ e) := by
  match a, first with
  | [_, _, _, _, _, _, _, _], _ =>
  match b, second with
  | [_, _, _, _], _ =>
  match c, third with
  | [_, _, _, _], _ =>
  match d, fourth with
  | [_, _, _, _], _ =>
  simp [ofHyphenated?, fifth]

/-- Eight digits and a hyphen in front are neither a brace nor the start of a name. -/
theorem unwrap_digits {a rest : List Char} (size : a.length = 8)
    (brace : a.head? ≠ some '\x7b') : unwrap (a ++ '-' :: rest) = (a ++ '-' :: rest, 0, true) := by
  match a, size with
  | [_, _, _, _, _, _, _, _], _ =>
  unfold unwrap
  rw [if_neg (fun h => brace h.1), if_neg]
  intro same
  have ninth := congrArg (fun cs : List Char => cs[8]?) same
  have colon : urn[8]? = some ':' := by decide
  have hyphen : some (Text.asciiLower '-') = some ':' := ninth.trans colon
  exact absurd hyphen (by decide)

theorem hexDigit_ne_brace : ∀ n < 16, Bytes.hexDigit n ≠ '\x7b' := by decide

theorem head?_hexPair_ne (bs : Bytes) : (bs.flatMap Bytes.hexPair).head? ≠ some '\x7b' := by
  cases bs with
  | nil => intro h; cases h
  | cons b rest =>
    intro h
    have small := b.toNat_lt
    exact hexDigit_ne_brace (b.toNat / 16) (by omega) (Option.some.inj h)

theorem readList?_toList (u : Uuid) : readList? u.toList = some u := by
  obtain ⟨bytes, size⟩ := u
  have digits := Bytes.ofHex?_hexPair bytes
  have count := Bytes.length_hexPair bytes
  have brace := head?_hexPair_ne bytes
  unfold toList
  dsimp only
  generalize bytes.flatMap Bytes.hexPair = ds at digits count brace ⊢
  have written := ofHyphenated?_groups (a := ds.take 8) (b := (ds.drop 8).take 4)
    (c := (ds.drop 12).take 4) (d := (ds.drop 16).take 4) (e := ds.drop 20)
    (by simp; omega) (by simp; omega) (by simp; omega) (by simp; omega) (by simp; omega)
  have total : ds.take 8 ++ (ds.drop 8).take 4 ++ (ds.drop 12).take 4 ++ (ds.drop 16).take 4 ++
      ds.drop 20 = ds := by
    rw [← List.take_add, ← List.take_add, ← List.take_add, List.take_append_drop]
  have front : (ds.take 8).head? ≠ some '\x7b' := by
    rw [List.head?_take]
    exact brace
  rw [total] at written
  simp only [List.append_assoc, List.cons_append] at written ⊢
  unfold readList?
  rw [unwrap_digits (by simp; omega) front]
  have long : (ds.take 8 ++ '-' :: ((ds.drop 8).take 4 ++ '-' :: ((ds.drop 12).take 4 ++
      '-' :: ((ds.drop 16).take 4 ++ '-' :: ds.drop 20)))).length ≠ 32 := by
    simp
    omega
  simp only [long, beq_iff_eq, Bool.true_and, if_false]
  rw [written, ofDigits?, digits]
  simp [ofBytes?, size]

theorem read_text (u : Uuid) : read u.text = .ok u := by
  unfold read text
  rw [String.toList_ofList, readList?_toList]

end Uuid

end DeviceSessions
