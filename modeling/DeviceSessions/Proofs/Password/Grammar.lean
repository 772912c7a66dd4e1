import DeviceSessions.Error
import DeviceSessions.Password.Phc
import DeviceSessions.Proofs.Base64
import DeviceSessions.Proofs.Text

/-!
# The grammar of password hash texts

Which texts are read as a password hash: exactly those that are written for one, and for one only.
-/

namespace DeviceSessions.Phc

open Text

/-! ### Characters -/

theorem utf8Size_of_isValueChar {c : Char} (valueChar : isValueChar c = true) : c.utf8Size = 1 := by
  have small : c.val ≤ 127 := by
    simp only [isValueChar, isDigit, Bool.or_eq_true, Bool.and_eq_true, decide_eq_true_eq,
      beq_iff_eq] at valueChar
    rcases valueChar with ((((((⟨-, h⟩ | ⟨-, h⟩) | ⟨-, h⟩) | rfl) | rfl) | rfl) | rfl)
    · exact UInt32.le_trans h (by decide)
    · exact UInt32.le_trans h (by decide)
    · exact UInt32.le_trans h (by decide)
    · decide
    · decide
    · decide
    · decide
  exact Char.utf8Size_eq_one_iff.mpr small

theorem byteSize_cons (c : Char) (cs : List Char) :
    byteSize (c :: cs) = c.utf8Size + byteSize cs := rfl

theorem byteSize_append (cs ds : List Char) :
    byteSize (cs ++ ds) = byteSize cs + byteSize ds := by
  induction cs with
  | nil => simp [byteSize]
  | cons c cs ih => rw [List.cons_append, byteSize_cons, byteSize_cons, ih, Nat.add_assoc]

theorem byteSize_of_value {cs : List Char} (valueChars : ∀ c ∈ cs, isValueChar c = true) :
    byteSize cs = cs.length := by
  induction cs with
  | nil => rfl
  | cons c cs ih =>
    have first := utf8Size_of_isValueChar (valueChars c List.mem_cons_self)
    have rest := ih fun d member => valueChars d (List.mem_cons_of_mem _ member)
    rw [byteSize_cons, first, rest, List.length_cons]
    omega

theorem isValueChar_of_isDigit {c : Char} (digit : isDigit c = true) : isValueChar c = true := by
  unfold isValueChar
  simp [digit]

theorem isValueChar_toDigits (n : Nat) : ∀ c ∈ Nat.toDigits 10 n, isValueChar c = true :=
  fun _ member => isValueChar_of_isDigit (isDigit_toDigits member)

theorem length_toDigits {n : Nat} (small : n < UInt32.size) : (Nat.toDigits 10 n).length ≤ 10 := by
  rw [Nat.length_toDigits_le_iff (by decide) (by decide)]
  exact Nat.lt_trans small (by decide)

/-- Digits are not any of the marks between fields. -/
theorem not_mem_toDigits {c : Char} (mark : isDigit c = false) (n : Nat) :
    c ∉ Nat.toDigits 10 n := by
  intro member
  rw [isDigit_toDigits member] at mark
  cases mark

theorem isValueChar_digit : ∀ n < 64, isValueChar (Base64.standard.digit n) = true := by decide

theorem isValueChar_encodeList (bs : Bytes) :
    ∀ c ∈ Base64.encodeList Base64.standard bs, isValueChar c = true := by
  have digit := isValueChar_digit
  fun_induction Base64.encodeList Base64.standard bs with
  | case1 => simp
  | case2 x =>
    have small := x.toNat_lt
    simp only [List.mem_cons, List.not_mem_nil, or_false, forall_eq_or_imp, forall_eq]
    exact ⟨digit _ (by omega), digit _ (by omega)⟩
  | case3 x y =>
    have small := x.toNat_lt
    have small' := y.toNat_lt
    simp only [List.mem_cons, List.not_mem_nil, or_false, forall_eq_or_imp, forall_eq]
    exact ⟨digit _ (by omega), digit _ (by omega), digit _ (by omega)⟩
  | case4 x y z rest ih =>
    have small := x.toNat_lt
    have small' := y.toNat_lt
    have small'' := z.toNat_lt
    simp only [List.mem_cons, forall_eq_or_imp]
    exact ⟨digit _ (by omega), digit _ (by omega), digit _ (by omega), digit _ (by omega), ih⟩

theorem mark_not_mem {c : Char} {cs : List Char} (mark : isValueChar c = false)
    (valueChars : ∀ c ∈ cs, isValueChar c = true) : c ∉ cs := by
  intro member
  rw [valueChars c member] at mark
  cases mark

/-! ### Names and values -/

/-- Names have 1 to 32 small letters, digits and hyphens. -/
def IsName (cs : List Char) : Prop :=
  1 ≤ cs.length ∧ cs.length ≤ 32 ∧ ∀ c ∈ cs, ('a' ≤ c ∧ c ≤ 'z') ∨ isDigit c = true ∨ c = '-'

/-- Values have at most 64 characters. -/
def IsValue (cs : List Char) : Prop := cs.length ≤ 64 ∧ ∀ c ∈ cs, isValueChar c = true

/-- Salts are values of at least 4 characters. -/
def IsSalt (cs : List Char) : Prop := 4 ≤ cs.length ∧ IsValue cs

/-- Outputs have 10 to 64 bytes. -/
def IsOutput (bs : Bytes) : Prop := 10 ≤ bs.length ∧ bs.length ≤ 64

theorem IsName.not_mem {c : Char} {cs : List Char} (named : IsName cs)
    (mark : isValueChar c = false) : c ∉ cs := by
  intro member
  obtain ⟨-, -, chars⟩ := named
  simp only [isValueChar, Bool.or_eq_false_iff, Bool.and_eq_false_iff, decide_eq_false_iff_not,
    beq_eq_false_iff_ne] at mark
  obtain ⟨⟨⟨⟨⟨⟨letter, -⟩, digit⟩, -⟩, -⟩, -⟩, hyphen⟩ := mark
  obtain ⟨low, high⟩ | here | here := chars c member
  · exact letter.elim (· low) (· high)
  · exact absurd here (by rw [digit]; decide)
  · exact hyphen here

theorem IsValue.not_mem {c : Char} {cs : List Char} (valued : IsValue cs)
    (mark : isValueChar c = false) : c ∉ cs :=
  mark_not_mem mark valued.2

theorem name_eq_ok_iff {cs ds : List Char} : name cs = .ok ds ↔ IsName cs ∧ ds = cs := by
  have same : (1 ≤ cs.length ∧ cs.length ≤ 32 ∧
      cs.all (fun c => ('a' ≤ c && c ≤ 'z') || isDigit c || c == '-') = true) ↔ IsName cs := by
    simp only [IsName, List.all_eq_true, Bool.or_eq_true, Bool.and_eq_true, decide_eq_true_eq,
      beq_iff_eq, or_assoc]
  unfold name
  split
  · rename_i named
    rw [Except.ok.injEq, and_iff_right (same.mp named), eq_comm]
  · rename_i unnamed
    exact iff_of_false (fun h => nomatch h) fun h => unnamed (same.mpr h.1)

theorem find?_not_eq_none_iff {p : Char → Bool} {cs : List Char} :
    cs.find? (fun c => !p c) = none ↔ ∀ c ∈ cs, p c = true := by
  simp

theorem value_eq_ok_iff {cs ds : List Char} : value cs = .ok ds ↔ IsValue cs ∧ ds = cs := by
  constructor
  · intro read
    unfold value at read
    split at read
    · cases read
    rename_i small
    split at read
    · cases read
    rename_i found
    have valueChars := find?_not_eq_none_iff.mp found
    rw [byteSize_of_value valueChars] at small
    exact ⟨⟨Nat.not_lt.mp small, valueChars⟩, (Except.ok.inj read).symm⟩
  · rintro ⟨⟨short, valueChars⟩, rfl⟩
    unfold value
    rw [byteSize_of_value valueChars, if_neg (Nat.not_lt.mpr short),
      find?_not_eq_none_iff.mpr valueChars]

theorem saltOf_eq_ok_iff {cs ds : List Char} : saltOf cs = .ok ds ↔ IsSalt cs ∧ ds = cs := by
  constructor
  · intro read
    unfold saltOf at read
    split at read
    · cases read
    rename_i long
    split at read
    · cases read
    rename_i small
    split at read
    · cases read
    rename_i found
    have valueChars := find?_not_eq_none_iff.mp found
    rw [byteSize_of_value valueChars] at small long
    exact ⟨⟨Nat.not_lt.mp long, Nat.not_lt.mp small, valueChars⟩, (Except.ok.inj read).symm⟩
  · rintro ⟨⟨long, short, valueChars⟩, rfl⟩
    unfold saltOf
    rw [byteSize_of_value valueChars, if_neg (Nat.not_lt.mpr long), if_neg (Nat.not_lt.mpr short),
      find?_not_eq_none_iff.mpr valueChars]

/-- A number is read as it is written. -/
theorem number_toDigits {n : UInt32} : number (Nat.toDigits 10 n.toNat) = .ok n := by
  have digits : (Nat.toDigits 10 n.toNat).find? (fun c => !isDigit c) = none :=
    find?_not_eq_none_iff.mpr fun c member => isDigit_toDigits member
  have size := Nat.length_toDigits_pos (b := 10) (n := n.toNat)
  have canonical : ¬(((Nat.toDigits 10 n.toNat).head? = some '0' ∧
      1 < (Nat.toDigits 10 n.toNat).length) ∨ UInt32.size ≤ decimal (Nat.toDigits 10 n.toNat)) := by
    rw [decimal_toDigits]
    rintro (⟨zero, long⟩ | large)
    · exact head?_toDigits (by omega) zero
    · have bound : n.toNat < UInt32.size := n.toNat_lt
      omega
  unfold number
  rw [if_neg (by simp), digits]
  dsimp only
  rw [if_neg canonical, decimal_toDigits, UInt32.ofNat_toNat]

/-- A number is read from its digits and from nothing else. -/
theorem number_eq_ok_iff {cs : List Char} {n : UInt32} :
    number cs = .ok n ↔ cs = Nat.toDigits 10 n.toNat := by
  constructor
  · intro read
    unfold number at read
    split at read
    · cases read
    rename_i some
    split at read
    · cases read
    rename_i found
    split at read
    · cases read
    rename_i plain
    rw [not_or, not_and, Nat.not_le] at plain
    obtain ⟨unzeroed, small⟩ := plain
    have digits := find?_not_eq_none_iff.mp found
    have nonempty : cs ≠ [] := fun empty => some (List.isEmpty_iff.mpr empty)
    have filled := List.length_pos_iff.mpr nonempty
    have written := toDigits_decimal nonempty digits fun zero => by
      have short := unzeroed zero
      omega
    rw [← Except.ok.inj read, UInt32.toNat_ofNat_of_lt' small, written]
  · rintro rfl
    exact number_toDigits

/-! ### Bytes -/

/-- Bytes in base 64 are read back, if they are few enough. -/
theorem base64_encodeList {limit : Nat} {bs : Bytes} (few : bs.length ≤ limit) :
    base64 limit (Base64.encodeList Base64.standard bs) = .ok bs := by
  unfold base64
  dsimp only
  rw [byteSize_of_value (isValueChar_encodeList bs), Base64.length_encodeList, if_neg (by omega),
    Base64.decodeList?_encodeList Base64.standard_sound]

theorem ok_bind {α β : Type} (a : α) (f : α → Except PhcFault β) : (Except.ok a >>= f) = f a := rfl

/-- Bytes are read from their digits in base 64 and from nothing else. -/
theorem base64_eq_ok_iff {limit : Nat} {cs : List Char} {bs : Bytes} :
    base64 limit cs = .ok bs ↔ bs.length ≤ limit ∧ cs = Base64.encodeList Base64.standard bs := by
  constructor
  · intro read
    unfold base64 at read
    dsimp only at read
    split at read
    · cases read
    rename_i small
    split at read
    · rename_i bs' decoded
      cases read
      obtain rfl := Base64.encodeList_decodeList? decoded
      rw [byteSize_of_value (isValueChar_encodeList bs), Base64.length_encodeList] at small
      exact ⟨by omega, rfl⟩
    · cases read
  · rintro ⟨few, rfl⟩
    exact base64_encodeList few

theorem outputOf_eq_ok_iff {cs : List Char} {bs : Bytes} :
    outputOf cs = .ok bs ↔ IsOutput bs ∧ cs = Base64.encodeList Base64.standard bs := by
  constructor
  · intro read
    obtain ⟨bs', decoded, kept⟩ := bind_ok read
    obtain ⟨few, rfl⟩ := base64_eq_ok_iff.mp decoded
    change (if bs'.length < 10 then Except.error PhcFault.shortOutput
      else Except.ok bs') = _ at kept
    split at kept
    · cases kept
    · rename_i long
      cases kept
      exact ⟨⟨Nat.not_lt.mp long, few⟩, rfl⟩
  · rintro ⟨⟨long, few⟩, rfl⟩
    unfold outputOf
    rw [base64_encodeList few, ok_bind]
    change (if bs.length < 10 then _ else _) = _
    rw [if_neg (Nat.not_lt.mpr long)]
    rfl

/-! ### Parameters -/

/-- A parameter with its equals sign. -/
def writeParameter (p : List Char × List Char) : List Char := p.1 ++ '=' :: p.2

/-- Parameters whose names and values are such, short enough together. -/
structure IsParameters (ps : List (List Char × List Char)) : Prop where
  each : ∀ p ∈ ps, IsName p.1 ∧ IsValue p.2
  short : byteSize (writeParameters ps) ≤ 127

theorem writeParameters_eq (ps : List (List Char × List Char)) :
    writeParameters ps = [','].intercalate (ps.map writeParameter) := by
  fun_induction writeParameters ps with
  | case1 => rfl
  | case2 n v => rw [List.map_cons, List.map_nil, List.intercalate_singleton, writeParameter]
  | case3 n v rest some ih =>
    obtain ⟨p, ps, rfl⟩ := List.exists_cons_of_ne_nil fun empty => some empty
    rw [ih, List.map_cons, List.map_cons, List.map_cons, List.intercalate_cons_cons,
      List.append_assoc _ [','], List.singleton_append]
    rfl

theorem not_mem_writeParameter {c : Char} {p : List Char × List Char} (named : IsName p.1)
    (valued : IsValue p.2) (mark : isValueChar c = false) (other : c ≠ '=') :
    c ∉ writeParameter p := by
  rw [writeParameter, List.mem_append, List.mem_cons, not_or, not_or]
  exact ⟨named.not_mem mark, other, valued.not_mem mark⟩

theorem parameter_eq_ok_iff {cs : List Char} {p : List Char × List Char} :
    parameter cs = .ok p ↔ (IsName p.1 ∧ IsValue p.2) ∧ cs = writeParameter p := by
  constructor
  · intro read
    unfold parameter at read
    split at read
    · rename_i n v cut
      obtain ⟨-, -, whole⟩ := splitAt_eq_iff.mp cut
      obtain ⟨n', named, behind⟩ := bind_ok read
      obtain ⟨v', valued, pair⟩ := bind_ok behind
      cases pair
      obtain ⟨named, rfl⟩ := name_eq_ok_iff.mp named
      obtain ⟨valued, rfl⟩ := value_eq_ok_iff.mp valued
      refine ⟨⟨named, valued⟩, ?_⟩
      rw [whole, List.intercalate_cons_cons, List.intercalate_singleton, writeParameter,
        List.append_assoc, List.singleton_append]
    · obtain ⟨n, -, read⟩ := bind_ok read
      obtain ⟨v, -, read⟩ := bind_ok read
      cases read
    · obtain ⟨n, -, read⟩ := bind_ok read
      cases read
    · cases read
  · rintro ⟨⟨named, valued⟩, rfl⟩
    have cut : splitAt '=' (p.1 ++ '=' :: p.2) = [p.1, p.2] := by
      rw [splitAt_append (named.not_mem (by decide)),
        splitAt_of_not_mem (valued.not_mem (by decide))]
    unfold parameter writeParameter
    rw [cut]
    dsimp only
    rw [name_eq_ok_iff.mpr ⟨named, rfl⟩, value_eq_ok_iff.mpr ⟨valued, rfl⟩]
    rfl

theorem mapM_eq_ok_iff {ε α β : Type} {f : α → Except ε β} {P : β → Prop} {g : β → α}
    (f_eq_ok_iff : ∀ {x y}, f x = .ok y ↔ P y ∧ x = g y) {xs : List α} {ys : List β} :
    xs.mapM f = .ok ys ↔ (∀ y ∈ ys, P y) ∧ xs = ys.map g := by
  induction xs generalizing ys with
  | nil =>
    rw [List.mapM_nil, eq_comm (a := []), List.map_eq_nil_iff]
    constructor
    · intro done
      cases done
      exact ⟨fun _ member => absurd member List.not_mem_nil, rfl⟩
    · rintro ⟨-, rfl⟩
      rfl
  | cons x xs ih =>
    rw [List.mapM_cons]
    constructor
    · intro done
      obtain ⟨y, first, done⟩ := bind_ok done
      obtain ⟨ys', others, done⟩ := bind_ok done
      cases done
      obtain ⟨kept, rfl⟩ := f_eq_ok_iff.mp first
      obtain ⟨keeps, rfl⟩ := ih.mp others
      exact ⟨List.forall_mem_cons.mpr ⟨kept, keeps⟩, rfl⟩
    · rintro ⟨keeps, whole⟩
      cases ys with
      | nil => cases whole
      | cons y ys =>
        obtain ⟨rfl, rfl⟩ := List.cons.inj whole
        obtain ⟨kept, keeps⟩ := List.forall_mem_cons.mp keeps
        rw [f_eq_ok_iff.mpr ⟨kept, rfl⟩, ih.mpr ⟨keeps, rfl⟩]
        rfl

theorem parametersOf_eq_ok_iff {cs : List Char} {ps : List (List Char × List Char)} :
    parametersOf cs = .ok ps ↔ ps ≠ [] ∧ IsParameters ps ∧ cs = writeParameters ps := by
  constructor
  · intro read
    unfold parametersOf at read
    split at read
    · cases read
    rename_i small
    obtain ⟨each, pieces⟩ := (mapM_eq_ok_iff parameter_eq_ok_iff).mp read
    obtain ⟨nonempty, -, whole⟩ := splitAt_eq_iff.mp pieces
    rw [← writeParameters_eq] at whole
    subst whole
    exact ⟨fun empty => nonempty (by rw [empty, List.map_nil]), ⟨each, Nat.not_lt.mp small⟩, rfl⟩
  · rintro ⟨nonempty, ⟨each, short⟩, rfl⟩
    have absent : ∀ piece ∈ ps.map writeParameter, ',' ∉ piece := by
      intro piece member
      obtain ⟨p, inside, rfl⟩ := List.mem_map.mp member
      exact not_mem_writeParameter (each p inside).1 (each p inside).2 (by decide) (by decide)
    have cut : splitAt ',' (writeParameters ps) = ps.map writeParameter := by
      rw [writeParameters_eq, splitAt_intercalate (by rwa [Ne, List.map_eq_nil_iff]) absent]
    unfold parametersOf
    rw [if_neg (Nat.not_lt.mpr short), cut]
    exact (mapM_eq_ok_iff parameter_eq_ok_iff).mpr ⟨each, rfl⟩

theorem mem_writeParameters {ps : List (List Char × List Char)} (nonempty : ps ≠ []) :
    '=' ∈ writeParameters ps := by
  fun_cases writeParameters ps with
  | case1 => exact absurd rfl nonempty
  | case2 n v => simp
  | case3 n v rest => simp

theorem IsParameters.not_mem {c : Char} {ps : List (List Char × List Char)}
    (valid : IsParameters ps) (mark : isValueChar c = false) (equals : c ≠ '=') (comma : c ≠ ',') :
    c ∉ writeParameters ps := by
  obtain ⟨each, -⟩ := valid
  fun_induction writeParameters ps with
  | case1 => exact List.not_mem_nil
  | case2 n v =>
    obtain ⟨named, valued⟩ := each _ List.mem_cons_self
    exact not_mem_writeParameter named valued mark equals
  | case3 n v rest some ih =>
    obtain ⟨named, valued⟩ := each _ List.mem_cons_self
    have front := not_mem_writeParameter named valued mark equals
    have back := ih fun p member => each p (List.mem_cons_of_mem _ member)
    rw [List.mem_append, List.mem_cons, not_or, not_or]
    exact ⟨front, comma, back⟩

/-! ### Salt and output -/

/-- A salt and an output that may stand at the end: no output without a salt. -/
structure IsEnd (salt : Option (List Char)) (output : Option Bytes) : Prop where
  salted : ∀ cs ∈ salt, IsSalt cs
  made : ∀ bs ∈ output, IsOutput bs
  behind : salt = none → output = none

/-- The field of the output. -/
def outputFields (output : Option Bytes) : List (List Char) :=
  (output.map (Base64.encodeList Base64.standard)).toList

/-- The fields of salt and output. -/
def endFields (salt : Option (List Char)) (output : Option Bytes) : List (List Char) :=
  salt.toList ++ outputFields output

theorem IsEnd.not_mem {c : Char} {salt : Option (List Char)} {output : Option Bytes}
    (valid : IsEnd salt output) (mark : isValueChar c = false) :
    ∀ field ∈ endFields salt output, c ∉ field := by
  intro field member
  obtain inside | inside := List.mem_append.mp member
  · exact (valid.salted field (Option.mem_toList.mp inside)).2.not_mem mark
  · obtain ⟨bs, -, rfl⟩ := Option.map_eq_some_iff.mp (Option.mem_toList.mp inside)
    exact mark_not_mem mark (isValueChar_encodeList bs)

section Reading

variable {algorithm : List Char} {version : Option Nat} {ps : List (List Char × List Char)}
  {salt : Option (List Char)} {fields : List (List Char)} {phc : Phc}

theorem readOutput_eq_ok_iff :
    readOutput ⟨algorithm, version, ps, salt, none⟩ fields = .ok phc ↔
      ∃ output, (∀ bs ∈ output, IsOutput bs) ∧ fields = outputFields output ∧
        phc = ⟨algorithm, version, ps, salt, output⟩ := by
  constructor
  · intro read
    cases fields with
    | nil =>
      cases read
      exact ⟨none, by simp, rfl, rfl⟩
    | cons field rest =>
      obtain ⟨bs, decoded, last⟩ := bind_ok read
      obtain ⟨valid, rfl⟩ := outputOf_eq_ok_iff.mp decoded
      split at last
      · rename_i nothing
        cases last
        refine ⟨some bs, fun _ given => Option.some.inj given ▸ valid, ?_, rfl⟩
        rw [List.isEmpty_iff.mp nothing]
        rfl
      · cases last
  · rintro ⟨output, valid, rfl, rfl⟩
    cases output with
    | none => rfl
    | some bs =>
      change (outputOf (Base64.encodeList Base64.standard bs) >>= _) = _
      rw [outputOf_eq_ok_iff.mpr ⟨valid bs rfl, rfl⟩]
      rfl

theorem readSalt_eq_ok_iff :
    readSalt ⟨algorithm, version, ps, none, none⟩ fields = .ok phc ↔
      ∃ salt output, IsEnd salt output ∧ fields = endFields salt output ∧
        phc = ⟨algorithm, version, ps, salt, output⟩ := by
  constructor
  · intro read
    cases fields with
    | nil =>
      cases read
      exact ⟨none, none, ⟨by simp, by simp, fun _ => rfl⟩, rfl, rfl⟩
    | cons field rest =>
      obtain ⟨cs, salted, behind⟩ := bind_ok read
      obtain ⟨valid, rfl⟩ := saltOf_eq_ok_iff.mp salted
      obtain ⟨output, outputs, rfl, rfl⟩ := readOutput_eq_ok_iff.mp behind
      exact ⟨some cs, output,
        ⟨fun _ given => Option.some.inj given ▸ valid, outputs, by simp⟩, rfl, rfl⟩
  · rintro ⟨salt, output, valid, rfl, rfl⟩
    cases salt with
    | none =>
      rw [valid.behind rfl]
      rfl
    | some cs =>
      change (saltOf cs >>= _) = _
      rw [saltOf_eq_ok_iff.mpr ⟨valid.salted cs rfl, rfl⟩]
      exact readOutput_eq_ok_iff.mpr ⟨output, valid.made, rfl, rfl⟩

/-! ### Parameters and version in front -/

/-- The field of the parameters; none of none. -/
def parameterFields (ps : List (List Char × List Char)) : List (List Char) :=
  if ps.isEmpty then [] else [writeParameters ps]

/-- The field of the version. -/
def versionFields : Option Nat → List (List Char)
  | some n => ['v' :: '=' :: Nat.toDigits 10 n]
  | none => []

theorem readParameters_of_plain {start : Phc} (plain : ∀ field ∈ fields.head?, '=' ∉ field) :
    readParameters start fields = readSalt start fields := by
  cases fields with
  | nil => rfl
  | cons field rest => rw [readParameters, if_neg (by simpa using plain field rfl)]

theorem readParameters_eq_ok_iff :
    readParameters ⟨algorithm, version, [], none, none⟩ fields = .ok phc ↔
      ∃ ps salt output, IsParameters ps ∧ IsEnd salt output ∧
        fields = parameterFields ps ++ endFields salt output ∧
        phc = ⟨algorithm, version, ps, salt, output⟩ := by
  constructor
  · intro read
    by_cases plain : ∀ field ∈ fields.head?, '=' ∉ field
    · rw [readParameters_of_plain plain] at read
      obtain ⟨salt, output, valid, rfl, rfl⟩ := readSalt_eq_ok_iff.mp read
      exact ⟨[], salt, output, ⟨by simp, Nat.zero_le _⟩, valid, rfl, rfl⟩
    · cases fields with
      | nil => exact absurd (by simp) plain
      | cons field rest =>
        have equals : field.contains '=' = true := by simpa using plain
        rw [readParameters, if_pos equals] at read
        obtain ⟨ps, parameters, behind⟩ := bind_ok read
        obtain ⟨nonempty, valid, rfl⟩ := parametersOf_eq_ok_iff.mp parameters
        obtain ⟨salt, output, ending, rfl, rfl⟩ := readSalt_eq_ok_iff.mp behind
        refine ⟨ps, salt, output, valid, ending, ?_, rfl⟩
        rw [parameterFields, if_neg (by rwa [List.isEmpty_iff]), List.singleton_append]
  · rintro ⟨ps, salt, output, valid, ending, rfl, rfl⟩
    by_cases empty : ps = []
    · subst empty
      have plain : ∀ field ∈ (endFields salt output).head?, '=' ∉ field := fun field first =>
        ending.not_mem (by decide) field (List.mem_of_mem_head? first)
      change readParameters _ (endFields salt output) = _
      rw [readParameters_of_plain plain]
      exact readSalt_eq_ok_iff.mpr ⟨salt, output, ending, rfl, rfl⟩
    · have equals : (writeParameters ps).contains '=' = true := by
        simpa using mem_writeParameters empty
      rw [parameterFields, if_neg (by rwa [List.isEmpty_iff]), List.singleton_append,
        readParameters, if_pos equals, parametersOf_eq_ok_iff.mpr ⟨empty, valid, rfl⟩]
      exact readSalt_eq_ok_iff.mpr ⟨salt, output, ending, rfl, rfl⟩

/-- Whether a field is that of the version. -/
def isVersion (field : List Char) : Bool := ['v', '='].isPrefixOf field && !field.contains ','

theorem readVersion_digits (phc : Phc) {n : UInt32} (rest : List (List Char)) :
    readVersion phc (('v' :: '=' :: Nat.toDigits 10 n.toNat) :: rest) =
      readParameters { phc with version := some n.toNat } rest := by
  have short := length_toDigits n.toNat_lt
  have read : value (Nat.toDigits 10 n.toNat) = .ok (Nat.toDigits 10 n.toNat) :=
    value_eq_ok_iff.mpr ⟨⟨by omega, isValueChar_toDigits _⟩, rfl⟩
  have comma : ('v' :: '=' :: Nat.toDigits 10 n.toNat).contains ',' = false := by
    have absent := not_mem_toDigits (c := ',') (by decide) n.toNat
    simp [absent]
  have marked : ['v', '='].isPrefixOf ('v' :: '=' :: Nat.toDigits 10 n.toNat) = true := by
    simp [List.isPrefixOf]
  unfold readVersion
  dsimp only
  rw [marked, comma]
  simp only [Bool.not_false, Bool.and_self, if_true, List.drop_succ_cons, List.drop_zero, read,
    ok_bind, number_toDigits]

theorem readVersion_of_other {start : Phc}
    (other : ∀ field ∈ fields.head?, isVersion field = false) :
    readVersion start fields = readParameters start fields := by
  cases fields with
  | nil => rfl
  | cons field rest =>
    have unmarked := other field rfl
    unfold isVersion at unmarked
    rw [readVersion, unmarked]
    rfl

theorem isVersion_eq_true_iff {field : List Char} :
    isVersion field = true ↔ ∃ cs, field = 'v' :: '=' :: cs ∧ ',' ∉ cs := by
  rw [isVersion, Bool.and_eq_true, List.isPrefixOf_iff_prefix]
  constructor
  · rintro ⟨⟨cs, rfl⟩, comma⟩
    exact ⟨cs, rfl, by simpa using comma⟩
  · rintro ⟨cs, rfl, comma⟩
    exact ⟨⟨cs, rfl⟩, by simpa using comma⟩

/-- Parameters can be taken for the version only where one stands alone, under the name `v`. -/
theorem isVersion_writeParameters_iff {ps : List (List Char × List Char)}
    (valid : IsParameters ps) : isVersion (writeParameters ps) = true ↔ ∃ v, ps = [(['v'], v)] := by
  rw [isVersion_eq_true_iff]
  constructor
  · rintro ⟨cs, written, comma⟩
    match ps with
    | [] => cases written
    | [(n, v)] =>
      have plain : '=' ∉ n := (valid.each _ List.mem_cons_self).1.not_mem (by decide)
      match n with
      | [] => cases written
      | [c] =>
        cases written
        exact ⟨_, rfl⟩
      | c :: d :: n =>
        cases written
        simp at plain
    | (n, v) :: q :: rest =>
      have member : ',' ∈ n ++ '=' :: v ++ ',' :: writeParameters (q :: rest) :=
        List.mem_append_right _ List.mem_cons_self
      rw [show n ++ '=' :: v ++ ',' :: writeParameters (q :: rest) = 'v' :: '=' :: cs from written]
        at member
      simp [comma] at member
  · rintro ⟨v, rfl⟩
    exact ⟨v, rfl, (valid.each _ List.mem_cons_self).2.not_mem (by decide)⟩

/-- A single parameter is not to be taken for a missing version. -/
def Apart (version : Option Nat) (ps : List (List Char × List Char)) : Prop :=
  version = none → ∀ v, ps ≠ [(['v'], v)]

theorem isVersion_head?_eq_false {ps : List (List Char × List Char)} {salt : Option (List Char)}
    {output : Option Bytes} (valid : IsParameters ps) (apart : ∀ v, ps ≠ [(['v'], v)])
    (ending : IsEnd salt output) :
    ∀ field ∈ (parameterFields ps ++ endFields salt output).head?, isVersion field = false := by
  intro field first
  rw [Bool.eq_false_iff]
  intro marked
  by_cases empty : ps = []
  · subst empty
    obtain ⟨cs, rfl, -⟩ := isVersion_eq_true_iff.mp marked
    have plain := ending.not_mem (c := '=') (by decide) _ (List.mem_of_mem_head? first)
    simp at plain
  · rw [parameterFields, if_neg (by rwa [List.isEmpty_iff])] at first
    cases first
    obtain ⟨v, same⟩ := (isVersion_writeParameters_iff valid).mp marked
    exact apart v same

theorem readVersion_eq_ok_iff :
    readVersion ⟨algorithm, none, [], none, none⟩ fields = .ok phc ↔
      ∃ version ps salt output, (∀ n ∈ version, n < UInt32.size) ∧ IsParameters ps ∧
        Apart version ps ∧ IsEnd salt output ∧
        fields = versionFields version ++ (parameterFields ps ++ endFields salt output) ∧
        phc = ⟨algorithm, version, ps, salt, output⟩ := by
  constructor
  · intro read
    by_cases other : ∀ field ∈ fields.head?, isVersion field = false
    · rw [readVersion_of_other other] at read
      obtain ⟨ps, salt, output, valid, ending, rfl, rfl⟩ := readParameters_eq_ok_iff.mp read
      refine ⟨none, ps, salt, output, by simp, valid, ?_, ending, rfl, rfl⟩
      rintro - v rfl
      have marked := (isVersion_writeParameters_iff valid).mpr ⟨v, rfl⟩
      rw [other _ rfl] at marked
      cases marked
    · cases fields with
      | nil => exact absurd (by simp) other
      | cons field rest =>
        have marked : isVersion field = true := by simpa using other
        have here : (['v', '='].isPrefixOf field && !field.contains ',') = true := marked
        rw [readVersion, here, if_pos rfl] at read
        obtain ⟨cs, rfl, -⟩ := isVersion_eq_true_iff.mp marked
        obtain ⟨ds, valued, behind⟩ := bind_ok read
        obtain ⟨n, digits, behind⟩ := bind_ok behind
        obtain ⟨-, rfl⟩ := value_eq_ok_iff.mp valued
        obtain ⟨ps, salt, output, valid, ending, rfl, rfl⟩ := readParameters_eq_ok_iff.mp behind
        refine ⟨some n.toNat, ps, salt, output, ?_, valid, nofun, ending, ?_, rfl⟩
        · intro k same
          exact Option.some.inj same ▸ n.toNat_lt
        · have written := number_eq_ok_iff.mp digits
          change ds = _ at written
          rw [written]
          rfl
  · rintro ⟨version, ps, salt, output, numbered, valid, apart, ending, rfl, rfl⟩
    cases version with
    | none =>
      change readVersion _ (parameterFields ps ++ endFields salt output) = _
      rw [readVersion_of_other (isVersion_head?_eq_false valid (apart rfl) ending)]
      exact readParameters_eq_ok_iff.mpr ⟨ps, salt, output, valid, ending, rfl, rfl⟩
    | some n =>
      have read := readVersion_digits ⟨algorithm, none, [], none, none⟩
        (n := UInt32.ofNat n) (parameterFields ps ++ endFields salt output)
      rw [UInt32.toNat_ofNat_of_lt' (numbered n rfl)] at read
      refine read.trans ?_
      exact readParameters_eq_ok_iff.mpr ⟨ps, salt, output, valid, ending, rfl, rfl⟩

end Reading

/-! ### Whole texts -/

/-- The parts of a password hash are as they may be. -/
structure Valid (phc : Phc) : Prop where
  named : IsName phc.algorithm
  numbered : ∀ n ∈ phc.version, n < UInt32.size
  parameters : IsParameters phc.parameters
  apart : Apart phc.version phc.parameters
  ending : IsEnd phc.salt phc.output

/-- The fields of a password hash. -/
def fields (phc : Phc) : List (List Char) :=
  phc.algorithm :: (versionFields phc.version ++
    (parameterFields phc.parameters ++ endFields phc.salt phc.output))

theorem intercalate_fields (fs : List (List Char)) :
    ['$'].intercalate ([] :: fs) = fs.flatMap field := by
  have join : ∀ f fs, ['$'].intercalate (f :: fs) = f ++ fs.flatMap field := by
    intro f fs
    induction fs generalizing f with
    | nil => simp
    | cons g fs ih => simp [List.intercalate_cons_cons, ih, field]
  exact join [] fs

theorem writeList_eq (phc : Phc) : phc.writeList = ['$'].intercalate ([] :: phc.fields) := by
  obtain ⟨algorithm, version, ps, salt, output⟩ := phc
  rw [intercalate_fields]
  unfold writeList fields versionFields parameterFields endFields outputFields
  cases version <;> cases salt <;> cases output <;> cases ps.isEmpty <;> simp

theorem Valid.not_mem {phc : Phc} (valid : phc.Valid) : ∀ f ∈ phc.fields, '$' ∉ f := by
  intro f member
  obtain rfl | member := List.mem_cons.mp member
  · exact valid.named.not_mem (by decide)
  obtain member | member := List.mem_append.mp member
  · cases given : phc.version with
    | none => exact absurd member (by simp [given, versionFields])
    | some n =>
      rw [given] at member
      rw [List.mem_singleton.mp member, List.mem_cons, List.mem_cons, not_or, not_or]
      exact ⟨by decide, by decide, not_mem_toDigits (by decide) n⟩
  obtain member | member := List.mem_append.mp member
  · unfold parameterFields at member
    split at member
    · cases member
    · rw [List.mem_singleton.mp member]
      exact valid.parameters.not_mem (by decide) (by decide) (by decide)
  · exact valid.ending.not_mem (by decide) f member

theorem readList_eq_ok_iff {cs : List Char} {phc : Phc} :
    readList cs = .ok phc ↔ phc.Valid ∧ cs = phc.writeList := by
  constructor
  · intro read
    unfold readList at read
    split at read
    · rename_i algorithm rest cut
      obtain ⟨-, -, rfl⟩ := splitAt_eq_iff.mp cut
      obtain ⟨named', named, behind⟩ := bind_ok read
      obtain ⟨named, rfl⟩ := name_eq_ok_iff.mp named
      obtain ⟨version, ps, salt, output, numbered, valid, apart, ending, rfl, rfl⟩ :=
        readVersion_eq_ok_iff.mp behind
      refine ⟨⟨named, numbered, valid, apart, ending⟩, ?_⟩
      rw [writeList_eq, fields]
    · cases read
  · rintro ⟨valid, rfl⟩
    have absent : ∀ f ∈ [] :: phc.fields, '$' ∉ f :=
      List.forall_mem_cons.mpr ⟨List.not_mem_nil, valid.not_mem⟩
    unfold readList
    rw [writeList_eq, splitAt_intercalate (List.cons_ne_nil _ _) absent]
    change (name phc.algorithm >>= _) = _
    rw [name_eq_ok_iff.mpr ⟨valid.named, rfl⟩]
    exact readVersion_eq_ok_iff.mpr
      ⟨_, _, _, _, valid.numbered, valid.parameters, valid.apart, valid.ending, rfl, rfl⟩

/-- Exactly the texts of valid hashes are read, each as the one hash it is written for. -/
theorem read_eq_ok_iff {text : String} {phc : Phc} :
    Phc.read text = .ok phc ↔ phc.Valid ∧ text = phc.write := by
  unfold Phc.read write
  rw [readList_eq_ok_iff, ← String.toList_inj, String.toList_ofList]

end DeviceSessions.Phc
