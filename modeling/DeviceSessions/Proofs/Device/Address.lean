import DeviceSessions.Device.Address
import DeviceSessions.Proofs.Text

/-!
# The form of addresses

A grammar of the addresses of the Internet protocol. The texts of the grammar are the texts that are
taken for addresses, and none of them has a bar in it.
-/

namespace DeviceSessions.Address

/-! ### The grammar -/

/-- Decimal digits that write a number up to 255, with any number of zeros in front. -/
structure Segment (cs : List Char) : Prop where
  nonempty : cs ≠ []
  digits : ∀ c ∈ cs, c.isDigit = true
  small : Nat.ofDigitChars 10 cs 0 ≤ 255

/-- A number up to 255 with no zero in front. -/
structure Octet (cs : List Char) : Prop extends Segment cs where
  usual : cs = ['0'] ∨ cs.head? ≠ some '0'

/-- Four parts with points between them. -/
def Quad (Part : List Char → Prop) (cs : List Char) : Prop :=
  ∃ a b c d, Part a ∧ Part b ∧ Part c ∧ Part d ∧ cs = a ++ '.' :: b ++ '.' :: c ++ '.' :: d

/-- A hexadecimal digit in either letter case. -/
def IsHex (c : Char) : Prop := '0' ≤ c ∧ c ≤ '9' ∨ 'a' ≤ c ∧ c ≤ 'f' ∨ 'A' ≤ c ∧ c ≤ 'F'

instance : DecidablePred IsHex := fun c =>
  inferInstanceAs (Decidable ('0' ≤ c ∧ c ≤ '9' ∨ 'a' ≤ c ∧ c ≤ 'f' ∨ 'A' ≤ c ∧ c ≤ 'F'))

/-- One to four hexadecimal digits. -/
structure Group (cs : List Char) : Prop where
  nonempty : cs ≠ []
  short : cs.length ≤ 4
  digits : ∀ c ∈ cs, IsHex c

/-- Groups with colons between them. Where `dotted` the last two may be written as an address of
version 4. -/
inductive Groups (dotted : Bool) : Nat → List Char → Prop where
  | group {cs : List Char} (group : Group cs) : Groups dotted 1 cs
  | quad {cs : List Char} (allowed : dotted = true) (quad : Quad Octet cs) : Groups dotted 2 cs
  | more {g cs : List Char} {n : Nat} (group : Group g) (rest : Groups dotted n cs) :
      Groups dotted (n + 1) (g ++ ':' :: cs)

/-- Groups with colons between them, or none. -/
inductive Side (dotted : Bool) : Nat → List Char → Prop where
  | nothing : Side dotted 0 []
  | groups {n : Nat} {cs : List Char} (groups : Groups dotted n cs) : Side dotted n cs

/-- An address of version 6: eight groups, or at most seven around a double colon. -/
inductive Version6 : List Char → Prop where
  | full {cs : List Char} (groups : Groups true 8 cs) : Version6 cs
  | shortened {m n : Nat} {front back : List Char} (before : Side false m front)
      (behind : Side true n back) (few : m + n ≤ 7) : Version6 (front ++ ':' :: ':' :: back)

/-- An address: of version 4 without colons, or of version 6 with colons. -/
def WellFormed (cs : List Char) : Prop :=
  ':' ∉ cs ∧ Quad Segment cs ∨ ':' ∈ cs ∧ Version6 cs

/-! ### Numbers and groups -/

theorem isSegment_iff {cs : List Char} : isSegment cs = true ↔ Segment cs := by
  have value : Text.decimal cs = Nat.ofDigitChars 10 cs 0 := rfl
  unfold isSegment
  rw [value]
  simp only [Bool.and_eq_true, Bool.not_eq_true', List.isEmpty_eq_false_iff, List.all_eq_true,
    decide_eq_true_eq]
  exact ⟨fun ⟨⟨nonempty, digits⟩, small⟩ => ⟨nonempty, digits, small⟩,
    fun ⟨nonempty, digits, small⟩ => ⟨⟨nonempty, digits⟩, small⟩⟩

theorem isOctet_iff {cs : List Char} : isOctet cs = true ↔ Octet cs := by
  unfold isOctet
  rw [Bool.and_eq_true, isSegment_iff]
  constructor
  · rintro ⟨segment, usual⟩
    refine ⟨segment, ?_⟩
    match cs, usual with
    | [c], _ =>
      by_cases zero : c = '0'
      · exact .inl (congrArg (fun c => [c]) zero)
      · exact .inr fun same => zero (Option.some.inj same)
    | [], _ => exact absurd rfl segment.nonempty
    | _ :: _ :: _, usual => exact .inr (by simpa using usual)
  · rintro ⟨segment, usual⟩
    refine ⟨segment, ?_⟩
    obtain rfl | usual := usual
    · rfl
    · simp [usual]

theorem isHex_iff {c : Char} : (Bytes.hexValue? c).isSome = true ↔ IsHex c := by
  unfold Bytes.hexValue? IsHex
  split
  · rename_i digit
    simp [digit]
  · rename_i noDigit
    split
    · rename_i small
      simp [small]
    · rename_i noSmall
      simp [noDigit, noSmall]

theorem isGroup_iff {cs : List Char} : isGroup cs = true ↔ Group cs := by
  unfold isGroup
  simp only [Bool.and_eq_true, decide_eq_true_eq, List.all_eq_true, isHex_iff]
  constructor
  · rintro ⟨⟨long, short⟩, digits⟩
    exact ⟨List.length_pos_iff.mp long, short, digits⟩
  · rintro ⟨nonempty, short, digits⟩
    exact ⟨⟨List.length_pos_iff.mpr nonempty, short⟩, digits⟩

/-! ### Four parts -/

/-- A text in four pieces that pass a check without points is four such parts with points between
them. -/
theorem quad_iff {check : List Char → Bool} {Part : List Char → Prop}
    (checks : ∀ {cs}, check cs = true ↔ Part cs) (pointless : ∀ {cs}, Part cs → '.' ∉ cs)
    {cs : List Char} :
    ((Text.splitAt '.' cs).length == 4 && (Text.splitAt '.' cs).all check) = true ↔
      Quad Part cs := by
  rw [Bool.and_eq_true, beq_iff_eq, List.all_eq_true]
  constructor
  · rintro ⟨four, parts⟩
    have whole := Text.intercalate_splitAt '.' cs
    match Text.splitAt '.' cs, four, parts, whole with
    | [a, b, c, d], _, parts, whole =>
      refine ⟨a, b, c, d, checks.mp (parts a (by simp)), checks.mp (parts b (by simp)),
        checks.mp (parts c (by simp)), checks.mp (parts d (by simp)), ?_⟩
      rw [← whole]
      simp [List.intercalate_cons_cons]
  · rintro ⟨a, b, c, d, first, second, third, fourth, rfl⟩
    have pieces : Text.splitAt '.' (a ++ '.' :: b ++ '.' :: c ++ '.' :: d) = [a, b, c, d] := by
      simp only [List.append_assoc, List.cons_append]
      rw [Text.splitAt_append (pointless first), Text.splitAt_append (pointless second),
        Text.splitAt_append (pointless third), Text.splitAt_of_not_mem (pointless fourth)]
    rw [pieces]
    simp [checks.mpr first, checks.mpr second, checks.mpr third, checks.mpr fourth]

theorem Segment.not_mem {cs : List Char} (segment : Segment cs) {c : Char}
    (other : c.isDigit = false) : c ∉ cs := by
  intro member
  rw [segment.digits c member] at other
  cases other

theorem isVersion4_iff {cs : List Char} : isVersion4 cs = true ↔ Quad Segment cs :=
  quad_iff isSegment_iff fun segment => segment.not_mem rfl

theorem isDotted_iff {cs : List Char} : isDotted cs = true ↔ Quad Octet cs :=
  quad_iff isOctet_iff fun octet => octet.not_mem rfl

/-- A character that is neither a digit nor a point does not stand in four numbers with points
between them. -/
theorem Quad.not_mem {Part : List Char → Prop} (segments : ∀ {cs}, Part cs → Segment cs)
    {cs : List Char} (quad : Quad Part cs) {c : Char} (other : c.isDigit = false) (noPoint : c ≠ '.') :
    c ∉ cs := by
  obtain ⟨a, b, c, d, first, second, third, fourth, rfl⟩ := quad
  simp [noPoint, (segments first).not_mem other, (segments second).not_mem other,
    (segments third).not_mem other, (segments fourth).not_mem other]

/-! ### Groups -/

theorem Group.not_mem {cs : List Char} (group : Group cs) {c : Char} (other : ¬ IsHex c) : c ∉ cs :=
  fun member => other (group.digits c member)

theorem Group.colon_not_mem {cs : List Char} (group : Group cs) : ':' ∉ cs :=
  group.not_mem (by decide)

theorem Quad.colon_not_mem {cs : List Char} (quad : Quad Octet cs) : ':' ∉ cs :=
  quad.not_mem (fun octet => octet.toSegment) rfl (by decide)

namespace Groups

variable {dotted : Bool} {n : Nat} {cs : List Char}

theorem nonempty (groups : Groups dotted n cs) : cs ≠ [] := by
  cases groups with
  | group group => exact group.nonempty
  | quad _ quad =>
    obtain ⟨a, b, c, d, -, -, -, -, rfl⟩ := quad
    simp
  | more => simp

theorem head?_ne (groups : Groups dotted n cs) : cs.head? ≠ some ':' := by
  cases groups with
  | group group => exact fun first => group.colon_not_mem (List.mem_of_head? first)
  | quad _ quad => exact fun first => quad.colon_not_mem (List.mem_of_head? first)
  | @more g cs n group rest =>
    obtain ⟨c, g, rfl⟩ := List.exists_cons_of_ne_nil group.nonempty
    intro first
    exact group.colon_not_mem (List.mem_of_head? (List.head?_cons.trans first))

theorem getLast?_ne (groups : Groups dotted n cs) : cs.getLast? ≠ some ':' := by
  induction groups with
  | group group => exact fun last => group.colon_not_mem (List.mem_of_getLast? last)
  | quad _ quad => exact fun last => quad.colon_not_mem (List.mem_of_getLast? last)
  | @more g cs n group rest ih =>
    obtain ⟨c, tail, rfl⟩ := List.exists_cons_of_ne_nil rest.nonempty
    simpa using ih

theorem no_double_of_not_mem (free : ':' ∉ cs) : ¬ [':', ':'] <:+: cs :=
  fun inside => free (inside.subset List.mem_cons_self)

theorem no_double_append {g : List Char} (free : ':' ∉ g) (first : cs.head? ≠ some ':')
    (none : ¬ [':', ':'] <:+: cs) : ¬ [':', ':'] <:+: g ++ ':' :: cs := by
  induction g with
  | nil =>
    rw [List.nil_append, List.infix_cons_iff, not_or]
    refine ⟨fun start => first ?_, none⟩
    rw [List.cons_prefix_cons] at start
    exact List.singleton_prefix_iff_head?_eq_some.mp start.2
  | cons c g ih =>
    rw [List.mem_cons, not_or] at free
    rw [List.cons_append, List.infix_cons_iff, not_or]
    refine ⟨fun start => free.1 ?_, ih free.2⟩
    exact (List.cons_prefix_cons.mp start).1

/-- There is no double colon between groups. -/
theorem no_double (groups : Groups dotted n cs) : ¬ [':', ':'] <:+: cs := by
  induction groups with
  | group group => exact no_double_of_not_mem group.colon_not_mem
  | quad _ quad => exact no_double_of_not_mem quad.colon_not_mem
  | more group rest ih => exact no_double_append group.colon_not_mem rest.head?_ne ih

/-- Pieces that are counted as groups are groups with colons between them. -/
theorem of_groupCount? {pieces : List (List Char)} (present : pieces ≠ [])
    (counted : groupCount? dotted pieces = some n) :
    Groups dotted n ([':'].intercalate pieces) := by
  fun_induction groupCount? dotted pieces generalizing n with
  | case1 => exact absurd rfl present
  | case2 piece isGroup =>
    cases counted
    simpa using Groups.group (isGroup_iff.mp isGroup)
  | case3 piece noGroup isQuad =>
    cases counted
    rw [Bool.and_eq_true] at isQuad
    simpa using Groups.quad isQuad.1 (isDotted_iff.mp isQuad.2)
  | case4 => cases counted
  | case5 piece rest more isGroup ih =>
    obtain ⟨k, behind, rfl⟩ := Option.map_eq_some_iff.mp counted
    obtain ⟨next, rest, rfl⟩ := List.exists_cons_of_ne_nil more
    rw [List.intercalate_cons_cons, List.append_assoc]
    exact .more (isGroup_iff.mp isGroup) (ih more behind)
  | case6 => cases counted

theorem groupCount?_splitAt (groups : Groups dotted n cs) :
    groupCount? dotted (Text.splitAt ':' cs) = some n := by
  induction groups with
  | group group =>
    rw [Text.splitAt_of_not_mem group.colon_not_mem, groupCount?, if_pos (isGroup_iff.mpr group)]
  | @quad cs allowed quad =>
    have noGroup : isGroup cs ≠ true := by
      intro isGroup
      obtain ⟨a, b, c, d, -, -, -, -, rfl⟩ := quad
      exact absurd ((isGroup_iff.mp isGroup).digits '.' (by simp)) (by decide)
    rw [Text.splitAt_of_not_mem quad.colon_not_mem, groupCount?, if_neg noGroup,
      if_pos (by rw [allowed, isDotted_iff.mpr quad]; rfl)]
  | @more g cs n group rest ih =>
    obtain ⟨next, pieces, split⟩ := List.exists_cons_of_ne_nil (Text.splitAt_ne_nil ':' cs)
    rw [Text.splitAt_append group.colon_not_mem, split, groupCount?, ← split, ih,
      if_pos (isGroup_iff.mpr group)]
    · rfl
    · simp

theorem groupCount?_splitAt_iff :
    groupCount? dotted (Text.splitAt ':' cs) = some n ↔ Groups dotted n cs := by
  refine ⟨fun counted => ?_, groupCount?_splitAt⟩
  have groups := of_groupCount? (Text.splitAt_ne_nil ':' cs) counted
  rwa [Text.intercalate_splitAt] at groups

end Groups

namespace Side

variable {dotted : Bool} {n : Nat} {cs : List Char}

theorem groupCount?_side_iff : groupCount? dotted (side cs) = some n ↔ Side dotted n cs := by
  cases cs with
  | nil =>
    constructor
    · intro counted
      cases counted
      exact .nothing
    · intro side
      cases side with
      | nothing => rfl
      | groups groups => exact absurd rfl groups.nonempty
  | cons c cs =>
    rw [side, List.isEmpty_cons, if_neg Bool.false_ne_true, Groups.groupCount?_splitAt_iff]
    constructor
    · exact .groups
    · rintro (_ | groups)
      exact groups

theorem no_double (side : Side dotted n cs) : ¬ [':', ':'] <:+: cs := by
  cases side with
  | nothing => decide
  | groups groups => exact groups.no_double

theorem getLast?_ne (side : Side dotted n cs) : cs.getLast? ≠ some ':' := by
  cases side with
  | nothing => decide
  | groups groups => exact groups.getLast?_ne

/-- A text is cut at the double colon behind its first side. -/
theorem cutWord_append (side : Side dotted n cs) (back : List Char) :
    Text.cutWord [':', ':'] (cs ++ ':' :: ':' :: back) = some (cs, back) := by
  have apart : ∀ a b, [':', ':'] = a ++ b → a ≠ [] → b ≠ [] → b <+: [':', ':'] → ¬ a <:+ cs := by
    -- the double colon has one proper beginning, and no side ends with it
    intro a b parts left right _ ending
    obtain ⟨x, a, rfl⟩ := List.exists_cons_of_ne_nil left
    obtain ⟨y, b, rfl⟩ := List.exists_cons_of_ne_nil right
    cases a with
    | nil =>
      cases parts
      exact side.getLast?_ne (List.singleton_suffix_iff_getLast?_eq_some.mp ending)
    | cons => simp at parts
  have cut := Text.cutWord_append (by decide) side.no_double apart back
  rwa [List.append_assoc] at cut

end Side

/-! ### Addresses -/

theorem isVersion6_iff {cs : List Char} : isVersion6 cs = true ↔ Version6 cs := by
  unfold isVersion6
  constructor
  · intro taken
    cases cut : Text.cutWord [':', ':'] cs with
    | none =>
      rw [cut] at taken
      exact .full (Groups.groupCount?_splitAt_iff.mp (beq_iff_eq.mp taken))
    | some sides =>
      obtain ⟨front, back⟩ := sides
      obtain ⟨rfl, -⟩ := Text.cutWord_some (by decide) cut
      rw [cut] at taken
      dsimp only at taken
      split at taken
      · rename_i m n before behind
        rw [List.append_assoc]
        exact .shortened (Side.groupCount?_side_iff.mp before) (Side.groupCount?_side_iff.mp behind)
          (of_decide_eq_true taken)
      · cases taken
  · rintro (groups | ⟨before, behind, few⟩)
    · rw [(Text.cutWord_eq_none_iff (by decide)).mpr groups.no_double]
      exact beq_iff_eq.mpr groups.groupCount?_splitAt
    · rw [before.cutWord_append]
      dsimp only
      rw [Side.groupCount?_side_iff.mpr before, Side.groupCount?_side_iff.mpr behind]
      exact decide_eq_true few

theorem isAddress_iff {cs : List Char} : isAddress cs = true ↔ WellFormed cs := by
  unfold isAddress WellFormed
  by_cases colon : ':' ∈ cs
  · simp [colon, isVersion6_iff]
  · simp [colon, isVersion4_iff]

example : isAddress "::ffff:192.0.2.1".toList = true ∧ isAddress "1:2:3:4:5:6::7:8".toList = false ∧
    isAddress "192.168.001.010".toList = true ∧ isAddress "::192.168.001.010".toList = false := by
  decide

theorem not_wellFormed_nil : ¬ WellFormed [] := by
  rintro (⟨-, a, b, c, d, -, -, -, -, whole⟩ | ⟨colon, -⟩)
  · simp at whole
  · cases colon

theorem Groups.bar_not_mem {dotted : Bool} {n : Nat} {cs : List Char} (groups : Groups dotted n cs) :
    '|' ∉ cs := by
  induction groups with
  | group group => exact group.not_mem (by decide)
  | quad _ quad => exact quad.not_mem (fun octet => octet.toSegment) rfl (by decide)
  | more group rest ih => simp [group.not_mem (show ¬ IsHex '|' by decide), ih]

theorem Side.bar_not_mem {dotted : Bool} {n : Nat} {cs : List Char} (side : Side dotted n cs) :
    '|' ∉ cs := by
  cases side with
  | nothing => exact List.not_mem_nil
  | groups groups => exact groups.bar_not_mem

/-- No address of either version has a bar in it. -/
theorem WellFormed.bar_not_mem {cs : List Char} (wellFormed : WellFormed cs) : '|' ∉ cs := by
  obtain ⟨-, quad⟩ | ⟨-, groups | ⟨before, behind, -⟩⟩ := wellFormed
  · exact quad.not_mem id rfl (by decide)
  · exact groups.bar_not_mem
  · simp [before.bar_not_mem, behind.bar_not_mem]

end DeviceSessions.Address
