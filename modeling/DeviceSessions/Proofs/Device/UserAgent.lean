import DeviceSessions.Device.UserAgent
import DeviceSessions.Proofs.Text

/-!
# The labels of a user agent agree

The operating system and the form factor are found by two searches that do not know of each other,
in texts that name several families at once. They agree all the same, because every word for a phone
or a tablet system is also one that the search for the form factor knows.
-/

namespace DeviceSessions

theorem mentions_iff {text : List Char} {words : List String} :
    mentions text words = true ↔ ∃ word ∈ words, word.toList <:+: text := by
  unfold mentions
  rw [List.any_eq_true]
  simp only [Text.occursIn_iff]

theorem mentions_append (text : List Char) (words words' : List String) :
    mentions text (words ++ words') = (mentions text words || mentions text words') :=
  List.any_append

/-! ### The system -/

namespace OperatingSystem

variable {text : List Char}

theorem mentions_of_iOS (found : ofText text = iOS) :
    mentions text ["iphone", "ipad", "ipod"] = true := by
  unfold ofText at found
  by_contra absent
  rw [if_neg absent] at found
  split_ifs at found

theorem mentions_of_android (found : ofText text = android) : mentions text ["android"] = true := by
  unfold ofText at found
  by_contra absent
  rw [if_neg absent] at found
  split_ifs at found

theorem isDesktop_iff {os : OperatingSystem} :
    os.isDesktop = true ↔ os ∈ [windows, macOS, linux, chromeOS] := by
  cases os <;> decide

end OperatingSystem

/-! ### The form factor -/

namespace DeviceKind

variable {text : List Char} {os : OperatingSystem}

/-- Words for phones and tablets and for the systems of both. -/
def handheldWords : List String := ["ipad", "tablet", "android", "mobi", "iphone", "ipod"]

/-- A text with the word that keeps a device from being a tablet has a word for phones, which is
part of it. -/
theorem mentions_of_mobile (found : mentions text ["mobile"] = true) :
    mentions text ["mobi", "iphone", "ipod"] = true := by
  obtain ⟨word, member, inside⟩ := mentions_iff.mp found
  obtain rfl := List.mem_singleton.mp member
  have part : "mobi".toList <:+: "mobile".toList := ⟨[], ['l', 'e'], rfl⟩
  exact mentions_iff.mpr ⟨"mobi", List.mem_cons_self, part.trans inside⟩

theorem handheldWords_eq (text : List Char) :
    mentions text handheldWords = (mentions text ["ipad", "tablet"] ||
      (mentions text ["android"] || mentions text ["mobi", "iphone", "ipod"])) := by
  rw [← mentions_append, ← mentions_append]
  rfl

/-- A text with such a word is labelled by its words. -/
theorem ofUserAgent_of_marked
    (marked : mentions text botWords = true ∨ mentions text handheldWords = true) :
    ofUserAgent text os ≠ desktop ∧ ofUserAgent text os ≠ unknown := by
  rw [handheldWords_eq] at marked
  unfold ofUserAgent
  split
  · decide
  · split
    · decide
    · rename_i noBot noTablet
      -- What is left of a word for phones or of a phone's system is a word for phones.
      have phone : mentions text ["mobi", "iphone", "ipod"] = true := by
        cases spoken : mentions text ["mobile"] with
        | true => exact mentions_of_mobile spoken
        | false => simp_all
      rw [if_pos phone]
      decide

/-- A text without such a word is labelled by its system. -/
theorem ofUserAgent_of_unmarked (noBot : mentions text botWords = false)
    (noHandheld : mentions text handheldWords = false) :
    ofUserAgent text os = if os.isDesktop then desktop else unknown := by
  rw [handheldWords_eq] at noHandheld
  simp only [Bool.or_eq_false_iff] at noHandheld
  obtain ⟨noTablet, noAndroid, noPhone⟩ := noHandheld
  unfold ofUserAgent
  simp [noBot, noTablet, noAndroid, noPhone]

end DeviceKind

namespace UserAgent

/-- No word for a form factor is in the text, whatever the case of its letters. -/
def Unmarked (text : String) : Prop :=
  ∀ word ∈ botWords ++ DeviceKind.handheldWords, ¬ word.toList <:+: text.toLower.toList

/-- What the labels of a text have to do with each other and with its words. -/
structure Consistent (text : String) : Prop where
  handheld : (ofText text).os = .iOS ∨ (ofText text).os = .android →
    (ofText text).kind ≠ .desktop ∧ (ofText text).kind ≠ .unknown
  computer : (ofText text).os ∈ [.windows, .macOS, .linux, .chromeOS] →
    (ofText text).kind ≠ .unknown
  desktop : (ofText text).kind = .desktop ↔
    (ofText text).os ∈ [.windows, .macOS, .linux, .chromeOS] ∧ Unmarked text
  unknown : (ofText text).kind = .unknown ↔ (ofText text).os = .unknown ∧ Unmarked text
  letterCase : ∀ other : String, other.toLower = text.toLower → ofText other = ofText text

theorem ofText_eq (text : String) :
    ofText text = ⟨.ofText text.toLower.toList, .ofText text.toLower.toList,
      .ofUserAgent text.toLower.toList (.ofText text.toLower.toList)⟩ := by
  rw [← Text.map_asciiLower]
  rfl

theorem unmarked_iff (text : String) :
    Unmarked text ↔ mentions text.toLower.toList botWords = false ∧
      mentions text.toLower.toList DeviceKind.handheldWords = false := by
  rw [← Bool.or_eq_false_iff, ← mentions_append, ← Bool.not_eq_true, mentions_iff]
  unfold Unmarked
  simp

theorem kind_of_unmarked {text : String} (unmarked : Unmarked text) :
    (ofText text).kind = if (ofText text).os.isDesktop then .desktop else .unknown := by
  obtain ⟨noBot, noHandheld⟩ := (unmarked_iff text).mp unmarked
  rw [ofText_eq]
  exact DeviceKind.ofUserAgent_of_unmarked noBot noHandheld

theorem kind_of_marked {text : String} (marked : ¬Unmarked text) :
    (ofText text).kind ≠ .desktop ∧ (ofText text).kind ≠ .unknown := by
  rw [unmarked_iff, not_and_or, Bool.not_eq_false, Bool.not_eq_false] at marked
  rw [ofText_eq]
  exact DeviceKind.ofUserAgent_of_marked marked

theorem marked_of_handheld {text : String}
    (handheld : (ofText text).os = .iOS ∨ (ofText text).os = .android) : ¬Unmarked text := by
  rw [ofText_eq] at handheld
  intro unmarked
  -- The words that a system is known by are among those of the form factors.
  have absent : ∀ words ⊆ DeviceKind.handheldWords, ¬mentions text.toLower.toList words = true := by
    intro words known found
    obtain ⟨word, member, inside⟩ := mentions_iff.mp found
    exact unmarked word (List.mem_append_right _ (known member)) inside
  rcases handheld with iOS | android
  · exact absent _ (by decide) (OperatingSystem.mentions_of_iOS iOS)
  · exact absent _ (by decide) (OperatingSystem.mentions_of_android android)

theorem kind_eq_desktop_iff {text : String} :
    (ofText text).kind = .desktop ↔ (ofText text).os.isDesktop = true ∧ Unmarked text := by
  constructor
  · intro desktop
    have unmarked : Unmarked text := by
      by_contra marked
      exact (kind_of_marked marked).1 desktop
    rw [kind_of_unmarked unmarked] at desktop
    refine ⟨?_, unmarked⟩
    by_contra other
    rw [if_neg other] at desktop
    cases desktop
  · rintro ⟨computer, unmarked⟩
    rw [kind_of_unmarked unmarked, if_pos computer]

theorem kind_eq_unknown_iff {text : String} :
    (ofText text).kind = .unknown ↔ (ofText text).os = .unknown ∧ Unmarked text := by
  constructor
  · intro unknown
    have unmarked : Unmarked text := by
      by_contra marked
      exact (kind_of_marked marked).2 unknown
    rw [kind_of_unmarked unmarked] at unknown
    refine ⟨?_, unmarked⟩
    cases system : (ofText text).os with
    | unknown => rfl
    | iOS => exact absurd unmarked (marked_of_handheld (.inl system))
    | android => exact absurd unmarked (marked_of_handheld (.inr system))
    | _ =>
      rw [system] at unknown
      cases unknown
  · rintro ⟨system, unmarked⟩
    rw [kind_of_unmarked unmarked, system]
    rfl

/-- The labels of every text agree: a phone system is on no desktop, a desktop system is on no device
of an unknown form, a desktop is what has such a system and no word for anything else in its text, and
of an unknown form is only what has an unknown system. The case of ASCII letters does not matter. -/
theorem labels_agree (text : String) : Consistent text := by
  constructor
  · intro handheld
    exact kind_of_marked (marked_of_handheld handheld)
  · intro computer unknown
    rw [(kind_eq_unknown_iff.mp unknown).1] at computer
    exact absurd computer (by decide)
  · rw [← OperatingSystem.isDesktop_iff]
    exact kind_eq_desktop_iff
  · exact kind_eq_unknown_iff
  · intro other same
    rw [ofText_eq, ofText_eq, same]

/-- A tablet that also names the desktop system of its maker, in capitals. -/
example : ofText "MOZILLA/5.0 (IPAD; CPU OS 17_5 LIKE MAC OS X)" = ⟨.iOS, .unknown, .tablet⟩ := by
  decide

end UserAgent

end DeviceSessions
