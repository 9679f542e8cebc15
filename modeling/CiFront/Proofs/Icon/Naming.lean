import CiFront.Icon.Ball
import CiFront.Proofs.Text.Case
import CiFront.Proofs.Text.Strip
/-!
# Texts that name a ball

A text names a ball if it is the text of the ball in any letter case, with blanks around it. Reading
accepts the texts that name a ball and nothing else, no text names two balls, and whatever comes near to a
name without being one is refused as it stands.
-/

namespace CiFront.Icon

/-! ### Tokens -/

theorem Tone.find?_token_eq_some_iff {s : List Char} {tone : Tone} :
    Tone.all.find? (·.token.toList == s) = some tone ↔ s = tone.token.toList := by
  constructor
  · intro h
    have htoken := List.find?_some h
    exact (beq_iff_eq.mp htoken).symm
  · rintro rfl
    cases tone <;> rfl

namespace Ball

/-! ### Suffixes -/

theorem beforeSuffix?_eq_some_iff {ending s front : List Char} :
    beforeSuffix? ending s = some front ↔ s = front ++ ending := by
  rw [beforeSuffix?]
  constructor
  · intro h
    split at h
    next hsuffix =>
      obtain ⟨before, rfl⟩ := List.isSuffixOf_iff_suffix.mp hsuffix
      rw [List.length_append, Nat.add_sub_cancel, List.take_left] at h
      rw [Option.some.inj h]
    next => cases h
  · rintro rfl
    rw [if_pos (List.isSuffixOf_iff_suffix.mpr (List.suffix_append front ending)), List.length_append,
      Nat.add_sub_cancel, List.take_left]

/-- No token ends in the suffix of animated balls, so the suffix of a text tells that its ball is one. -/
theorem token_ne_append_suffix (tone : Tone) (front : List Char) :
    tone.token.toList ≠ front ++ animatedSuffix.toList := by
  have hnone : beforeSuffix? animatedSuffix.toList tone.token.toList = none := by
    cases tone <;> decide
  intro h
  rw [beforeSuffix?_eq_some_iff.mpr h] at hnone
  cases hnone

/-! ### Texts of balls -/

theorem toList_text_of_animated {ball : Ball} (h : ball.animated = true) :
    ball.text.toList = ball.tone.token.toList ++ animatedSuffix.toList := by
  rw [text, if_pos h, String.toList_append]

theorem toList_text_of_still {ball : Ball} (h : ball.animated = false) :
    ball.text.toList = ball.tone.token.toList := by
  rw [text, h, if_neg Bool.false_ne_true]

theorem forall_mem_text (ball : Ball) :
    ∀ c ∈ ball.text.toList, c.isUpper = false ∧ Text.isBlank c = false ∧ c.toNat < 128 := by
  have hall : (ball.text.toList.all fun c =>
      !c.isUpper && !Text.isBlank c && decide (c.toNat < 128)) = true := by
    obtain ⟨tone, animated⟩ := ball
    cases tone <;> cases animated <;> decide +kernel
  intro c hc
  simpa [and_assoc] using List.all_eq_true.mp hall c hc

theorem ofFolded?_eq_some_iff {s : List Char} {ball : Ball} :
    ofFolded? s = some ball ↔ s = ball.text.toList := by
  obtain ⟨tone, animated⟩ := ball
  rw [ofFolded?]
  cases hending : beforeSuffix? animatedSuffix.toList s with
  | some base =>
    obtain rfl := beforeSuffix?_eq_some_iff.mp hending
    simp only [Option.map_eq_some_iff, Tone.find?_token_eq_some_iff]
    cases animated with
    | true => simp [toList_text_of_animated]
    | false => simpa [toList_text_of_still] using (token_ne_append_suffix tone base).symm
  | none =>
    simp only [Option.map_eq_some_iff, Tone.find?_token_eq_some_iff]
    cases animated with
    | true =>
      have hnot : s ≠ tone.token.toList ++ animatedSuffix.toList := by
        intro h
        rw [beforeSuffix?_eq_some_iff.mpr h] at hending
        cases hending
      simpa [toList_text_of_animated] using hnot
    | false => simp [toList_text_of_still]

/-! ### Names -/

/-- Whether a text is the one of a ball in some letter case, with blanks around it. -/
def Names (ball : Ball) (text : String) : Prop :=
  ∃ core, Text.StripsTo Text.isBlank text.toList core
    ∧ Text.agreeUpToCase core ball.text.toList = true

/-- What comes near to a ball's text: it ends in the suffix twice or is the suffix alone, or it has a blank
or a character beyond ASCII. -/
inductive IsNearMiss (core : List Char) : Prop
  | repeatedSuffix {front} (h : Text.agreeUpToCase core
      (front ++ animatedSuffix.toList ++ animatedSuffix.toList) = true) : IsNearMiss core
  | bareSuffix (h : Text.agreeUpToCase core animatedSuffix.toList = true) : IsNearMiss core
  | blank {c} (hmem : c ∈ core) (hblank : Text.isBlank c = true) : IsNearMiss core
  | beyondAscii {c} (hmem : c ∈ core) (hbeyond : 128 ≤ c.toNat) : IsNearMiss core

variable {core : List Char} {text : String} {ball : Ball}

theorem lower_text (ball : Ball) : Text.lower ball.text.toList = ball.text.toList :=
  Text.lower_eq_self fun c hc => (ball.forall_mem_text c hc).1

theorem agreeUpToCase_text_iff :
    Text.agreeUpToCase core ball.text.toList = true ↔ Text.lower core = ball.text.toList := by
  rw [Text.agreeUpToCase, beq_iff_eq, lower_text]

theorem names_iff : ball.Names text ↔ Text.lower (Text.trim text.toList) = ball.text.toList := by
  simp only [Names, Text.stripsTo_isBlank_iff, agreeUpToCase_text_iff, exists_eq_left']

instance (ball : Ball) (text : String) : Decidable (ball.Names text) :=
  decidable_of_iff _ names_iff.symm

theorem parse_eq_ok_iff_names : parse text = .ok ball ↔ ball.Names text := by
  rw [names_iff, ← ofFolded?_eq_some_iff, parse]
  cases ofFolded? (Text.lower (Text.trim text.toList)) <;> simp

theorem parse_eq_error_iff {error : Error} :
    parse text = .error error ↔ error = .unknownBall text ∧ ∀ ball : Ball, ¬ ball.Names text := by
  simp only [← parse_eq_ok_iff_names]
  rw [parse]
  cases ofFolded? (Text.lower (Text.trim text.toList)) <;> simp [eq_comm]

/-- A capital is no blank and is within ASCII, and every other character stands in the text itself. -/
theorem forall_mem_of_agreeUpToCase (h : Text.agreeUpToCase core ball.text.toList = true) :
    ∀ c ∈ core, Text.isBlank c = false ∧ c.toNat < 128 := by
  intro c hc
  cases hcapital : c.isUpper with
  | true =>
    have halphanum : c.isAlphanum = true := by simp [Char.isAlphanum, Char.isAlpha, hcapital]
    exact ⟨Text.isBlank_eq_false_of_isAlphanum halphanum, Text.toNat_lt_of_isUpper hcapital⟩
  | false =>
    have hmem : c.toLower ∈ Text.lower core := List.mem_map_of_mem hc
    rw [agreeUpToCase_text_iff.mp h, Char.toLower_eq_of_not_isUpper (Bool.eq_false_iff.mp hcapital)]
      at hmem
    exact (ball.forall_mem_text c hmem).2

theorem text_ne_suffix (ball : Ball) : ball.text.toList ≠ animatedSuffix.toList := by
  obtain ⟨tone, animated⟩ := ball
  cases tone <;> cases animated <;> decide

theorem text_ne_append_suffix_suffix (ball : Ball) (front : List Char) :
    ball.text.toList ≠ front ++ animatedSuffix.toList ++ animatedSuffix.toList := by
  cases hanimated : ball.animated with
  | true =>
    rw [toList_text_of_animated hanimated]
    intro h
    exact token_ne_append_suffix ball.tone front (List.append_cancel_right h)
  | false =>
    rw [toList_text_of_still hanimated]
    exact token_ne_append_suffix ball.tone (front ++ animatedSuffix.toList)

theorem IsNearMiss.not_agreeUpToCase (hmiss : IsNearMiss core) (ball : Ball) :
    ¬ Text.agreeUpToCase core ball.text.toList = true := by
  have hsuffix : Text.lower animatedSuffix.toList = animatedSuffix.toList := by decide
  intro h
  have hlower := agreeUpToCase_text_iff.mp h
  cases hmiss with
  | @repeatedSuffix front hrepeated =>
    rw [Text.agreeUpToCase, beq_iff_eq, hlower, Text.lower, List.map_append, List.map_append] at hrepeated
    exact ball.text_ne_append_suffix_suffix _ (hsuffix ▸ hrepeated)
  | bareSuffix hbare =>
    rw [Text.agreeUpToCase, beq_iff_eq, hlower, hsuffix] at hbare
    exact ball.text_ne_suffix hbare
  | blank hmem hblank =>
    rw [(forall_mem_of_agreeUpToCase h _ hmem).1] at hblank
    cases hblank
  | beyondAscii hmem hbeyond =>
    exact absurd (forall_mem_of_agreeUpToCase h _ hmem).2 (Nat.not_lt.mpr hbeyond)

/-- **Reading accepts the names of balls and nothing else.** A text is read as the ball that it names, no
text names two, and every other text is refused as it stands. So is what comes near to a ball's text
between blanks. -/
theorem parse_eq_ok_iff_names_and_unique_and_eq_error_iff (text : String) :
    (∀ ball, parse text = .ok ball ↔ ball.Names text)
      ∧ (∀ first second : Ball, first.Names text → second.Names text → first = second)
      ∧ (∀ error, parse text = .error error ↔ error = .unknownBall text ∧ ∀ ball : Ball, ¬ ball.Names text)
      ∧ ∀ core, Text.StripsTo Text.isBlank text.toList core → IsNearMiss core →
        parse text = .error (.unknownBall text) := by
  refine ⟨fun ball => parse_eq_ok_iff_names, ?_, fun error => parse_eq_error_iff, ?_⟩
  · intro first second hfirst hsecond
    have hread := parse_eq_ok_iff_names.mpr hfirst
    rw [parse_eq_ok_iff_names.mpr hsecond] at hread
    exact (Except.ok.inj hread).symm
  · intro core hcore hmiss
    refine parse_eq_error_iff.mpr ⟨rfl, ?_⟩
    rintro ball ⟨other, hother, hagrees⟩
    rw [Text.stripsTo_isBlank_iff] at hcore hother
    rw [← hother, hcore] at hagrees
    exact hmiss.not_agreeUpToCase ball hagrees

/-- A name with capitals between blanks, and near misses: the suffix twice in capitals, a blank in front of
the suffix, and a Kelvin sign for a letter. -/
theorem parse_blueAnime_and_nearMisses :
    (Ball.mk .blue true).Names "\u00a0Blue_ANIME\n"
      ∧ parse "\u00a0Blue_ANIME\n" = .ok ⟨.blue, true⟩
      ∧ parse " RED_anime_ANIME" = .error (.unknownBall " RED_anime_ANIME")
      ∧ parse "red _anime" = .error (.unknownBall "red _anime")
      ∧ parse "re\u212a" = .error (.unknownBall "re\u212a") := by
  have hnames : (Ball.mk .blue true).Names "\u00a0Blue_ANIME\n" := by decide
  have hrepeated : IsNearMiss "RED_anime_ANIME".toList :=
    @IsNearMiss.repeatedSuffix _ "red".toList (by decide)
  have hblank : IsNearMiss "red _anime".toList := .blank (c := ' ') (by decide) rfl
  have hkelvin : IsNearMiss "re\u212a".toList := .beyondAscii (c := '\u212a') (by decide) (by decide)
  refine ⟨hnames, ?_, ?_, ?_, ?_⟩
  · exact ((parse_eq_ok_iff_names_and_unique_and_eq_error_iff _).1 _).mpr hnames
  · exact (parse_eq_ok_iff_names_and_unique_and_eq_error_iff _).2.2.2 _ (by decide) hrepeated
  · exact (parse_eq_ok_iff_names_and_unique_and_eq_error_iff _).2.2.2 _ (by decide) hblank
  · exact (parse_eq_ok_iff_names_and_unique_and_eq_error_iff _).2.2.2 _ (by decide) hkelvin

end Ball

end CiFront.Icon
