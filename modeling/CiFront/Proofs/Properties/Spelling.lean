import CiFront.Proofs.Properties.Continuation
import CiFront.Proofs.Text.Utf16
import Mathlib.Data.List.Forall2
/-!
# Spellings of characters

A character has many spellings: for itself, behind a backslash, or as its escaped code units. All of
them are made of plain characters and of pairs of a backslash and a character, which is all that
splitting and gathering look at, and each is read back as the character that it spells.
-/

namespace CiFront.Properties

/-! ### Spellings -/

/-- The characters that may stand for themselves behind a backslash. -/
def IsEscapable (c : Char) : Prop :=
  c ∈ ['\\', '=', ':', '#', '!'] ∨ (Text.isBlank c = true ∧ c ≠ '\n' ∧ c ≠ '\r')

theorem IsEscapable.ne {c : Char} (h : IsEscapable c) : c ≠ '\n' ∧ c ≠ '\r' := by
  have hsigns : ∀ c ∈ ['\\', '=', ':', '#', '!'], c ≠ '\n' ∧ c ≠ '\r' := by simp
  rcases h with hc | hc
  · exact hsigns c hc
  · exact hc.2

/-- No letter that means something else behind a backslash stands there for itself. -/
theorem IsEscapable.not_mem_letters {c : Char} (h : IsEscapable c) : c ∉ ['n', 't', 'r', 'u'] := by
  have hletters : ∀ c ∈ ['n', 't', 'r', 'u'],
      c ∉ ['\\', '=', ':', '#', '!'] ∧ Text.isBlank c = false := by
    simp [Text.isBlank]
  intro hmem
  obtain ⟨hsign, hblank⟩ := hletters c hmem
  rcases h with hc | hc
  · exact hsign hc
  · rw [hc.1] at hblank
    cases hblank

/-- The ways to write a character, where those that are plain may stand for themselves. -/
inductive Spelling (plain : Char → Prop) : Char → List Char → Prop
  | plain {c} (h : plain c) : Spelling plain c [c]
  | escaped {c} (h : IsEscapable c) : Spelling plain c ['\\', c]
  | lineFeed : Spelling plain '\n' ['\\', 'n']
  | carriageReturn : Spelling plain '\r' ['\\', 'r']
  | tab : Spelling plain '\t' ['\\', 't']
  | units {c escapes} (h : List.Forall₂ Text.Utf16.Escapes (Text.Utf16.units c) escapes) :
      Spelling plain c escapes.flatten

/-- The ways to write a text, character by character. -/
inductive Spelled (plain : Char → Prop) : List Char → List Char → Prop
  | nil : Spelled plain [] []
  | cons {c rest raw more} (hfirst : Spelling plain c raw) (hrest : Spelled plain rest more) :
      Spelled plain (c :: rest) (raw ++ more)

theorem Spelling.ne_nil {plain : Char → Prop} {c : Char} {raw : List Char}
    (h : Spelling plain c raw) : raw ≠ [] := by
  cases h with
  | units hescapes =>
    rw [Text.Utf16.units] at hescapes
    split at hescapes <;> rcases hescapes with _ | ⟨hfirst, _⟩ <;> cases hfirst <;> simp
  | _ => exact List.cons_ne_nil _ _

theorem Spelled.ne_nil {plain : Char → Prop} {text raw : List Char} (h : Spelled plain text raw)
    (htext : text ≠ []) : raw ≠ [] := by
  cases h with
  | nil => exact absurd rfl htext
  | cons hfirst _ =>
    intro hempty
    exact hfirst.ne_nil (List.append_eq_nil_iff.mp hempty).1

/-! ### Raw texts -/

/-- A text of plain characters and of pairs of a backslash and a character. -/
inductive Raw (plain : Char → Prop) : List Char → Prop
  | nil : Raw plain []
  | plain {c rest} (h : plain c) (hrest : Raw plain rest) : Raw plain (c :: rest)
  | pair {c rest} (h : c ≠ '\n' ∧ c ≠ '\r') (hrest : Raw plain rest) : Raw plain ('\\' :: c :: rest)

section

variable {plain : Char → Prop} {raw more : List Char}

theorem Raw.append (h : Raw plain raw) (hmore : Raw plain more) : Raw plain (raw ++ more) := by
  induction h with
  | nil => exact hmore
  | plain hc _ ih => exact .plain hc ih
  | pair hc _ ih => exact .pair hc ih

theorem Raw.mono {wider : Char → Prop} (hplain : ∀ c, plain c → wider c) (h : Raw plain raw) :
    Raw wider raw := by
  induction h with
  | nil => exact .nil
  | plain hc _ ih => exact .plain (hplain _ hc) ih
  | pair hc _ ih => exact .pair hc ih

theorem Raw.of_forall (h : ∀ c ∈ raw, plain c) : Raw plain raw := by
  induction raw with
  | nil => exact .nil
  | cons c raw ih =>
    rw [List.forall_mem_cons] at h
    exact .plain h.1 (ih h.2)

theorem Raw.of_escapes {unit : Nat} (hdigits : ∀ c ∈ Text.Hex.alphabet, plain c)
    (h : Text.Utf16.Escapes unit raw) : Raw plain raw := by
  cases h with
  | mk ha hb hc hd =>
    exact .pair (by decide) (.plain (hdigits _ ha.mem_alphabet) (.plain (hdigits _ hb.mem_alphabet)
      (.plain (hdigits _ hc.mem_alphabet) (.plain (hdigits _ hd.mem_alphabet) .nil))))

theorem Raw.of_forall₂_escapes {units : List Nat} {escapes : List (List Char)}
    (hdigits : ∀ c ∈ Text.Hex.alphabet, plain c)
    (h : List.Forall₂ Text.Utf16.Escapes units escapes) : Raw plain escapes.flatten := by
  induction h with
  | nil => exact .nil
  | cons hfirst _ ih => exact (Raw.of_escapes hdigits hfirst).append ih

theorem Raw.of_spelling {c : Char} (hdigits : ∀ c ∈ Text.Hex.alphabet, plain c)
    (h : Spelling plain c raw) : Raw plain raw := by
  cases h with
  | plain hc => exact .plain hc .nil
  | escaped hc => exact .pair hc.ne .nil
  | lineFeed => exact .pair (by decide) .nil
  | carriageReturn => exact .pair (by decide) .nil
  | tab => exact .pair (by decide) .nil
  | units hescapes => exact Raw.of_forall₂_escapes hdigits hescapes

theorem Raw.of_spelled {text : List Char} (hdigits : ∀ c ∈ Text.Hex.alphabet, plain c)
    (h : Spelled plain text raw) : Raw plain raw := by
  induction h with
  | nil => exact .nil
  | cons hfirst _ ih => exact (Raw.of_spelling hdigits hfirst).append ih

end

/-! ### What is plain in keys and in values -/

/-- The characters that stand for themselves in a key, but for its start. -/
def IsPlainInKey (c : Char) : Prop :=
  c ∉ ['\\', '=', ':'] ∧ Text.isBlank c = false

/-- The characters that stand for themselves in a value, but for its start. -/
def IsPlainInValue (c : Char) : Prop :=
  c ∉ ['\\', '\n', '\r']

instance : DecidablePred IsPlainInKey :=
  fun c => inferInstanceAs (Decidable (c ∉ ['\\', '=', ':'] ∧ Text.isBlank c = false))

instance : DecidablePred IsPlainInValue :=
  fun c => inferInstanceAs (Decidable (c ∉ ['\\', '\n', '\r']))

theorem IsPlainInKey.ne {c : Char} (h : IsPlainInKey c) : c ≠ '\\' ∧ c ≠ '=' ∧ c ≠ ':' := by
  simpa using h.1

theorem IsPlainInValue.ne {c : Char} (h : IsPlainInValue c) : c ≠ '\\' ∧ c ≠ '\n' ∧ c ≠ '\r' := by
  simpa [IsPlainInValue] using h

theorem isPlainInKey_of_mem_alphabet : ∀ c ∈ Text.Hex.alphabet, IsPlainInKey c := by
  have hall : (Text.Hex.alphabet.all fun c => decide (IsPlainInKey c)) = true := by decide
  intro c hc
  exact of_decide_eq_true (List.all_eq_true.mp hall c hc)

theorem IsPlainInKey.isPlainInValue {c : Char} (h : IsPlainInKey c) : IsPlainInValue c := by
  obtain ⟨hsigns, hblank⟩ := h
  intro hmem
  have hcases : ∀ c ∈ ['\\', '\n', '\r'], c ∈ ['\\', '=', ':'] ∨ Text.isBlank c = true := by
    simp [Text.isBlank]
  rcases hcases c hmem with hsign | hblank'
  · exact hsigns hsign
  · rw [hblank] at hblank'
    cases hblank'

section

variable {raw : List Char}

theorem Spelled.raw_key {text : List Char} (h : Spelled IsPlainInKey text raw) :
    Raw IsPlainInKey raw :=
  Raw.of_spelled isPlainInKey_of_mem_alphabet h

theorem Spelled.raw_value {text : List Char} (h : Spelled IsPlainInValue text raw) :
    Raw IsPlainInValue raw :=
  Raw.of_spelled (fun c hc => (isPlainInKey_of_mem_alphabet c hc).isPlainInValue) h

theorem Raw.head_not_blank (h : Raw IsPlainInKey raw) :
    ∀ c ∈ raw.head?, Text.isBlank c = false := by
  cases h with
  | nil => exact fun c hc => nomatch hc
  | plain hc _ =>
    rintro _ ⟨⟩
    exact hc.2
  | pair _ _ =>
    rintro _ ⟨⟩
    decide

/-- A raw text leaves no backslash over. -/
theorem Raw.isContinued_eq (h : Raw IsPlainInValue raw) : isContinued raw = false := by
  induction h with
  | nil => rfl
  | plain hc _ ih => rwa [isContinued_cons_of_ne hc.ne.1]
  | pair _ _ ih => rwa [isContinued_pair]

theorem Raw.forall_ne (h : Raw IsPlainInValue raw) : ∀ c ∈ raw, c ≠ '\n' ∧ c ≠ '\r' := by
  induction h with
  | nil => exact fun c hc => nomatch hc
  | plain hc _ ih =>
    rw [List.forall_mem_cons]
    exact ⟨hc.ne.2, ih⟩
  | pair hc _ ih =>
    rw [List.forall_mem_cons, List.forall_mem_cons]
    exact ⟨by decide, hc, ih⟩

theorem split_cons_of_ne {c : Char} (h : c ≠ '\\') (rest : List Char) :
    split (c :: rest) = if c = '=' ∨ c = ':' then ([], Text.trimStart rest)
      else if Text.isBlank c then ([], afterBlank rest)
      else (c :: (split rest).1, (split rest).2) := by
  rw [split]
  · exact fun heq => absurd heq h
  · exact fun _ _ heq => absurd heq h

/-- Splitting passes a raw key by. -/
theorem Raw.split_append (h : Raw IsPlainInKey raw) (rest : List Char) :
    split (raw ++ rest) = (raw ++ (split rest).1, (split rest).2) := by
  induction h with
  | nil => rfl
  | @plain c raw hc _ ih =>
    obtain ⟨hbackslash, hseparator⟩ := hc.ne
    rw [List.cons_append, split_cons_of_ne hbackslash, if_neg (not_or.mpr hseparator), hc.2,
      if_neg Bool.false_ne_true, ih]
    rfl
  | pair _ _ ih =>
    rw [List.cons_append, List.cons_append, split, ih]
    rfl

end

/-! ### Reading a spelling back -/

theorem unescape_cons_of_ne {c : Char} (h : c ≠ '\\') (rest : List Char) :
    unescape (c :: rest) = (unescape rest).map (c :: ·) := by
  rw [unescape]
  · exact fun hc => absurd hc h
  · exact fun _ _ _ _ _ hc => absurd hc h
  · exact fun _ hc => absurd hc h
  · exact fun _ _ hc => absurd hc h

theorem unescape_pair {c : Char} (h : c ≠ 'u') (rest : List Char) :
    unescape ('\\' :: c :: rest) = (unescape rest).map (unescapeChar c :: ·) := by
  rw [unescape]
  · exact fun _ _ _ _ _ hc => absurd hc h
  · exact fun hc => absurd hc h

theorem unescape_escapable {c : Char} (h : IsEscapable c) (rest : List Char) :
    unescape ('\\' :: c :: rest) = (unescape rest).map (c :: ·) := by
  have hletters := h.not_mem_letters
  simp only [List.mem_cons, List.not_mem_nil, or_false, not_or] at hletters
  obtain ⟨hn, ht, hr, hu⟩ := hletters
  have hself : unescapeChar c = c := by
    rw [unescapeChar]
    · exact hn
    · exact ht
    · exact hr
  rw [unescape_pair hu, hself]

theorem unit?_eq {unit : Nat} {a b c d : Char}
    (h : Text.Utf16.Escapes unit ['\\', 'u', a, b, c, d]) : unit? [a, b, c, d] = some unit := by
  have hvalue := h.value?_eq
  cases h with
  | mk ha _ _ _ =>
    have hplus : a ≠ '+' := by
      rintro rfl
      exact absurd ha.mem_alphabet (by decide)
    rw [unit?, hvalue]
    intro digits hdigits
    exact hplus (List.cons.inj hdigits).1

theorem unescape_unit {a b c d char : Char} {unit : Nat} (hunit : unit? [a, b, c, d] = some unit)
    (hhigh : Text.Utf16.isHigh unit = false) (hchar : Text.Utf16.char? unit = some char)
    (rest : List Char) :
    unescape ('\\' :: 'u' :: a :: b :: c :: d :: rest) = (unescape rest).map (char :: ·) := by
  rw [unescape, hunit]
  simp only [hhigh, hchar, Bool.false_eq_true, if_false]

theorem unescape_unitPair {a b c d e f g h char : Char} {high low : Nat}
    (hfirst : unit? [a, b, c, d] = some high) (hhigh : Text.Utf16.isHigh high = true)
    (hsecond : unit? [e, f, g, h] = some low) (hlow : Text.Utf16.isLow low = true)
    (hchar : Text.Utf16.pair? high low = some char) (rest : List Char) :
    unescape ('\\' :: 'u' :: a :: b :: c :: d :: '\\' :: 'u' :: e :: f :: g :: h :: rest)
      = (unescape rest).map (char :: ·) := by
  rw [unescape, hfirst]
  simp only [hhigh, if_true, hsecond, Option.filter_some, hlow, hchar]

theorem unescape_units {c : Char} {escapes : List (List Char)}
    (h : List.Forall₂ Text.Utf16.Escapes (Text.Utf16.units c) escapes) (rest : List Char) :
    unescape (escapes.flatten ++ rest) = (unescape rest).map (c :: ·) := by
  rcases Text.Utf16.units_eq c with hone | ⟨high, low, htwo⟩
  · rw [hone] at h
    rcases h with _ | ⟨hfirst, _ | _⟩
    obtain ⟨_, _, _, _, rfl⟩ := hfirst.exists_eq
    rw [List.flatten_singleton]
    exact unescape_unit (unit?_eq hfirst) (Text.Utf16.isHigh_toNat c) (Text.Utf16.char?_toNat c) rest
  · obtain ⟨hhigh, hlow, hpair⟩ := Text.Utf16.pair?_units htwo
    rw [htwo] at h
    rcases h with _ | ⟨hfirst, _ | ⟨hsecond, _ | _⟩⟩
    obtain ⟨_, _, _, _, rfl⟩ := hfirst.exists_eq
    obtain ⟨_, _, _, _, rfl⟩ := hsecond.exists_eq
    exact unescape_unitPair (unit?_eq hfirst) hhigh (unit?_eq hsecond) hlow hpair rest

/-- A spelling is read back as what it spells. -/
theorem Spelling.unescape_append {plain : Char → Prop} {c : Char} {raw : List Char}
    (hplain : ∀ c, plain c → c ≠ '\\') (h : Spelling plain c raw) (rest : List Char) :
    unescape (raw ++ rest) = (unescape rest).map (c :: ·) := by
  cases h with
  | plain hc => exact unescape_cons_of_ne (hplain c hc) rest
  | escaped hc => exact unescape_escapable hc rest
  | lineFeed => exact unescape_pair (by decide) rest
  | carriageReturn => exact unescape_pair (by decide) rest
  | tab => exact unescape_pair (by decide) rest
  | units hescapes => exact unescape_units hescapes rest

theorem Spelled.unescape_eq {plain : Char → Prop} {text raw : List Char}
    (hplain : ∀ c, plain c → c ≠ '\\') (h : Spelled plain text raw) : unescape raw = .ok text := by
  induction h with
  | nil => rw [unescape]
  | cons hfirst _ ih =>
    rw [hfirst.unescape_append hplain, ih]
    rfl

end CiFront.Properties
