import CiFront.Proofs.Bundle.History
import CiFront.Proofs.Properties.Spelling
import CiFront.Proofs.Text.Hex
/-!
# Bad escapes

A text is refused if four hexadecimal digits do not follow the `u` of an escape in one of its keys or
values, with one exception: a plus sign may take the place of the first digit, and is read as a zero.
-/

namespace CiFront.Properties

open Text.Utf16

/-! ### What can be read -/

/-- The raw texts that can be read, and the texts that they stand for. -/
inductive Reads : List Char → List Char → Prop
  | nil : Reads [] []
  | backslash : Reads ['\\'] []
  | unit {a b c d unit char raw text} (hunit : unit? [a, b, c, d] = some unit)
      (hhigh : isHigh unit = false) (hchar : char? unit = some char) (hrest : Reads raw text) :
      Reads ('\\' :: 'u' :: a :: b :: c :: d :: raw) (char :: text)
  | pair {a b c d e f g h high low char raw text} (hfirst : unit? [a, b, c, d] = some high)
      (hhigh : isHigh high = true) (hsecond : unit? [e, f, g, h] = some low) (hlow : isLow low = true)
      (hchar : pair? high low = some char) (hrest : Reads raw text) :
      Reads ('\\' :: 'u' :: a :: b :: c :: d :: '\\' :: 'u' :: e :: f :: g :: h :: raw) (char :: text)
  | escaped {c raw text} (h : c ≠ 'u') (hrest : Reads raw text) :
      Reads ('\\' :: c :: raw) (unescapeChar c :: text)
  | plain {c raw text} (h : c ≠ '\\') (hrest : Reads raw text) : Reads (c :: raw) (c :: text)

theorem exists_unescape_of_map {raw text : List Char} {char : Char}
    (h : (unescape raw).map (char :: ·) = .ok text) :
    ∃ rest, unescape raw = .ok rest ∧ text = char :: rest := by
  cases hraw : unescape raw with
  | error fault =>
    rw [hraw] at h
    cases h
  | ok rest =>
    rw [hraw] at h
    cases h
    exact ⟨rest, rfl, rfl⟩

theorem reads_of_unescape {raw text : List Char} (h : unescape raw = .ok text) : Reads raw text := by
  fun_induction unescape raw generalizing text with
  | case1 =>
    cases h
    exact .nil
  | case2 =>
    cases h
    exact .backslash
  | case6 a b c d high hfirst hhigh e f g i raw low hsecond char hchar ih =>
    obtain ⟨rest, hrest, rfl⟩ := exists_unescape_of_map h
    obtain ⟨hunit, hlow⟩ := Option.filter_eq_some_iff.mp hsecond
    exact .pair hfirst hhigh hunit hlow hchar (ih hrest)
  | case9 a b c d raw unit hunit hhigh char hchar ih =>
    obtain ⟨rest, hrest, rfl⟩ := exists_unescape_of_map h
    exact .unit hunit (Bool.eq_false_iff.mpr hhigh) hchar (ih hrest)
  | case11 c raw _ hc ih =>
    obtain ⟨rest, hrest, rfl⟩ := exists_unescape_of_map h
    exact .escaped hc (ih hrest)
  | case12 c raw hend _ _ hpair ih =>
    obtain ⟨rest, hrest, rfl⟩ := exists_unescape_of_map h
    refine .plain ?_ (ih hrest)
    rintro rfl
    cases raw with
    | nil => exact hend rfl rfl
    | cons d raw => exact hpair d raw rfl rfl
  | _ => cases h

/-! ### Where escapes stand -/

/-- Whether a raw text has an escape, and what follows its `u`. The backslash of an escape is not
escaped itself, so an even number of backslashes stands in front of it. -/
def HasEscape (raw after : List Char) : Prop :=
  ∃ before, raw = before ++ '\\' :: 'u' :: after ∧ isContinued before = false

/-- Whether the raw key or the raw value of a line has an escape. -/
def LogicalLine.HasEscape (line : LogicalLine) (after : List Char) : Prop :=
  Properties.HasEscape (split line.text).1 after ∨ Properties.HasEscape (split line.text).2 after

section

variable {raw after : List Char}

theorem HasEscape.ne_nil (h : HasEscape raw after) : raw ≠ [] := by
  obtain ⟨before, rfl, _⟩ := h
  simp

theorem HasEscape.of_cons {c : Char} (hc : c ≠ '\\') (h : HasEscape (c :: raw) after) :
    HasEscape raw after := by
  obtain ⟨before, heq, hbefore⟩ := h
  cases before with
  | nil => exact absurd (List.cons.inj heq).1 hc
  | cons d before =>
    obtain ⟨rfl, rfl⟩ := List.cons.inj heq
    rw [isContinued_cons_of_ne hc] at hbefore
    exact ⟨before, rfl, hbefore⟩

theorem HasEscape.of_pair {c : Char} (h : HasEscape ('\\' :: c :: raw) after) :
    c = 'u' ∧ after = raw ∨ HasEscape raw after := by
  obtain ⟨before, heq, hbefore⟩ := h
  match before with
  | [] =>
    obtain ⟨rfl, rfl⟩ := List.cons.inj (List.cons.inj heq).2
    exact .inl ⟨rfl, rfl⟩
  | [d] =>
    obtain ⟨rfl, _⟩ := List.cons.inj heq
    cases hbefore
  | d :: e :: before =>
    obtain ⟨rfl, hrest⟩ := List.cons.inj heq
    obtain ⟨rfl, rfl⟩ := List.cons.inj hrest
    rw [isContinued_pair] at hbefore
    exact .inr ⟨before, rfl, hbefore⟩

theorem HasEscape.of_forall_ne {front : List Char} (hfront : ∀ c ∈ front, c ≠ '\\')
    (h : HasEscape (front ++ raw) after) : HasEscape raw after := by
  induction front with
  | nil => exact h
  | cons c front ih =>
    obtain ⟨hc, hrest⟩ := List.forall_mem_cons.mp hfront
    exact ih hrest (h.of_cons hc)

end

/-! ### What follows an escape that can be read -/

/-- Whether a text starts with hexadecimal digits, as many as given. -/
def StartsWithDigits (count : Nat) (s : List Char) : Prop :=
  count ≤ s.length ∧ ∀ c ∈ s.take count, c ∈ Text.Hex.alphabet

/-- Whether a text starts with a plus sign and three hexadecimal digits. -/
def StartsWithPlus (s : List Char) : Prop :=
  ∃ digits, s = '+' :: digits ∧ StartsWithDigits 3 digits

instance (count : Nat) (s : List Char) : Decidable (StartsWithDigits count s) :=
  @instDecidableAnd _ _ (Nat.decLe count s.length) (List.decidableBAll _ (s.take count))

section

variable {a b c d : Char} {unit : Nat}

theorem forall_mem_of_unit? {s : List Char} (h : unit? s = some unit) :
    (∀ c ∈ s, c ∈ Text.Hex.alphabet)
      ∨ ∃ digits, s = '+' :: digits ∧ ∀ c ∈ digits, c ∈ Text.Hex.alphabet := by
  unfold unit? at h
  split at h
  next digits => exact .inr ⟨digits, rfl, Text.Hex.forall_mem_alphabet_of_value? h⟩
  next => exact .inl (Text.Hex.forall_mem_alphabet_of_value? h)

theorem forall_ne_of_unit? {s : List Char} (h : unit? s = some unit) : ∀ c ∈ s, c ≠ '\\' := by
  have hdigit : ∀ c ∈ Text.Hex.alphabet, c ≠ '\\' := List.all_iff_forall_prop.mp (by decide)
  rcases forall_mem_of_unit? h with hdigits | ⟨digits, rfl, hdigits⟩
  · exact fun c hc => hdigit c (hdigits c hc)
  · rw [List.forall_mem_cons]
    exact ⟨by decide, fun c hc => hdigit c (hdigits c hc)⟩

theorem startsWith_of_unit? (h : unit? [a, b, c, d] = some unit) (rest : List Char) :
    StartsWithDigits 4 (a :: b :: c :: d :: rest) ∨ StartsWithPlus (a :: b :: c :: d :: rest) := by
  rcases forall_mem_of_unit? h with hdigits | ⟨digits, hplus, hdigits⟩
  · exact .inl ⟨by simp, hdigits⟩
  · obtain ⟨rfl, rfl⟩ := List.cons.inj hplus
    exact .inr ⟨b :: c :: d :: rest, rfl, by simp, hdigits⟩

/-- An escape is the one that is read first, or stands behind it. -/
theorem HasEscape.of_unit {raw after : List Char} (hunit : unit? [a, b, c, d] = some unit)
    (h : HasEscape ('\\' :: 'u' :: a :: b :: c :: d :: raw) after) :
    (StartsWithDigits 4 after ∨ StartsWithPlus after) ∨ HasEscape raw after := by
  rcases h.of_pair with ⟨_, rfl⟩ | hrest
  · exact .inl (startsWith_of_unit? hunit raw)
  · have hfront : HasEscape ([a, b, c, d] ++ raw) after := hrest
    exact .inr (hfront.of_forall_ne (forall_ne_of_unit? hunit))

end

theorem Reads.startsWith_of_hasEscape {raw text after : List Char} (hreads : Reads raw text)
    (h : HasEscape raw after) : StartsWithDigits 4 after ∨ StartsWithPlus after := by
  induction hreads with
  | nil => exact absurd rfl h.ne_nil
  | backslash =>
    obtain ⟨before, heq, _⟩ := h
    have hlength := congrArg List.length heq
    simp only [List.length_append, List.length_cons, List.length_nil] at hlength
    omega
  | unit hunit _ _ _ ih => exact (h.of_unit hunit).elim id ih
  | pair hfirst _ hsecond _ _ _ ih =>
    exact (h.of_unit hfirst).elim id fun hrest => (hrest.of_unit hsecond).elim id ih
  | escaped hc _ ih => exact ih (h.of_pair.resolve_left fun hu => hc hu.1)
  | plain hc _ ih => exact ih (h.of_cons hc)

/-! ### Reading on -/

theorem isContinued_unit {a b c d : Char} {unit : Nat} (hunit : unit? [a, b, c, d] = some unit)
    (rest : List Char) : isContinued ('\\' :: 'u' :: a :: b :: c :: d :: rest) = isContinued rest := by
  rw [isContinued_pair]
  exact isContinued_append (isContinued_of_forall_ne (forall_ne_of_unit? hunit)) rest

theorem map_cons_map_append (char : Char) (text : List Char) (result : Except Fault (List Char)) :
    (result.map (text ++ ·)).map (char :: ·) = result.map fun more => char :: (text ++ more) := by
  cases result <;> rfl

/-- What can be read is read alike in front of any other text. -/
theorem Reads.unescape_append {raw text : List Char} (hreads : Reads raw text)
    (hwhole : isContinued raw = false) (rest : List Char) :
    unescape (raw ++ rest) = (unescape rest).map (text ++ ·) := by
  induction hreads with
  | nil =>
    rw [List.nil_append]
    cases unescape rest <;> rfl
  | backslash => cases hwhole
  | unit hunit hhigh hchar _ ih =>
    rw [isContinued_unit hunit] at hwhole
    simp only [List.cons_append]
    rw [unescape_unit hunit hhigh hchar, ih hwhole, map_cons_map_append]
  | pair hfirst hhigh hsecond hlow hchar _ ih =>
    rw [isContinued_unit hfirst, isContinued_unit hsecond] at hwhole
    simp only [List.cons_append]
    rw [unescape_unitPair hfirst hhigh hsecond hlow hchar, ih hwhole, map_cons_map_append]
  | escaped hc _ ih =>
    rw [isContinued_pair] at hwhole
    simp only [List.cons_append]
    rw [unescape_pair hc, ih hwhole, map_cons_map_append]
  | plain hc _ ih =>
    rw [isContinued_cons_of_ne hc] at hwhole
    simp only [List.cons_append]
    rw [unescape_cons_of_ne hc, ih hwhole, map_cons_map_append]

/-- A plus sign in front of three digits is read as a zero. -/
theorem unescape_plus {digits : List Char} (hcount : digits.length = 3)
    (hdigits : ∀ c ∈ digits, c ∈ Text.Hex.alphabet) (rest : List Char) :
    unescape ('\\' :: 'u' :: '+' :: (digits ++ rest))
      = unescape ('\\' :: 'u' :: '0' :: (digits ++ rest)) := by
  obtain ⟨a, b, c, rfl⟩ := List.length_eq_three.mp hcount
  obtain ⟨unit, hunit, hlt⟩ := Text.Hex.exists_value?_eq_some hdigits
  have hsmall : unit < 0x1000 := by simpa using hlt
  have hhigh : isHigh unit = false := by
    rw [isHigh, Bool.and_eq_false_iff, decide_eq_false_iff_not, decide_eq_false_iff_not]
    omega
  have hchar : char? unit = some (Char.ofNat unit) := by
    apply if_pos
    rw [Nat.isValidChar]
    omega
  have hplus : unit? ['+', a, b, c] = some unit := hunit
  have hzero : unit? ['0', a, b, c] = some unit := hunit
  exact (unescape_unit hplus hhigh hchar rest).trans (unescape_unit hzero hhigh hchar rest).symm

/-! ### Whole texts -/

theorem LogicalLine.unescape_of_entry {line : LogicalLine} {entry : Entry}
    (h : line.entry = .ok entry) :
    unescape (split line.text).1 = .ok entry.key ∧ unescape (split line.text).2 = .ok entry.value := by
  rw [LogicalLine.entry] at h
  dsimp only at h
  split at h
  next => cases h
  next => cases h
  next c key hkey =>
    split at h
    next => cases h
    next value hvalue =>
      cases h
      exact ⟨hkey, hvalue⟩

theorem LogicalLine.exists_entry_eq_error {line : LogicalLine} {after : List Char}
    (h : line.HasEscape after) (hdigits : ¬ StartsWithDigits 4 after) (hplus : ¬ StartsWithPlus after) :
    ∃ malformed, line.entry = .error malformed := by
  cases hentry : line.entry with
  | error malformed => exact ⟨malformed, rfl⟩
  | ok entry =>
    obtain ⟨hkey, hvalue⟩ := LogicalLine.unescape_of_entry hentry
    have hstarts : StartsWithDigits 4 after ∨ StartsWithPlus after := by
      rcases h with hescape | hescape
      · exact (reads_of_unescape hkey).startsWith_of_hasEscape hescape
      · exact (reads_of_unescape hvalue).startsWith_of_hasEscape hescape
    exact absurd hstarts (not_or.mpr ⟨hdigits, hplus⟩)

/-- **Bad escapes are refused, but for a plus sign.** If an escape in a key or a value goes on neither
with four hexadecimal digits nor with a plus sign and three, the text is refused as a whole and every
bundle is left as it was. The plus sign, wherever such an escape stands, is read as a zero. -/
theorem load_eq_error_of_hasEscape_and_unescape_plus (text : String) :
    (∀ line ∈ logicalLines text.toList, ∀ after, line.HasEscape after →
        ¬ StartsWithDigits 4 after → ¬ StartsWithPlus after →
        ∃ malformed, ∀ (bundle : Bundle) (table : Option Locale),
          bundle.load table text = (.error malformed, bundle)
            ∧ (Bundle.Call.load table text).apply bundle = bundle)
      ∧ ∀ before read digits rest, unescape before = .ok read → isContinued before = false →
        digits.length = 3 → (∀ c ∈ digits, c ∈ Text.Hex.alphabet) →
        unescape (before ++ '\\' :: 'u' :: '+' :: (digits ++ rest))
          = unescape (before ++ '\\' :: 'u' :: '0' :: (digits ++ rest)) := by
  constructor
  · intro line hline after hescape hdigits hplus
    obtain ⟨refused, hentry⟩ := LogicalLine.exists_entry_eq_error hescape hdigits hplus
    obtain ⟨malformed, hload⟩ := Bundle.load_of_mem hline hentry
    exact ⟨malformed, fun bundle table => ⟨hload bundle table, Bundle.apply_load_of_mem hline hentry⟩⟩
  · intro before read digits rest hread hwhole hcount hdigits
    have hreads := reads_of_unescape hread
    rw [hreads.unescape_append hwhole, hreads.unescape_append hwhole, unescape_plus hcount hdigits]

/-- A minus sign behind an escaped backslash is refused; a plus sign is read in a text that loads. -/
theorem load_minus_and_plus :
    (∃ malformed, ∀ (bundle : Bundle) (table : Option Locale),
        bundle.load table "a=1\nk=\\\\\\u-041\n" = (.error malformed, bundle)
          ∧ (Bundle.Call.load table "a=1\nk=\\\\\\u-041\n").apply bundle = bundle)
      ∧ unescape ("\\t".toList ++ "\\u+041".toList) = unescape ("\\t".toList ++ "\\u0041".toList)
      ∧ (LogicalLine.mk 1 "k=\\t\\u+041".toList).HasEscape "+041".toList
      ∧ ¬ StartsWithDigits 4 "+041".toList
      ∧ parse "k=\\t\\u+041\n".toList = .ok [⟨['k'], ['\t', 'A']⟩] := by
  have hline : ⟨2, "k=\\\\\\u-041".toList⟩ ∈ logicalLines "a=1\nk=\\\\\\u-041\n".toList := by
    decide +kernel
  have hescape : (LogicalLine.mk 2 "k=\\\\\\u-041".toList).HasEscape "-041".toList :=
    .inr ⟨"\\\\".toList, by decide +kernel, by decide⟩
  have hplus : ¬ StartsWithPlus "-041".toList := fun ⟨_, heq, _⟩ => nomatch heq
  refine ⟨?_, ?_, .inr ⟨"\\t".toList, by decide +kernel, by decide⟩, by decide, by decide +kernel⟩
  · exact (load_eq_error_of_hasEscape_and_unescape_plus _).1 _ hline _ hescape (by decide) hplus
  · exact (load_eq_error_of_hasEscape_and_unescape_plus "").2 "\\t".toList ['\t'] "041".toList []
      (by decide +kernel) (by decide) rfl (List.all_iff_forall_prop.mp (by decide))

end CiFront.Properties
