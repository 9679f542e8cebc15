import CiFront.Bundle
import CiFront.Proofs.Properties.Spelling
import CiFront.Proofs.Text.Lines
import CiFront.Proofs.Text.Trim
/-!
# What is written is read back

An entry may be written in many ways, and between the entries there may be blank lines and comments.
However they are written, reading gives the entries that were written, in order.
-/

namespace CiFront.Properties

/-! ### Writing -/

/-- Whether a text is a gap within a line. -/
def IsGap (s : List Char) : Prop :=
  ∀ c ∈ s, Text.isBlank c = true ∧ c ≠ '\n' ∧ c ≠ '\r'

instance (s : List Char) : Decidable (IsGap s) :=
  List.decidableBAll _ s

/-- The ways to write an entry, but for the gap in front of it. -/
inductive WritesEntry : Entry → List Char → Prop
  | mk {key value rawKey before separator after rawValue} (hkey : Spelled IsPlainInKey key rawKey)
      (hkeyStart : ∀ c ∈ rawKey.head?, c ≠ '#' ∧ c ≠ '!') (hbefore : IsGap before)
      (hseparator : separator = '=' ∨ separator = ':') (hafter : IsGap after)
      (hvalue : Spelled IsPlainInValue value rawValue)
      (hvalueStart : ∀ c ∈ rawValue.head?, Text.isBlank c = false) :
      WritesEntry ⟨key, value⟩ (rawKey ++ (before ++ separator :: (after ++ rawValue)))

/-- Lines that hold no entry: blank ones and comments. -/
inductive IsFiller : List Char → Prop
  | blank {line} (h : ∀ c ∈ line, Text.isBlank c = true) : IsFiller line
  | comment {blanks sign rest} (hblanks : ∀ c ∈ blanks, Text.isBlank c = true)
      (hsign : sign = '#' ∨ sign = '!') : IsFiller (blanks ++ sign :: rest)

/-- The ways to write entries as a text, each on a line of its own. -/
inductive Writes : List Entry → List Char → Prop
  | nil : Writes [] []
  | filler {entries line rest} (hline : IsFiller line) (hbreak : '\n' ∉ line)
      (hrest : Writes entries rest) : Writes entries (line ++ '\n' :: rest)
  | entry {entry entries lead line ending rest} (hlead : IsGap lead) (hline : WritesEntry entry line)
      (hending : ending = [] ∨ ending = ['\r']) (hrest : Writes entries rest) :
      Writes (entry :: entries) (lead ++ line ++ ending ++ '\n' :: rest)

/-! ### Lines without an entry -/

theorem IsFiller.isPassedOver {line : List Char} (h : IsFiller line) :
    isPassedOver (Text.trimStart (Text.dropReturn line)) = true := by
  cases h with
  | blank hblank =>
    have htrimmed : Text.trimStart (Text.dropReturn line) = [] :=
      Text.trimStart_eq_nil_of_blanks fun c hc => hblank c (Text.mem_of_mem_dropReturn hc)
    rw [htrimmed]
    rfl
  | @comment blanks sign rest hblanks hsign =>
    rw [Text.dropReturn_append (List.cons_ne_nil sign rest), Text.trimStart_append_of_blanks hblanks]
    rcases hsign with rfl | rfl <;> rfl

/-! ### Lines of an entry -/

theorem isPlainInValue_of_gap {gap : List Char} (h : IsGap gap) : ∀ c ∈ gap, IsPlainInValue c := by
  intro c hc
  obtain ⟨hblank, hlineFeed, hreturn⟩ := h c hc
  have hbackslash : c ≠ '\\' := by
    rintro rfl
    cases hblank
  simp [IsPlainInValue, hbackslash, hlineFeed, hreturn]

theorem split_gap_append {before after raw : List Char} {separator : Char} (hbefore : IsGap before)
    (hseparator : separator = '=' ∨ separator = ':') (hafter : IsGap after)
    (hraw : ∀ c ∈ raw.head?, Text.isBlank c = false) :
    split (before ++ separator :: (after ++ raw)) = ([], raw) := by
  have htrimmed : Text.trimStart (after ++ raw) = raw := by
    rw [Text.trimStart_append_of_blanks fun c hc => (hafter c hc).1, Text.trimStart_eq_self hraw]
  have hkept : separator ≠ '\\' ∧ Text.isBlank separator = false := by
    rcases hseparator with rfl | rfl <;> decide
  cases before with
  | nil => rw [List.nil_append, split_cons_of_ne hkept.1, if_pos hseparator, htrimmed]
  | cons b before =>
    obtain ⟨hb, hgap⟩ := List.forall_mem_cons.mp hbefore
    have hbackslash : b ≠ '\\' := by
      rintro rfl
      exact absurd hb.1 (by decide)
    have hnone : ¬ (b = '=' ∨ b = ':') := by
      rintro (rfl | rfl)
      · exact absurd hb.1 (by decide)
      · exact absurd hb.1 (by decide)
    rw [List.cons_append, split_cons_of_ne hbackslash, if_neg hnone, if_pos hb.1, afterBlank,
      Text.trimStart_append_of_blanks fun c hc => (hgap c hc).1,
      Text.trimStart_cons_of_not_blank hkept.2]
    dsimp only
    rw [if_pos hseparator, htrimmed]

variable {entry : Entry} {line : List Char}

theorem WritesEntry.raw (h : WritesEntry entry line) : Raw IsPlainInValue line := by
  cases h with
  | @mk key value rawKey before separator after rawValue hkey _ hbefore hseparator hafter hvalue _ =>
    have hrawKey : Raw IsPlainInValue rawKey := hkey.raw_key.mono fun _ hc => hc.isPlainInValue
    have hplain : IsPlainInValue separator := by
      rcases hseparator with rfl | rfl <;> simp [IsPlainInValue]
    apply hrawKey.append
    apply (Raw.of_forall (isPlainInValue_of_gap hbefore)).append
    exact .plain hplain ((Raw.of_forall (isPlainInValue_of_gap hafter)).append hvalue.raw_value)

/-- An entry with a key starts with a character that neither is passed over nor makes a comment. -/
theorem WritesEntry.exists_cons (h : WritesEntry entry line) (hkey : entry.key ≠ []) :
    ∃ c rest, line = c :: rest ∧ Text.isBlank c = false ∧ c ≠ '#' ∧ c ≠ '!' := by
  cases h with
  | @mk _ _ rawKey _ _ _ _ hspelled hstart _ _ _ _ _ =>
    have hraw := hspelled.raw_key
    cases hcons : rawKey with
    | nil => exact absurd hcons (hspelled.ne_nil hkey)
    | cons c rest =>
      rw [hcons] at hraw hstart
      exact ⟨c, _, rfl, hraw.head_not_blank c rfl, hstart c rfl⟩

theorem LogicalLine.entry_of_split {line : LogicalLine} {rawKey rawValue key value : List Char}
    {c : Char} (hsplit : split line.text = (rawKey, rawValue)) (hkey : unescape rawKey = .ok (c :: key))
    (hvalue : unescape rawValue = .ok value) : line.entry = .ok ⟨c :: key, value⟩ := by
  rw [LogicalLine.entry, hsplit]
  dsimp only
  rw [hkey]
  dsimp only
  rw [hvalue]

theorem WritesEntry.entry_eq (h : WritesEntry entry line) (hkey : entry.key ≠ []) (number : Nat) :
    LogicalLine.entry ⟨number, line⟩ = .ok entry := by
  cases h with
  | @mk key value rawKey before separator after rawValue hspelled _ hbefore hseparator hafter hvalue
      hvalueStart =>
    have hkeyText : unescape rawKey = .ok key := hspelled.unescape_eq fun _ hc => hc.ne.1
    have hvalueText : unescape rawValue = .ok value := hvalue.unescape_eq fun _ hc => hc.ne.1
    have hsplit : split (rawKey ++ (before ++ separator :: (after ++ rawValue)))
        = (rawKey, rawValue) := by
      rw [hspelled.raw_key.split_append, split_gap_append hbefore hseparator hafter hvalueStart,
        List.append_nil]
    cases key with
    | nil => exact absurd rfl hkey
    | cons c key => exact LogicalLine.entry_of_split hsplit hkeyText hvalueText

/-! ### Whole texts -/

theorem gather_of_writesEntry {lead : List Char} (hlead : IsGap lead) (h : WritesEntry entry line)
    (hkey : entry.key ≠ []) (number : Nat) (rest : List (List Char)) :
    gather number none ((lead ++ line) :: rest)
      = ⟨number, line⟩ :: gather (number + 1) none rest := by
  obtain ⟨c, more, hcons, hblank, hsign, hmark⟩ := h.exists_cons hkey
  have htrimmed : Text.trimStart (lead ++ line) = line := by
    rw [Text.trimStart_append_of_blanks fun c hc => (hlead c hc).1, hcons,
      Text.trimStart_cons_of_not_blank hblank]
  have hkept : isPassedOver line = false := by
    simp [hcons, isPassedOver, hsign, hmark]
  rw [gather_of_whole, htrimmed]
  · rwa [htrimmed]
  · rw [htrimmed]
    exact h.raw.isContinued_eq

theorem lines_of_writesEntry {lead ending : List Char} (hlead : IsGap lead)
    (h : WritesEntry entry line) (hending : ending = [] ∨ ending = ['\r']) (rest : List Char) :
    Text.lines (lead ++ line ++ ending ++ '\n' :: rest) = (lead ++ line) :: Text.lines rest := by
  have hraw : Raw IsPlainInValue (lead ++ line) :=
    (Raw.of_forall (isPlainInValue_of_gap hlead)).append h.raw
  have hlineFeed : '\n' ∉ lead ++ line := fun hmem => (hraw.forall_ne _ hmem).1 rfl
  have hreturn : '\r' ∉ lead ++ line := fun hmem => (hraw.forall_ne _ hmem).2 rfl
  rw [Text.lines_append_lineFeed]
  · rcases hending with rfl | rfl
    · rw [List.append_nil, Text.dropReturn_eq_self hreturn]
    · rw [Text.dropReturn_append_return]
  · rcases hending with rfl | rfl <;> simpa using hlineFeed

theorem entriesOf_gather_of_writes {entries : List Entry} {text : List Char} (h : Writes entries text)
    (hkeys : ∀ entry ∈ entries, entry.key ≠ []) (number : Nat) :
    entriesOf (gather number none (Text.lines text)) = .ok entries := by
  induction h generalizing number with
  | nil => rfl
  | filler hline hbreak _ ih =>
    rw [Text.lines_append_lineFeed hbreak, gather_of_isPassedOver hline.isPassedOver]
    exact ih hkeys (number + 1)
  | entry hlead hline hending _ ih =>
    obtain ⟨hkey, hrest⟩ := List.forall_mem_cons.mp hkeys
    rw [lines_of_writesEntry hlead hline hending, gather_of_writesEntry hlead hline hkey, entriesOf,
      hline.entry_eq hkey, ih hrest (number + 1)]
    rfl

/-- **What is written is read back.** However entries with keys are written, reading gives these
entries in order, and a bundle loads as many. -/
theorem parse_of_writes {entries : List Entry} {text : List Char} (h : Writes entries text)
    (hkeys : ∀ entry ∈ entries, entry.key ≠ []) :
    parse text = .ok entries
      ∧ ∀ (bundle : Bundle) (table : Option Locale), bundle.load table (String.ofList text)
        = (.ok entries.length, bundle.insertEntries table entries) := by
  have hparsed : parse text = .ok entries := entriesOf_gather_of_writes h hkeys 1
  refine ⟨hparsed, fun bundle table => ?_⟩
  rw [Bundle.load, String.toList_ofList, hparsed]

theorem parse_of_writes_escapes :
    parse " !\\\n\\u0023\\ k := \\uD83D\\uDe00\\\\\r\n".toList
      = .ok [⟨['#', ' ', 'k'], ['=', ' ', '😀', '\\']⟩] := by
  have hnumber : List.Forall₂ Text.Utf16.Escapes (Text.Utf16.units '#') ["\\u0023".toList] :=
    .cons (.mk ⟨by decide, .inl rfl⟩ ⟨by decide, .inl rfl⟩ ⟨by decide, .inl rfl⟩
      ⟨by decide, .inl rfl⟩) .nil
  have hface : List.Forall₂ Text.Utf16.Escapes (Text.Utf16.units '😀')
      ["\\uD83D".toList, "\\uDe00".toList] := by
    have hunits : Text.Utf16.units '😀' = [0xD83D, 0xDE00] := by decide
    rw [hunits]
    exact .cons (.mk ⟨by decide, .inr rfl⟩ ⟨by decide, .inl rfl⟩ ⟨by decide, .inl rfl⟩
      ⟨by decide, .inr rfl⟩) (.cons (.mk ⟨by decide, .inr rfl⟩ ⟨by decide, .inl rfl⟩
        ⟨by decide, .inl rfl⟩ ⟨by decide, .inl rfl⟩) .nil)
  have hkey : Spelled IsPlainInKey ['#', ' ', 'k'] _ :=
    .cons (.units hnumber) (.cons (.escaped (.inr (by decide)))
      (.cons (.plain ⟨by decide, by decide⟩) .nil))
  have hvalue : Spelled IsPlainInValue ['=', ' ', '😀', '\\'] _ :=
    .cons (.plain (by decide)) (.cons (.plain (by decide)) (.cons (.units hface)
      (.cons (.escaped (.inl (by decide))) .nil)))
  have hgap : IsGap [' '] := by
    intro c hc
    rw [List.mem_singleton.mp hc]
    decide
  have hnone : IsGap [] := fun c hc => nomatch hc
  have hentry : WritesEntry ⟨['#', ' ', 'k'], ['=', ' ', '😀', '\\']⟩ _ :=
    .mk hkey (by rintro _ ⟨⟩; decide) hgap (.inr rfl) hnone hvalue (by rintro _ ⟨⟩; decide)
  have hfiller : IsFiller ([' '] ++ '!' :: ['\\']) :=
    .comment (fun c hc => (hgap c hc).1) (.inr rfl)
  exact (parse_of_writes (.filler hfiller (by decide) (.entry hnone hentry (.inr rfl) .nil))
    (by decide)).1

end CiFront.Properties
