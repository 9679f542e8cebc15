import CiFront.Proofs.Properties.BadEscapes
import CiFront.Proofs.Properties.PhysicalLines
/-!
# Raw texts are read in whole pieces

Gathering counts the backslashes at the end of a line, splitting passes by the character behind each
backslash, and reading takes a raw text apart from its start. All three agree on which backslashes are
paired. So neither a raw key nor a raw value leaves reading with a backslash and nothing behind it, and of
the backslashes of an entry only those that continue its lines are not read.
-/

namespace CiFront.Properties

open Text.Utf16

/-! ### Pairs -/

/-- The texts in which each backslash has a character behind it that it escapes. -/
inductive Paired : List Char → Prop
  | nil : Paired []
  | plain {c rest} (h : c ≠ '\\') (hrest : Paired rest) : Paired (c :: rest)
  | pair {c rest} (hrest : Paired rest) : Paired ('\\' :: c :: rest)

theorem paired_of_not_isContinued : ∀ {raw : List Char}, isContinued raw = false → Paired raw
  | [], _ => .nil
  | [c], h => by
    by_cases hc : c = '\\'
    · subst hc
      cases h
    · exact .plain hc .nil
  | c :: d :: rest, h => by
    by_cases hc : c = '\\'
    · subst hc
      rw [isContinued_pair] at h
      exact .pair (paired_of_not_isContinued h)
    · rw [isContinued_cons_of_ne hc] at h
      exact .plain hc (paired_of_not_isContinued h)

/-! ### Pieces -/

/-- The pieces that a raw text is read in, and the characters that they stand for. -/
inductive Piece : List Char → Char → Prop
  | plain {c} (h : c ≠ '\\') : Piece [c] c
  | escaped {c} (h : c ≠ 'u') : Piece ['\\', c] (unescapeChar c)
  | unit {a b c d unit char} (hunit : unit? [a, b, c, d] = some unit) (hhigh : isHigh unit = false)
      (hchar : char? unit = some char) : Piece ['\\', 'u', a, b, c, d] char
  | pair {a b c d e f g h high low char} (hfirst : unit? [a, b, c, d] = some high)
      (hhigh : isHigh high = true) (hsecond : unit? [e, f, g, h] = some low) (hlow : isLow low = true)
      (hchar : pair? high low = some char) :
      Piece ['\\', 'u', a, b, c, d, '\\', 'u', e, f, g, h] char

/-- Whether reading a raw text comes to what is left of it, and the text that it has read by then. -/
inductive ComesTo : (raw read left : List Char) → Prop
  | start {raw} : ComesTo raw [] raw
  | piece {piece char raw read left} (hpiece : Piece piece char) (hrest : ComesTo raw read left) :
      ComesTo (piece ++ raw) (char :: read) left

/-- Whether reading looks for a character at the start of what is left: it has come there, or the high half
of a pair stands in front of it. -/
inductive LooksAt (raw : List Char) : (left : List Char) → Prop
  | next {read left} (h : ComesTo raw read left) : LooksAt raw left
  | low {read a b c d high left} (h : ComesTo raw read ('\\' :: 'u' :: a :: b :: c :: d :: left))
      (hunit : unit? [a, b, c, d] = some high) (hhigh : isHigh high = true) : LooksAt raw left

variable {piece raw read left : List Char} {char : Char}

theorem Piece.isContinued_eq_false (h : Piece piece char) : isContinued piece = false := by
  cases h with
  | plain hc => exact isContinued_append_of_ne hc []
  | escaped _ => exact isContinued_pair _ []
  | unit hunit _ _ => exact isContinued_unit hunit []
  | pair hfirst _ hsecond _ _ => exact (isContinued_unit hfirst _).trans (isContinued_unit hsecond [])

theorem Piece.unescape_append (h : Piece piece char) (rest : List Char) :
    unescape (piece ++ rest) = (unescape rest).map (char :: ·) := by
  cases h with
  | plain hc => exact unescape_cons_of_ne hc rest
  | escaped hc => exact unescape_pair hc rest
  | unit hunit hhigh hchar => exact unescape_unit hunit hhigh hchar rest
  | pair hfirst hhigh hsecond hlow hchar => exact unescape_unitPair hfirst hhigh hsecond hlow hchar rest

/-- Whether a backslash is left over at the end is the same wherever reading comes to. -/
theorem ComesTo.isContinued_eq (h : ComesTo raw read left) : isContinued left = isContinued raw := by
  induction h with
  | start => rfl
  | piece hpiece _ ih => rw [isContinued_append hpiece.isContinued_eq_false, ih]

theorem LooksAt.isContinued_eq (h : LooksAt raw left) : isContinued left = isContinued raw := by
  cases h with
  | next h => exact h.isContinued_eq
  | low h hunit _ => rw [← h.isContinued_eq, isContinued_unit hunit]

theorem ComesTo.unescape_eq (h : ComesTo raw read left) :
    unescape raw = (unescape left).map (read ++ ·) := by
  induction h with
  | @start raw => cases unescape raw <;> rfl
  | piece hpiece _ ih =>
    rw [hpiece.unescape_append, ih, map_cons_map_append]
    rfl

theorem Reads.comesTo {text : List Char} (h : Reads raw text) :
    ComesTo raw text [] ∨ ComesTo raw text ['\\'] := by
  induction h with
  | nil => exact .inl .start
  | backslash => exact .inr .start
  | unit hunit hhigh hchar _ ih =>
    exact ih.imp (.piece (.unit hunit hhigh hchar)) (.piece (.unit hunit hhigh hchar))
  | pair hfirst hhigh hsecond hlow hchar _ ih =>
    exact ih.imp (.piece (.pair hfirst hhigh hsecond hlow hchar))
      (.piece (.pair hfirst hhigh hsecond hlow hchar))
  | escaped hc _ ih => exact ih.imp (.piece (.escaped hc)) (.piece (.escaped hc))
  | plain hc _ ih => exact ih.imp (.piece (.plain hc)) (.piece (.plain hc))

/-- Reading ends at the end of a raw text or at a backslash that has nothing behind it. -/
theorem unescape_eq_ok_iff_comesTo :
    unescape raw = .ok read ↔ ComesTo raw read [] ∨ ComesTo raw read ['\\'] := by
  constructor
  · exact fun h => (reads_of_unescape h).comesTo
  · rintro (h | h) <;> simp [h.unescape_eq, unescape, Except.map]

theorem not_looksAt_backslash (h : isContinued raw = false) : ¬ LooksAt raw ['\\'] := by
  intro hlooks
  rw [← hlooks.isContinued_eq] at h
  cases h

/-! ### Keys and values -/

theorem backslash_not_mem_takeWhile (s : List Char) : '\\' ∉ s.takeWhile Text.isBlank :=
  fun hmem => absurd (List.mem_takeWhile_imp hmem) (by decide)

theorem exists_gap_trimStart (s : List Char) : ∃ gap, s = gap ++ Text.trimStart s ∧ '\\' ∉ gap :=
  ⟨_, List.takeWhile_append_dropWhile.symm, backslash_not_mem_takeWhile s⟩

theorem exists_gap_afterBlank (s : List Char) : ∃ gap, s = gap ++ afterBlank s ∧ '\\' ∉ gap := by
  obtain ⟨gap, hgap, hnot⟩ := exists_gap_trimStart s
  rw [afterBlank]
  cases htrimmed : Text.trimStart s with
  | nil => exact ⟨gap, by rwa [htrimmed] at hgap, hnot⟩
  | cons c rest =>
    rw [htrimmed] at hgap
    dsimp only
    split
    next hseparator =>
      obtain ⟨more, hmore, hnone⟩ := exists_gap_trimStart rest
      refine ⟨gap ++ c :: more, ?_, ?_⟩
      · rw [List.append_assoc, List.cons_append, ← hmore, hgap]
      · rcases hseparator with rfl | rfl <;> simp [hnot, hnone]
    next => exact ⟨gap, hgap, hnot⟩

/-- Between a raw key and a raw value there is no backslash, and the key leaves none over for it. -/
theorem exists_gap_split {s : List Char} (h : isContinued s = false) :
    ∃ gap, s = (split s).1 ++ gap ++ (split s).2 ∧ '\\' ∉ gap ∧ isContinued (split s).1 = false := by
  fun_induction split s with
  | case1 => exact ⟨[], rfl, List.not_mem_nil, rfl⟩
  | case2 => cases h
  | case3 c rest key value hsplit ih =>
    rw [isContinued_pair] at h
    obtain ⟨gap, hrest, hgap, hkey⟩ := ih h
    rw [hsplit] at hrest hkey
    exact ⟨gap, congrArg ('\\' :: c :: ·) hrest, hgap, (isContinued_pair c key).trans hkey⟩
  | case4 c rest _ _ hseparator =>
    obtain ⟨gap, hrest, hgap⟩ := exists_gap_trimStart rest
    refine ⟨c :: gap, congrArg (c :: ·) hrest, ?_, rfl⟩
    rcases hseparator with rfl | rfl <;> simp [hgap]
  | case5 c rest _ _ _ hblank =>
    obtain ⟨gap, hrest, hgap⟩ := exists_gap_afterBlank rest
    refine ⟨c :: gap, congrArg (c :: ·) hrest, ?_, rfl⟩
    rw [List.mem_cons, not_or]
    exact ⟨fun hc => absurd (hc ▸ hblank) (by decide), hgap⟩
  | case6 c rest hend hpair _ _ key value hsplit ih =>
    have hc : c ≠ '\\' := by
      rintro rfl
      cases rest with
      | nil => exact hend rfl rfl
      | cons d rest => exact hpair d rest rfl rfl
    rw [isContinued_cons_of_ne hc] at h
    obtain ⟨gap, hrest, hgap, hkey⟩ := ih h
    rw [hsplit] at hrest hkey
    exact ⟨gap, congrArg (c :: ·) hrest, hgap, (isContinued_cons_of_ne hc key).trans hkey⟩

theorem isContinued_split {s raw : List Char} (h : isContinued s = false)
    (hraw : raw = (split s).1 ∨ raw = (split s).2) : isContinued raw = false := by
  obtain ⟨gap, hcut, hgap, hkey⟩ := exists_gap_split h
  rcases hraw with rfl | rfl
  · exact hkey
  · have hfront : isContinued ((split s).1 ++ gap) = false := by
      rw [isContinued_append hkey]
      exact isContinued_of_forall_ne fun c hc heq => hgap (heq ▸ hc)
    rwa [hcut, isContinued_append hfront] at h

theorem count_split {s : List Char} (h : isContinued s = false) :
    s.count '\\' = (split s).1.count '\\' + (split s).2.count '\\' := by
  obtain ⟨gap, hcut, hgap, _⟩ := exists_gap_split h
  calc s.count '\\' = ((split s).1 ++ gap ++ (split s).2).count '\\' := congrArg _ hcut
    _ = (split s).1.count '\\' + (split s).2.count '\\' := by
      rw [List.count_append, List.count_append, List.count_eq_zero_of_not_mem hgap, Nat.add_zero]

/-! ### Backslashes of physical lines -/

theorem count_trimStart (s : List Char) : (Text.trimStart s).count '\\' = s.count '\\' := by
  obtain ⟨gap, hcut, hgap⟩ := exists_gap_trimStart s
  calc (Text.trimStart s).count '\\' = (gap ++ Text.trimStart s).count '\\' := by
        rw [List.count_append, List.count_eq_zero_of_not_mem hgap, Nat.zero_add]
    _ = s.count '\\' := by rw [← hcut]

theorem isContinued_share (line : List Char) : isContinued (share line) = false := by
  cases hopen : isContinued line with
  | true =>
    rw [share_of_isContinued hopen]
    exact isContinued_dropLast ((isContinued_trimStart line).trans hopen)
  | false => rw [share_of_whole hopen, isContinued_trimStart, hopen]

theorem isContinued_flatMap_share (taken : List (List Char)) :
    isContinued (taken.flatMap share) = false := by
  induction taken with
  | nil => rfl
  | cons line taken ih => rw [List.flatMap_cons, isContinued_append (isContinued_share line), ih]

/-- A line that goes on gives away one backslash, and every other line none. -/
theorem count_share (line : List Char) :
    line.count '\\' = (share line).count '\\' + if Odd (trailingBackslashes line) then 1 else 0 := by
  cases hopen : isContinued line with
  | true =>
    have htrimmed := dropLast_append_of_isContinued ((isContinued_trimStart line).trans hopen)
    calc line.count '\\' = ((Text.trimStart line).dropLast ++ ['\\']).count '\\' := by
          rw [htrimmed, count_trimStart]
      _ = (Text.trimStart line).dropLast.count '\\' + 1 := by
          rw [List.count_append, List.count_singleton_self]
      _ = (share line).count '\\' + if Odd (trailingBackslashes line) then 1 else 0 := by
          rw [share_of_isContinued hopen, if_pos (isContinued_iff_odd.mp hopen)]
  | false =>
    have heven := Nat.not_odd_iff_even.mpr (isContinued_eq_false_iff_even.mp hopen)
    rw [share_of_whole hopen, count_trimStart, if_neg heven, Nat.add_zero]

theorem count_flatten (taken : List (List Char)) :
    taken.flatten.count '\\' = (taken.flatMap share).count '\\'
      + taken.countP fun line => Odd (trailingBackslashes line) := by
  induction taken with
  | nil => rfl
  | cons line taken ih =>
    rw [List.flatten_cons, List.count_append, ih, count_share, List.flatMap_cons, List.count_append,
      List.countP_cons]
    simp only [decide_eq_true_eq]
    omega

/-! ### Lines of entries -/

/-- Whether a logical line is joined from the lines that it takes, and has their backslashes in its raw key
and its raw value, but for the one at the end of each line that goes on. -/
structure LogicalLine.KeepsBackslashesOf (line : LogicalLine) (taken : List (List Char)) : Prop where
  text_eq : line.text = taken.flatMap share
  count_eq : taken.flatten.count '\\' = (split line.text).1.count '\\' + (split line.text).2.count '\\'
    + taken.countP fun line => Odd (trailingBackslashes line)

theorem LogicalLine.keepsBackslashesOf_mk (number : Nat) (taken : List (List Char)) :
    KeepsBackslashesOf ⟨number, taken.flatMap share⟩ taken where
  text_eq := rfl
  count_eq := by rw [count_flatten, count_split (isContinued_flatMap_share taken)]

section

variable {number : Nat} {lines : List (List Char)} {formed : List LogicalLine}

theorem Forms.isContinued_eq_false (h : Forms number lines formed) :
    ∀ line ∈ formed, isContinued line.text = false := by
  induction h with
  | nil => exact fun _ hline => nomatch hline
  | filler _ _ ih => exact ih
  | entry _ _ _ ih => exact List.forall_mem_cons.mpr ⟨isContinued_flatMap_share _, ih⟩

/-- Each line is passed over or is taken by one logical line. -/
theorem Forms.exists_perm (h : Forms number lines formed) :
    ∃ passed taken, lines.Perm (passed ++ taken.flatten) ∧ (∀ line ∈ passed, IsFiller line)
      ∧ List.Forall₂ LogicalLine.KeepsBackslashesOf formed taken := by
  induction h with
  | nil => exact ⟨[], [], .nil, (fun _ hline => nomatch hline), .nil⟩
  | @filler _ line _ _ hline _ ih =>
    obtain ⟨passed, taken, hperm, hpassed, hformed⟩ := ih
    exact ⟨line :: passed, taken, hperm.cons line, List.forall_mem_cons.mpr ⟨hline, hpassed⟩, hformed⟩
  | @entry _ line first left formed _ _ _ ih =>
    obtain ⟨passed, taken, hperm, hpassed, hformed⟩ := ih
    have hfirst : (line :: first ++ left).Perm (line :: first ++ (passed ++ taken.flatten)) :=
      hperm.append_left (line :: first)
    refine ⟨passed, (line :: first) :: taken, hfirst.trans ?_, hpassed, ?_⟩
    · exact List.perm_append_comm_assoc (line :: first) passed taken.flatten
    · exact .cons (LogicalLine.keepsBackslashesOf_mk _ _) hformed

end

/-- **No backslash is left over.** Reading ends at the end of a raw text or at a backslash that has nothing
behind it. In a raw key or a raw value it never looks at such a backslash, since each one is paired, so what
is read is read as a whole. Each physical line is passed over or taken by one entry, and an entry keeps the
backslashes of the lines that it takes, but for those that continue them. -/
theorem unescape_eq_ok_iff_comesTo_and_not_looksAt_and_keepsBackslashesOf (text : List Char) :
    (∀ raw read, unescape raw = .ok read ↔ ComesTo raw read [] ∨ ComesTo raw read ['\\'])
      ∧ (∀ line ∈ logicalLines text, ∀ raw, raw = (split line.text).1 ∨ raw = (split line.text).2 →
        Paired raw ∧ ¬ LooksAt raw ['\\'] ∧ ∀ read, unescape raw = .ok read ↔ ComesTo raw read [])
      ∧ ∃ passed taken, (Text.lines text).Perm (passed ++ taken.flatten)
        ∧ (∀ line ∈ passed, IsFiller line)
        ∧ List.Forall₂ LogicalLine.KeepsBackslashesOf (logicalLines text) taken := by
  have hforms : Forms 1 (Text.lines text) (logicalLines text) := forms_gather 1 (Text.lines text)
  refine ⟨fun raw read => unescape_eq_ok_iff_comesTo, ?_, hforms.exists_perm⟩
  intro line hline raw hraw
  have hpaired : isContinued raw = false :=
    isContinued_split (hforms.isContinued_eq_false line hline) hraw
  have hnot : ¬ LooksAt raw ['\\'] := not_looksAt_backslash hpaired
  refine ⟨paired_of_not_isContinued hpaired, hnot, fun read => ?_⟩
  rw [unescape_eq_ok_iff_comesTo, or_iff_left fun h => hnot (.next h)]

/-- An entry on three lines, broken behind an escaped backslash and within an escape. -/
def brokenEscapes : List Char :=
  "k\\\\\\\n \\=v=\\u00\\\n41\\\\\n".toList

theorem not_looksAt_brokenEscapes :
    ⟨1, "k\\\\\\=v=\\u0041\\\\".toList⟩ ∈ logicalLines brokenEscapes
      ∧ split "k\\\\\\=v=\\u0041\\\\".toList = ("k\\\\\\=v".toList, "\\u0041\\\\".toList)
      ∧ ¬ LooksAt "k\\\\\\=v".toList ['\\'] ∧ ¬ LooksAt "\\u0041\\\\".toList ['\\']
      ∧ ComesTo "k\\\\\\=v".toList "k\\=v".toList [] ∧ ComesTo "\\u0041\\\\".toList "A\\".toList [] := by
  have hline : ⟨1, "k\\\\\\=v=\\u0041\\\\".toList⟩ ∈ logicalLines brokenEscapes := by decide
  have hsplit : split "k\\\\\\=v=\\u0041\\\\".toList
      = ("k\\\\\\=v".toList, "\\u0041\\\\".toList) := by decide
  have hraw :=
    (unescape_eq_ok_iff_comesTo_and_not_looksAt_and_keepsBackslashesOf brokenEscapes).2.1 _ hline
  rw [hsplit] at hraw
  obtain ⟨_, hkeyNot, hkey⟩ := hraw _ (.inl rfl)
  obtain ⟨_, hvalueNot, hvalue⟩ := hraw _ (.inr rfl)
  exact ⟨hline, hsplit, hkeyNot, hvalueNot, (hkey _).mp (by decide +kernel),
    (hvalue _).mp (by decide +kernel)⟩

end CiFront.Properties
