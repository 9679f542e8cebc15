import CiFront.Icon.Status
import CiFront.Proofs.Text.Strip
/-!
# The paths of icons

A prefix of a path is empty or stands behind one slash, with no slash at its end. Two prefixes in a row are
thus joined by one slash, whatever the spellings they come from, and the path of an icon starts with one
slash: with two of them, what follows would be read as the name of a host.
-/

namespace CiFront.Icon

open Text

variable {core s rest : List Char}

/-! ### The shape of a prefix -/

/-- Whether a text starts with a slash that no other slash follows. -/
def startsWithOneSlash : List Char → Bool
  | '/' :: c :: _ => c != '/'
  | _ => false

/-- A prefix of a path: empty, or behind one slash and without a slash at its end. -/
def IsPathStart (s : List Char) : Prop :=
  s = [] ∨ startsWithOneSlash s = true ∧ s.getLast? ≠ some '/'

instance (s : List Char) : Decidable (IsPathStart s) :=
  inferInstanceAs (Decidable (_ ∨ _))

theorem stripsTo_trimSlashes (s : List Char) : StripsTo (· == '/') s (trimSlashes s) :=
  stripsTo_rdropWhile_dropWhile _ s

theorem startsWithOneSlash_append (h : startsWithOneSlash s = true) (rest : List Char) :
    startsWithOneSlash (s ++ rest) = true := by
  rw [startsWithOneSlash.eq_def] at h
  split at h
  next => exact h
  next => cases h

theorem IsPathStart.startsWithOneSlash_append (h : IsPathStart s) (hrest : startsWithOneSlash rest = true) :
    startsWithOneSlash (s ++ rest) = true := by
  obtain rfl | ⟨hs, -⟩ := h
  · exact hrest
  · exact Icon.startsWithOneSlash_append hs rest

theorem isPathStart_pathStart (s : List Char) : IsPathStart (pathStart s) := by
  have hstrips := stripsTo_trimSlashes (trim s)
  rw [pathStart]
  cases hcore : trimSlashes (trim s) with
  | nil => exact .inl rfl
  | cons c rest =>
    rw [hcore] at hstrips
    refine .inr ⟨?_, ?_⟩
    · rw [startsWithOneSlash, bne, hstrips.head c rfl]
      rfl
    · rw [List.getLast?_cons_cons]
      intro hlast
      exact Bool.noConfusion (hstrips.last '/' hlast)

/-! ### The spellings of a prefix -/

/-- A text between slashes. -/
def inSlashes (m : Nat) (core : List Char) (n : Nat) : List Char :=
  List.replicate m '/' ++ core ++ List.replicate n '/'

/-- A text in any number of slashes, and in blanks around these. -/
def Wraps (core s : List Char) : Prop :=
  ∃ before after m n, s = before ++ inSlashes m core n ++ after
    ∧ (∀ c ∈ before, isBlank c = true) ∧ ∀ c ∈ after, isBlank c = true

/-- A text that neither starts nor ends with a slash or a blank. -/
structure HasPlainEnds (core : List Char) : Prop where
  head : ∀ c ∈ core.head?, c ≠ '/' ∧ isBlank c = false
  last : ∀ c ∈ core.getLast?, c ≠ '/' ∧ isBlank c = false

theorem isBlank_eq_false_of_mem_slashes {c : Char} {n : Nat} (h : c ∈ List.replicate n '/') :
    isBlank c = false := by
  rw [List.eq_of_mem_replicate h]
  rfl

theorem reverse_inSlashes (m : Nat) (core : List Char) (n : Nat) :
    (inSlashes m core n).reverse = inSlashes n core.reverse m := by
  rw [inSlashes, List.reverse_append, List.reverse_append, List.reverse_replicate, List.reverse_replicate,
    ← List.append_assoc, inSlashes]

namespace HasPlainEnds

theorem reverse (h : HasPlainEnds core) : HasPlainEnds core.reverse where
  head := by
    rw [List.head?_reverse]
    exact h.last
  last := by
    rw [List.getLast?_reverse]
    exact h.head

theorem stripsTo_inSlashes (h : HasPlainEnds core) (m n : Nat) :
    StripsTo (· == '/') (inSlashes m core n) core where
  around := ⟨_, _, rfl, fun _ hc => beq_iff_eq.mpr (List.eq_of_mem_replicate hc),
    fun _ hc => beq_iff_eq.mpr (List.eq_of_mem_replicate hc)⟩
  head c hc := beq_eq_false_iff_ne.mpr (h.head c hc).1
  last c hc := beq_eq_false_iff_ne.mpr (h.last c hc).1

theorem isBlank_head_inSlashes (h : HasPlainEnds core) (m n : Nat) :
    ∀ c ∈ (inSlashes m core n).head?, isBlank c = false := by
  intro c hc
  rw [inSlashes, Option.mem_def, List.head?_append, Option.or_eq_some_iff, List.head?_append,
    Option.or_eq_some_iff] at hc
  obtain (hfront | ⟨-, hcore⟩) | ⟨-, hback⟩ := hc
  · exact isBlank_eq_false_of_mem_slashes (List.mem_of_mem_head? hfront)
  · exact (h.head c hcore).2
  · exact isBlank_eq_false_of_mem_slashes (List.mem_of_mem_head? hback)

theorem isBlank_last_inSlashes (h : HasPlainEnds core) (m n : Nat) :
    ∀ c ∈ (inSlashes m core n).getLast?, isBlank c = false := by
  rw [← List.head?_reverse, reverse_inSlashes]
  exact h.reverse.isBlank_head_inSlashes n m

/-- The blanks are stripped up to the slashes, and these up to the text. -/
theorem trimSlashes_trim (h : HasPlainEnds core) (hs : Wraps core s) : trimSlashes (trim s) = core := by
  obtain ⟨before, after, m, n, rfl, hbefore, hafter⟩ := hs
  have htrim : trim (before ++ inSlashes m core n ++ after) = inSlashes m core n :=
    stripsTo_isBlank_iff.mp ⟨⟨before, after, rfl, hbefore, hafter⟩, h.isBlank_head_inSlashes m n,
      h.isBlank_last_inSlashes m n⟩
  rw [htrim]
  exact stripsTo_iff.mp (h.stripsTo_inSlashes m n)

end HasPlainEnds

theorem wraps_trimSlashes_trim (s : List Char) : Wraps (trimSlashes (trim s)) s := by
  have hblanks : StripsTo isBlank s (trim s) := stripsTo_isBlank_iff.mpr rfl
  obtain ⟨before, after, hs, hbefore, hafter⟩ := hblanks.around
  obtain ⟨front, back, htrim, hfront, hback⟩ := (stripsTo_trimSlashes (trim s)).around
  refine ⟨before, after, front.length, back.length, ?_, hbefore, hafter⟩
  rw [inSlashes, ← List.eq_replicate_of_mem fun c hc => beq_iff_eq.mp (hfront c hc),
    ← List.eq_replicate_of_mem fun c hc => beq_iff_eq.mp (hback c hc), ← htrim]
  exact hs

theorem pathStart_eq_nil_iff : pathStart s = [] ↔ trimSlashes (trim s) = [] := by
  rw [pathStart]
  cases trimSlashes (trim s) <;> simp

theorem pathStart_eq_nil_iff_wraps : pathStart s = [] ↔ Wraps [] s := by
  rw [pathStart_eq_nil_iff]
  constructor
  · intro h
    rw [← h]
    exact wraps_trimSlashes_trim s
  · intro h
    exact HasPlainEnds.trimSlashes_trim ⟨by rintro _ ⟨⟩, by rintro _ ⟨⟩⟩ h

theorem pathStart_of_wraps (hs : Wraps core s) (hne : core ≠ []) (h : HasPlainEnds core) :
    pathStart s = '/' :: core := by
  rw [pathStart, h.trimSlashes_trim hs]
  cases core with
  | nil => exact absurd rfl hne
  | cons => rfl

/-! ### The path -/

theorem startsWithOneSlash_imagePath (contextPath resourceRoot size image : String) :
    startsWithOneSlash ((Request.of contextPath resourceRoot).imagePath size image).toList = true := by
  have hcontext := isPathStart_pathStart contextPath.toList
  have hroot := isPathStart_pathStart resourceRoot.toList
  simp only [Request.imagePath, Request.of, String.toList_append, String.toList_ofList, List.append_assoc]
  exact hcontext.startsWithOneSlash_append (hroot.startsWithOneSlash_append rfl)

/-- **Icon paths are well-formed.** An icon with an image has a path under every request: the two prefixes,
the images, the size and the image. Every prefix is empty or stands behind one slash without one at its
end, and the path starts with one slash. A text with plain ends is its own prefix behind a slash, in
whatever slashes and outer blanks it stands, and the prefix is empty for those alone. -/
theorem exists_path_and_isPathStart_and_pathStart_of_wraps (image : String) (description : Message)
    (contextPath resourceRoot size : String) :
    (∃ path, (Status.resolving image description).path? (some (Request.of contextPath resourceRoot)) size
          = .ok (some path)
        ∧ path = String.ofList (pathStart contextPath.toList)
          ++ String.ofList (pathStart resourceRoot.toList)
          ++ "/images/" ++ size ++ "/" ++ image
        ∧ startsWithOneSlash path.toList = true)
      ∧ (∀ s, IsPathStart (pathStart s))
      ∧ (∀ core s, Wraps core s → core ≠ [] → HasPlainEnds core → pathStart s = '/' :: core)
      ∧ ∀ s, pathStart s = [] ↔ Wraps [] s := by
  refine ⟨⟨_, rfl, rfl, ?_⟩, isPathStart_pathStart, ?_, fun s => pathStart_eq_nil_iff_wraps⟩
  · exact startsWithOneSlash_imagePath contextPath resourceRoot size image
  · exact fun core s => pathStart_of_wraps

/-- A root in slashes and outer blanks, under a context path that is a slash alone. -/
theorem exists_path_and_pathStart_staticRoot :
    (∃ path, (Status.resolving "red.png" ⟨"icon.red", []⟩).path?
          (some (Request.of "/" " //static/abc/\n")) "24x24" = .ok (some path)
        ∧ path = "/static/abc/images/24x24/red.png")
      ∧ Wraps "static/abc".toList " //static/abc/\n".toList
      ∧ HasPlainEnds "static/abc".toList
      ∧ pathStart " //static/abc/\n".toList = "/static/abc".toList
      ∧ pathStart "/".toList = [] := by
  obtain ⟨⟨path, hpath, heq, -⟩, -, hwraps, hnil⟩ :=
    exists_path_and_isPathStart_and_pathStart_of_wraps "red.png" ⟨"icon.red", []⟩ "/"
      " //static/abc/\n" "24x24"
  have hstatic : Wraps "static/abc".toList " //static/abc/\n".toList :=
    ⟨[' '], ['\n'], 2, 1, by decide, List.forall_mem_singleton.mpr rfl, List.forall_mem_singleton.mpr rfl⟩
  have hends : HasPlainEnds "static/abc".toList :=
    ⟨by rintro _ ⟨⟩; decide, by rintro _ ⟨⟩; decide⟩
  have hslash : Wraps [] "/".toList := ⟨[], [], 1, 0, rfl, by simp, by simp⟩
  exact ⟨⟨path, hpath, heq.trans (by decide)⟩, hstatic, hends, hwraps _ _ hstatic (by decide) hends,
    (hnil _).mpr hslash⟩

end CiFront.Icon
