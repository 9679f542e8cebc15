import CiFront.Proofs.Icon.Path
import CiFront.Proofs.Text.Trim
/-!
# Requests rebuilt from their parts

A part of a request is a text without the blanks around it, then without the slashes around it, and then
behind one slash. A blank in front of the last slashes outlives both steps and ends the part, so it is taken
away when a request is made of the part again, with whatever slashes it was in front of. A blank behind the
first slashes stays where it is, since from then on a slash stands in front of it.
-/

namespace CiFront.Icon

open Text

variable {core s : List Char}

/-! ### Blanks at the end -/

/-- Whether the last character of a text is a blank. -/
def EndsBlank (s : List Char) : Prop :=
  ∃ c ∈ s.getLast?, isBlank c = true

/-- Whether a text, without the blanks around it, has a blank in front of the slashes at its end. -/
def HasBlankBeforeSlashes (s : List Char) : Prop :=
  ∃ front blank n, trim s = front ++ blank :: List.replicate n '/' ∧ isBlank blank = true

theorem not_endsBlank_nil : ¬ EndsBlank [] := by
  rintro ⟨c, ⟨⟩, -⟩

theorem not_endsBlank_iff : ¬ EndsBlank s ↔ ∀ c ∈ s.getLast?, isBlank c = false := by
  simp [EndsBlank]

theorem endsBlank_cons {c : Char} (hne : s ≠ []) : EndsBlank (c :: s) ↔ EndsBlank s := by
  cases s with
  | nil => exact absurd rfl hne
  | cons d s => rw [EndsBlank, List.getLast?_cons_cons, EndsBlank]

theorem trimEnd_eq_self_iff : trimEnd s = s ↔ ¬ EndsBlank s := by
  rw [not_endsBlank_iff]
  constructor
  · intro h c hc
    obtain ⟨hne, rfl⟩ := List.mem_getLast?_eq_getLast hc
    exact Bool.eq_false_iff.mpr (List.rdropWhile_eq_self_iff.mp h hne)
  · exact rdropWhile_eq_self

/-! ### A prefix made a prefix again -/

theorem pathStart_eq_cons_iff (hne : core ≠ []) :
    pathStart s = '/' :: core ↔ trimSlashes (trim s) = core := by
  rw [pathStart]
  split
  next hnil => simp [hnil, hne.symm]
  next => rw [List.cons.injEq, and_iff_right rfl]

theorem IsPathStart.eq_nil_or_exists_core (h : IsPathStart s) :
    s = [] ∨ ∃ core, s = '/' :: core ∧ core ≠ [] ∧ (∀ c ∈ core.head?, (c == '/') = false)
      ∧ ∀ c ∈ core.getLast?, (c == '/') = false := by
  obtain rfl | ⟨hslash, hlast⟩ := h
  · exact .inl rfl
  rw [startsWithOneSlash.eq_def] at hslash
  split at hslash
  next c rest =>
    refine .inr ⟨c :: rest, rfl, List.cons_ne_nil c rest, ?_, ?_⟩
    · rintro _ ⟨⟩
      exact beq_eq_false_iff_ne.mpr (bne_iff_ne.mp hslash)
    · intro d hd
      rw [List.getLast?_cons_cons] at hlast
      exact beq_eq_false_iff_ne.mpr fun heq => hlast (heq ▸ hd)
  next => cases hslash

/-- Behind the slash of a prefix only the end is stripped, of blanks first and then of slashes. -/
theorem trimSlashes_trim_cons (hhead : ∀ c ∈ core.head?, (c == '/') = false) :
    trimSlashes (trim ('/' :: core)) = (trimEnd core).rdropWhile (· == '/') := by
  have htrim : trim ('/' :: core) = '/' :: trimEnd core := by
    rw [trim, trimStart_cons_of_not_blank rfl, trimEnd_cons_of_not_blank rfl]
  have hkept : ∀ c ∈ (trimEnd core).head?, (c == '/') = false := by
    intro c hc
    obtain ⟨rest, hrest⟩ := List.head?_eq_some_iff.mp hc
    obtain ⟨blanks, hblanks⟩ := List.rdropWhile_prefix isBlank core
    have hcore : core = c :: (rest ++ blanks) := by
      rw [← hblanks, ← List.cons_append, ← hrest]
      rfl
    exact hhead c (by rw [hcore]; rfl)
  have hdrop : (trimEnd core).dropWhile (· == '/') = trimEnd core :=
    (takeWhile_eq_and_dropWhile_eq_iff.mpr ⟨(List.nil_append _).symm, List.forall_mem_nil _, hkept⟩).2
  rw [htrim]
  change (('/' :: trimEnd core).dropWhile (· == '/')).rdropWhile (· == '/') = _
  rw [List.dropWhile_cons_of_pos rfl, hdrop]

theorem rdropWhile_trimEnd_isPrefix (p : Char → Bool) (s : List Char) : (trimEnd s).rdropWhile p <+: s :=
  (List.rdropWhile_prefix p _).trans (List.rdropWhile_prefix isBlank s)

namespace IsPathStart

theorem pathStart_isPrefix (h : IsPathStart s) : pathStart s <+: s := by
  obtain rfl | ⟨core, rfl, -, hhead, -⟩ := h.eq_nil_or_exists_core
  · exact List.nil_prefix
  rw [pathStart, trimSlashes_trim_cons hhead]
  split
  next => exact List.nil_prefix
  next => exact List.cons_prefix_cons.mpr ⟨rfl, rdropWhile_trimEnd_isPrefix _ core⟩

/-- A prefix is its own prefix unless it ends with a blank. -/
theorem pathStart_eq_self_iff (h : IsPathStart s) : pathStart s = s ↔ ¬ EndsBlank s := by
  obtain rfl | ⟨core, rfl, hne, hhead, hlast⟩ := h.eq_nil_or_exists_core
  · exact iff_of_true rfl not_endsBlank_nil
  rw [pathStart_eq_cons_iff hne, trimSlashes_trim_cons hhead, endsBlank_cons hne, ← trimEnd_eq_self_iff]
  constructor
  · intro hkept
    have hprefix := List.rdropWhile_prefix (· == '/') (trimEnd core)
    rw [hkept] at hprefix
    exact (List.rdropWhile_prefix isBlank core).eq_of_length_le hprefix.length_le
  · intro hkept
    rw [hkept]
    exact rdropWhile_eq_self hlast

end IsPathStart

theorem endsBlank_pathStart_iff : EndsBlank (pathStart s) ↔ HasBlankBeforeSlashes s := by
  constructor
  · intro hends
    obtain ⟨front, back, htrim, -, hback⟩ := (stripsTo_trimSlashes (trim s)).around
    have hcore : trimSlashes (trim s) ≠ [] := by
      intro hnil
      rw [pathStart_eq_nil_iff.mpr hnil] at hends
      exact not_endsBlank_nil hends
    rw [(pathStart_eq_cons_iff hcore).mpr rfl, endsBlank_cons hcore] at hends
    obtain ⟨blank, hblank, hisBlank⟩ := hends
    obtain ⟨init, hinit⟩ := List.getLast?_eq_some_iff.mp hblank
    refine ⟨front ++ init, blank, back.length, ?_, hisBlank⟩
    rw [← List.eq_replicate_of_mem fun c hc => beq_iff_eq.mp (hback c hc)]
    rw [hinit] at htrim
    simpa using htrim
  · rintro ⟨front, blank, n, htrim, hisBlank⟩
    have hslash : (blank == '/') = false := by
      rw [beq_eq_false_iff_ne]
      rintro rfl
      cases hisBlank
    have hstrips : StripsTo (· == '/') (trim s) (front.dropWhile (· == '/') ++ [blank]) := by
      rw [htrim]
      exact stripsTo_append_cons hslash fun c hc => beq_iff_eq.mpr (List.eq_of_mem_replicate hc)
    have hne : front.dropWhile (· == '/') ++ [blank] ≠ [] := by simp
    rw [(pathStart_eq_cons_iff hne).mpr (stripsTo_iff.mp hstrips), endsBlank_cons hne]
    exact ⟨blank, List.getLast?_concat, hisBlank⟩

theorem pathStart_pathStart_eq_iff : pathStart (pathStart s) = pathStart s ↔ ¬ HasBlankBeforeSlashes s := by
  rw [(isPathStart_pathStart s).pathStart_eq_self_iff, endsBlank_pathStart_iff]

/-! ### Requests -/

namespace Request

/-- The request that is made of the parts of a request. -/
def rebuilt (request : Request) : Request :=
  Request.of request.contextPath request.resourceRoot

theorem rebuilt_of_eq_iff (contextPath resourceRoot : String) :
    (Request.of contextPath resourceRoot).rebuilt = Request.of contextPath resourceRoot
      ↔ ¬ HasBlankBeforeSlashes contextPath.toList ∧ ¬ HasBlankBeforeSlashes resourceRoot.toList := by
  rw [← pathStart_pathStart_eq_iff, ← pathStart_pathStart_eq_iff]
  simp only [rebuilt, Request.of, String.toList_ofList, Request.mk.injEq, String.ofList_inj]

/-- Whether the parts of a request are initial parts of those of another. -/
structure Starts (request other : Request) : Prop where
  contextPath : request.contextPath.toList <+: other.contextPath.toList
  resourceRoot : request.resourceRoot.toList <+: other.resourceRoot.toList

theorem starts_rebuilt_of (contextPath resourceRoot : String) :
    (Request.of contextPath resourceRoot).rebuilt.Starts (Request.of contextPath resourceRoot) where
  contextPath := by
    simp only [rebuilt, Request.of, String.toList_ofList]
    exact (isPathStart_pathStart _).pathStart_isPrefix
  resourceRoot := by
    simp only [rebuilt, Request.of, String.toList_ofList]
    exact (isPathStart_pathStart _).pathStart_isPrefix

/-- A request that gives an image the path that a longer one gives it lacks nothing. -/
theorem Starts.eq_of_imagePath_eq {request other : Request} {size image : String}
    (h : request.Starts other) (hpath : request.imagePath size image = other.imagePath size image) :
    request = other := by
  have hlength := congrArg (fun path => path.toList.length) hpath
  simp only [imagePath, String.toList_append, List.length_append] at hlength
  -- The paths differ in the parts alone, and no part of the one is longer than that of the other.
  have hcontext := h.contextPath.length_le
  have hroot := h.resourceRoot.length_le
  have hcontext' := h.contextPath.eq_of_length_le (by omega)
  have hroot' := h.resourceRoot.eq_of_length_le (by omega)
  rw [Request.mk.injEq]
  exact ⟨String.toList_injective hcontext', String.toList_injective hroot'⟩

end Request

/-- **What rebuilding a request keeps.** A request is the one rebuilt from its parts exactly if neither of
the texts that it was made of has a blank in front of its last slashes. For every size and image the paths
are the same in exactly these cases. Of all other requests the rebuilt one has initial parts only. -/
theorem rebuilt_eq_iff_and_imagePath_eq_iff (contextPath resourceRoot : String) :
    ((Request.of contextPath resourceRoot).rebuilt = Request.of contextPath resourceRoot
        ↔ ¬ HasBlankBeforeSlashes contextPath.toList ∧ ¬ HasBlankBeforeSlashes resourceRoot.toList)
      ∧ (∀ size image, (Request.of contextPath resourceRoot).rebuilt.imagePath size image
          = (Request.of contextPath resourceRoot).imagePath size image
        ↔ (Request.of contextPath resourceRoot).rebuilt = Request.of contextPath resourceRoot)
      ∧ (Request.of contextPath resourceRoot).rebuilt.Starts (Request.of contextPath resourceRoot) := by
  have hstarts := Request.starts_rebuilt_of contextPath resourceRoot
  refine ⟨Request.rebuilt_of_eq_iff contextPath resourceRoot, ?_, hstarts⟩
  intro size image
  constructor
  · exact hstarts.eq_of_imagePath_eq
  · intro hsame
    rw [hsame]

/-- A blank in front of the last slash ends the context path, and is lost when that is made a request again,
as the path of a folder shows. Blanks elsewhere are kept. -/
theorem rebuilt_blankBeforeSlash_and_blankBehindSlash :
    ((Request.of "/app /" "").contextPath = "/app "
        ∧ (Request.of "/app /" "").rebuilt.contextPath = "/app"
        ∧ (Request.of "/app /" "").rebuilt.imagePath "16x16" "folder.gif"
          ≠ (Request.of "/app /" "").imagePath "16x16" "folder.gif")
      ∧ (Request.of " / my app/ " "\t//static/abc/").rebuilt
        = Request.of " / my app/ " "\t//static/abc/" := by
  obtain ⟨hrebuilt, hpath, -⟩ := rebuilt_eq_iff_and_imagePath_eq_iff "/app /" ""
  have hblank : HasBlankBeforeSlashes "/app /".toList := ⟨"/app".toList, ' ', 1, by decide, rfl⟩
  refine ⟨⟨by decide, by decide, ?_⟩, ?_⟩
  · rw [Ne, hpath, hrebuilt]
    exact fun hnone => hnone.1 hblank
  · decide

end CiFront.Icon
