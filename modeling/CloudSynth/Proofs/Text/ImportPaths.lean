import Mathlib.Data.List.Basic
import Mathlib.Data.List.Forall2
import CloudSynth.DefinitionSite

/-!
# Import paths, component by component

The verifier compares texts: it cuts the file at its last dot, unless a slash stands behind that
dot, and asks whether the expected path is the rest or stands at its end behind a slash. Here the
answer is told by the components of the two paths. The file becomes its directories, each with a
slash behind it, and its last component (`joined_concat`); a cut then touches the last component
only (`withoutExtension_joined`), and an end of the text that begins at a slash is an end of the
list of components (`isSuffix_splitOn_iff`).
-/

namespace CloudSynth

namespace Text.Path

variable {mark : Char} {text before after : List Char}

/-- Slashes and backslashes stand between components. -/
def isSeparator (character : Char) : Bool := character = '/' || character = '\\'

/-- The components of a path: what stands between its separators, empty parts included. -/
def components (path : String) : List (List Char) := path.toList.splitOnP isSeparator

/-- What a name is without its extension: it is cut at its last dot, if it has one. -/
inductive HasStem : List Char → List Char → Prop
  | cut (stem : List Char) {extension : List Char} (last : '.' ∉ extension) :
    HasStem (stem ++ '.' :: extension) stem
  | whole {name : List Char} (dotless : '.' ∉ name) : HasStem name name

/-- The components of a file, the last of them without its extension. -/
inductive HasComponents (file : String) : List (List Char) → Prop
  | intro {directories : List (List Char)} {last stem : List Char}
    (split : components file = directories ++ [last]) (cut : HasStem last stem) :
    HasComponents file (directories ++ [stem])

/-- The same path, but for the separators that are written in it. -/
def Reslashed (path other : String) : Prop :=
  List.Forall₂ (fun character character' =>
    character = character' ∨ (isSeparator character ∧ isSeparator character'))
    path.toList other.toList

/-! ## The last mark of a text -/

theorem cutLast_eq_none_iff : cutLast mark text = none ↔ mark ∉ text := by
  induction text with
  | nil => simp [cutLast]
  | cons character rest ih =>
    cases found : cutLast mark rest with
    | some pair =>
      have present : mark ∈ rest := by
        by_contra absent
        rw [ih.mpr absent] at found
        cases found
      simp [cutLast, found, present]
    | none =>
      have absent := ih.mp found
      by_cases isMark : character = mark
      · simp [cutLast, found, isMark]
      · simp [cutLast, found, isMark, absent, Ne.symm isMark]

theorem cutLast_append_cons (absent : mark ∉ after) :
    cutLast mark (before ++ mark :: after) = some (before, after) := by
  induction before with
  | nil => simp [cutLast, cutLast_eq_none_iff.mpr absent]
  | cons character rest ih => simp [cutLast, ih]

/-- What follows a text without the mark ends up behind the last mark. -/
theorem cutLast_append (found : cutLast mark text = some (before, after)) {rest : List Char}
    (absent : mark ∉ rest) : cutLast mark (text ++ rest) = some (before, after ++ rest) := by
  induction text generalizing before after with
  | nil => simp [cutLast] at found
  | cons character text ih =>
    cases inner : cutLast mark text with
    | some pair =>
      simp only [cutLast, inner, Option.some.injEq, Prod.mk.injEq] at found
      rcases found with ⟨rfl, rfl⟩
      simp [cutLast, ih inner]
    | none =>
      simp only [cutLast, inner, ite_eq_iff, Option.some.injEq, Prod.mk.injEq] at found
      rcases found with ⟨rfl, rfl, rfl⟩ | ⟨-, ⟨⟩⟩
      have nothing : cutLast character (text ++ rest) = none := by
        apply cutLast_eq_none_iff.mpr
        simp [cutLast_eq_none_iff.mp inner, absent]
      simp [cutLast, nothing]

/-! ## The file as its directories and its last component -/

variable {directories parts above : List (List Char)} {last stem expected actual : List Char}

/-- The components with slashes between them. -/
def joined (parts : List (List Char)) : List Char := ['/'].intercalate parts

theorem joined_cons (nonempty : parts ≠ []) (first : List Char) :
    joined (first :: parts) = first ++ '/' :: joined parts := by
  simp [joined, List.intercalate_cons_of_ne_nil nonempty]

theorem joined_splitOn (path : List Char) : joined (path.splitOn '/') = path :=
  List.intercalate_splitOn '/'

theorem not_mem_of_mem_splitOn {path part : List Char} (isPart : part ∈ path.splitOn '/') :
    '/' ∉ part := by
  induction path generalizing part with
  | nil => simp_all
  | cons character path ih =>
    rw [List.splitOn_cons_eq_if_modifyHead] at isPart
    split at isPart
    · rcases List.mem_cons.mp isPart with rfl | behind
      · simp
      · exact ih behind
    · next other =>
      rcases List.exists_cons_of_ne_nil (List.splitOn_ne_nil '/' path) with ⟨first, others, split⟩
      simp only [split, List.modifyHead_cons, List.mem_cons] at isPart
      rcases isPart with rfl | behind
      · have inFirst : '/' ∉ first := ih (by simp [split])
        have differs : character ≠ '/' := by simpa using other
        simp [inFirst, differs.symm]
      · exact ih (by simp [split, behind])

theorem joined_concat (directories : List (List Char)) (last : List Char) :
    joined (directories ++ [last]) = directories.flatMap (· ++ ['/']) ++ last := by
  induction directories with
  | nil => simp [joined]
  | cons first directories ih =>
    rw [List.cons_append, joined_cons (by simp), ih]
    simp

theorem HasStem.not_mem (cut : HasStem last stem) {character : Char} (absent : character ∉ last) :
    character ∉ stem := by
  cases cut with
  | cut stem _ => exact fun present => absent (List.mem_append_left _ present)
  | whole _ => exact absent

/-- Without a dot in the last component, a dot of the directories is followed by a slash. -/
theorem withoutExtension_of_not_mem (dotless : '.' ∉ last) :
    withoutExtension (directories.flatMap (· ++ ['/']) ++ last) =
      directories.flatMap (· ++ ['/']) ++ last := by
  rcases directories.eq_nil_or_concat' with rfl | ⟨front, directory, rfl⟩
  · simp [withoutExtension, cutLast_eq_none_iff.mpr dotless]
  · have apart : (front ++ [directory]).flatMap (· ++ ['/']) ++ last =
        (front.flatMap (· ++ ['/']) ++ directory) ++ '/' :: last := by simp
    have absent : '.' ∉ '/' :: last := by simp [dotless]
    -- If there is a last dot it stands before the last slash, so nothing is cut there.
    rw [apart]
    generalize front.flatMap (· ++ ['/']) ++ directory = text
    cases found : cutLast '.' text with
    | none =>
      have nothing : cutLast '.' (text ++ '/' :: last) = none := by
        apply cutLast_eq_none_iff.mpr
        rw [List.mem_append, not_or]
        exact ⟨cutLast_eq_none_iff.mp found, absent⟩
      simp [withoutExtension, nothing]
    | some pair => simp [withoutExtension, cutLast_append found absent]

theorem withoutExtension_joined (cut : HasStem last stem) (inside : '/' ∉ last) :
    withoutExtension (joined (directories ++ [last])) = joined (directories ++ [stem]) := by
  rw [joined_concat, joined_concat]
  cases cut with
  | @cut stem extension dotless =>
    have slashless : '/' ∉ extension := by
      intro present
      apply inside
      simp [present]
    simp [withoutExtension, ← List.append_assoc, cutLast_append_cons dotless, slashless]
  | whole dotless => exact withoutExtension_of_not_mem dotless

/-! ## Ends of a path -/

theorem joined_isSuffix (nonempty : parts ≠ []) (above : List (List Char)) :
    joined (above ++ parts) = joined parts ∨ '/' :: joined parts <:+ joined (above ++ parts) := by
  induction above with
  | nil => exact .inl rfl
  | cons first above ih =>
    right
    rw [List.cons_append, joined_cons (by simp [nonempty])]
    rcases ih with same | suffix
    · rw [same]
      exact ⟨first, by simp⟩
    · exact suffix.trans ⟨first ++ ['/'], by simp⟩

/-- An end of the text behind a slash is an end of the list of its components. -/
theorem isSuffix_splitOn_iff :
    (actual = expected ∨ '/' :: expected <:+ actual) ↔
      expected.splitOn '/' <:+ actual.splitOn '/' := by
  constructor
  · rintro (rfl | ⟨front, rfl⟩)
    · exact List.suffix_refl _
    · rw [List.splitOn_append_cons_self]
      exact List.suffix_append _ _
  · rintro ⟨above, split⟩
    have ends := joined_isSuffix (List.splitOn_ne_nil '/' expected) above
    rw [split, joined_splitOn, joined_splitOn] at ends
    exact ends

/-! ## Slashes for backslashes -/

theorem splitOn_slashed (path : List Char) :
    (slashed path).splitOn '/' = path.splitOnP isSeparator := by
  rw [List.splitOn_eq_splitOnP]
  induction path with
  | nil => rfl
  | cons character path ih =>
    rw [slashed, List.map_cons, ← slashed, List.splitOnP_cons_eq_if_modifyHead,
      List.splitOnP_cons_eq_if_modifyHead, ih]
    by_cases slash : character = '/'
    · simp [slash, isSeparator]
    · by_cases backslash : character = '\\'
      · simp [backslash, isSeparator]
      · simp [slash, backslash, isSeparator]

theorem Reslashed.slashed_eq {path other : String} (same : Reslashed path other) :
    slashed path.toList = slashed other.toList := by
  unfold Reslashed at same
  generalize path.toList = text, other.toList = text' at same
  induction same with
  | nil => rfl
  | cons alike _ ih =>
    simp only [slashed, List.map_cons, List.cons.injEq]
    refine ⟨?_, ih⟩
    rcases alike with rfl | ⟨separates, separates'⟩
    · rfl
    · simp only [isSeparator, Bool.or_eq_true, decide_eq_true_eq] at separates separates'
      rcases separates with rfl | rfl <;> rcases separates' with rfl | rfl <;> rfl

theorem exists_hasStem (name : List Char) : ∃ stem, HasStem name stem := by
  by_cases dotted : '.' ∈ name
  · rcases List.eq_append_cons_of_mem (List.mem_reverse.mpr dotted) with
      ⟨extension, stem, split, dotless⟩
    have same : name = stem.reverse ++ '.' :: extension.reverse := by
      rw [← List.reverse_reverse name, split]
      simp
    rw [same]
    exact ⟨stem.reverse, .cut _ (by simpa using dotless)⟩
  · exact ⟨name, .whole dotted⟩

theorem exists_hasComponents (file : String) : ∃ parts, HasComponents file parts := by
  rcases (components file).eq_nil_or_concat' with nothing | ⟨directories, last, split⟩
  · exact absurd nothing (List.splitOnP_ne_nil _ _)
  · rcases exists_hasStem last with ⟨stem, cut⟩
    exact ⟨_, split, cut⟩

end Text.Path

namespace DefinitionSite

open Text.Path

variable {site : DefinitionSite} {expected message : String}

theorem isAt_iff_isSuffix : site.isAt expected = true ↔
    site.normalized = slashed expected.toList ∨
      '/' :: slashed expected.toList <:+ site.normalized := by
  simp [isAt]

/-- The site is where its components end with those of the expected path. -/
theorem isAt_iff {parts : List (List Char)} (known : HasComponents site.file parts) :
    site.isAt expected = true ↔ components expected <:+ parts := by
  cases known with
  | @intro directories last stem split cut =>
    have fileSplit : site.slashedFile.splitOn '/' = directories ++ [last] := by
      rw [slashedFile, splitOn_slashed, ← split, components]
    have slashless : ∀ part ∈ directories ++ [last], '/' ∉ part := by
      rw [← fileSplit]
      exact fun part => not_mem_of_mem_splitOn
    have normalizedJoined : site.normalized = joined (directories ++ [stem]) := by
      rw [normalized, ← joined_splitOn site.slashedFile, fileSplit]
      exact withoutExtension_joined cut (slashless last (by simp))
    have stemless : ∀ part ∈ directories ++ [stem], '/' ∉ part := by
      intro part isPart
      rcases List.mem_append.mp isPart with above | isLast
      · exact slashless part (List.mem_append_left _ above)
      · rw [List.mem_singleton.mp isLast]
        exact cut.not_mem (slashless last (by simp))
    have normalizedSplit : site.normalized.splitOn '/' = directories ++ [stem] := by
      rw [normalizedJoined]
      exact List.splitOn_intercalate '/' stemless (by simp)
    rw [isAt_iff_isSuffix, isSuffix_splitOn_iff, splitOn_slashed, normalizedSplit, components]

theorem verify_eq_ok_iff : site.verify expected message = .ok () ↔ site.isAt expected = true := by
  simp [verify]

theorem isAt_reslashed {file expected' : String} (sameFile : Reslashed site.file file)
    (sameExpected : Reslashed expected expected') :
    ({ site with file } : DefinitionSite).isAt expected' = site.isAt expected := by
  rw [Bool.eq_iff_iff, isAt_iff_isSuffix, isAt_iff_isSuffix]
  simp only [normalized, slashedFile, sameFile.slashed_eq, sameExpected.slashed_eq]

/-- The verifier accepts a site exactly if the components of its file end with the components of the
expected path. So no match begins within a component, without a dot in the last component nothing
is cut, and it does not matter which of the two separators stands where. -/
theorem verify_by_components (site : DefinitionSite) (expected message : String) :
    (site.verify expected message = .ok () ↔
      ∃ parts, HasComponents site.file parts ∧ components expected <:+ parts) ∧
    (site.verify expected message = .error (.importPathMismatch message site.print) ↔
      ∃ parts, HasComponents site.file parts ∧ ¬ components expected <:+ parts) ∧
    (∀ above front first rest, HasComponents site.file (above ++ (front ++ first) :: rest) →
      components expected = first :: rest → front ≠ [] →
      site.verify expected message = .error (.importPathMismatch message site.print)) ∧
    (∀ directories last, components site.file = directories ++ [last] → '.' ∉ last →
      (site.verify expected message = .ok () ↔ components expected <:+ components site.file)) ∧
    (∀ file expected', Reslashed site.file file → Reslashed expected expected' →
      (({ site with file } : DefinitionSite).verify expected' message = .ok () ↔
        site.verify expected message = .ok ())) := by
  have refused : ∀ parts, HasComponents site.file parts → ¬ components expected <:+ parts →
      site.verify expected message = .error (.importPathMismatch message site.print) := by
    intro parts known elsewhere
    simp [verify, mt (isAt_iff known).mp elsewhere]
  rcases exists_hasComponents site.file with ⟨parts, known⟩
  refine ⟨⟨?_, ?_⟩, ⟨?_, ?_⟩, ?_, ?_, ?_⟩
  · intro accepted
    exact ⟨parts, known, (isAt_iff known).mp (verify_eq_ok_iff.mp accepted)⟩
  · rintro ⟨parts, known, ends⟩
    exact verify_eq_ok_iff.mpr ((isAt_iff known).mpr ends)
  · intro failed
    refine ⟨parts, known, fun ends => ?_⟩
    rw [verify_eq_ok_iff.mpr ((isAt_iff known).mpr ends)] at failed
    cases failed
  · rintro ⟨parts, known, elsewhere⟩
    exact refused parts known elsewhere
  · intro above front first rest known split inside
    apply refused _ known
    rintro ⟨before, same⟩
    rw [split] at same
    have heads := (List.cons.inj (List.append_inj_right' same (by simp))).1
    apply inside
    simpa using heads
  · intro directories last split dotless
    have whole : HasComponents site.file (components site.file) := by
      conv => arg 2; rw [split]
      exact ⟨split, .whole dotless⟩
    rw [verify_eq_ok_iff, isAt_iff whole]
  · intro file expected' sameFile sameExpected
    rw [verify_eq_ok_iff, verify_eq_ok_iff, isAt_reslashed sameFile sameExpected]

example : (⟨"packages.d\\auth/resource", 1, 1⟩ : DefinitionSite).isAt "auth/resource" = true ∧
    (⟨"packages/oauth/resource.ts", 1, 1⟩ : DefinitionSite).isAt "auth/resource" = false := by
  decide +kernel

end DefinitionSite

end CloudSynth
