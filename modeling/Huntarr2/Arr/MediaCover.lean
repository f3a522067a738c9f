import Huntarr2.Arr.History
import Huntarr2.Foundation.Regex

/-!
# Media covers

A poll records the path of a poster, and the dashboard later asks for the image at that path. The path
is checked against a pattern before it becomes part of a request, and when an instance does not have
the resized image, a second request asks for the original.
-/

namespace Huntarr2.Arr

open Regex RegularExpression

/-! ## The patterns -/

/-- `\d`. -/
def decimalDigits : Text := "0123456789"

/-- `[a-z]`. -/
def lowerLetters : Text := "abcdefghijklmnopqrstuvwxyz"

/-- `mediaCoverPathPattern`. -/
def mediaCoverPathPattern : RegularExpression Char :=
  optional (word ("artist/" : Text) + word ("album/" : Text)) * someOf (oneOf decimalDigits) *
    word ("/" : Text) * someOf (oneOf lowerLetters) *
    optional (word ("-" : Text) * someOf (oneOf decimalDigits)) * word ("." : Text) *
    (word ("jpg" : Text) + word ("png" : Text) + word ("gif" : Text))

/-- What `mediaCoverSizeSuffix` matches in front of its group. -/
def sizeSuffix : RegularExpression Char := word ("-" : Text) * someOf (oneOf decimalDigits)

/-- The group of `mediaCoverSizeSuffix`. -/
def extensionGroup : RegularExpression Char := word ("." : Text) * someOf (oneOf lowerLetters)

/-- `mediaCoverSizeSuffix.ReplaceAllString` with the group; `none` where nothing matches. -/
def withoutSizeSuffix (path : Text) : Option Text := replaceSuffix sizeSuffix extensionGroup path

/-! ## The request -/

structure MediaCover where
  contentType : String
  data : List UInt8
  deriving DecidableEq, Repr

/-- The errors of a cover request; `notFound` and `rejected` wrap `ErrNotFound`. -/
inductive CoverError
  | rejected (name : String) (path : Text)
  | notFound (message : String)
  | failed (message : String)
  deriving DecidableEq, Repr

/-- `fmt.Errorf("%s media cover: %w", …)`. -/
def CoverError.wrap (name : String) : CoverError → CoverError
  | .rejected app path => .rejected app path
  | .notFound message => .notFound s!"{name} media cover: {message}"
  | .failed message => .failed s!"{name} media cover: {message}"

/-- `errors.Is(err, ErrNotFound)`. -/
def CoverError.isNotFound : CoverError → Bool
  | .failed _ => false
  | _ => true

def maxMediaCoverBytes : ℕ := 5 * 2 ^ 20

/-- The path in front of a cover's own. -/
def mediaCoverRoot (apiVersion : String) : Text := ("/api/" ++ apiVersion ++ "/mediacover/" : String)

/-- `adapter.MediaCover` of an application: the paths it requests, and what it returns. `getBytes`
answers the first and the second request for a path with at most a number of bytes. -/
def mediaCover (name apiVersion : String) (getBytes : ℕ → Text → ℕ → Except CoverError MediaCover)
    (path : Text) : List Text × Except CoverError MediaCover :=
  if ¬Accepts mediaCoverPathPattern path then ([], .error (.rejected name path))
  else
    let apiPath := mediaCoverRoot apiVersion ++ path
    let answer := getBytes 0 apiPath maxMediaCoverBytes
    match answer, withoutSizeSuffix apiPath with
    | .ok cover, _ => ([apiPath], .ok cover)
    | .error err, some original =>
      if err.isNotFound then
        ([apiPath, original], (getBytes 1 original maxMediaCoverBytes).mapError (.wrap name))
      else ([apiPath], .error (err.wrap name))
    | .error err, none => ([apiPath], .error (err.wrap name))

/-! ## Accepted paths -/

inductive CoverFolder
  | root
  | artist
  | album
  deriving DecidableEq, Repr

def CoverFolder.text : CoverFolder → Text
  | .root => []
  | .artist => "artist/"
  | .album => "album/"

inductive CoverFormat
  | jpg
  | png
  | gif
  deriving DecidableEq, Repr

def CoverFormat.text : CoverFormat → Text
  | .jpg => "jpg"
  | .png => "png"
  | .gif => "gif"

/-- A text with at least one character, all from a class. -/
abbrev TextOf (letters : Text) := { text : Text // text ≠ [] ∧ ∀ c ∈ text, c ∈ letters }

/-- The parts of an accepted path. -/
structure CoverPath where
  folder : CoverFolder
  id : TextOf decimalDigits
  kind : TextOf lowerLetters
  size : Option (TextOf decimalDigits)
  format : CoverFormat

namespace CoverPath

variable (cover : CoverPath)

/-- The path up to the size. -/
def stem : Text := cover.folder.text ++ (cover.id.1 ++ '/' :: cover.kind.1)

def sizeText : Text := cover.size.elim [] fun size ↦ '-' :: size.1

def text : Text := cover.stem ++ (cover.sizeText ++ '.' :: cover.format.text)

/-- The path of the original image. -/
def original : CoverPath := { cover with size := none }

end CoverPath

theorem accepts_folder_iff {text : Text} :
    Accepts (optional (word ("artist/" : Text) + word ("album/" : Text))) text ↔
      ∃ folder : CoverFolder, folder.text = text := by
  rw [accepts_optional_iff, accepts_add_iff, accepts_word_iff, accepts_word_iff]
  constructor
  · rintro (rfl | rfl | rfl)
    exacts [⟨.root, rfl⟩, ⟨.artist, rfl⟩, ⟨.album, rfl⟩]
  · rintro ⟨folder, rfl⟩
    cases folder
    exacts [Or.inl rfl, Or.inr (Or.inl rfl), Or.inr (Or.inr rfl)]

theorem accepts_format_iff {text : Text} :
    Accepts (word ("jpg" : Text) + word ("png" : Text) + word ("gif" : Text)) text ↔
      ∃ format : CoverFormat, format.text = text := by
  rw [accepts_add_iff, accepts_add_iff, accepts_word_iff, accepts_word_iff, accepts_word_iff]
  constructor
  · rintro ((rfl | rfl) | rfl)
    exacts [⟨.jpg, rfl⟩, ⟨.png, rfl⟩, ⟨.gif, rfl⟩]
  · rintro ⟨format, rfl⟩
    cases format
    exacts [Or.inl (Or.inl rfl), Or.inl (Or.inr rfl), Or.inr rfl]

/-- A hyphen and digits. -/
theorem accepts_sizeSuffix_iff {text : Text} : Accepts sizeSuffix text ↔
    ∃ size : TextOf decimalDigits, '-' :: size.1 = text := by
  unfold sizeSuffix
  rw [accepts_mul_iff]
  constructor
  · rintro ⟨front, size, hfront, hsize, rfl⟩
    rw [accepts_word_iff.mp hfront]
    exact ⟨⟨size, accepts_someOf_oneOf_iff.mp hsize⟩, rfl⟩
  · rintro ⟨size, rfl⟩
    exact ⟨("-" : Text), size.1, accepts_word_iff.mpr rfl, accepts_someOf_oneOf_iff.mpr size.2, rfl⟩

theorem accepts_size_iff {text : Text} : Accepts (optional sizeSuffix) text ↔
    ∃ size : Option (TextOf decimalDigits), (size.elim [] fun size ↦ '-' :: size.1) = text := by
  rw [accepts_optional_iff, accepts_sizeSuffix_iff]
  constructor
  · rintro (rfl | ⟨size, rfl⟩)
    exacts [⟨none, rfl⟩, ⟨some size, rfl⟩]
  · rintro ⟨size, rfl⟩
    cases size with
    | none => exact Or.inl rfl
    | some size => exact Or.inr ⟨size, rfl⟩

/-- The pattern accepts the texts of well-formed paths. -/
theorem accepts_mediaCoverPathPattern_iff {path : Text} : Accepts mediaCoverPathPattern path ↔
    ∃ cover : CoverPath, cover.text = path := by
  have hpattern : mediaCoverPathPattern =
      optional (word ("artist/" : Text) + word ("album/" : Text)) * someOf (oneOf decimalDigits) *
        word ("/" : Text) * someOf (oneOf lowerLetters) * optional sizeSuffix * word ("." : Text) *
        (word ("jpg" : Text) + word ("png" : Text) + word ("gif" : Text)) := rfl
  rw [hpattern]
  simp only [accepts_mul_iff, accepts_folder_iff, accepts_format_iff, accepts_size_iff,
    accepts_word_iff, accepts_someOf_oneOf_iff]
  constructor
  · rintro ⟨_, _, ⟨_, _, ⟨_, _, ⟨_, kind, ⟨_, _, ⟨_, id, ⟨folder, rfl⟩, hid, rfl⟩, rfl, rfl⟩, hkind,
      rfl⟩, ⟨size, rfl⟩, rfl⟩, rfl, rfl⟩, ⟨format, rfl⟩, rfl⟩
    refine ⟨⟨folder, ⟨id, hid⟩, ⟨kind, hkind⟩, size, format⟩, ?_⟩
    unfold CoverPath.text CoverPath.stem CoverPath.sizeText
    simp
  · rintro ⟨⟨folder, id, kind, size, format⟩, rfl⟩
    refine ⟨_, _, ⟨_, _, ⟨_, _, ⟨_, kind.1, ⟨_, _, ⟨_, id.1, ⟨folder, rfl⟩, id.2, rfl⟩, rfl, rfl⟩,
      kind.2, rfl⟩, ⟨size, rfl⟩, rfl⟩, rfl, rfl⟩, ⟨format, rfl⟩, ?_⟩
    unfold CoverPath.text CoverPath.stem CoverPath.sizeText
    simp

/-! ## The characters of a path -/

/-- The characters in front of the extension. -/
def nameLetters : Text := decimalDigits ++ lowerLetters ++ ("/-" : Text)

namespace CoverPath

variable (cover : CoverPath)

theorem mem_name {c : Char} (h : c ∈ cover.stem ++ cover.sizeText) : c ∈ nameLetters := by
  have hfolder : ∀ folder : CoverFolder, ∀ c ∈ folder.text, c ∈ nameLetters := by
    intro folder
    cases folder <;> exact forall_mem_of_all (by decide)
  have hdigits {c : Char} (hc : c ∈ decimalDigits) : c ∈ nameLetters :=
    List.mem_append_left _ (List.mem_append_left _ hc)
  have hletters {c : Char} (hc : c ∈ lowerLetters) : c ∈ nameLetters :=
    List.mem_append_left _ (List.mem_append_right _ hc)
  have hmarks : ∀ c ∈ ("/-" : Text), c ∈ nameLetters := fun c hc ↦ List.mem_append_right _ hc
  unfold stem sizeText at h
  simp only [List.mem_append, List.mem_cons] at h
  rcases h with (hfront | hid | rfl | hkind) | hsize
  · exact hfolder _ c hfront
  · exact hdigits (cover.id.2.2 c hid)
  · exact hmarks _ (by decide)
  · exact hletters (cover.kind.2.2 c hkind)
  · cases hcover : cover.size with
    | none =>
      rw [hcover] at hsize
      exact absurd hsize List.not_mem_nil
    | some size =>
      rw [hcover] at hsize
      rcases List.mem_cons.mp hsize with rfl | hdigit
      · exact hmarks _ (by decide)
      · exact hdigits (size.2.2 c hdigit)

theorem mem_format {format : CoverFormat} {c : Char} (h : c ∈ format.text) : c ∈ lowerLetters := by
  have hall : ∀ c ∈ format.text, c ∈ lowerLetters := by
    cases format <;> exact forall_mem_of_all (by decide)
  exact hall c h

/-- The path between its slashes. -/
def segments : List Text :=
  let file := cover.kind.1 ++ (cover.sizeText ++ '.' :: cover.format.text)
  match cover.folder with
  | .root => [cover.id.1, file]
  | .artist => ["artist", cover.id.1, file]
  | .album => ["album", cover.id.1, file]

theorem intercalate_segments : ['/'].intercalate cover.segments = cover.text := by
  have hpair (first second : Text) : ['/'].intercalate [first, second] = first ++ '/' :: second := by
    simp [List.intercalate]
  have htriple (first second third : Text) :
      ['/'].intercalate [first, second, third] = first ++ '/' :: (second ++ '/' :: third) := by
    simp [List.intercalate]
  unfold segments text stem
  rw [List.append_assoc, List.append_assoc]
  cases cover.folder with
  | root => exact hpair _ _
  | artist => exact htriple _ _ _
  | album => exact htriple _ _ _

theorem mem_sizeText {c : Char} (h : c ∈ cover.sizeText) : c = '-' ∨ c ∈ decimalDigits := by
  unfold sizeText at h
  cases hsize : cover.size with
  | none =>
    rw [hsize] at h
    cases h
  | some size =>
    rw [hsize] at h
    exact (List.mem_cons.mp h).imp_right (size.2.2 c)

/-- No slash is left inside a segment. -/
theorem slash_notMem_segments : ∀ segment ∈ cover.segments, '/' ∉ segment := by
  have hid : '/' ∉ cover.id.1 := fun h ↦ absurd (cover.id.2.2 _ h) (by decide)
  have hfile : '/' ∉ cover.kind.1 ++ (cover.sizeText ++ '.' :: cover.format.text) := by
    simp only [List.mem_append, List.mem_cons, not_or]
    refine ⟨fun h ↦ absurd (cover.kind.2.2 _ h) (by decide), fun h ↦ ?_, by decide, fun h ↦ ?_⟩
    · exact absurd (cover.mem_sizeText h) (by decide)
    · exact absurd (mem_format h) (by decide)
  unfold segments
  cases cover.folder with
  | root => exact List.forall_mem_cons.mpr ⟨hid, List.forall_mem_singleton.mpr hfile⟩
  | artist | album =>
    exact List.forall_mem_cons.mpr
      ⟨by decide, List.forall_mem_cons.mpr ⟨hid, List.forall_mem_singleton.mpr hfile⟩⟩

theorem segments_ne_nil : ∀ segment ∈ cover.segments, segment ≠ [] := by
  have hfile : cover.kind.1 ++ (cover.sizeText ++ '.' :: cover.format.text) ≠ [] := by simp
  unfold segments
  cases cover.folder with
  | root => exact List.forall_mem_cons.mpr ⟨cover.id.2.1, List.forall_mem_singleton.mpr hfile⟩
  | artist | album =>
    exact List.forall_mem_cons.mpr
      ⟨by decide, List.forall_mem_cons.mpr ⟨cover.id.2.1, List.forall_mem_singleton.mpr hfile⟩⟩

theorem splitOn_text : cover.text.splitOn '/' = cover.segments := by
  rw [← intercalate_segments, List.splitOn_intercalate]
  · exact cover.slash_notMem_segments
  · unfold segments
    cases cover.folder <;> exact List.cons_ne_nil _ _

end CoverPath

/-- The path has one point, in front of its extension, no character with a meaning of its own in a
URL, and no empty segment. -/
structure Confined (path : Text) : Prop where
  point : ∃ name, ∃ format : CoverFormat, path = name ++ '.' :: format.text ∧ '.' ∉ name
  plain : ∀ c ∈ path, c ∉ ("?#%\\" : Text)
  segments : [] ∉ path.splitOn '/'

theorem CoverPath.confined (cover : CoverPath) : Confined cover.text where
  point := ⟨cover.stem ++ cover.sizeText, cover.format, (List.append_assoc _ _ _).symm,
    fun h ↦ absurd (cover.mem_name h) (by decide)⟩
  plain := by
    have hname : ∀ c ∈ nameLetters, c ∉ ("?#%\\" : Text) := forall_mem_of_all (by decide)
    have hformat : ∀ c ∈ lowerLetters, c ∉ ("?#%\\" : Text) := forall_mem_of_all (by decide)
    intro c hc
    unfold text at hc
    rw [← List.append_assoc] at hc
    rcases List.mem_append.mp hc with hleft | hright
    · exact hname c (cover.mem_name hleft)
    · rcases List.mem_cons.mp hright with rfl | hextension
      · decide
      · exact hformat c (mem_format hextension)
  segments := by
    rw [cover.splitOn_text]
    exact fun h ↦ cover.segments_ne_nil [] h rfl

/-! ## The size suffix -/

namespace CoverPath

variable (cover : CoverPath)

theorem accepts_extension (format : CoverFormat) :
    Accepts extensionGroup ('.' :: format.text) := by
  unfold extensionGroup
  refine accepts_mul_iff.mpr ⟨("." : Text), format.text, accepts_word_iff.mpr rfl,
    accepts_someOf_oneOf_iff.mpr ⟨?_, fun c ↦ mem_format⟩, rfl⟩
  cases format <;> decide

theorem disjoint_digits_letters : ∀ c ∈ decimalDigits, c ∉ lowerLetters :=
  forall_mem_of_all (by decide)

theorem accepts_sizeText {size : TextOf decimalDigits} (h : cover.size = some size) :
    Accepts sizeSuffix cover.sizeText := by
  unfold sizeText
  rw [h]
  exact accepts_sizeSuffix_iff.mpr ⟨size, rfl⟩

/-- The suffix that can be dropped from a path below any root is its size. -/
theorem suffixAt_text {root before cut kept : Text}
    (h : SuffixAt sizeSuffix extensionGroup (root ++ cover.text) before cut kept) :
    cover.size ≠ none ∧ before = root ++ cover.stem ∧ kept = '.' :: cover.format.text := by
  obtain ⟨heq, hcut, hkept⟩ := h
  obtain ⟨⟨digits, hne, hdigits⟩, rfl⟩ := accepts_sizeSuffix_iff.mp hcut
  obtain ⟨point, letters, hpoint, hletters, rfl⟩ := accepts_mul_iff.mp hkept
  obtain rfl := accepts_word_iff.mp hpoint
  obtain ⟨-, hletters⟩ := accepts_someOf_oneOf_iff.mp hletters
  have hshape : (root ++ cover.stem ++ cover.sizeText) ++ '.' :: cover.format.text =
      (before ++ '-' :: digits) ++ '.' :: letters := by
    unfold text at heq
    simpa using heq
  obtain ⟨hname, rfl⟩ := split_at_last (fun hmem ↦ absurd (mem_format hmem) (by decide))
    (fun hmem ↦ absurd (hletters _ hmem) (by decide)) hshape
  cases hsize : cover.size with
  | none =>
    -- The name would end in a digit, but it ends in a letter.
    obtain ⟨start, last, rfl⟩ := List.eq_nil_or_concat digits |>.resolve_left hne
    obtain ⟨kindStart, kindLast, hkind⟩ :=
      (List.eq_nil_or_concat cover.kind.1).resolve_left cover.kind.2.1
    have hends : (root ++ (cover.folder.text ++ (cover.id.1 ++ '/' :: kindStart))) ++ [kindLast] =
        (before ++ '-' :: start) ++ [last] := by
      unfold sizeText stem at hname
      rw [hsize, hkind] at hname
      simpa using hname
    have hletter : kindLast ∈ lowerLetters := cover.kind.2.2 _ (by simp [hkind])
    have hdigit : last ∈ decimalDigits := hdigits _ (by simp)
    obtain rfl := List.singleton_inj.mp (List.append_inj' hends rfl).2
    exact absurd hletter (disjoint_digits_letters _ hdigit)
  | some size =>
    unfold sizeText at hname
    rw [hsize] at hname
    obtain ⟨rfl, -⟩ := split_at_last (fun hmem ↦ absurd (size.2.2 _ hmem) (by decide))
      (fun hmem ↦ absurd (hdigits _ hmem) (by decide)) hname
    exact ⟨Option.some_ne_none size, rfl, rfl⟩

theorem withoutSizeSuffix_text (root : Text) : withoutSizeSuffix (root ++ cover.text) =
    cover.size.map fun _ ↦ root ++ cover.original.text := by
  unfold withoutSizeSuffix
  cases hreplaced : replaceSuffix sizeSuffix extensionGroup (root ++ cover.text) with
  | none =>
    cases hsize : cover.size with
    | none => rfl
    | some size =>
      have hshape : root ++ cover.text =
          (root ++ cover.stem) ++ (cover.sizeText ++ '.' :: cover.format.text) :=
        (List.append_assoc _ _ _).symm
      have hsome := replaceSuffix_isSome
        ⟨hshape, cover.accepts_sizeText hsize, accepts_extension cover.format⟩
      rw [hreplaced] at hsome
      cases hsome
  | some replaced =>
    obtain ⟨before, cut, kept, hsuffix, rfl⟩ := suffixAt_of_replaceSuffix hreplaced
    obtain ⟨hsize, rfl, rfl⟩ := cover.suffixAt_text hsuffix
    obtain ⟨size, hsome⟩ := Option.ne_none_iff_exists'.mp hsize
    rw [hsome, Option.map_some]
    refine congrArg some ?_
    unfold text original stem sizeText
    simp

/-- The path of the original image has no size left to drop. -/
theorem withoutSizeSuffix_original (root : Text) :
    withoutSizeSuffix (root ++ cover.original.text) = none := by
  rw [withoutSizeSuffix_text]
  rfl

end CoverPath

/-! ## Recorded paths -/

/-- The IDs of the entities that come with a record are not negative. -/
def HistoryRecordResponse.NonnegativeIDs (record : HistoryRecordResponse) : Prop :=
  ∀ entity ∈ [record.movie, record.series, record.album, record.artist], ∀ ref ∈ entity, 0 ≤ ref.id

theorem mem_decimalDigits {c : Char} (h : c.isDigit = true) : c ∈ decimalDigits := by
  have hrange : 48 ≤ c.toNat ∧ c.toNat ≤ 57 := by
    simpa [Char.isDigit, UInt32.le_iff_toNat_le] using h
  have hall : ∀ code ∈ List.range' 48 10, Char.ofNat code ∈ decimalDigits := by decide
  rw [← Char.ofNat_toNat c]
  exact hall _ (List.mem_range'_1.mpr ⟨hrange.1, by omega⟩)

/-- A non-negative number is written in digits. -/
def digitsOf {id : ℤ} (h : 0 ≤ id) : TextOf decimalDigits :=
  ⟨(toString id).toList, by
    obtain ⟨value, rfl⟩ := Int.eq_ofNat_of_zero_le h
    have htext : (toString (value : ℤ)).toList = Nat.toDigits 10 value := Nat.toList_repr
    rw [htext]
    exact ⟨Nat.toDigits_ne_nil, fun c hc ↦
      mem_decimalDigits (Nat.isDigit_of_mem_toDigits (by decide) (by decide) hc)⟩⟩

/-- A recorded path is empty or accepted. -/
theorem mediaCoverPath_accepted {record : HistoryRecordResponse} (h : record.NonnegativeIDs) :
    record.mediaCoverPath = "" ∨ Accepts mediaCoverPathPattern record.mediaCoverPath.toList := by
  have hid (entity : Option HistoryEntityRef)
      (hentity : entity ∈ [record.movie, record.series, record.album, record.artist]) :
      0 ≤ (entity.map (·.id)).getD 0 := by
    cases entity with
    | none => exact le_rfl
    | some ref => exact h _ hentity ref rfl
  have hsize : ("250" : Text) ≠ [] ∧ ∀ c ∈ ("250" : Text), c ∈ decimalDigits :=
    ⟨by decide, forall_mem_of_all (by decide)⟩
  have hpath (folder : CoverFolder) (kind : TextOf lowerLetters) {id : ℤ} (hpos : 0 ≤ id) :
      Accepts mediaCoverPathPattern
        (folder.text ++ ((toString id).toList ++ '/' :: (kind.1 ++ ("-250.jpg" : Text)))) := by
    refine accepts_mediaCoverPathPattern_iff.mpr
      ⟨⟨folder, digitsOf hpos, kind, some ⟨("250" : Text), hsize⟩, .jpg⟩, ?_⟩
    unfold CoverPath.text CoverPath.stem CoverPath.sizeText digitsOf
    rw [List.append_assoc, List.append_assoc]
    rfl
  have hposter : ("poster" : Text) ≠ [] ∧ ∀ c ∈ ("poster" : Text), c ∈ lowerLetters :=
    ⟨by decide, forall_mem_of_all (by decide)⟩
  have hcover : ("cover" : Text) ≠ [] ∧ ∀ c ∈ ("cover" : Text), c ∈ lowerLetters :=
    ⟨by decide, forall_mem_of_all (by decide)⟩
  have hroot {id : ℤ} (hpos : 0 ≤ id) :
      Accepts mediaCoverPathPattern (s!"{id}/poster-250.jpg").toList := by
    rw [String.toList_append]
    exact hpath .root ⟨"poster", hposter⟩ hpos
  unfold HistoryRecordResponse.mediaCoverPath
  dsimp only
  split_ifs
  · exact Or.inr (hroot (hid record.movie (by simp)))
  · exact Or.inr (hroot (hid record.series (by simp)))
  · refine Or.inr ?_
    rw [String.toList_append, String.toList_append, List.append_assoc]
    exact hpath .album ⟨"cover", hcover⟩ (hid record.album (by simp))
  · refine Or.inr ?_
    rw [String.toList_append, String.toList_append, List.append_assoc]
    exact hpath .artist ⟨"poster", hposter⟩ (hid record.artist (by simp))
  · exact Or.inl rfl

/-! ## Requests -/

/-- The requests for an accepted path: the path below the root, and after a miss possibly the same
path without its size, which is accepted as well and has no further size to drop. -/
def RequestsOnly (root : Text) (missed : Bool) (path : Text) (requests : List Text) : Prop :=
  requests = [root ++ path] ∨
    missed = true ∧ ∃ before cut kept, SuffixAt sizeSuffix extensionGroup path before cut kept ∧
      requests = [root ++ path, root ++ (before ++ kept)] ∧
      Accepts mediaCoverPathPattern (before ++ kept) ∧
      withoutSizeSuffix (before ++ kept) = none ∧
      withoutSizeSuffix (root ++ (before ++ kept)) = none

/-- The first answer is that there is no such image. -/
def missed (answer : Except CoverError MediaCover) : Bool :=
  match answer with
  | .error err => err.isNotFound
  | .ok _ => false

/-- An accepted path is requested, and after a miss the original if the path has a size. -/
theorem mediaCover_requests (name apiVersion : String)
    (getBytes : ℕ → Text → ℕ → Except CoverError MediaCover) (cover : CoverPath) :
    (mediaCover name apiVersion getBytes cover.text).1 =
      if missed (getBytes 0 (mediaCoverRoot apiVersion ++ cover.text) maxMediaCoverBytes) = true ∧
        cover.size.isSome = true
      then [mediaCoverRoot apiVersion ++ cover.text, mediaCoverRoot apiVersion ++ cover.original.text]
      else [mediaCoverRoot apiVersion ++ cover.text] := by
  have haccepted : Accepts mediaCoverPathPattern cover.text :=
    accepts_mediaCoverPathPattern_iff.mpr ⟨cover, rfl⟩
  unfold mediaCover missed
  rw [if_neg (not_not.mpr haccepted)]
  dsimp only
  rw [cover.withoutSizeSuffix_text]
  cases getBytes 0 (mediaCoverRoot apiVersion ++ cover.text) maxMediaCoverBytes with
  | ok image => rfl
  | error err =>
    cases cover.size with
    | none =>
      dsimp only [Option.map_none]
      rw [if_neg (by simp)]
    | some size =>
      dsimp only [Option.map_some]
      by_cases hmissed : err.isNotFound = true
      · rw [if_pos hmissed, if_pos ⟨hmissed, rfl⟩]
      · rw [if_neg hmissed, if_neg fun h ↦ hmissed h.1]

/-- Recorded paths are accepted, accepted paths are confined and so are the requests made for them, and
no request is made for any other path. -/
theorem mediaCover_confined (name apiVersion : String)
    (getBytes : ℕ → Text → ℕ → Except CoverError MediaCover) :
    (∀ record : HistoryRecordResponse, record.NonnegativeIDs →
      record.mediaCoverPath = "" ∨ Accepts mediaCoverPathPattern record.mediaCoverPath.toList) ∧
    (∀ path, Accepts mediaCoverPathPattern path → Confined path ∧
      RequestsOnly (mediaCoverRoot apiVersion)
        (missed (getBytes 0 (mediaCoverRoot apiVersion ++ path) maxMediaCoverBytes)) path
        (mediaCover name apiVersion getBytes path).1) ∧
    ∀ path, ¬Accepts mediaCoverPathPattern path →
      mediaCover name apiVersion getBytes path = ([], .error (.rejected name path)) := by
  refine ⟨fun record ↦ mediaCoverPath_accepted, fun path hpath ↦ ?_, fun path hpath ↦ if_pos hpath⟩
  obtain ⟨cover, rfl⟩ := accepts_mediaCoverPathPattern_iff.mp hpath
  refine ⟨cover.confined, ?_⟩
  rw [mediaCover_requests name apiVersion getBytes cover]
  split
  case isFalse => exact Or.inl rfl
  case isTrue hretry =>
    obtain ⟨size, hsize⟩ := Option.isSome_iff_exists.mp hretry.2
    exact Or.inr ⟨hretry.1, cover.stem, cover.sizeText, '.' :: cover.format.text,
      ⟨rfl, cover.accepts_sizeText hsize, CoverPath.accepts_extension cover.format⟩, rfl,
      accepts_mediaCoverPathPattern_iff.mpr ⟨cover.original, rfl⟩,
      cover.withoutSizeSuffix_original [], cover.withoutSizeSuffix_original _⟩

end Huntarr2.Arr
