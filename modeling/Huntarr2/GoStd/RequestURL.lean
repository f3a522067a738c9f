import Huntarr2.Foundation.Percent

/-!
# Paths of request URLs

A URL keeps the path that its text stands for, and the text itself where the default encoding of the
path differs from it. The escaped path, whichever of the two it is, always stands for the path.
-/

namespace Huntarr2.GoStd

open Percent

/-- The bytes that `escape` keeps in a path. -/
def pathByte (c : Char) : Option Char :=
  if c.isAlphanum ∨ c ∈ ("-_.~$&+,/:;=@" : Text) then some c else none

/-- `validEncoded`. -/
def validEncoded (text : Text) : Bool :=
  text.all fun c ↦ c ∈ ("!$&'()*+,;=:@[]%" : Text) || (pathByte c).isSome

/-- `url.URL`, as far as its path goes. -/
@[ext]
structure RequestURL where
  path : Text
  rawPath : Text
  decoded : rawPath ≠ [] → Decodes id rawPath path
  bytes : ∀ c ∈ path, c.toNat < 256

theorem pathByte_spec (c d : Char) (h : pathByte c = some d) : d ≠ '%' ∧ id d = c := by
  unfold pathByte at h
  split at h
  case isTrue hkeeps =>
    obtain rfl := Option.some.inj h
    refine ⟨fun hpercent ↦ ?_, rfl⟩
    rw [hpercent] at hkeeps
    exact absurd hkeeps (by decide)
  case isFalse => cases h

namespace RequestURL

variable (url : RequestURL)

/-- `setPath`; fails where the text is malformed. -/
def ofText? (text : Text) (htext : ∀ c ∈ text, c.toNat < 256) : Option RequestURL :=
  match hpath : decode id text with
  | none => none
  | some path => some
    { path := path
      rawPath := if text = encode pathByte path then [] else text
      decoded := fun hraw ↦ by
        have hdiffers : text ≠ encode pathByte path := fun heq ↦ hraw (if_pos heq)
        rw [if_neg hdiffers]
        exact decodes_of_decode hpath
      bytes := (decodes_of_decode hpath).bytes_lt htext }

/-- `EscapedPath`. -/
def escapedPath : Text :=
  if url.rawPath ≠ [] ∧ validEncoded url.rawPath then url.rawPath
  else if url.path = ['*'] then url.path else encode pathByte url.path

/-- The escaped path stands for the path. -/
theorem decodes_escapedPath : Decodes id url.escapedPath url.path := by
  unfold escapedPath
  split
  case isTrue hraw => exact url.decoded hraw.1
  case isFalse =>
    split
    case isTrue hstar =>
      rw [hstar]
      exact decodes_map (by decide)
    case isFalse => exact decodes_encode pathByte_spec url.bytes

/-- `StripPrefix` with a text of plain characters; it answers with not found where the path or its
text does not start with it. -/
def strip? (removed : Text) (hremoved : '%' ∉ removed) : Option RequestURL :=
  if h : removed ≠ [] ∧ removed <+: url.path ∧ (url.rawPath = [] ∨ removed <+: url.rawPath) then some
    { path := url.path.drop removed.length
      rawPath := url.rawPath.drop removed.length
      decoded := fun hraw ↦ by
        obtain ⟨-, ⟨path, hpath⟩, hrawPath⟩ := h
        have hnonempty : url.rawPath ≠ [] := fun hnil ↦ hraw (by rw [hnil]; exact List.drop_nil)
        obtain ⟨rawPath, hrest⟩ := hrawPath.resolve_left hnonempty
        have hdecoded := decode_of_decodes (url.decoded hnonempty)
        rw [← hrest, decode_append hremoved, List.map_id, ← hpath] at hdecoded
        obtain ⟨value, hvalue, hsame⟩ := Option.map_eq_some_iff.mp hdecoded
        rw [← hpath, ← hrest, List.drop_left, List.drop_left, ← List.append_cancel_left hsame]
        exact decodes_of_decode hvalue
      bytes := fun c hc ↦ url.bytes c (List.mem_of_mem_drop hc) }
  else none

variable {url} {removed : Text} {hremoved : '%' ∉ removed} {rest : RequestURL}

theorem strip?_eq_some (h : url.strip? removed hremoved = some rest) :
    removed ≠ [] ∧ url.path = removed ++ rest.path ∧
      (url.rawPath = [] ∧ rest.rawPath = [] ∨ url.rawPath = removed ++ rest.rawPath) := by
  unfold strip? at h
  split at h
  case isFalse => cases h
  case isTrue hstarts =>
    obtain rfl := Option.some.inj h
    obtain ⟨hnonempty, ⟨path, hpath⟩, hrawPath⟩ := hstarts
    dsimp only
    rw [← hpath, List.drop_left]
    refine ⟨hnonempty, rfl, hrawPath.imp (fun hnil ↦ ⟨hnil, by rw [hnil, List.drop_nil]⟩) ?_⟩
    rintro ⟨rawPath, hrest⟩
    rw [← hrest, List.drop_left]

/-- A prefix that escaping keeps can be stripped from the escaped path. -/
theorem escapedPath_strip (h : url.strip? removed hremoved = some rest)
    (hkept : ∀ c ∈ removed, pathByte c = some c) (hstar : rest.path ≠ ['*']) :
    url.escapedPath = removed ++ rest.escapedPath := by
  obtain ⟨hnonempty, hpath, hrawPath⟩ := strip?_eq_some h
  have hencoded : encode pathByte url.path = removed ++ encode pathByte rest.path := by
    rw [hpath, encode_append, encode_eq_self hkept]
  have hvalid : validEncoded (removed ++ rest.rawPath) = validEncoded rest.rawPath := by
    have hall : removed.all
        (fun c ↦ c ∈ ("!$&'()*+,;=:@[]%" : Text) || (pathByte c).isSome) = true := by
      rw [List.all_eq_true]
      intro c hc
      rw [hkept c hc, Option.isSome_some, Bool.or_true]
    unfold validEncoded
    rw [List.all_append, hall, Bool.true_and]
  have hwhole : url.path ≠ ['*'] := by
    intro heq
    rw [hpath] at heq
    cases removed with
    | nil => exact hnonempty rfl
    | cons c _ =>
      obtain ⟨rfl, -⟩ := List.cons.inj heq
      exact absurd (hkept _ List.mem_cons_self) (by decide)
  unfold escapedPath
  rw [if_neg hwhole, if_neg hstar, hencoded]
  rcases hrawPath with ⟨hnil, hrestNil⟩ | hraw
  · rw [hnil, hrestNil, if_neg fun hraw ↦ hraw.1 rfl, if_neg fun hraw ↦ hraw.1 rfl]
  · rw [hraw, hvalid]
    by_cases hrest : rest.rawPath = []
    · have hwholeRaw : url.rawPath ≠ [] := by
        rw [hraw, hrest, List.append_nil]
        exact hnonempty
      have hdecoded := decode_of_decodes (url.decoded hwholeRaw)
      rw [hraw, hrest, decode_append hremoved, List.map_id, hpath] at hdecoded
      have hnil : [] = rest.path := List.append_cancel_left (Option.some.inj hdecoded)
      have hempty : ¬(([] : Text) ≠ [] ∧ validEncoded [] = true) := fun hraw ↦ hraw.1 rfl
      rw [hrest, ← hnil, if_neg hempty]
      exact ite_self _
    · split
      case isTrue hboth => rw [if_pos ⟨hrest, hboth.2⟩]
      case isFalse hneither =>
        rw [if_neg fun hboth ↦ hneither ⟨fun hnil ↦ hrest (List.append_eq_nil_iff.mp hnil).2, hboth.2⟩]

end RequestURL

end Huntarr2.GoStd
