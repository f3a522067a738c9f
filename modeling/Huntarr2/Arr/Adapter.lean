import Huntarr2.Arr.Quality

/-!
# Quality profiles of the adapter

A profile arrives as a tree of entries. An entry with a quality object is a single quality and one
without is a group, whose members are single qualities. The conversion drops a quality object whose ID
is zero, which is the ID of the quality Unknown.
-/

namespace Huntarr2.Arr

/-- An entry of a quality profile response. -/
structure ProfileEntryResponse where
  id : ℤ
  quality : Option QualityLevel
  name : String
  items : List ProfileEntryResponse
  allowed : Bool

/-- A quality profile response. -/
structure QualityProfileResponse where
  id : ℤ
  name : String
  upgradeAllowed : Bool
  cutoff : ℤ
  items : List ProfileEntryResponse

mutual

/-- One turn of the loop of `convertProfileEntries`. -/
def convertProfileEntry : ProfileEntryResponse → ProfileEntry
  | ⟨id, quality, name, items, allowed⟩ =>
    { id := id
      name := name
      allowed := allowed
      items := convertProfileEntries items
      quality := match quality with
        | some quality => if quality.id ≠ 0 then some ⟨quality.id, quality.name⟩ else none
        | none => none }

def convertProfileEntries : List ProfileEntryResponse → List ProfileEntry
  | [] => []
  | entry :: raw => convertProfileEntry entry :: convertProfileEntries raw

end

/-- The profile that `QualityProfiles` returns for a response. -/
def QualityProfileResponse.convert (raw : QualityProfileResponse) : QualityProfile where
  id := raw.id
  name := raw.name
  upgradeAllowed := raw.upgradeAllowed
  cutoff := raw.cutoff
  items := convertProfileEntries raw.items

theorem convertProfileEntries_eq_map (raw : List ProfileEntryResponse) :
    convertProfileEntries raw = raw.map convertProfileEntry := by
  induction raw with
  | nil => rfl
  | cons entry raw ih => rw [convertProfileEntries, ih, List.map_cons]

namespace ProfileEntryResponse

@[simp] theorem allowed_convert (entry : ProfileEntryResponse) :
    (convertProfileEntry entry).allowed = entry.allowed := by
  cases entry
  rfl

@[simp] theorem id_convert (entry : ProfileEntryResponse) :
    (convertProfileEntry entry).id = entry.id := by
  cases entry
  rfl

@[simp] theorem items_convert (entry : ProfileEntryResponse) :
    (convertProfileEntry entry).items = entry.items.map convertProfileEntry := by
  cases entry
  exact convertProfileEntries_eq_map _

theorem quality_convert (entry : ProfileEntryResponse) :
    (convertProfileEntry entry).quality = entry.quality.filter (·.id ≠ 0) := by
  obtain ⟨id, quality, name, items, allowed⟩ := entry
  cases quality with
  | none => rfl
  | some quality => exact (Option.filter_some.trans (if_congr (by simp) rfl rfl)).symm

def qualityID (entry : ProfileEntryResponse) : Option ℤ := entry.quality.map (·.id)

/-- The conversion keeps the ID of a quality unless it is zero. -/
theorem qualityID_convert (entry : ProfileEntryResponse) (id : ℤ) :
    (convertProfileEntry entry).qualityID = some id ↔ id ≠ 0 ∧ entry.qualityID = some id := by
  unfold ProfileEntry.qualityID qualityID
  rw [quality_convert]
  cases entry.quality with
  | none => simp
  | some quality =>
    simp only [Option.filter_some, decide_eq_true_eq, Option.map_some, Option.some.injEq]
    by_cases hzero : quality.id = 0
    · rw [if_neg (not_not.mpr hzero)]
      exact ⟨fun h ↦ (nomatch h), fun h ↦ absurd (h.2.symm.trans hzero) h.1⟩
    · rw [if_pos hzero, Option.map_some, Option.some.injEq]
      exact ⟨fun h ↦ ⟨h ▸ hzero, h⟩, fun h ↦ h.2⟩

/-- The ID of a single quality, or those of the members of a group. -/
def qualityIDs (entry : ProfileEntryResponse) : List ℤ :=
  match entry.quality with
  | some quality => [quality.id]
  | none => entry.items.filterMap qualityID

/-- The ID of a group, unless it is zero. -/
def groupIDs (entry : ProfileEntryResponse) : List ℤ :=
  if entry.quality = none ∧ entry.id ≠ 0 then [entry.id] else []

/-- No converted entry holds zero. -/
theorem not_holds_zero_convert (entry : ProfileEntryResponse) :
    ¬(convertProfileEntry entry).Holds 0 := by
  rintro (hquality | ⟨-, ⟨hid, hzero⟩ | ⟨child, hchild, hquality⟩⟩)
  · exact ((qualityID_convert entry 0).mp hquality).1 rfl
  · exact hid hzero
  · rw [items_convert] at hchild
    obtain ⟨member, -, rfl⟩ := List.mem_map.mp hchild
    exact ((qualityID_convert member 0).mp hquality).1 rfl

/-- Unless one of them is zero, a converted entry holds the qualities of the response and the ID of
its group. -/
theorem holds_convert {entry : ProfileEntryResponse} (hzero : 0 ∉ entry.qualityIDs) (id : ℤ) :
    (convertProfileEntry entry).Holds id ↔ id ∈ entry.qualityIDs ∨ id ∈ entry.groupIDs := by
  have hmembers : (∃ child ∈ (convertProfileEntry entry).items, child.qualityID = some id) ↔
      id ≠ 0 ∧ id ∈ entry.items.filterMap qualityID := by
    rw [items_convert, List.mem_filterMap]
    constructor
    · rintro ⟨_, hchild, hid⟩
      obtain ⟨member, hmember, rfl⟩ := List.mem_map.mp hchild
      exact ⟨((qualityID_convert member id).mp hid).1, member, hmember,
        ((qualityID_convert member id).mp hid).2⟩
    · rintro ⟨hne, member, hmember, hid⟩
      exact ⟨_, List.mem_map_of_mem hmember, (qualityID_convert member id).mpr ⟨hne, hid⟩⟩
  unfold ProfileEntry.Holds
  rw [hmembers, qualityID_convert, quality_convert, id_convert]
  unfold qualityIDs at hzero ⊢
  unfold groupIDs
  cases hquality : entry.quality with
  | some quality =>
    rw [hquality] at hzero
    have hid : quality.id ≠ 0 := fun h ↦ hzero (List.mem_singleton.mpr h.symm)
    simp only [qualityID, hquality, Option.map_some, Option.some.injEq, Option.filter_some, hid, ne_eq,
      not_false_eq_true, decide_true, if_true, reduceCtorEq, false_and, or_false, if_false,
      List.mem_singleton, List.not_mem_nil]
    exact ⟨fun h ↦ h.2.symm, fun h ↦ ⟨h ▸ hid, h.symm⟩⟩
  | none =>
    rw [hquality] at hzero
    have hne : id ∈ entry.items.filterMap qualityID → id ≠ 0 := fun hmem h ↦ hzero (h ▸ hmem)
    simp only [qualityID, hquality, Option.map_none, Option.filter_none, reduceCtorEq, and_false,
      false_or, true_and]
    rw [or_comm, and_iff_right_of_imp hne]
    refine or_congr_right ?_
    split_ifs with hgroup
    · exact ⟨fun h ↦ List.mem_singleton.mpr h.2.symm, fun h ↦ ⟨hgroup, (List.mem_singleton.mp h).symm⟩⟩
    · exact ⟨fun h ↦ absurd h.1 hgroup, fun h ↦ absurd h List.not_mem_nil⟩

end ProfileEntryResponse

/-- No ID of a quality or a group occurs twice in the response. -/
def QualityProfileResponse.NoIDTwice (raw : QualityProfileResponse) : Prop :=
  (raw.items.flatMap fun entry ↦ entry.qualityIDs ++ entry.groupIDs).Nodup

instance (raw : QualityProfileResponse) : Decidable raw.NoIDTwice :=
  inferInstanceAs (Decidable (List.Nodup _))

/-- The ranks are those of every quality of an allowed entry, and of the allowed groups: the index of
the entry. -/
def QualityProfileResponse.RanksAllowed (raw : QualityProfileResponse) : Prop :=
  ∀ id i, (qualityRank raw.convert).lookup id = some i ↔
    ∃ entry, raw.items[i]? = some entry ∧ entry.allowed = true ∧
      (id ∈ entry.qualityIDs ∨ id ∈ entry.groupIDs)

namespace QualityProfileResponse

variable {raw : QualityProfileResponse}

theorem items_convert (raw : QualityProfileResponse) :
    raw.convert.items = raw.items.map convertProfileEntry := convertProfileEntries_eq_map raw.items

/-- The quality with the ID zero is never ranked. -/
theorem lookup_qualityRank_zero (raw : QualityProfileResponse) :
    (qualityRank raw.convert).lookup 0 = none := by
  rw [Option.eq_none_iff_forall_ne_some]
  intro i hi
  obtain ⟨entry, hentry, -, hholds⟩ := exists_of_lookup_qualityRank hi
  obtain ⟨response, -, rfl⟩ := List.mem_map.mp (raw.items_convert ▸ hentry)
  exact response.not_holds_zero_convert hholds

/-- A response without zeros, in which no ID occurs twice, gives an unambiguous profile. -/
theorem unambiguous_convert (hdistinct : raw.NoIDTwice)
    (hzero : ∀ entry ∈ raw.items, entry.allowed = true → 0 ∉ entry.qualityIDs) :
    raw.convert.Unambiguous := by
  unfold QualityProfile.Unambiguous QualityProfile.allowedEntries
  rw [items_convert, List.filter_map, List.pairwise_map]
  have hdisjoint := (List.nodup_flatMap.mp hdistinct).2
  refine (hdisjoint.sublist List.filter_sublist).imp_of_mem fun {first second} hfirst hsecond hpair ↦ ?_
  have hheld {entry : ProfileEntryResponse} {id : ℤ}
      (hentry : entry ∈ raw.items.filter ((·.allowed) ∘ convertProfileEntry))
      (hholds : (convertProfileEntry entry).Holds id) : id ∈ entry.qualityIDs ++ entry.groupIDs := by
    obtain ⟨hmem, hallowed⟩ := List.mem_filter.mp hentry
    rw [Function.comp_apply, ProfileEntryResponse.allowed_convert] at hallowed
    exact List.mem_append.mpr ((entry.holds_convert (hzero entry hmem hallowed) id).mp hholds)
  exact fun id hboth ↦ hpair (hheld hfirst hboth.1) (hheld hsecond hboth.2)

/-- Every allowed quality is ranked exactly when none of them has the ID zero. -/
theorem ranksAllowed_iff (raw : QualityProfileResponse) (hdistinct : raw.NoIDTwice) :
    raw.RanksAllowed ↔ ∀ entry ∈ raw.items, entry.allowed = true → 0 ∉ entry.qualityIDs := by
  constructor
  · intro hranks entry hentry hallowed hzero
    obtain ⟨i, hi⟩ := List.getElem?_of_mem hentry
    have hrank := (hranks 0 i).mpr ⟨entry, hi, hallowed, Or.inl hzero⟩
    rw [raw.lookup_qualityRank_zero] at hrank
    cases hrank
  · intro hzero id i
    rw [lookup_qualityRank (unambiguous_convert hdistinct hzero), items_convert, List.getElem?_map]
    cases hentry : raw.items[i]? with
    | none => simp
    | some entry =>
      have hmem := List.mem_of_getElem? hentry
      simp only [Option.map_some, Option.some.injEq, exists_eq_left',
        ProfileEntryResponse.allowed_convert]
      exact and_congr_right fun hallowed ↦ entry.holds_convert (hzero entry hmem hallowed) id

/-- A profile with a single quality and a group of two, all of them allowed. -/
def sampleResponse (firstID : ℤ) : QualityProfileResponse :=
  let single (id : ℤ) : ProfileEntryResponse := ⟨0, some ⟨id, ""⟩, "", [], true⟩
  ⟨1, "Any", true, 1000, [single firstID, ⟨1000, none, "HD", [single 4, single 9], true⟩]⟩

theorem ranksAllowed_sampleResponse : (sampleResponse 1).RanksAllowed :=
  ((sampleResponse 1).ranksAllowed_iff (by decide)).mpr (by decide)

/-- A profile that allows the quality Unknown does not rank it. -/
theorem unknown_not_ranked :
    (sampleResponse 0).NoIDTwice ∧ ¬(sampleResponse 0).RanksAllowed := by
  refine ⟨by decide, fun hranks ↦ ?_⟩
  have hrank := (hranks 0 0).mpr ⟨_, rfl, rfl, Or.inl (by decide)⟩
  rw [lookup_qualityRank_zero] at hrank
  cases hrank

end QualityProfileResponse

end Huntarr2.Arr
