import Huntarr2.GoStd.Duration

/-!
# Types shared by the *arr clients

The search candidates an instance offers and the import records its history yields.
-/

namespace Huntarr2.Arr

open GoStd

/-- An item eligible for a search. -/
structure UpgradeItem where
  id : ℤ
  label : String
  detailPath : String
  deriving DecidableEq, Repr

/-- How many items each stage of the filtering excluded. -/
structure FilterStats where
  libraryTotal : ℤ
  noFile : ℤ
  unmonitored : ℤ
  noProfile : ℤ
  upgradeBlocked : ℤ
  unknownQuality : ℤ
  atOrAbove : ℤ
  upgradeable : ℤ
  deriving DecidableEq, Repr

/-- What `Upgradeable` returns. -/
structure UpgradeResult where
  items : List UpgradeItem
  missingItems : List UpgradeItem
  stats : FilterStats
  deriving DecidableEq, Repr

/-- The technical details of an imported file. -/
structure MediaInfo where
  resolution : String
  videoCodec : String
  videoBitDepth : ℤ
  videoBitrate : ℤ
  videoDynamicRangeType : String
  audioCodec : String
  audioChannels : ℚ
  audioBitrate : ℤ
  audioBitrateText : String
  audioBits : String
  audioSampleRate : String
  runTime : String
  deriving DecidableEq, Repr

/-- A file without any technical detail. -/
def MediaInfo.zero : MediaInfo := ⟨"", "", 0, 0, "", "", 0, 0, "", "", "", ""⟩

/-- A single import event of an instance's history. -/
structure HistoryRecord where
  id : ℤ
  itemID : ℤ
  date : Time
  itemLabel : String
  releaseTitle : String
  detailPath : String
  mediaCoverPath : String
  isUpgrade : Bool
  quality : String
  previousQuality : String
  size : ℤ
  previousSize : ℤ
  customFormatScore : Option ℤ
  previousCustomFormatScore : Option ℤ
  releaseGroup : String
  fileID : ℤ
  mediaInfo : Option MediaInfo
  deriving DecidableEq, Repr

end Huntarr2.Arr
