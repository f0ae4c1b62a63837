import Mathlib.Data.List.Basic
import Mathlib.Order.MinMax

/-!
# The quality ladder

A bitrate target is mapped to the best rung it affords within a viewer's preference. The rung
is scaled to the source in doubles, which the host carries out.
-/

set_option autoImplicit false

namespace ImCodes.Remote

inductive QualityPriority
  | balanced
  | framerate
  | resolution
deriving DecidableEq

structure QualityPreference where
  maxHeight : Int
  maxFps : Int
  maxBitrateBps : Nat
  priority : QualityPriority
  minimumBitrateBps : Nat
deriving DecidableEq

def QualityPreference.automatic : QualityPreference := ⟨0, 30, 0, .balanced, 0⟩

def minVideoBitrateBps : Nat := 350000

def initialVideoBitrateBps : Nat := 12000000

def initialTransportBitrateBps : Nat := 1500000

def perPeerVideoBitrateBps : Nat := 15000000

def maxViewerVideoBitrateBps : Nat := 30000000

def minimumVideoWidth : Int := 1920

def minimumVideoHeight : Int := 1080

/-- `std::clamp`. -/
def clamp (value lower upper : Nat) : Nat := max lower (min value upper)

structure Preset where
  id : String
  width : Int
  height : Int
  fps : Int
  thresholdBps : Nat
deriving DecidableEq

def ladder : List Preset :=
  [⟨"2160p30", 3840, 2160, 30, 15000000⟩,
    ⟨"1440p60", 2560, 1440, 60, 14000000⟩,
    ⟨"2160p15", 3840, 2160, 15, 12000000⟩,
    ⟨"1440p30", 2560, 1440, 30, 10000000⟩,
    ⟨"1080p60", 1920, 1080, 60, 9000000⟩,
    ⟨"1080p30", 1920, 1080, 30, 6000000⟩,
    ⟨"1080p15", 1920, 1080, 15, 1800000⟩,
    ⟨"720p60", 1280, 720, 60, 4800000⟩,
    ⟨"900p30", 1600, 900, 30, 4500000⟩,
    ⟨"720p30", 1280, 720, 30, 3000000⟩,
    ⟨"720p15", 1280, 720, 15, 1800000⟩,
    ⟨"540p30", 960, 540, 30, 1600000⟩,
    ⟨"540p15", 960, 540, 15, 1000000⟩,
    ⟨"360p30", 640, 360, 30, 700000⟩,
    ⟨"720p10", 1280, 720, 10, 450000⟩,
    ⟨"540p10", 960, 540, 10, 380000⟩,
    ⟨"360p5", 640, 360, 5, 350000⟩]

/-- `kLadder.back()`. -/
def lowestPreset : Preset := ⟨"360p5", 640, 360, 5, 350000⟩

/-- The larger of the two, as far as `value & ~1` is even. -/
def evenAtLeastTwo (value : Int) : Int := max 2 (value - value % 2)

def normalizeQualityPreference (preference : QualityPreference) : QualityPreference :=
  { preference with
    maxHeight :=
      if preference.maxHeight > 0 then max preference.maxHeight minimumVideoHeight
      else preference.maxHeight
    minimumBitrateBps :=
      if preference.minimumBitrateBps = 0 then preference.maxBitrateBps
      else preference.minimumBitrateBps }

structure TransportBitratePolicy where
  minBps : Nat
  startBps : Nat
  maxBps : Nat
deriving DecidableEq

def selectTransportBitratePolicy (direct : Bool) (relayCapBps viewerCeilingBps : Nat) :
    TransportBitratePolicy :=
  let maxBps := clamp viewerCeilingBps minVideoBitrateBps maxViewerVideoBitrateBps
  let startBps := min (if direct then initialVideoBitrateBps else initialTransportBitrateBps) maxBps
  if !direct && relayCapBps > 0 then
    let cap := max relayCapBps minVideoBitrateBps
    ⟨minVideoBitrateBps, min startBps cap, min maxBps cap⟩
  else ⟨minVideoBitrateBps, startBps, maxBps⟩

def viewerVideoBitrateCeiling (preference : QualityPreference) : Nat :=
  clamp preference.maxBitrateBps perPeerVideoBitrateBps maxViewerVideoBitrateBps

def effectiveBitrateCap (viewerCapBps relayCapBps : Nat) (direct : Bool) : Nat :=
  let relay := if direct then 0 else relayCapBps
  if viewerCapBps = 0 then relay
  else if relay = 0 then viewerCapBps
  else min viewerCapBps relay

structure QualitySelection where
  presetId : String
  width : Int
  height : Int
  frameRate : Int
  bitrateBps : Nat
  maximumBitrateBps : Nat
  meetsPreferenceFloor : Bool
deriving DecidableEq

/-- The bitrate a target comes to within a preference. -/
def boundedBitrate (targetBitrateBps : Nat) (normalized : QualityPreference) : Nat :=
  clamp targetBitrateBps minVideoBitrateBps
    (if normalized.maxBitrateBps > 0 then
      clamp normalized.maxBitrateBps minVideoBitrateBps maxViewerVideoBitrateBps
    else perPeerVideoBitrateBps)

section
variable (sourceWidth sourceHeight : Int) (normalized : QualityPreference)

def maxFps : Int := if normalized.maxFps > 0 then normalized.maxFps else 30

def sourceCanHoldFloor : Bool :=
  sourceWidth ≥ minimumVideoWidth && sourceHeight ≥ minimumVideoHeight

def affordable (bitrate : Nat) (candidate : Preset) : Bool :=
  bitrate ≥ candidate.thresholdBps &&
    candidate.width * candidate.height ≤ sourceWidth * sourceHeight &&
    candidate.fps ≤ maxFps normalized &&
    (!sourceCanHoldFloor sourceWidth sourceHeight || candidate.height ≥ minimumVideoHeight) &&
    (normalized.maxHeight ≤ 0 || candidate.height ≤ normalized.maxHeight)

/-- The most pixels, and of those the higher frame rate; the first of equals stays. -/
def sharper (best : Option Preset) (candidate : Preset) : Option Preset :=
  match best with
  | none => some candidate
  | some best =>
    if candidate.width * candidate.height > best.width * best.height ||
        (candidate.width * candidate.height == best.width * best.height &&
          candidate.fps > best.fps) then
      some candidate
    else some best

/-- The rung a bitrate affords under the viewer's priority. -/
def preferredPreset (bitrate : Nat) : Option Preset :=
  let affordable := affordable sourceWidth sourceHeight normalized bitrate
  match normalized.priority with
  | .framerate =>
    ladder.find? fun candidate => affordable candidate &&
      candidate.fps ≥ min (maxFps normalized) 30
  | .resolution => (ladder.filter affordable).foldl sharper none
  | .balanced => none

/-- A capable source keeps its floor and sheds frame rate. -/
def floorPreset : Option Preset :=
  if sourceCanHoldFloor sourceWidth sourceHeight then
    ladder.find? fun candidate => candidate.height ≥ minimumVideoHeight &&
      candidate.height ≤ sourceHeight && candidate.width ≤ sourceWidth &&
      candidate.fps ≤ maxFps normalized
  else none

def selectedPreset (bitrate : Nat) : Preset :=
  (((preferredPreset sourceWidth sourceHeight normalized bitrate).or
    (ladder.find? (affordable sourceWidth sourceHeight normalized bitrate))).or
      (floorPreset sourceWidth sourceHeight normalized)).getD lowestPreset

end

/-- The selection for a target; `scaled` is the rung's size scaled to the source. -/
def selectQuality (scaled : Int → Int → Preset → Int × Int) (targetBitrateBps : Nat)
    (sourceWidth sourceHeight : Int) (preference : QualityPreference) : QualitySelection :=
  let normalized := normalizeQualityPreference preference
  let bitrate := boundedBitrate targetBitrateBps normalized
  let sourceWidth := max 2 sourceWidth
  let sourceHeight := max 2 sourceHeight
  let preset := selectedPreset sourceWidth sourceHeight normalized bitrate
  let bitrateFloorMet := normalized.minimumBitrateBps = 0 ∨ bitrate ≥ normalized.minimumBitrateBps
  let resolutionFloorMet := normalized.maxHeight ≠ 2160 ∨
    (sourceHeight ≥ 2160 ∧ preset.height ≥ 2160)
  let size := scaled sourceWidth sourceHeight preset
  { presetId := preset.id
    width := evenAtLeastTwo size.1
    height := evenAtLeastTwo size.2
    frameRate := preset.fps
    bitrateBps := bitrate
    maximumBitrateBps := 0
    meetsPreferenceFloor := decide (bitrateFloorMet ∧ resolutionFloorMet) }

/-! ## Bounds -/

theorem boundedBitrate_relayed {target viewerCap relayCap : Nat} {normalized : QualityPreference}
    (positive : 0 < relayCap) (isMax : normalized.maxBitrateBps =
      effectiveBitrateCap viewerCap relayCap false) :
    boundedBitrate target normalized ≤ max relayCap minVideoBitrateBps := by
  have capped : 0 < normalized.maxBitrateBps ∧ normalized.maxBitrateBps ≤ relayCap := by
    rw [isMax]
    unfold effectiveBitrateCap
    simp only [Bool.false_eq_true, if_false]
    split
    · omega
    · rw [if_neg (by omega)]
      omega
  unfold boundedBitrate
  rw [if_pos capped.1]
  unfold clamp
  omega

theorem maxBps_relayed {viewerCeiling relayCap : Nat} (positive : 0 < relayCap) :
    (selectTransportBitratePolicy false relayCap viewerCeiling).maxBps ≤
      max relayCap minVideoBitrateBps := by
  unfold selectTransportBitratePolicy
  rw [if_pos (by simpa using positive)]
  exact min_le_right _ _

end ImCodes.Remote
