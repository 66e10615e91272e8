import Sp11Touch.L2Pipeline.ContactFits
import Sp11Touch.L2Pipeline.Assign
/-!
# Tracks keep numbers that fit

`TrackFits` is the invariant of one track: positions are logical coordinates,
sensor positions lie on the grid and velocities are differences of two of them.
A contact that fits keeps it under update and creation, ageing halves the
velocities. From it `UpdateFits` and `DistanceFits` say that the stores of
`updateTrack` and the squares of `trackDistance` fit their types.
-/
namespace Sp11Touch
open CInt

def maxSensorXQ24 : Nat := (heatCols - 1) * 2 ^ 24
def maxSensorYQ24 : Nat := (heatRows - 1) * 2 ^ 24

structure TrackFits (track : Track) : Prop where
  rawX : track.rawX ≤ logicalMax
  rawY : track.rawY ≤ logicalMax
  outputX : track.outputX ≤ logicalMax
  outputY : track.outputY ≤ logicalMax
  sensorX : track.sensorXQ24 ≤ maxSensorXQ24
  sensorY : track.sensorYQ24 ≤ maxSensorYQ24
  velocityX : track.velocityX.natAbs ≤ logicalMax
  velocityY : track.velocityY.natAbs ≤ logicalMax
  sensorVelocityX : track.sensorVelocityXQ24.natAbs ≤ maxSensorXQ24
  sensorVelocityY : track.sensorVelocityYQ24.natAbs ≤ maxSensorYQ24
  strength : track.strength < 2 ^ 32
  pixels : track.pixels < 2 ^ 16

theorem zero_fits : TrackFits .zero := by
  refine ⟨?_, ?_, ?_, ?_, ?_, ?_, ?_, ?_, ?_, ?_, ?_, ?_⟩
  all_goals simp [Track.zero]

/-- The bounds of the stores in `u16`, `u32`, `s16` and `s32`. -/
theorem field_bounds : logicalMax < 2 ^ 15 ∧ maxSensorXQ24 < 2 ^ 31 ∧ maxSensorYQ24 < 2 ^ 31 := by
  decide

/-! ## The stores of an update -/

theorem s16_sub {a b : Nat} (ha : a ≤ logicalMax) (hb : b ≤ logicalMax) :
    s16 ((a : Int) - b) = a - b ∧ ((a : Int) - b).natAbs ≤ logicalMax := by
  have hmax := field_bounds.1
  exact ⟨s16_eq (by omega) (by omega), by omega⟩

theorem s32_sub {a b m : Nat} (hm : m < 2 ^ 31) (ha : a ≤ m) (hb : b ≤ m) :
    s32 ((a : Int) - b) = a - b ∧ ((a : Int) - b).natAbs ≤ m :=
  ⟨s32_eq (by omega) (by omega), by omega⟩

/-- On 16-bit positions `filter_coordinate` stores the mean it computes. -/
theorem filterCoordinate_eq {previous sample : Nat} (hp : previous < 2 ^ 16)
    (hs : sample < 2 ^ 16) :
    filterCoordinate previous sample =
      if ((sample : Int) - previous).natAbs ≤ 64 then (3 * previous + sample + 2) / 4
      else if ((sample : Int) - previous).natAbs ≤ 256 then (previous + 3 * sample + 2) / 4
      else sample := by
  have hdelta : (if previous > sample then previous - sample else sample - previous) =
      ((sample : Int) - previous).natAbs := by
    split <;> omega
  unfold filterCoordinate
  simp only
  rw [hdelta, u16_eq (by omega), u16_eq (by omega)]

/-- The means fit 16 bits, and the result is a logical position. -/
theorem filterCoordinate_fits {previous sample : Nat} (hp : previous ≤ logicalMax)
    (hs : sample ≤ logicalMax) :
    (3 * previous + sample + 2) / 4 < 2 ^ 16 ∧ (previous + 3 * sample + 2) / 4 < 2 ^ 16 ∧
      filterCoordinate previous sample ≤ logicalMax := by
  have hmax := field_bounds.1
  refine ⟨by omega, by omega, ?_⟩
  rw [filterCoordinate_eq (by omega) (by omega)]
  generalize ((sample : Int) - previous).natAbs = delta
  split
  · omega
  split
  · omega
  · exact hs

/-- What `update_track` stores, without a cast. -/
structure UpdateFits (prof : Profile) (track : Track) (contact : Contact) : Prop where
  velocityX : (updateTrack prof track contact).velocityX = contact.x - track.rawX
  velocityY : (updateTrack prof track contact).velocityY = contact.y - track.rawY
  sensorVelocityX : (updateTrack prof track contact).sensorVelocityXQ24 =
    contact.sensorXQ24 - track.sensorXQ24
  sensorVelocityY : (updateTrack prof track contact).sensorVelocityYQ24 =
    contact.sensorYQ24 - track.sensorYQ24
  filterX : (3 * track.outputX + contact.x + 2) / 4 < 2 ^ 16 ∧
    (track.outputX + 3 * contact.x + 2) / 4 < 2 ^ 16
  filterY : (3 * track.outputY + contact.y + 2) / 4 < 2 ^ 16 ∧
    (track.outputY + 3 * contact.y + 2) / 4 < 2 ^ 16
  after : TrackFits (updateTrack prof track contact)

/-- The track without its class and its evidence. -/
def Track.motion (track : Track) : Track :=
  { track with
    age := 0
    scoreHistoryQ24 := fun _ _ => 0
    missed := 0
    evidence := 0
    requiredEvidence := 0
    shapeClass := 0
    windowsClass := 0
    scoreHistoryCount := 0
    active := false
    confirmed := false }

theorem TrackFits.of_motion {a b : Track} (h : TrackFits b) (hm : a.motion = b.motion) :
    TrackFits a := by
  have hf : TrackFits a.motion := by
    rw [hm]
    exact { h with }
  exact { hf with }

theorem windowsUpdateClass_motion (track : Track) (contact : Contact) :
    (windowsUpdateClass track contact).motion = track.motion := rfl

theorem addEvidence_motion (track : Track) (contact : Contact) :
    (addEvidence track contact).motion = track.motion := by
  unfold addEvidence
  split
  · rfl
  · rfl

theorem updateTrack_motion (prof : Profile) (track : Track) (contact : Contact) :
    (updateTrack prof track contact).motion =
      { moveTrack prof track contact with strength := contact.strength, pixels := contact.pixels }.motion := by
  unfold updateTrack
  simp only
  split
  · exact windowsUpdateClass_motion _ contact
  · exact addEvidence_motion _ contact

/-- The velocities a move stores are the differences. -/
theorem moveTrack_velocity {track : Track} {contact : Contact} (prof : Profile)
    (ht : TrackFits track)
    (hc : ContactFits contact) :
    (moveTrack prof track contact).velocityX = contact.x - track.rawX ∧
      (moveTrack prof track contact).velocityY = contact.y - track.rawY ∧
      (moveTrack prof track contact).sensorVelocityXQ24 = contact.sensorXQ24 - track.sensorXQ24 ∧
      (moveTrack prof track contact).sensorVelocityYQ24 =
        contact.sensorYQ24 - track.sensorYQ24 := by
  have hx := (s16_sub hc.logical.1 ht.rawX).1
  have hy := (s16_sub hc.logical.2.1 ht.rawY).1
  have hsx := (s32_sub field_bounds.2.1 hc.sensorXMax ht.sensorX).1
  have hsy := (s32_sub field_bounds.2.2 hc.sensorYMax ht.sensorY).1
  unfold moveTrack
  simp only
  split
  · exact ⟨hx, hy, hsx, hsy⟩
  split
  · exact ⟨hx, hy, hsx, hsy⟩
  · exact ⟨hx, hy, hsx, hsy⟩

theorem moveTrack_output {track : Track} {contact : Contact} (prof : Profile) (ht : TrackFits track)
    (hc : ContactFits contact) :
    (moveTrack prof track contact).outputX ≤ logicalMax ∧
      (moveTrack prof track contact).outputY ≤ logicalMax := by
  obtain ⟨hx, hy, hox, hoy⟩ := hc.logical
  unfold moveTrack
  simp only
  split
  · exact ⟨hx, hy⟩
  split
  · exact ⟨hox, hoy⟩
  · exact ⟨(filterCoordinate_fits ht.outputX hx).2.2, (filterCoordinate_fits ht.outputY hy).2.2⟩

theorem moveTrack_place (prof : Profile) (track : Track) (contact : Contact) :
    (moveTrack prof track contact).rawX = contact.x ∧ (moveTrack prof track contact).rawY = contact.y ∧
      (moveTrack prof track contact).sensorXQ24 = contact.sensorXQ24 ∧
      (moveTrack prof track contact).sensorYQ24 = contact.sensorYQ24 := by
  unfold moveTrack
  simp only
  split
  · exact ⟨rfl, rfl, rfl, rfl⟩
  split
  · exact ⟨rfl, rfl, rfl, rfl⟩
  · exact ⟨rfl, rfl, rfl, rfl⟩

theorem updateTrack_fits {track : Track} {contact : Contact} (prof : Profile) (ht : TrackFits track)
    (hc : ContactFits contact) : UpdateFits prof track contact := by
  obtain ⟨hx, hy, _, _⟩ := hc.logical
  obtain ⟨hvx, hvy, hsx, hsy⟩ := moveTrack_velocity prof ht hc
  obtain ⟨hox, hoy⟩ := moveTrack_output prof ht hc
  obtain ⟨hpx, hpy, hpsx, hpsy⟩ := moveTrack_place prof track contact
  have hm := updateTrack_motion prof track contact
  have hfx := filterCoordinate_fits ht.outputX hx
  have hfy := filterCoordinate_fits ht.outputY hy
  refine { velocityX := (congrArg Track.velocityX hm).trans hvx
           velocityY := (congrArg Track.velocityY hm).trans hvy
           sensorVelocityX := (congrArg Track.sensorVelocityXQ24 hm).trans hsx
           sensorVelocityY := (congrArg Track.sensorVelocityYQ24 hm).trans hsy
           filterX := ⟨hfx.1, hfx.2.1⟩
           filterY := ⟨hfy.1, hfy.2.1⟩
           after := TrackFits.of_motion ?_ hm }
  exact { rawX := hpx.symm ▸ hx
          rawY := hpy.symm ▸ hy
          outputX := hox
          outputY := hoy
          sensorX := hpsx.symm ▸ hc.sensorXMax
          sensorY := hpsy.symm ▸ hc.sensorYMax
          velocityX := hvx.symm ▸ (s16_sub hx ht.rawX).2
          velocityY := hvy.symm ▸ (s16_sub hy ht.rawY).2
          sensorVelocityX := hsx.symm ▸ (s32_sub field_bounds.2.1 hc.sensorXMax ht.sensorX).2
          sensorVelocityY := hsy.symm ▸ (s32_sub field_bounds.2.2 hc.sensorYMax ht.sensorY).2
          strength := hc.sums.strength.fits
          pixels := hc.sums.pixels }

/-! ## Creation and ageing -/

theorem freshTrack_fits {contact : Contact} (prof : Profile) (tracks : Slot → Track)
    (hc : ContactFits contact) :
    TrackFits (freshTrack prof tracks contact) := by
  obtain ⟨hx, hy, hox, hoy⟩ := hc.logical
  have hplain : ∀ outputX outputY : Nat, outputX ≤ logicalMax → outputY ≤ logicalMax → TrackFits
      { rawX := contact.x, rawY := contact.y, outputX := outputX, outputY := outputY,
        sensorXQ24 := contact.sensorXQ24, sensorYQ24 := contact.sensorYQ24, strength :=
        contact.strength,
        pixels := contact.pixels } := by
    intro outputX outputY h1 h2
    exact { rawX := hx, rawY := hy, outputX := h1, outputY := h2, sensorX := hc.sensorXMax,
            sensorY := hc.sensorYMax, velocityX := Nat.zero_le _, velocityY := Nat.zero_le _,
            sensorVelocityX := Nat.zero_le _, sensorVelocityY := Nat.zero_le _,
            strength := hc.sums.strength.fits, pixels := hc.sums.pixels }
  have hout : (if prof.behaviorV2 then contact.outputX else contact.x) ≤ logicalMax ∧
      (if prof.behaviorV2 then contact.outputY else contact.y) ≤ logicalMax := by
    split
    · exact ⟨hox, hoy⟩
    · exact ⟨hx, hy⟩
  refine (hplain _ _ hout.1 hout.2).of_motion ?_
  unfold freshTrack
  simp only
  split
  · rfl
  · rfl

theorem natAbs_half_le {v : Int} {m : Nat} (h : v.natAbs ≤ m) : (v.tdiv 2).natAbs ≤ m := by
  rw [Int.natAbs_tdiv]
  exact Nat.le_trans (Nat.div_le_self _ _) h

theorem advanceTrack_fits {track : Track} (current : Bool) (h : TrackFits track) :
    TrackFits (advanceTrack current track) := by
  unfold advanceTrack
  split
  · exact h
  split
  · exact { h with
            velocityX := natAbs_half_le h.velocityX
            velocityY := natAbs_half_le h.velocityY
            sensorVelocityX := natAbs_half_le h.sensorVelocityX
            sensorVelocityY := natAbs_half_le h.sensorVelocityY }
  · exact zero_fits

/-! ## Distances -/

/-- `dx` and `dy` of the Windows-style distance. -/
def windowsDelta (track : Track) (contact : Contact) : Int × Int :=
  let coordX (p : Nat) : Int := windowsAssignmentCoordinate p windowsAssignXScaleQ24
  let coordY (p : Nat) : Int := windowsAssignmentCoordinate p windowsAssignYScaleQ24
  (coordX (predictedQ24 track.sensorXQ24 track.sensorVelocityXQ24 heatCols) -
    coordX contact.sensorXQ24,
    coordY (predictedQ24 track.sensorYQ24 track.sensorVelocityYQ24 heatRows) -
      coordY contact.sensorYQ24)

/-- `dx` and `dy` of the default profile. -/
def linuxDelta (track : Track) (contact : Contact) : Int × Int :=
  (clamp (track.rawX + track.velocityX) 0 logicalMax - contact.x,
    clamp (track.rawY + track.velocityY) 0 logicalMax - contact.y)

/-- `dx * dx + dy * dy` -/
def squared (d : Int × Int) : Int := d.1 * d.1 + d.2 * d.2

theorem windowsTrackDistance_eq (track : Track) (contact : Contact) :
    windowsTrackDistance track contact =
      if (squared (windowsDelta track contact)).toNat ≥
        windowsAssignRadius * windowsAssignRadius then
        assignInvalidCost
      else ((squared (windowsDelta track contact)).toNat : Int) := rfl

theorem linuxTrackDistance_eq (track : Track) (contact : Contact) :
    linuxTrackDistance track contact =
      if (squared (linuxDelta track contact)).toNat > trackMatchMax * trackMatchMax then
        assignInvalidCost
      else (intSqrt64 (squared (linuxDelta track contact)).toNat : Int) := rfl

/-- Two differences of at most 32767: each square and the sum fit `s32`. -/
structure SquareFits (d : Int × Int) : Prop where
  x : d.1.natAbs ≤ logicalMax
  y : d.2.natAbs ≤ logicalMax
  squareX : d.1 * d.1 < 2 ^ 31
  squareY : d.2 * d.2 < 2 ^ 31
  nonneg : 0 ≤ squared d
  sum : squared d < 2 ^ 31

theorem squareFits {d : Int × Int} (hx : d.1.natAbs ≤ logicalMax) (hy : d.2.natAbs ≤ logicalMax) :
    SquareFits d := by
  have hsq : ∀ v : Int, v.natAbs ≤ logicalMax → 0 ≤ v * v ∧ v * v ≤ 1073676289 := by
    intro v hv
    have hmul : v.natAbs * v.natAbs ≤ 32767 * 32767 := Nat.mul_le_mul hv hv
    rw [← Int.natAbs_mul_self]
    omega
  have h1 := hsq d.1 hx
  have h2 := hsq d.2 hy
  exact ⟨hx, hy, by omega, by omega, by unfold squared; omega, by unfold squared; omega⟩

theorem clamp_bounds (v : Int) {hi : Int} (h : 0 ≤ hi) : 0 ≤ clamp v 0 hi ∧ clamp v 0 hi ≤ hi := by
  unfold clamp
  split
  · omega
  split
  · omega
  · omega

theorem predictedQ24_le (position : Nat) (velocity : Int) (cells : Nat) :
    predictedQ24 position velocity cells ≤ (cells - 1) * 2 ^ 24 := by
  have hnonneg : (0 : Int) ≤ (cells - 1 : Nat) * 2 ^ 24 :=
    Int.mul_nonneg (Int.natCast_nonneg _) (by decide)
  have h := clamp_bounds (position + velocity) hnonneg
  unfold predictedQ24
  omega

theorem windowsAssignmentCoordinate_le (positionQ24 scaleQ24 : Nat) :
    windowsAssignmentCoordinate positionQ24 scaleQ24 ≤ logicalMax := min_le_right _ _

/-- Every value on the way to `g6ts_track_distance`. -/
structure DistanceFits (track : Track) (contact : Contact) : Prop where
  predictedX : predictedQ24 track.sensorXQ24 track.sensorVelocityXQ24 heatCols < 2 ^ 32
  predictedY : predictedQ24 track.sensorYQ24 track.sensorVelocityYQ24 heatRows < 2 ^ 32
  scaledX : predictedQ24 track.sensorXQ24 track.sensorVelocityXQ24 heatCols *
    windowsAssignXScaleQ24 + 2 ^ 47 < 2 ^ 64 ∧
    contact.sensorXQ24 * windowsAssignXScaleQ24 + 2 ^ 47 < 2 ^ 64
  scaledY : predictedQ24 track.sensorYQ24 track.sensorVelocityYQ24 heatRows *
    windowsAssignYScaleQ24 + 2 ^ 47 < 2 ^ 64 ∧
    contact.sensorYQ24 * windowsAssignYScaleQ24 + 2 ^ 47 < 2 ^ 64
  windows : SquareFits (windowsDelta track contact)
  linuxX : (track.rawX + track.velocityX).natAbs < 2 ^ 31
  linuxY : (track.rawY + track.velocityY).natAbs < 2 ^ 31
  linux : SquareFits (linuxDelta track contact)

theorem natAbs_sub_le {a b m : Nat} (ha : a ≤ m) (hb : b ≤ m) :
    ((a : Int) - b).natAbs ≤ m := by omega

theorem distanceFits {track : Track} {contact : Contact} (ht : TrackFits track)
    (hc : ContactFits contact) :
    DistanceFits track contact := by
  obtain ⟨hx, hy, _, _⟩ := hc.logical
  have hmax := field_bounds.1
  have hvx := ht.velocityX
  have hvy := ht.velocityY
  have hrx := ht.rawX
  have hry := ht.rawY
  have hpx := predictedQ24_le track.sensorXQ24 track.sensorVelocityXQ24 heatCols
  have hpy := predictedQ24_le track.sensorYQ24 track.sensorVelocityYQ24 heatRows
  have hcx := clamp_bounds (track.rawX + track.velocityX) (Int.natCast_nonneg logicalMax)
  have hcy := clamp_bounds (track.rawY + track.velocityY) (Int.natCast_nonneg logicalMax)
  have hscaleX : ∀ {p : Nat}, p ≤ 1124073472 →
    p * windowsAssignXScaleQ24 + 2 ^ 47 < 2 ^ 64 := fun hp => by
    simp only [windowsAssignXScaleQ24]
    omega
  have hscaleY : ∀ {p : Nat}, p ≤ 754974720 →
    p * windowsAssignYScaleQ24 + 2 ^ 47 < 2 ^ 64 := fun hp => by
    simp only [windowsAssignYScaleQ24]
    omega
  refine { predictedX := Nat.lt_of_le_of_lt hpx (by decide), predictedY := Nat.lt_of_le_of_lt hpy (by decide),
           scaledX := ⟨hscaleX hpx, hscaleX hc.sensorXMax⟩, scaledY :=
           ⟨hscaleY hpy, hscaleY hc.sensorYMax⟩,
           windows := squareFits ?_ ?_, linuxX := by omega, linuxY := by
             omega, linux := squareFits ?_ ?_ }
  · exact natAbs_sub_le (windowsAssignmentCoordinate_le _ _) (windowsAssignmentCoordinate_le _ _)
  · exact natAbs_sub_le (windowsAssignmentCoordinate_le _ _) (windowsAssignmentCoordinate_le _ _)
  · show (clamp (track.rawX + track.velocityX) 0 logicalMax - contact.x).natAbs ≤ logicalMax
    omega
  · show (clamp (track.rawY + track.velocityY) 0 logicalMax - contact.y).natAbs ≤ logicalMax
    omega

end Sp11Touch
