import Mathlib.Algebra.Order.Ring.Int
import Mathlib.Tactic.Linarith
import Mathlib.Tactic.Ring
import PypnmCmts.RfChannels

/-! The frequencies of the RF channels in `sgw/pollers/heavy.py`: the bounds that are reported for a
single carrier and for a downstream OFDM channel, beside those that its parameters give it. -/
namespace PypnmCmts
namespace HeavyPoller

/-- A single carrier of which the table tells the centre and the width. -/
structure Carrier (row : Option SnmpRow) (frequencyField widthField : String) where
  center : ℤ
  width : ℤ
  center_known : (row.bind fun entry => entry.int frequencyField) = some center
  width_known : (row.bind fun entry => entry.int widthField) = some width
  width_nonneg : 0 ≤ width

/-- The active subcarriers of a downstream OFDM channel and the guard bands around them. -/
structure Subcarriers (entry : SnmpRow) where
  zero : ℤ
  first : ℤ
  last : ℤ
  spacing : ℤ
  lowerGuard : ℤ
  upperGuard : ℤ
  zero_known : entry.int "docsIf31CmtsDsOfdmChanSubcarrierZeroFreq" = some zero
  first_known : entry.int "docsIf31CmtsDsOfdmChanFirstActiveSubcarrierNum" = some first
  last_known : entry.int "docsIf31CmtsDsOfdmChanLastActiveSubcarrierNum" = some last
  spacing_known : entry.int "docsIf31CmtsDsOfdmChanSubcarrierSpacing" = some spacing
  lowerGuard_known : entry.int "docsIf31CmtsDsOfdmChanLowerGuardbandWidth" = some lowerGuard
  upperGuard_known : entry.int "docsIf31CmtsDsOfdmChanUpperGuardbandWidth" = some upperGuard
  one_le_first : 1 ≤ first
  first_le_last : first ≤ last
  spacing_nonneg : 0 ≤ spacing
  lowerGuard_nonneg : 0 ≤ lowerGuard
  upperGuard_nonneg : 0 ≤ upperGuard

/-- The bounds lie around the centre and are as far apart as the channel is wide. -/
def Carrier.Bounded {row : Option SnmpRow} {frequencyField widthField : String}
    (carrier : Carrier row frequencyField widthField) (record : SgwRfChannelModel) : Prop :=
  ∃ lower upper, record.lowerFrequencyHz = some lower ∧ record.upperFrequencyHz = some upper ∧
    lower ≤ carrier.center ∧ carrier.center ≤ upper ∧
    record.channelWidthHz = some (upper-lower)

namespace Subcarriers
variable {entry : SnmpRow} (p : Subcarriers entry)

/-- The lower edge of the first active subcarrier's guard band. -/
def lower : ℤ := p.zero+p.first*p.spacing-p.lowerGuard

def upper : ℤ := p.zero+p.last*p.spacing+p.upperGuard

/-- The bounds are the edges, and the width is what lies between them. -/
def Bounded (record : SgwRfChannelModel) : Prop :=
  record.lowerFrequencyHz = some p.lower ∧ record.upperFrequencyHz = some p.upper ∧
    record.channelWidthHz = some (p.upper-p.lower) ∧ 0 ≤ p.upper-p.lower

theorem lower_le_upper : p.lower ≤ p.upper := by
  have hspan : p.first*p.spacing ≤ p.last*p.spacing :=
    mul_le_mul_of_nonneg_right p.first_le_last p.spacing_nonneg
  have hlower := p.lowerGuard_nonneg
  have hupper := p.upperGuard_nonneg
  unfold lower upper
  omega

/-- The lower bound that the code comes to goes down from subcarrier zero, not up. -/
theorem calculateOfdmBounds_eq : calculateOfdmBounds entry =
    some (p.zero-(p.first-1)*p.spacing-p.lowerGuard, p.upper) := by
  have hfirst : ¬ p.first ≤ 0 := by
    have hone := p.one_le_first
    omega
  have hupper : p.last*p.spacing+p.zero+p.upperGuard = p.upper := by
    unfold upper
    ring
  unfold calculateOfdmBounds
  rw [p.zero_known, p.first_known, p.last_known, p.spacing_known, p.lowerGuard_known,
    p.upperGuard_known]
  change (if p.first ≤ 0 then none else some (_, p.last*p.spacing+p.zero+p.upperGuard)) = _
  rw [if_neg hfirst, hupper]

/-- The reported lower bound is the edge only where all subcarriers fall on one frequency. -/
theorem reported_eq_lower_iff :
    p.zero-(p.first-1)*p.spacing-p.lowerGuard = p.lower ↔ p.spacing = 0 := by
  unfold lower
  constructor
  · intro h
    -- the two lower bounds are (2*first-1)*spacing apart
    have hproduct : (2*p.first-1)*p.spacing = 0 := by linarith
    rcases mul_eq_zero.mp hproduct with hfirst | hspacing
    · have hone := p.one_le_first
      omega
    · exact hspacing
  · intro h
    rw [h]
    ring

theorem ofdmChannel_bounded_iff (channelId : ℤ) :
    p.Bounded (ofdmChannel channelId entry) ↔ p.spacing = 0 := by
  have hbounds := p.calculateOfdmBounds_eq
  have hlower : (ofdmChannel channelId entry).lowerFrequencyHz =
      some (p.zero-(p.first-1)*p.spacing-p.lowerGuard) := by
    unfold ofdmChannel
    rw [hbounds]
  constructor
  · intro h
    rw [← p.reported_eq_lower_iff]
    exact Option.some.inj (hlower.symm.trans h.1)
  · intro h
    have hle := p.lower_le_upper
    -- the width is taken from the bounds, so it is right where they are
    rw [p.reported_eq_lower_iff.mpr h] at hbounds hlower
    unfold ofdmChannel
    rw [hbounds]
    refine ⟨rfl, rfl, ?_, by omega⟩
    exact if_neg (not_lt.mpr hle)

end Subcarriers

namespace Carrier
variable {row : Option SnmpRow} {frequencyField widthField : String}
  (carrier : Carrier row frequencyField widthField)

theorem calculateScQamBounds_eq :
    calculateScQamBounds (row.bind fun entry => entry.int frequencyField)
      (row.bind fun entry => entry.int widthField) =
    (some (carrier.center-carrier.width/2), some (carrier.center+carrier.width/2)) := by
  rw [carrier.center_known, carrier.width_known]
  rfl

/-- The centre is always between the bounds. -/
theorem center_between : carrier.center-carrier.width/2 ≤ carrier.center ∧
    carrier.center ≤ carrier.center+carrier.width/2 := by
  have hnonneg := carrier.width_nonneg
  omega

/-- Each half is rounded down, so an odd width loses one hertz. -/
theorem scQamChannel_bounded_iff (channelId : ℤ) :
    carrier.Bounded (scQamChannel channelId row frequencyField widthField) ↔
      Even carrier.width := by
  have hbounds := carrier.calculateScQamBounds_eq
  obtain ⟨hlower, hupper⟩ := carrier.center_between
  have hwidth : (scQamChannel channelId row frequencyField widthField).channelWidthHz =
      some carrier.width := carrier.width_known
  rw [Int.even_iff]
  unfold Bounded
  rw [hwidth]
  unfold scQamChannel
  dsimp only
  rw [hbounds]
  constructor
  · rintro ⟨lower, upper, hlow, hup, -, -, hsame⟩
    -- the bounds are 2*(width/2) apart
    have hlow := Option.some.inj hlow
    have hup := Option.some.inj hup
    have hsame := Option.some.inj hsame
    omega
  · intro heven
    refine ⟨_, _, rfl, rfl, hlower, hupper, congrArg some ?_⟩
    omega

end Carrier

/-- The reported bounds are those of the channel exactly if the width of a single carrier is even,
and if the subcarriers of an OFDM channel have no spacing. -/
theorem channel_bounds_iff (channelId : ℤ) :
    (∀ row frequencyField widthField, ∀ carrier : Carrier row frequencyField widthField,
      carrier.Bounded (scQamChannel channelId row frequencyField widthField) ↔
        Even carrier.width) ∧
    ∀ entry, ∀ p : Subcarriers entry, p.Bounded (ofdmChannel channelId entry) ↔ p.spacing = 0 :=
  ⟨fun _ _ _ carrier => carrier.scQamChannel_bounded_iff channelId,
    fun _ p => p.ofdmChannel_bounded_iff channelId⟩

/-- A carrier that is five hertz wide. -/
def oddRow : SnmpRow :=
  ⟨1, [("docsIfDownChannelFrequency", some (.int 100)), ("docsIfDownChannelWidth", some (.int 5))]⟩

/-- Subcarriers two to four, fifty hertz apart. -/
def spacedEntry : SnmpRow :=
  ⟨1, [("docsIf31CmtsDsOfdmChanSubcarrierZeroFreq", some (.int 1000)),
    ("docsIf31CmtsDsOfdmChanFirstActiveSubcarrierNum", some (.int 2)),
    ("docsIf31CmtsDsOfdmChanLastActiveSubcarrierNum", some (.int 4)),
    ("docsIf31CmtsDsOfdmChanSubcarrierSpacing", some (.int 50)),
    ("docsIf31CmtsDsOfdmChanLowerGuardbandWidth", some (.int 10)),
    ("docsIf31CmtsDsOfdmChanUpperGuardbandWidth", some (.int 10))]⟩

/-- The bounds of the carrier are four hertz apart. The OFDM channel is to begin at 1090 hertz, and
is reported to begin at 940. -/
theorem channel_bounds_off :
    (∃ carrier : Carrier (some oddRow) "docsIfDownChannelFrequency" "docsIfDownChannelWidth",
      ¬ carrier.Bounded (scQamChannel 1 (some oddRow) "docsIfDownChannelFrequency"
        "docsIfDownChannelWidth")) ∧
    ∃ p : Subcarriers spacedEntry, p.lower = 1090 ∧
      (ofdmChannel 1 spacedEntry).lowerFrequencyHz = some 940 ∧
      ¬ p.Bounded (ofdmChannel 1 spacedEntry) := by
  have hlower : (ofdmChannel 1 spacedEntry).lowerFrequencyHz = some 940 := by decide
  refine ⟨⟨⟨100, 5, rfl, rfl, by decide⟩, ?_⟩,
    ⟨1000, 2, 4, 50, 10, 10, rfl, rfl, rfl, rfl, rfl, rfl, by decide, by decide, by decide,
      by decide, by decide⟩, by decide, hlower, ?_⟩
  · rintro ⟨lower, upper, hlow, hup, -, -, hwidth⟩
    have hlow' : some (98 : ℤ) = some lower := hlow
    have hup' : some (102 : ℤ) = some upper := hup
    have hwidth' : some (5 : ℤ) = some (upper-lower) := hwidth
    cases hlow'
    cases hup'
    cases hwidth'
  · intro h
    rw [Subcarriers.Bounded, hlower] at h
    cases h.1

end HeavyPoller
end PypnmCmts
