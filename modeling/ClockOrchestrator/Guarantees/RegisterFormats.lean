import ClockOrchestrator.G301Adapter.PlanFacts
import ClockOrchestrator.Support.BitWord

namespace ClockOrchestrator

open Python BitWord

section Temperatures

def rawTenths (offset : ℤ) (celsius : ℚ) : ℤ :=
  roundHalfEven (celsius * 10 + offset).num (celsius * 10 + offset).den

def shownTenths (offset raw : ℤ) : ℚ := (raw - offset) / 10

variable {offset lowest highest raw : ℤ} {celsius : ℚ}

theorem shownTenths_near (offset : ℤ) (celsius : ℚ) :
    |shownTenths offset (rawTenths offset celsius) - celsius| ≤ 1 / 20 := by
  have hnear := abs_roundHalfEven_sub_le (celsius * 10 + offset)
  rw [abs_le] at hnear ⊢
  rw [shownTenths, rawTenths]
  constructor <;> linarith

theorem rawTenths_shownTenths (offset raw : ℤ) : rawTenths offset (shownTenths offset raw) = raw := by
  have hraw : shownTenths offset raw * 10 + offset = raw := by
    rw [shownTenths, div_mul_cancel₀ _ (by norm_num), sub_add_cancel]
  rw [rawTenths, hraw, roundHalfEven_intCast]

theorem rawTenths_mono {celsius' : ℚ} (h : celsius ≤ celsius') :
    rawTenths offset celsius ≤ rawTenths offset celsius' :=
  roundHalfEven_mono (by linarith)

theorem rawTenths_within (hlowest : lowest ≤ celsius) (hhighest : celsius ≤ highest) :
    10 * lowest + offset ≤ rawTenths offset celsius ∧
      rawTenths offset celsius ≤ 10 * highest + offset := by
  constructor
  · refine le_roundHalfEven_of_le ?_
    push_cast
    linarith
  · refine roundHalfEven_le_of_le ?_
    push_cast
    linarith

theorem shownTenths_within (hlowest : 10 * lowest + offset ≤ raw)
    (hhighest : raw ≤ 10 * highest + offset) :
    lowest ≤ shownTenths offset raw ∧ shownTenths offset raw ≤ highest := by
  have hlowest' : 10 * (lowest : ℚ) + offset ≤ raw := by exact_mod_cast hlowest
  have hhighest' : (raw : ℚ) ≤ 10 * highest + offset := by exact_mod_cast hhighest
  rw [shownTenths]
  constructor <;> linarith

structure TenthsRegister (encode : PyFloat → Except PyError ℤ) (decode : ℤ → PyFloat)
    (offset lowest highest : ℤ) : Prop where
  accepted : ∀ value, (∃ raw, encode value = .ok raw) ↔
    ∃ celsius : ℚ, value = .finite celsius ∧ lowest ≤ celsius ∧ celsius ≤ highest
  near : ∀ celsius raw, encode (.finite celsius) = .ok raw →
    ∃ shown, decode raw = .finite shown ∧ |shown - celsius| ≤ 1 / 20
  ordered : ∀ celsius celsius' raw raw', celsius ≤ celsius' →
    encode (.finite celsius) = .ok raw → encode (.finite celsius') = .ok raw' → raw ≤ raw'
  written : ∀ raw, (∃ value, encode value = .ok raw) ↔
    10 * lowest + offset ≤ raw ∧ raw ≤ 10 * highest + offset
  reread : ∀ value raw, encode value = .ok raw → encode (decode raw) = .ok raw

theorem tenthsRegister {encode : PyFloat → Except PyError ℤ} {decode : ℤ → PyFloat}
    (hencode : ∀ value raw, encode value = .ok raw ↔ ∃ celsius : ℚ, value = .finite celsius ∧
      lowest ≤ celsius ∧ celsius ≤ highest ∧ raw = rawTenths offset celsius)
    (hdecode : ∀ raw, decode raw = .finite (shownTenths offset raw)) :
    TenthsRegister encode decode offset lowest highest := by
  have hfinite : ∀ {celsius : ℚ} {raw}, encode (.finite celsius) = .ok raw →
      lowest ≤ celsius ∧ celsius ≤ highest ∧ raw = rawTenths offset celsius := by
    intro celsius raw h
    obtain ⟨_, hsame, hbounds⟩ := (hencode _ _).mp h
    cases hsame
    exact hbounds
  have hback : ∀ raw, 10 * lowest + offset ≤ raw → raw ≤ 10 * highest + offset →
      encode (decode raw) = .ok raw := by
    intro raw hlowest hhighest
    obtain ⟨hlow, hhigh⟩ := shownTenths_within hlowest hhighest
    rw [hdecode]
    exact (hencode _ _).mpr ⟨_, rfl, hlow, hhigh, (rawTenths_shownTenths offset raw).symm⟩
  have hwithin : ∀ value raw, encode value = .ok raw →
      10 * lowest + offset ≤ raw ∧ raw ≤ 10 * highest + offset := by
    intro value raw h
    obtain ⟨celsius, -, hlow, hhigh, rfl⟩ := (hencode _ _).mp h
    exact rawTenths_within hlow hhigh
  constructor
  · intro value
    simp only [hencode]
    constructor
    · rintro ⟨raw, celsius, hvalue, hlow, hhigh, -⟩
      exact ⟨celsius, hvalue, hlow, hhigh⟩
    · rintro ⟨celsius, hvalue, hlow, hhigh⟩
      exact ⟨_, celsius, hvalue, hlow, hhigh, rfl⟩
  · intro celsius raw h
    obtain ⟨-, -, rfl⟩ := hfinite h
    exact ⟨_, hdecode _, shownTenths_near offset celsius⟩
  · intro celsius celsius' raw raw' hle h h'
    obtain ⟨-, -, rfl⟩ := hfinite h
    obtain ⟨-, -, rfl⟩ := hfinite h'
    exact rawTenths_mono hle
  · intro raw
    constructor
    · rintro ⟨value, h⟩
      exact hwithin value raw h
    · intro h
      exact ⟨_, hback raw h.1 h.2⟩
  · intro value raw h
    obtain ⟨hlow, hhigh⟩ := hwithin value raw h
    exact hback raw hlow hhigh

theorem setTemperature_register :
    TenthsRegister encodeSetTemperatureC decodeSetTemperatureC 0 16 31 := by
  refine tenthsRegister (fun value raw => ?_) fun raw => ?_
  · cases value with
    | finite celsius =>
        by_cases hrange : 16 ≤ celsius ∧ celsius ≤ 31
        · simp [encodeSetTemperatureC, hrange, rawTenths, eq_comm]
        · simp [encodeSetTemperatureC, hrange]
          tauto
    | infinite negative => simp [encodeSetTemperatureC]
    | nan => simp [encodeSetTemperatureC]
  · simp [decodeSetTemperatureC, shownTenths]

theorem ifeelAmbient_register :
    TenthsRegister encodeIfeelAmbientTemperatureC decodeOffsetTemperatureC 1000 0 50 := by
  refine tenthsRegister (fun value raw => ?_) fun raw => ?_
  · cases value with
    | finite celsius =>
        by_cases hrange : 0 ≤ celsius ∧ celsius ≤ 50
        · simp [encodeIfeelAmbientTemperatureC, hrange, rawTenths, eq_comm]
        · simp [encodeIfeelAmbientTemperatureC, hrange]
          tauto
    | infinite negative => simp [encodeIfeelAmbientTemperatureC]
    | nan => simp [encodeIfeelAmbientTemperatureC]
  · simp [decodeOffsetTemperatureC, shownTenths]

end Temperatures

section Flags

variable {raw raw' : ℤ}

def G301Capabilities.flags (capabilities : G301Capabilities) : List Bool :=
  [capabilities.upDownSwing, capabilities.leftRightSwing, capabilities.electricAuxHeating,
    capabilities.selfCleaning, capabilities.gentleBreeze, capabilities.energySaving,
    capabilities.health, capabilities.accessControl]

theorem parseCapabilities_flags (raw : ℤ) : (parseCapabilities raw).flags = flags 8 raw := rfl

theorem parseCapabilities_word (capabilities : G301Capabilities) :
    parseCapabilities (word capabilities.flags) = capabilities := by
  have hflags : (parseCapabilities (word capabilities.flags)).flags = capabilities.flags :=
    flags_word capabilities.flags
  simp only [G301Capabilities.flags, List.cons.injEq, and_true] at hflags
  cases capabilities
  simp only [parseCapabilities, G301Capabilities.mk.injEq]
  exact hflags

theorem parseCapabilities_eq_iff :
    parseCapabilities raw = parseCapabilities raw' ↔ raw % 2 ^ 8 = raw' % 2 ^ 8 := by
  rw [← flags_eq_iff, ← parseCapabilities_flags, ← parseCapabilities_flags]
  refine ⟨fun h => by rw [h], fun h => ?_⟩
  rw [← parseCapabilities_word (parseCapabilities raw), h, parseCapabilities_word]

def faultFlags (faults : List G301Fault) : List Bool :=
  (List.range 16).map fun bit => faults.any (·.bit = bit)

theorem decodeIndoorFaults_flags (raw : ℤ) :
    faultFlags (decodeIndoorFaults raw) = flags 16 raw := by
  have hbits : ∀ bit ∈ List.range 16, ∃ fault ∈ indoorFaults, fault.bit = bit := by decide
  refine List.map_congr_left fun bit hbit => ?_
  obtain ⟨fault, hfault, rfl⟩ := hbits bit hbit
  rw [Bool.eq_iff_iff, decodeIndoorFaults, List.any_filter, List.any_eq_true]
  constructor
  · rintro ⟨other, -, hother⟩
    simp only [Bool.and_eq_true, decide_eq_true_eq] at hother
    rw [← hother.2]
    exact hother.1
  · intro hset
    exact ⟨fault, hfault, by simp [hset]⟩

theorem word_faultFlags (raw : ℤ) : word (faultFlags (decodeIndoorFaults raw)) = raw % 2 ^ 16 := by
  rw [decodeIndoorFaults_flags, word_flags]

end Flags

section Profile

variable {capabilities capabilities' limitation limitation' upper upper' lower lower' : ℤ}
  {profile profile' : G301DeviceProfile}

theorem ofRaw_injective {found : G301ModeLimitation}
    (h : G301ModeLimitation.ofRaw limitation = some found)
    (h' : G301ModeLimitation.ofRaw limitation' = some found) : limitation = limitation' := by
  unfold G301ModeLimitation.ofRaw at h h'
  split_ifs at h h' <;> first | omega | (cases h; cases h')

theorem buildDeviceProfile_capabilities
    (h : buildDeviceProfile capabilities limitation upper lower = .ok profile) :
    profile.capabilities = parseCapabilities capabilities := by
  unfold buildDeviceProfile at h
  split at h
  · cases h
  · split_ifs at h
    cases h
    rfl

theorem buildDeviceProfile_eq_iff
    (h : buildDeviceProfile capabilities limitation upper lower = .ok profile)
    (h' : buildDeviceProfile capabilities' limitation' upper' lower' = .ok profile') :
    profile = profile' ↔ capabilities % 2 ^ 8 = capabilities' % 2 ^ 8 ∧ limitation = limitation' ∧
      upper = upper' ∧ lower = lower' := by
  obtain ⟨hlimitation, rfl, rfl⟩ := buildDeviceProfile_ok h
  obtain ⟨hlimitation', rfl, rfl⟩ := buildDeviceProfile_ok h'
  rw [← parseCapabilities_eq_iff, ← buildDeviceProfile_capabilities h,
    ← buildDeviceProfile_capabilities h']
  constructor
  · rintro rfl
    exact ⟨rfl, ofRaw_injective hlimitation hlimitation', rfl, rfl⟩
  · rintro ⟨hcapabilities, rfl, hupper, hlower⟩
    rw [hlimitation, Option.some.injEq] at hlimitation'
    cases profile
    cases profile'
    cases hcapabilities
    cases hlimitation'
    cases hupper
    cases hlower
    rfl

end Profile

structure RegisterFormats : Prop where
  setTemperature : TenthsRegister encodeSetTemperatureC decodeSetTemperatureC 0 16 31
  ifeelAmbient : TenthsRegister encodeIfeelAmbientTemperatureC decodeOffsetTemperatureC 1000 0 50
  capabilities : ∀ capabilities, parseCapabilities (word capabilities.flags) = capabilities
  indoorFaults : ∀ raw, word (faultFlags (decodeIndoorFaults raw)) = raw % 2 ^ 16
  profile : ∀ {capabilities capabilities' limitation limitation' upper upper' lower lower' profile
      profile'}, buildDeviceProfile capabilities limitation upper lower = .ok profile →
    buildDeviceProfile capabilities' limitation' upper' lower' = .ok profile' →
    (profile = profile' ↔ capabilities % 2 ^ 8 = capabilities' % 2 ^ 8 ∧
      limitation = limitation' ∧ upper = upper' ∧ lower = lower')

theorem register_formats_round_trip : RegisterFormats :=
  ⟨setTemperature_register, ifeelAmbient_register, parseCapabilities_word, word_faultFlags,
    buildDeviceProfile_eq_iff⟩

end ClockOrchestrator
