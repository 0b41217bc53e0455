import AppRelease.Manifest.Build
import AppRelease.Overrides
import AppRelease.Proofs.Quantities

/-!
# What an application asks for reaches the cluster

Specification: a configuration asks for memory, processor time and a number of replicas, and the
deployment repeats all of it in the cluster's own notation.

1. **Amounts.** They are written as texts. Each is read back as the quantity that was configured,
   and a request is never above its limit, in exact numbers and whatever the units
   (`Defaults.requests_stay_within_limits`).
2. **Replicas.** They are counted in 32 bits without a sign, and the cluster takes the same 32 bits
   with one. So the number arrives as it is below half of the range, and from there on it arrives
   negative (`Defaults.replicas_turn_negative_at_half`), though every number but zero is accepted
   (`Defaults.build_of_replicas`). `Defaults.replicas_of_half` is an application that asks for
   -2147483648 replicas.
-/

namespace AppRelease

/-! ## Amounts -/

/-- Amounts of memory compare in words of 128 bits as they do in exact numbers. -/
theorem Memory.word_le_iff {a b : Memory} : a.word ≤ b.word ↔ a.bytes ≤ b.bytes := by
  rw [BitVec.le_def, toNat_word, toNat_word]

namespace Defaults

variable {d : Defaults} {known : Variables} {secrets : Secrets.Bundle} {c : AppConfig}

/-- The resources of a configuration are those of the defaults it was built from, and these were
accepted. -/
theorem acceptable_of_build (hbuild : d.build known secrets = .ok c) :
    d.Acceptable ∧ c.resources = d.resources := by
  obtain ⟨hfaults, -, -, image, -, rfl⟩ := build_eq_ok_iff.mp hbuild
  exact ⟨faults_eq_nil_iff.mp hfaults, rfl⟩

/-- **Requests stay within limits in what the cluster reads.** The four texts of the container are
read back as the quantities of the configuration. The bytes of memory fit into words of 128 bits,
and neither request is above its limit. -/
theorem requests_stay_within_limits (d : Defaults) (known : Variables) (secrets : Secrets.Bundle)
    (c : AppConfig) (e : Environment) (hbuild : d.build known secrets = .ok c) :
    (Memory.parse (c.deployment e).container.requests.memory = .ok c.resources.requestMemory ∧
      Memory.parse (c.deployment e).container.limits.memory = .ok c.resources.limitMemory ∧
      Cpu.parse (c.deployment e).container.requests.cpu = .ok c.resources.requestCpu ∧
      Cpu.parse (c.deployment e).container.limits.cpu = .ok c.resources.limitCpu) ∧
    c.resources = d.resources ∧
    (∀ m ∈ [c.resources.requestMemory, c.resources.limitMemory],
      m.word.toNat = m.magnitude.toNat * m.unit.multiplier) ∧
    c.resources.requestMemory.magnitude.toNat * c.resources.requestMemory.unit.multiplier ≤
      c.resources.limitMemory.magnitude.toNat * c.resources.limitMemory.unit.multiplier ∧
    c.resources.requestMemory.word ≤ c.resources.limitMemory.word ∧
    c.resources.requestCpu.millis.toNat ≤ c.resources.limitCpu.millis.toNat := by
  obtain ⟨haccepted, hresources⟩ := acceptable_of_build hbuild
  have hmemory : c.resources.requestMemory.bytes ≤ c.resources.limitMemory.bytes := by
    rw [hresources]
    exact haccepted.memory
  have hcpu : c.resources.requestCpu.millis ≤ c.resources.limitCpu.millis := by
    rw [hresources]
    exact haccepted.cpu
  refine ⟨⟨?_, ?_, ?_, ?_⟩, hresources, fun m _ => m.toNat_word, hmemory, ?_, ?_⟩
  · exact c.resources.requestMemory.parse_text
  · exact c.resources.limitMemory.parse_text
  · exact c.resources.requestCpu.parse_text
  · exact c.resources.limitCpu.parse_text
  · exact Memory.word_le_iff.mpr hmemory
  · exact UInt64.le_iff_toNat_le.mp hcpu

end Defaults

/-! ## Replicas -/

/-- A number of 32 bits, read with a sign. -/
theorem toInt_toInt32 (n : UInt32) : n.toInt32.toInt =
    if n.toNat < 2147483648 then (n.toNat : Int) else n.toNat - 4294967296 := by
  rw [← Int32.toInt_toBitVec, UInt32.toBitVec_toInt32, BitVec.toInt_eq_toNat_cond,
    UInt32.toNat_toBitVec]
  -- the sign is the upper bit: twice the number is compared with the size of the range
  split <;> split <;> omega

namespace Defaults

variable {d : Defaults} {known : Variables} {secrets : Secrets.Bundle} {c : AppConfig}

/-- The override that asks for a number of replicas. -/
def replicasOverride (n : UInt32) : Overrides :=
  Dict.ofList [("app.replicas", Numeral.decimal n.toNat)]

/-- Defaults with another number of replicas. -/
def withReplicas (d : Defaults) (n : UInt32) : Defaults :=
  { d with resources := { d.resources with replicaCount := n } }

/-- Every number of 32 bits can be asked for. -/
theorem applyTo_replicasOverride (d : Defaults) (n : UInt32) :
    (replicasOverride n).applyTo d = .ok (d.withReplicas n) := by
  have hbound : n.toNat ≤ UInt32.size - 1 := Nat.le_pred_of_lt n.toNat_lt
  have hchange : Override.change "app.replicas" (Numeral.decimal n.toNat) =
      .ok fun d => d.withReplicas (UInt32.ofNat n.toNat) := by
    show Property.replicas.change _ = _
    rw [Property.change, Property.readNumber, Numeral.readBounded_decimal hbound]
    rfl
  have hentries : (replicasOverride n).entries = [("app.replicas", Numeral.decimal n.toNat)] := rfl
  have hrejections : (replicasOverride n).rejections = [] := by
    rw [Overrides.rejections, hentries]
    simp [Override.rejection?, hchange]
  have heffect : (replicasOverride n).effect d = d.withReplicas n := by
    rw [Overrides.effect, hentries]
    simp [Override.step, hchange]
  rw [Overrides.applyTo, Overrides.outcome, Overrides.check, hrejections, heffect]
  rfl

/-- **Every number of replicas but zero is accepted**: what can be built can be built with that
number. -/
theorem build_of_replicas {n : UInt32} (hbuild : d.build known secrets = .ok c) (hn : 0 < n) :
    ∃ c', (d.withReplicas n).build known secrets = .ok c' ∧ c'.resources.replicaCount = n := by
  obtain ⟨hfaults, hown, hnone, image, himage, -⟩ := build_eq_ok_iff.mp hbuild
  obtain ⟨haccepted, -, -, htag, hvariables, hsecrets⟩ :=
    buildable_iff.mpr ⟨hfaults, hown, hnone, image, himage⟩
  -- of all conditions only one reads the number of replicas, and it compares it with zero
  have hbuildable : (d.withReplicas n).Buildable known secrets :=
    ⟨⟨haccepted.name, haccepted.nameSpace, haccepted.registry, hn, haccepted.port,
      haccepted.memory, haccepted.cpu⟩, hown.1, hown.2, htag, hvariables, hsecrets⟩
  obtain ⟨hfaults', hown', hnone', image', himage'⟩ := buildable_iff.mp hbuildable
  exact ⟨_, build_eq_ok_iff.mpr ⟨hfaults', hown', hnone', image', himage', rfl⟩, rfl⟩

/-- **The number of replicas arrives as it is below half of its range, and negative from there on.**
It is positive in every configuration, an override can set it to every positive number of 32 bits,
and it is kept exactly when what arrives is positive. -/
theorem replicas_turn_negative_at_half (d : Defaults) (known : Variables) (secrets : Secrets.Bundle)
    (c : AppConfig) (e : Environment) (hbuild : d.build known secrets = .ok c) :
    0 < c.resources.replicaCount.toNat ∧
    ((c.deployment e).replicas =
      if c.resources.replicaCount.toNat < 2147483648 then (c.resources.replicaCount.toNat : Int)
      else c.resources.replicaCount.toNat - 4294967296) ∧
    ((c.deployment e).replicas = c.resources.replicaCount.toNat ↔ 0 < (c.deployment e).replicas) ∧
    ∀ n : UInt32, 0 < n → ∃ d' c', (replicasOverride n).applyTo d = .ok d' ∧
      d'.build known secrets = .ok c' ∧ c'.resources.replicaCount = n := by
  obtain ⟨haccepted, hresources⟩ := acceptable_of_build hbuild
  have hpositive : 0 < c.resources.replicaCount.toNat := by
    rw [hresources]
    exact UInt32.lt_iff_toNat_lt.mp haccepted.replicas
  have hreplicas : (c.deployment e).replicas = _ := toInt_toInt32 c.resources.replicaCount
  refine ⟨hpositive, hreplicas, ?_, ?_⟩
  · have hbound := c.resources.replicaCount.toNat_lt
    rw [hreplicas]
    split <;> omega
  · intro n hn
    obtain ⟨c', hbuild', hcount⟩ := build_of_replicas hbuild hn
    exact ⟨_, c', applyTo_replicasOverride d n, hbuild', hcount⟩

/-! ## An application of many replicas -/

/-- An application whose request for memory is just below its limit, in another unit. -/
def wideDefaults : Defaults :=
  { plainDefaults with
    name := "wide"
    resources := { plainDefaults.resources with
      requestMemory := ⟨1152, .peta⟩
      limitMemory := ⟨1, .exbi⟩ }
    env := [("APP_PORT", .port)] }

/-- The image tag of that application. -/
def wideVariables : Variables := ⟨.localMachine, Dict.ofList [("IMAGE_TAG_WIDE", "v1")]⟩

/-- It has no secrets. -/
def wideSecrets : Secrets.Bundle := ⟨"wide", .localMachine, ".secrets/local/wide.env", ∅⟩

theorem build_wideDefaults : ∃ c, wideDefaults.build wideVariables wideSecrets = .ok c :=
  exists_eq_ok_of_isSome (by decide +kernel)

theorem requests_stay_within_limits_wide :
    ∃ c, wideDefaults.build wideVariables wideSecrets = .ok c ∧
      Memory.parse (c.deployment .localMachine).container.requests.memory =
        .ok c.resources.requestMemory ∧
      c.resources = wideDefaults.resources ∧
        c.resources.requestMemory.word ≤ c.resources.limitMemory.word := by
  obtain ⟨c, hbuild⟩ := build_wideDefaults
  obtain ⟨⟨hread, -⟩, hresources, -, -, hword, -⟩ :=
    requests_stay_within_limits wideDefaults wideVariables wideSecrets c .localMachine hbuild
  exact ⟨c, hbuild, hread, hresources, hword⟩

theorem replicas_turn_negative_at_half_wide :
    ∃ c, wideDefaults.build wideVariables wideSecrets = .ok c ∧
      ((c.deployment .localMachine).replicas = c.resources.replicaCount.toNat ↔
        0 < (c.deployment .localMachine).replicas) := by
  obtain ⟨c, hbuild⟩ := build_wideDefaults
  exact ⟨c, hbuild,
    (replicas_turn_negative_at_half wideDefaults wideVariables wideSecrets c .localMachine
      hbuild).2.2.1⟩

/-- **An application that asks for a negative number of replicas.** Half of the range is accepted,
and arrives as the least number of 32 bits with a sign. -/
theorem replicas_of_half :
    ∃ d c, (replicasOverride 2147483648).applyTo wideDefaults = .ok d ∧
      d.build wideVariables wideSecrets = .ok c ∧ c.resources.replicaCount.toNat = 2147483648 ∧
      (c.deployment .localMachine).replicas = -2147483648 := by
  obtain ⟨built, hbuilt⟩ := build_wideDefaults
  obtain ⟨c, hbuild, hcount⟩ := build_of_replicas (n := 2147483648) hbuilt (by decide)
  refine ⟨_, c, applyTo_replicasOverride _ _, hbuild, by rw [hcount]; rfl, ?_⟩
  show c.resources.replicaCount.toInt32.toInt = _
  rw [hcount]
  rfl

end Defaults

end AppRelease
