import PcRemote.Provisioning

/-! The build and the provisioning tool decide by themselves which integers they take. Over one
parsed file they take the same ones, and read the same integer. -/
namespace PcRemote.Config

/-- A value of the parsed file, as both sides get it. Of the kinds that neither side takes apart
there is the text that the tool would print. -/
inductive FileValue
  | string (s : String)
  | integer (n : ℤ)
  | float (shown : String)
  | boolean (b : Bool)
  | datetime (shown : String)
  | array (shown : String)
  | table (shown : String)
  deriving DecidableEq, Repr

namespace FileValue

def toToml : FileValue → TomlValue
  | .string s => .str s
  | .integer n => .integer n
  | .float _ | .boolean _ | .datetime _ | .array _ | .table _ => .other

/-- The booleans are a type of their own, though they count as integers in the tool's language. -/
def toPy : FileValue → PyValue
  | .string s => .str s
  | .integer n => .int n
  | .boolean true => .other "True"
  | .boolean false => .other "False"
  | .float shown | .datetime shown | .array shown | .table shown => .other shown

lemma toToml_eq_integer {v : FileValue} {n : ℤ} : v.toToml = .integer n ↔ v = .integer n := by
  cases v <;> simp [toToml]

lemma toPy_eq_int {v : FileValue} {n : ℤ} : v.toPy = .int n ↔ v = .integer n := by
  cases v with
  | boolean b => cases b <;> simp [toPy]
  | string s => simp [toPy]
  | integer m => simp [toPy]
  | float shown => simp [toPy]
  | datetime shown => simp [toPy]
  | array shown => simp [toPy]
  | table shown => simp [toPy]

end FileValue

abbrev File := String → Option FileValue

def File.toToml (file : File) : TomlTable := fun key => (file key).map FileValue.toToml

def File.toPy (file : File) : PyDict := fun key => (file key).map FileValue.toPy

/-- What a file has for a key, under its name or else under its old name. -/
def IntSpec.given (spec : IntSpec) (file : File) : Option FileValue :=
  (file spec.key).or (spec.oldKey.bind file)

/-- A default has to be a value that the key may have. -/
def IntSpec.DefaultFits (spec : IntSpec) : Prop := ∀ d, spec.default = some d → spec.InRange d

/-- A file has the key or its old name. -/
def IntSpec.Present (spec : IntSpec) (file : File) : Prop :=
  (file spec.key).isSome = true ∨ ∃ oldKey, spec.oldKey = some oldKey ∧ (file oldKey).isSome = true

/-- Both sides accept the key or neither does, and both use the same integer for it. -/
structure Agree (spec : IntSpec) (nvsKeys : List String) (file : File) : Prop where
  accepted : (∃ value, intValue file.toToml spec = .ok value) ↔
    ∃ config, loadConfig file.toPy [spec.configKey nvsKeys] = .ok config
  same : spec.Present file → ∀ value config, intValue file.toToml spec = .ok value →
    loadConfig file.toPy [spec.configKey nvsKeys] = .ok config →
    config spec.key = some (.int value)

/-- Over every file, for every key whose default fits. -/
def ValidationsAgree : Prop :=
  ∀ (spec : IntSpec) (nvsKeys : List String) (file : File), spec.DefaultFits →
    Agree spec nvsKeys file

section Given
variable {spec : IntSpec} {nvsKeys : List String} {file : File}

lemma lookup_toToml : lookup file.toToml spec.key spec.oldKey =
    (spec.given file).map FileValue.toToml := by
  unfold lookup IntSpec.given File.toToml
  cases file spec.key with
  | some v => rfl
  | none => cases spec.oldKey <;> rfl

lemma configured_toPy : (spec.configKey nvsKeys).configured file.toPy =
    (spec.given file).map FileValue.toPy := by
  unfold ConfigKey.configured IntSpec.given File.toPy IntSpec.configKey
  simp only
  cases file spec.key with
  | some v => rfl
  | none => cases spec.oldKey <;> rfl

lemma present_iff : spec.Present file ↔ spec.given file ≠ none := by
  unfold IntSpec.Present IntSpec.given
  cases file spec.key with
  | some v => simp
  | none => cases spec.oldKey <;> simp [Option.isSome_iff_ne_none]

/-- An integer of a key in its range. -/
def IntSpec.Takes (spec : IntSpec) (file : File) (value : ℤ) : Prop :=
  spec.given file = some (.integer value) ∧ spec.InRange value

/-- The build takes what the file gives, and the default where it gives nothing. -/
lemma intValue_toToml {value : ℤ} (hdefault : spec.DefaultFits) :
    intValue file.toToml spec = .ok value ↔
      spec.Takes file value ∨ spec.given file = none ∧ spec.default = some value := by
  rw [intValue_eq_ok, intLiteral_eq_ok, lookup_toToml]
  simp only [Option.map_eq_some_iff, Option.map_eq_none_iff, FileValue.toToml_eq_integer,
    exists_eq_right, IntSpec.Takes]
  constructor
  · rintro ⟨hgiven | hnone, hin⟩
    · exact .inl ⟨hgiven, hin⟩
    · exact .inr hnone
  · rintro (⟨hgiven, hin⟩ | hnone)
    · exact ⟨.inl hgiven, hin⟩
    · exact ⟨.inr hnone, hdefault value hnone.2⟩

/-- The tool takes what the file gives as well; a key with a default may be left out. -/
lemma keyAccepted_iff {config : PyDict}
    (hconfig : config spec.key = (spec.given file).map FileValue.toPy) :
    KeyAccepted config (spec.configKey nvsKeys) ↔
      (∃ value, spec.Takes file value) ∨ spec.given file = none ∧ spec.default ≠ none := by
  constructor
  · intro h
    cases hgiven : spec.given file with
    | none =>
      right
      refine ⟨rfl, fun hnone => ?_⟩
      have hpresent := h.present (by simp [IntSpec.configKey, hnone])
      simp [IntSpec.configKey, hconfig, hgiven] at hpresent
    | some v =>
      left
      rw [hgiven] at hconfig
      obtain ⟨n, hn, hin⟩ := checkIntKey_eq_ok.mp h.checked _ hconfig
      rw [FileValue.toPy_eq_int] at hn
      exact ⟨n, hgiven.trans (congrArg some hn), hin⟩
  · rintro (⟨n, hgiven, hin⟩ | ⟨hgiven, hdefault⟩)
    · have hint : config spec.key = some (.int n) := by rw [hconfig, hgiven]; rfl
      refine ⟨fun _ => ?_, fun _ => ?_, checkIntKey_eq_ok.mpr ?_⟩
      · simp [IntSpec.configKey, hint]
      · simp only [IntSpec.configKey, hint, Option.any_some, PyValue.shown]
        exact decide_eq_false (strip_toString_ne_empty n)
      · rintro v hv
        rw [hint, Option.some.injEq] at hv
        exact ⟨n, hv.symm, hin⟩
    · have hnone : config spec.key = none := by rw [hconfig, hgiven]; rfl
      refine ⟨fun hopt => ?_, fun _ => ?_, checkIntKey_eq_ok.mpr ?_⟩
      · simp [IntSpec.configKey, hdefault] at hopt
      · simp [IntSpec.configKey, hnone]
      · simp [hnone]

/-- A file takes no advantage of an old name that is empty. -/
def IntSpec.NotUnnamed (spec : IntSpec) (file : File) : Prop :=
  spec.oldKey = some "" → file spec.key = none → file "" = none

/-- The old name is carried over to the name of the key. -/
lemma applyTomlAliases_toPy (hnamed : spec.NotUnnamed file) :
    applyTomlAliases file.toPy [spec.configKey nvsKeys] spec.key =
      (spec.given file).map FileValue.toPy := by
  change applyTomlAlias file.toPy (spec.configKey nvsKeys) spec.key = _
  by_cases hempty : spec.oldKey = some ""
  · have hsame : applyTomlAlias file.toPy (spec.configKey nvsKeys) = file.toPy := by
      simp [applyTomlAlias, IntSpec.configKey, hempty]
    rw [hsame, File.toPy, IntSpec.given, hempty, Option.bind_some]
    cases hkey : file spec.key with
    | some v => rfl
    | none => rw [hnamed hempty hkey, Option.or_none]
  · have hcarried : applyTomlAlias file.toPy (spec.configKey nvsKeys) = _ :=
      applyTomlAlias_eq file.toPy hempty
    rw [hcarried, ← configured_toPy]
    exact Function.update_self _ _ _

lemma loadConfig_toPy {config : PyDict} (hnamed : spec.NotUnnamed file) :
    loadConfig file.toPy [spec.configKey nvsKeys] = .ok config ↔
      config = applyTomlAliases file.toPy [spec.configKey nvsKeys] ∧
        ((∃ value, spec.Takes file value) ∨ spec.given file = none ∧ spec.default ≠ none) := by
  rw [loadConfig_eq_ok, List.forall_mem_singleton]
  refine and_congr_right ?_
  rintro rfl
  exact keyAccepted_iff (applyTomlAliases_toPy hnamed)

end Given

/-- For every key whose default fits, over every file that does not use an empty old name. -/
theorem validation_agrees (spec : IntSpec) (nvsKeys : List String) (file : File)
    (hdefault : spec.DefaultFits) (hnamed : spec.NotUnnamed file) : Agree spec nvsKeys file := by
  refine ⟨?_, ?_⟩
  · simp only [intValue_toToml hdefault, loadConfig_toPy hnamed, exists_eq_left, exists_or,
      exists_and_left, Option.ne_none_iff_exists']
  · intro hpresent value config hvalue hload
    obtain ⟨rfl, -⟩ := (loadConfig_toPy hnamed).mp hload
    rcases (intValue_toToml hdefault).mp hvalue with ⟨hgiven, -⟩ | ⟨hnone, -⟩
    · rw [applyTomlAliases_toPy hnamed, hgiven]
      rfl
    · exact absurd hnone (present_iff.mp hpresent)

section Example

def portFile : File := fun key => if key = "agent_port" then some (.integer 8080) else none

/-- The port of the bridge under its old name. -/
theorem validation_agrees_port : Agree IntKey.bridgePort.spec IntKey.bridgePort.nvsKeys portFile :=
  validation_agrees _ _ _ (by simp [IntSpec.DefaultFits, IntKey.spec])
    (by simp [IntSpec.NotUnnamed, IntKey.spec])

def unnamedSpec : IntSpec := ⟨"port", "PORT", .u16, some "", none, none⟩

def unnamedFile : File := fun key => if key = "" then some (.integer 5) else none

/-- An empty old name is a name for the build, and none for the tool. -/
theorem not_validationsAgree : ¬ ValidationsAgree := by
  intro h
  have hfits : unnamedSpec.DefaultFits := by simp [IntSpec.DefaultFits, unnamedSpec]
  obtain ⟨config, hload⟩ := (h unnamedSpec [] unnamedFile hfits).accepted.mp ⟨5, rfl⟩
  cases hload

end Example

end PcRemote.Config
