import PcRemote.AppConfig
import PcRemote.Callback
import PcRemote.Transition

/-! The settings over changes, failing writes and restarts: what is in memory is always what
the next start will read from flash. -/
namespace PcRemote.Settings
open ConfigValidation Config Telegram Transition

/-- The settings in memory, taken from the configuration of this start. -/
def new (c : AppConfig) (nvs : Nvs) : RuntimeSettings where
  pcIpAddress := c.text .pcIpAddress
  pcStatusPort := (c.int .pcStatusPort).toNat
  wolPort := (c.int .wolPort).toNat
  brightnessPercent := (c.int .brightness).toNat
  nvs := nvs

/-- A namespace that does not open for reading is empty once it has been opened for writing. -/
def contents (flash : Option Nvs) : Nvs := flash.getD fun _ => none

def start (build : AppConfig) (flash : Option Nvs) : RuntimeSettings :=
  new (build.load flash) (contents flash)

/-- The value is one that validation gave for some input. -/
def Validated (change : ConfigChange) : Prop := ∃ raw, change.kind.parse raw = .ok change

inductive Event
  | change (change : ConfigChange) (written : Bool)
  | restart
  deriving DecidableEq, Repr

inductive Step (build : AppConfig) : RuntimeSettings → Event → RuntimeSettings → Prop
  | change (s : RuntimeSettings) (change : ConfigChange) (written : Bool)
      (hvalid : Validated change) :
      Step build s (.change change written) (change.apply s written).1
  | restart (s : RuntimeSettings) (flash : Option Nvs) (hflash : contents flash = s.nvs) :
      Step build s .restart (start build flash)

def system (build : AppConfig) : System RuntimeSettings Event := ⟨Step build⟩

/-- What validation guarantees about the value of a change. -/
def InBounds : ConfigChange → Prop
  | .pcIpAddress value => strLen value ≤ maxStringLen
  | .wolPort value => 0 < value ∧ value < UInt16.size
  | .brightness value => value ≤ brightnessMaxPercent

lemma inBounds_of_validated {change : ConfigChange} (h : Validated change) : InBounds change := by
  obtain ⟨raw, hparse⟩ := h
  cases change with
  | pcIpAddress value =>
    simp only [ConfigChange.kind, SettingKind.parse] at hparse
    obtain ⟨v, hv, heq⟩ := ok_of_map hparse
    obtain rfl := ConfigChange.pcIpAddress.inj heq
    obtain ⟨hip, rfl⟩ := validateIpv4_eq_ok.mp hv
    have hlength := length_le_of_isIpv4 hip
    have hbytes := Text.length_utf8_le (Text.trim raw)
    simp only [InBounds, strLen, maxStringLen]
    omega
  | wolPort value =>
    simp only [ConfigChange.kind, SettingKind.parse] at hparse
    obtain ⟨v, hv, heq⟩ := ok_of_map hparse
    obtain rfl := ConfigChange.wolPort.inj heq
    unfold validateWolPort validatePort at hv
    cases hport : Text.parseU16 (Text.trim raw) with
    | none => rw [hport] at hv; cases hv
    | some port =>
      rw [hport] at hv
      simp only at hv
      split_ifs at hv with hzero
      obtain rfl := Except.ok.inj hv
      exact ⟨Nat.pos_of_ne_zero hzero, Text.lt_of_parseUnsigned hport⟩
  | brightness value =>
    simp only [ConfigChange.kind, SettingKind.parse] at hparse
    obtain ⟨v, hv, heq⟩ := ok_of_map hparse
    obtain rfl := ConfigChange.brightness.inj heq
    unfold validateBrightnessPercent at hv
    simp only at hv
    cases hpercent : Text.parseU8 (Text.trim raw) with
    | none => rw [hpercent] at hv; cases hv
    | some percent =>
      rw [hpercent] at hv
      simp only at hv
      split_ifs at hv with hle
      obtain rfl := Except.ok.inj hv
      simpa [InBounds, isValidBrightnessPercent] using hle

section Stored
variable {α : Type*} {nvs : Nvs} {name s : String} {nvsKeys : List String}
  (parse : String → Option α)

lemma storedValue_update_of_notMem (h : name ∉ nvsKeys) (value : Option String) :
    storedValue (Function.update nvs name value) nvsKeys parse = storedValue nvs nvsKeys parse := by
  have hread : nvsKeys.findSome? (readString (Function.update nvs name value)) =
      nvsKeys.findSome? (readString nvs) := by
    induction nvsKeys with
    | nil => rfl
    | cons key rest ih =>
      rw [List.mem_cons, not_or] at h
      have hkey : readString (Function.update nvs name value) key = readString nvs key := by
        rw [readString, Function.update_of_ne (Ne.symm h.1), readString]
      rw [List.findSome?_cons, List.findSome?_cons, hkey, ih h.2]
  rw [storedValue, storedValue, hread]

lemma storedValue_update_self (h : strLen s ≤ maxStringLen) :
    storedValue (Function.update nvs name (some s)) [name] parse = parse s := by
  rw [storedValue_of_forall parse (List.cons_ne_nil _ _) (s := s), if_pos h]
  intro key hkey
  rw [List.mem_singleton.mp hkey, Function.update_self]

end Stored

lemma load_text (build : AppConfig) (nvs : Nvs) (k : TextKey) :
    (build.load (some nvs)).text k = (storedValue nvs k.nvsKeys some).getD (build.text k) := by
  simp [AppConfig.load, AppConfig.applyNvs, replace]

section Load
variable (build : AppConfig) {nvs : Nvs} {name s : String}

lemma load_text_update_of_notMem {k : TextKey} (h : name ∉ k.nvsKeys) (value : Option String) :
    (build.load (some (Function.update nvs name value))).text k =
      (build.load (some nvs)).text k := by
  rw [load_text, load_text, storedValue_update_of_notMem some h]

lemma load_int_update_of_notMem {k : IntKey} (h : name ∉ k.nvsKeys) (value : Option String) :
    (build.load (some (Function.update nvs name value))).int k = (build.load (some nvs)).int k := by
  simp only [load_int, IntKey.stored, Option.bind_some, storedValue_update_of_notMem _ h]

lemma load_text_update_self {k : TextKey} (hk : k.nvsKeys = [name])
    (h : strLen s ≤ maxStringLen) :
    (build.load (some (Function.update nvs name (some s)))).text k = s := by
  rw [load_text, hk, storedValue_update_self some h, Option.getD_some]

lemma load_int_update_self {k : IntKey} (hk : k.nvsKeys = [name]) (hport : k ≠ .pcStatusPort)
    {value : ℕ} (h : k.InRange value) :
    (build.load (some (Function.update nvs name (some (toString value))))).int k = value := by
  have hparse : k.spec.ty.parse (toString value) = some (value : ℤ) :=
    @IntTy.parse_toString k.spec.ty value h.1
  have hlen : strLen (toString value) ≤ maxStringLen :=
    @IntTy.strLen_toString_le k.spec.ty value h.1
  rw [load_int, IntKey.stored, Option.bind_some, hk, storedValue_update_self _ hlen, hparse,
    Option.getD_some, clampedInt_of_inRange h, if_neg fun hzero => hport hzero.1]

end Load

lemma load_contents (build : AppConfig) (flash : Option Nvs) :
    build.load (some (contents flash)) = build.load flash := by
  cases flash with
  | some nvs => rfl
  | none =>
    have hempty : ∀ {α : Type} (nvsKeys : List String) (parse : String → Option α),
        storedValue (contents none) nvsKeys parse = none := by
      intro α nvsKeys parse
      have hread : nvsKeys.findSome? (readString (contents none)) = none :=
        List.findSome?_eq_none_iff.mpr fun _ _ => rfl
      rw [storedValue, hread]
      rfl
    simp only [AppConfig.load, AppConfig.applyNvs, replace, hempty, Option.getD_none]

/-- A start with the flash as it is now would find what is in memory. -/
structure Mirrored (build : AppConfig) (s : RuntimeSettings) : Prop where
  pcIpAddress : (build.load (some s.nvs)).text .pcIpAddress = s.pcIpAddress
  wolPort : ((build.load (some s.nvs)).int .wolPort).toNat = s.wolPort
  brightness : ((build.load (some s.nvs)).int .brightness).toNat = s.brightnessPercent

lemma mirrored_start (build : AppConfig) (flash : Option Nvs) :
    Mirrored build (start build flash) := by
  have hload : build.load (some (start build flash).nvs) = build.load flash :=
    load_contents build flash
  constructor
  · rw [hload]
    rfl
  · rw [hload]
    rfl
  · rw [hload]
    rfl

/-- A value that has been written is read back as it was set, and the other two settings have
names of their own. -/
lemma mirrored_apply {build : AppConfig} {s : RuntimeSettings} {change : ConfigChange}
    (h : Mirrored build s) (hin : InBounds change) : Mirrored build (change.apply s true).1 := by
  cases change with
  | pcIpAddress value =>
    exact
      { pcIpAddress := load_text_update_self build rfl hin
        wolPort :=
          (congrArg Int.toNat (load_int_update_of_notMem build (by decide) _)).trans h.wolPort
        brightness :=
          (congrArg Int.toNat (load_int_update_of_notMem build (by decide) _)).trans h.brightness }
  | wolPort value =>
    have hrange : IntKey.InRange .wolPort value := by
      have hlt : value < 65536 := hin.2
      have hpos : 0 < value := hin.1
      refine ⟨⟨by simp only [IntKey.spec, IntTy.minValue]; omega,
        by simp only [IntKey.spec, IntTy.maxValue]; omega⟩, ?_⟩
      rintro lo hi ⟨⟩
      omega
    exact
      { pcIpAddress := (load_text_update_of_notMem build (by decide) _).trans h.pcIpAddress
        wolPort := congrArg Int.toNat (load_int_update_self build rfl (by decide) hrange)
        brightness :=
          (congrArg Int.toNat (load_int_update_of_notMem build (by decide) _)).trans h.brightness }
  | brightness value =>
    have hrange : IntKey.InRange .brightness value := by
      have hle : value ≤ 100 := hin
      refine ⟨⟨by simp only [IntKey.spec, IntTy.minValue]; omega,
        by simp only [IntKey.spec, IntTy.maxValue]; omega⟩, ?_⟩
      rintro lo hi ⟨⟩
      simp only [brightnessMaxPercent]
      omega
    exact
      { pcIpAddress := (load_text_update_of_notMem build (by decide) _).trans h.pcIpAddress
        wolPort :=
          (congrArg Int.toNat (load_int_update_of_notMem build (by decide) _)).trans h.wolPort
        brightness := congrArg Int.toNat (load_int_update_self build rfl (by decide) hrange) }

lemma apply_failed (change : ConfigChange) (s : RuntimeSettings) :
    change.apply s false = (s, false) := by
  cases change <;> rfl

lemma mirrored_step {build : AppConfig} {s t : RuntimeSettings} {e : Event}
    (h : Step build s e t) (hs : Mirrored build s) : Mirrored build t := by
  cases h with
  | change change written hvalid =>
    cases written with
    | true => exact mirrored_apply hs (inBounds_of_validated hvalid)
    | false => rwa [apply_failed]
  | restart flash hflash => exact mirrored_start build flash

lemma mirrored_run {build : AppConfig} {flash : Option Nvs} {es : List Event} {s : RuntimeSettings}
    (h : (system build).Run (start build flash) es s) : Mirrored build s :=
  h.invariant (fun _ _ _ => mirrored_step) (mirrored_start build flash)

/-- The setting a change is about has the value of the change. -/
def Holds (s : RuntimeSettings) : ConfigChange → Prop
  | .pcIpAddress value => s.pcIpAddress = value
  | .wolPort value => s.wolPort = value
  | .brightness value => s.brightnessPercent = value

/-- The three settings that can be changed, as they are in memory. -/
def memory (s : RuntimeSettings) : String × ℕ × ℕ :=
  (s.pcIpAddress, s.wolPort, s.brightnessPercent)

/-- From any build and any flash, after any run of changes, failing writes and restarts: a change
that fails leaves memory and flash as they were, one that succeeds leaves its value in memory,
and a restart finds in flash what was in memory before it. -/
theorem settings_persistent {build : AppConfig} {flash : Option Nvs} {es : List Event}
    {s t : RuntimeSettings} {e : Event} (h : (system build).Run (start build flash) es s)
    (hstep : (system build).step s e t) :
    (∀ change, e = .change change false → t = s) ∧
      (∀ change, e = .change change true → Holds t change) ∧
      (e = .restart → memory t = memory s ∧ t.nvs = s.nvs) := by
  have hs := mirrored_run h
  cases hstep with
  | change change written hvalid =>
    refine ⟨?_, ?_, nofun⟩
    · rintro change ⟨⟩
      rw [apply_failed]
    · rintro change ⟨⟩
      cases change <;> rfl
  | restart flash hflash =>
    refine ⟨nofun, nofun, fun _ => ⟨?_, hflash⟩⟩
    have hload : build.load flash = build.load (some s.nvs) := by
      rw [← hflash, load_contents]
    simp only [memory, start, new, hload, hs.pcIpAddress, hs.wolPort, hs.brightness]

section Example

def changedPort : RuntimeSettings :=
  ((ConfigChange.wolPort 40000).apply (start exampleBuild none) true).1

lemma run_changedPort : (system exampleBuild).Run (start exampleBuild none)
    [.change (.wolPort 40000) true] changedPort :=
  .one (.change _ _ true ⟨"40000", by rfl⟩)

theorem settings_persistent_port :
    memory (start exampleBuild (some changedPort.nvs)) = memory changedPort :=
  ((settings_persistent run_changedPort (.restart _ _ rfl)).2.2 rfl).1

end Example

end PcRemote.Settings
