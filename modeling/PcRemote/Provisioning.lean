import PcRemote.AppConfig

/-! Provisioning: the tool that checks a configuration file on a host and writes its values into
flash, under the names the device reads them by. -/
namespace PcRemote.Config
open ConfigValidation

/-- A value of the parsed file. Of one that is neither text nor integer only its text matters. -/
inductive PyValue
  | str (s : String)
  | int (n : ℤ)
  | other (shown : String)
  deriving DecidableEq, Repr

def PyValue.shown : PyValue → String
  | .str s => s
  | .int n => toString n
  | .other shown => shown

abbrev PyDict := String → Option PyValue

/-- A key as the tool derives it from the table of the build and from what the device reads. -/
structure ConfigKey where
  tomlKey : String
  tomlAlias : Option String
  nvsKeys : List String
  optional : Bool
  intTy : Option IntTy
  intRange : Option (ℤ × ℤ)

def TextSpec.configKey (spec : TextSpec) (nvsKeys : List String) : ConfigKey :=
  ⟨spec.key, spec.oldKey, nvsKeys, false, none, none⟩

def IntSpec.configKey (spec : IntSpec) (nvsKeys : List String) : ConfigKey :=
  ⟨spec.key, spec.oldKey, nvsKeys, spec.default.isSome, some spec.ty, spec.range⟩

def Key.configKey : Key → ConfigKey
  | .text k => k.spec.configKey k.nvsKeys
  | .int k => k.spec.configKey k.nvsKeys

def deriveMappings : List ConfigKey := keys.map Key.configKey

def intTyBounds : IntTy → ℤ × ℤ
  | .u8 => (0, 0xFF)
  | .u16 => (0, 0xFFFF)
  | .u32 => (0, 0xFFFFFFFF)
  | .u64 => (0, 9223372036854775807)
  | .i64 => (-9223372036854775808, 9223372036854775807)

/-- The white space of the tool's language: the separators U+001C to U+001F belong to it. -/
def isSpace (c : Char) : Bool := Text.isWhitespace c || (0x1C ≤ c.toNat && c.toNat ≤ 0x1F)

def strip (s : String) : String :=
  String.ofList ((s.toList.dropWhile isSpace).rdropWhile isSpace)

lemma strip_ne_empty {s : String} {c : Char} (hmem : c ∈ s.toList) (hc : isSpace c = false) :
    strip s ≠ "" := by
  intro hstrip
  have hnil : (s.toList.dropWhile isSpace).rdropWhile isSpace = [] := by
    simpa [strip] using congrArg String.toList hstrip
  rw [List.rdropWhile_eq_nil_iff] at hnil
  rw [← List.takeWhile_append_dropWhile (p := isSpace) (l := s.toList), List.mem_append] at hmem
  have hspace : isSpace c = true := hmem.elim List.mem_takeWhile_imp (hnil c)
  rw [hc] at hspace
  cases hspace

lemma isSpace_of_isDigit {c : Char} (h : c.isDigit = true) : isSpace c = false := by
  have hgraphic := Text.isGraphic_of_isDigit h
  have hwhite := Text.isWhitespace_of_isGraphic hgraphic
  simp only [Text.isGraphic, Bool.and_eq_true, decide_eq_true_eq] at hgraphic
  simp only [isSpace, hwhite, Bool.false_or, Bool.and_eq_false_iff, decide_eq_false_iff_not]
  omega

/-- A printed integer is not blank. -/
lemma strip_toString_ne_empty (n : ℤ) : strip (toString n) ≠ "" := by
  obtain ⟨c, cs, hdigits, hc⟩ := Text.toDigits_eq_cons n.natAbs
  have hmem : c ∈ (toString n).toList := by
    rw [Text.toList_toString_int, hdigits]
    split_ifs <;> simp
  exact strip_ne_empty hmem (isSpace_of_isDigit hc)

/-- An old name that is empty counts as none. -/
def applyTomlAlias (data : PyDict) (key : ConfigKey) : PyDict :=
  match key.tomlAlias with
  | some tomlAlias =>
      if tomlAlias ≠ "" ∧ (data key.tomlKey).isNone ∧ (data tomlAlias).isSome then
        Function.update data key.tomlKey (data tomlAlias)
      else data
  | none => data

def applyTomlAliases (data : PyDict) (keys : List ConfigKey) : PyDict :=
  keys.foldl applyTomlAlias data

def checkIntKey (data : PyDict) (key : ConfigKey) : Except String Unit :=
  match key.intTy, data key.tomlKey with
  | some ty, some (.int value) =>
      if ¬ ((intTyBounds ty).1 ≤ value ∧ value ≤ (intTyBounds ty).2) then
        .error (key.tomlKey ++ " は " ++ ty.rustName ++ " の範囲(" ++ toString (intTyBounds ty).1 ++
          "〜" ++ toString (intTyBounds ty).2 ++ ")で指定してください")
      else
        match key.intRange with
        | some (lo, hi) =>
            if ¬ (lo ≤ value ∧ value ≤ hi) then
              .error (key.tomlKey ++ " は" ++ toString lo ++ "〜" ++ toString hi ++ "で指定してください")
            else .ok ()
        | none => .ok ()
  | some _, some (.str _) | some _, some (.other _) =>
      .error (key.tomlKey ++ " は整数で指定してください")
  | some _, none | none, _ => .ok ()

/-- The keys of the messaging service may be empty: that turns it off. -/
def nonEmptyKeys (keys : List ConfigKey) : List String :=
  (keys.filter fun key =>
    !key.optional && !"telegram_".toList.isPrefixOf key.tomlKey.toList).map ConfigKey.tomlKey

def validateConfig (data : PyDict) (keys : List ConfigKey) : Except String Unit :=
  let empty := (nonEmptyKeys keys).filter fun key =>
    (data key).any fun value => strip value.shown = ""
  if empty ≠ [] then .error ("空にできないconfigがあります: " ++ String.intercalate ", " empty)
  else keys.forM (checkIntKey data)

def loadConfig (data : PyDict) (keys : List ConfigKey) : Except String PyDict := do
  let data := applyTomlAliases data keys
  let missing := (keys.filter fun key => !key.optional && (data key.tomlKey).isNone).map
    ConfigKey.tomlKey
  if missing ≠ [] then .error ("configに不足があります: " ++ String.intercalate ", " missing)
  else
    validateConfig data keys
    return data

/-- A key that the file does not have is not written. -/
def csvRowsOf (config : PyDict) (key : ConfigKey) : List (String × String) :=
  match config key.tomlKey with
  | some value => key.nvsKeys.map fun nvsKey => (nvsKey, value.shown)
  | none => []

def writeCsv (config : PyDict) (keys : List ConfigKey) : List (String × String) :=
  keys.flatMap (csvRowsOf config)

/-- An empty namespace once the rows have been written, in their order. -/
def flashed (rows : List (String × String)) : Nvs :=
  rows.foldl (fun nvs row => Function.update nvs row.1 (some row.2)) fun _ => none

/-- The value under the name of a key, or failing that under its old name. -/
def ConfigKey.configured (key : ConfigKey) (data : PyDict) : Option PyValue :=
  (data key.tomlKey).or (key.tomlAlias.bind data)

lemma applyTomlAlias_eq (data : PyDict) {key : ConfigKey} (hnamed : key.tomlAlias ≠ some "") :
    applyTomlAlias data key = Function.update data key.tomlKey (key.configured data) := by
  unfold applyTomlAlias ConfigKey.configured
  cases ha : key.tomlAlias with
  | none => simp
  | some tomlAlias =>
    have hne : tomlAlias ≠ "" := by
      rintro rfl
      exact hnamed ha
    cases hkey : data key.tomlKey with
    | none =>
      cases halias : data tomlAlias with
      | none => simp [hkey, halias]
      | some v => simp [halias, hne]
    | some v => simp [hkey]

section Aliases
variable {ks : List ConfigKey} {data : PyDict}

lemma applyTomlAlias_of_ne {key : ConfigKey} {name : String} (h : name ≠ key.tomlKey) :
    applyTomlAlias data key name = data name := by
  unfold applyTomlAlias
  cases key.tomlAlias with
  | none => rfl
  | some tomlAlias =>
    simp only
    split_ifs
    · exact Function.update_of_ne h _ _
    · rfl

lemma applyTomlAliases_of_notMem {name : String} (h : name ∉ ks.map ConfigKey.tomlKey) :
    applyTomlAliases data ks name = data name := by
  induction ks generalizing data with
  | nil => rfl
  | cons k ks ih =>
    rw [List.map_cons, List.mem_cons, not_or] at h
    change applyTomlAliases (applyTomlAlias data k) ks name = data name
    rw [ih h.2, applyTomlAlias_of_ne h.1]

/-- Each key is looked up once, whatever was carried over for the others before. -/
lemma applyTomlAliases_of_mem (hnodup : (ks.map ConfigKey.tomlKey).Nodup)
    (halias : ∀ k ∈ ks, ∀ a, k.tomlAlias = some a → a ∉ ks.map ConfigKey.tomlKey)
    {key : ConfigKey} (hnamed : key.tomlAlias ≠ some "") (hkey : key ∈ ks) :
    applyTomlAliases data ks key.tomlKey = key.configured data := by
  induction ks generalizing data with
  | nil => cases hkey
  | cons k ks ih =>
    rw [List.map_cons, List.nodup_cons] at hnodup
    change applyTomlAliases (applyTomlAlias data k) ks key.tomlKey = _
    rcases List.mem_cons.mp hkey with rfl | hmem
    · rw [applyTomlAliases_of_notMem hnodup.1, applyTomlAlias_eq _ hnamed, Function.update_self]
    · have hne : key.tomlKey ≠ k.tomlKey := fun he =>
        hnodup.1 (he ▸ List.mem_map_of_mem hmem)
      have hrest : ∀ k' ∈ ks, ∀ a, k'.tomlAlias = some a → a ∉ ks.map ConfigKey.tomlKey :=
        fun k' hk' a ha hmem' => halias k' (List.mem_cons_of_mem _ hk') a ha
          (List.mem_cons_of_mem _ hmem')
      rw [ih hnodup.2 hrest hmem]
      unfold ConfigKey.configured
      rw [applyTomlAlias_of_ne hne]
      cases ha : key.tomlAlias with
      | none => rfl
      | some a =>
        have hane : a ≠ k.tomlKey := fun he =>
          halias key hkey a ha (by rw [he]; exact List.mem_cons_self)
        exact congrArg (data key.tomlKey).or (applyTomlAlias_of_ne hane)

/-- Nothing is carried over when every key with an old name is there under its new one. -/
lemma applyTomlAliases_eq_self
    (h : ∀ key ∈ ks, key.tomlAlias ≠ none → (data key.tomlKey).isSome = true) :
    applyTomlAliases data ks = data := by
  induction ks with
  | nil => rfl
  | cons key ks ih =>
    have hself : applyTomlAlias data key = data := by
      unfold applyTomlAlias
      cases ha : key.tomlAlias with
      | none => rfl
      | some a =>
        have hsome := h key List.mem_cons_self (by simp [ha])
        exact if_neg (by simp [Option.isSome_iff_ne_none.mp hsome])
    change applyTomlAliases (applyTomlAlias data key) ks = data
    rw [hself]
    exact ih fun key hkey => h key (List.mem_cons_of_mem _ hkey)

end Aliases

lemma mem_keys (k : Key) : k ∈ keys := by
  cases k with
  | text k => exact text_mem_keys k
  | int k => exact int_mem_keys k

lemma configKey_mem (k : Key) : k.configKey ∈ deriveMappings := List.mem_map_of_mem (mem_keys k)

lemma applyTomlAliases_configKey (data : PyDict) (k : Key) :
    applyTomlAliases data deriveMappings k.configKey.tomlKey = k.configKey.configured data :=
  have hnamed : ∀ key ∈ deriveMappings, key.tomlAlias ≠ some "" := by decide
  applyTomlAliases_of_mem (by decide) (by decide) (hnamed _ (configKey_mem k)) (configKey_mem k)

lemma intTyBounds_eq (ty : IntTy) : intTyBounds ty = (ty.minValue, ty.maxValue) := by
  cases ty <;> rfl

/-- What the tool asks of the value of an integer key. -/
lemma checkIntKey_eq_ok {config : PyDict} {spec : IntSpec} {nvsKeys : List String} :
    checkIntKey config (spec.configKey nvsKeys) = .ok () ↔
      ∀ v, config spec.key = some v → ∃ n, v = .int n ∧ spec.InRange n := by
  simp only [checkIntKey, IntSpec.configKey, intTyBounds_eq, IntSpec.InRange]
  rcases config spec.key with _ | (s | n | shown)
  · simp
  · simp
  · simp only [Option.some.injEq, forall_eq', PyValue.int.injEq, exists_eq_left']
    constructor
    · intro h
      split_ifs at h with hty
      refine ⟨hty, ?_⟩
      rintro lo hi hrange
      simp only [hrange] at h
      split_ifs at h with hin
      exact hin
    · rintro ⟨hty, hrange⟩
      rw [if_neg (not_not.mpr hty)]
      rcases hr : spec.range with _ | ⟨lo, hi⟩
      · rfl
      · exact if_neg (not_not.mpr (hrange lo hi hr))
  · simp

/-- What the tool asks of a key, once the old names have been carried over. -/
structure KeyAccepted (config : PyDict) (key : ConfigKey) : Prop where
  present : key.optional = false → (config key.tomlKey).isSome = true
  nonEmpty : key.tomlKey ∈ nonEmptyKeys [key] →
    (config key.tomlKey).any (fun value => strip value.shown = "") = false
  checked : checkIntKey config key = .ok ()

lemma KeyAccepted.congr {config config' : PyDict} {key : ConfigKey} (h : KeyAccepted config key)
    (heq : config key.tomlKey = config' key.tomlKey) : KeyAccepted config' key := by
  refine ⟨heq ▸ h.present, heq ▸ h.nonEmpty, ?_⟩
  have hchecked := h.checked
  rw [checkIntKey, heq] at hchecked
  rwa [checkIntKey]

lemma nonEmptyKeys_eq_flatMap (ks : List ConfigKey) :
    nonEmptyKeys ks = ks.flatMap fun key => nonEmptyKeys [key] := by
  induction ks with
  | nil => rfl
  | cons key ks ih =>
    rw [List.flatMap_cons, ← ih]
    simp only [nonEmptyKeys, ← List.map_append, ← List.filter_append, List.singleton_append]

lemma tomlKey_of_mem_nonEmptyKeys {key : ConfigKey} {name : String}
    (h : name ∈ nonEmptyKeys [key]) : name = key.tomlKey := by
  obtain ⟨key', hmem, rfl⟩ := List.mem_map.mp h
  rw [List.mem_singleton.mp (List.mem_of_mem_filter hmem)]

lemma validateConfig_eq_ok {config : PyDict} {ks : List ConfigKey} :
    validateConfig config ks = .ok () ↔
      (∀ key ∈ ks, key.tomlKey ∈ nonEmptyKeys [key] →
        (config key.tomlKey).any (fun value => strip value.shown = "") = false) ∧
      ∀ key ∈ ks, checkIntKey config key = .ok () := by
  have hempty : (nonEmptyKeys ks).filter (fun key =>
      (config key).any fun value => strip value.shown = "") = [] ↔
      ∀ key ∈ ks, key.tomlKey ∈ nonEmptyKeys [key] →
        (config key.tomlKey).any (fun value => strip value.shown = "") = false := by
    simp only [List.filter_eq_nil_iff, nonEmptyKeys_eq_flatMap ks, List.mem_flatMap,
      Bool.not_eq_true]
    constructor
    · intro h key hkey hname
      exact h key.tomlKey ⟨key, hkey, hname⟩
    · rintro h name ⟨key, hkey, hname⟩
      obtain rfl := tomlKey_of_mem_nonEmptyKeys hname
      exact h key hkey hname
  unfold validateConfig
  simp only
  split_ifs with h
  · simp only [false_iff]
    exact fun hall => h (hempty.mpr hall.1)
  · rw [forM_ok_iff, ← hempty]
    exact (and_iff_right (not_not.mp h)).symm

/-- A file is accepted exactly when each of its keys is. -/
lemma loadConfig_eq_ok {data config : PyDict} {ks : List ConfigKey} :
    loadConfig data ks = .ok config ↔
      config = applyTomlAliases data ks ∧ ∀ key ∈ ks, KeyAccepted config key := by
  have hmissing : (ks.filter fun key =>
      !key.optional && (applyTomlAliases data ks key.tomlKey).isNone).map ConfigKey.tomlKey = [] ↔
      ∀ key ∈ ks, key.optional = false →
        (applyTomlAliases data ks key.tomlKey).isSome = true := by
    simp [List.filter_eq_nil_iff, Option.isSome_iff_ne_none]
  unfold loadConfig
  simp only
  split_ifs with hmiss
  · simp only [false_iff]
    rintro ⟨rfl, hall⟩
    exact hmiss (hmissing.mpr fun key hkey => (hall key hkey).present)
  · have hpresent := hmissing.mp (not_not.mp hmiss)
    cases hv : validateConfig (applyTomlAliases data ks) ks with
    | error e =>
      simp only [bind, Except.bind, reduceCtorEq, false_iff]
      rintro ⟨rfl, hall⟩
      have hok := validateConfig_eq_ok.mpr
        ⟨fun key hkey => (hall key hkey).nonEmpty, fun key hkey => (hall key hkey).checked⟩
      rw [hok] at hv
      cases hv
    | ok =>
      obtain ⟨hempty, hcheck⟩ := validateConfig_eq_ok.mp hv
      simp only [bind, Except.bind, pure, Except.pure, Except.ok.injEq]
      constructor
      · rintro rfl
        exact ⟨rfl, fun key hkey => ⟨hpresent key hkey, hempty key hkey, hcheck key hkey⟩⟩
      · rintro ⟨rfl, -⟩
        rfl

lemma loadConfig_ok {data config : PyDict} (h : loadConfig data deriveMappings = .ok config) :
    config = applyTomlAliases data deriveMappings ∧
      ∀ k : Key, checkIntKey config k.configKey = .ok () := by
  obtain ⟨hconfig, hall⟩ := loadConfig_eq_ok.mp h
  exact ⟨hconfig, fun k => (hall _ (configKey_mem k)).checked⟩

/-- An integer key of an accepted file is an integer in the effective range of the key. -/
lemma inRange_of_checkIntKey {config : PyDict} {k : IntKey} {v : PyValue}
    (hcheck : checkIntKey config (Key.int k).configKey = .ok ())
    (hv : config k.spec.key = some v) : ∃ n, v = .int n ∧ k.InRange n :=
  checkIntKey_eq_ok.mp hcheck v hv

section Flash
variable {rows : List (String × String)} {nvs : Nvs} {name s : String}

lemma foldl_update_of_forall (h : ∀ row ∈ rows, row.1 = name → row.2 = s)
    (hsome : (∃ row ∈ rows, row.1 = name) ∨ nvs name = some s) :
    rows.foldl (fun (nvs : Nvs) row => Function.update nvs row.1 (some row.2)) nvs name =
      some s := by
  induction rows generalizing nvs with
  | nil =>
    rcases hsome with ⟨row, hrow, -⟩ | hnvs
    · cases hrow
    · exact hnvs
  | cons row rows ih =>
    rw [List.foldl_cons]
    refine ih (fun r hr => h r (List.mem_cons_of_mem _ hr)) ?_
    by_cases hrow : row.1 = name
    · right
      rw [← hrow, Function.update_self, h row List.mem_cons_self hrow]
    · rcases hsome with ⟨r, hr, hname⟩ | hnvs
      · rcases List.mem_cons.mp hr with rfl | hmem
        · exact absurd hname hrow
        · exact .inl ⟨r, hmem, hname⟩
      · right
        rwa [Function.update_of_ne (Ne.symm hrow)]

end Flash

/-- No two keys share a name in flash. -/
lemma eq_of_mem_nvsKeys {k k' : Key} {name : String} (h : name ∈ k.configKey.nvsKeys)
    (h' : name ∈ k'.configKey.nvsKeys) : k = k' := by
  have hall : ∀ k ∈ keys, ∀ k' ∈ keys, ∀ name ∈ k.configKey.nvsKeys,
      name ∈ k'.configKey.nvsKeys → k = k' := by decide
  exact hall k (mem_keys k) k' (mem_keys k') name h h'

lemma flashed_writeCsv {config : PyDict} {k : Key} {v : PyValue}
    (hv : config k.configKey.tomlKey = some v) {name : String}
    (hname : name ∈ k.configKey.nvsKeys) :
    flashed (writeCsv config deriveMappings) name = some v.shown := by
  refine foldl_update_of_forall ?_ (.inl ?_)
  · rintro row hrow rfl
    rw [writeCsv, List.mem_flatMap] at hrow
    obtain ⟨key, hkey, hrow⟩ := hrow
    obtain ⟨k', -, rfl⟩ := List.mem_map.mp hkey
    unfold csvRowsOf at hrow
    cases hv' : config k'.configKey.tomlKey with
    | none => simp [hv'] at hrow
    | some v' =>
      simp only [hv'] at hrow
      obtain ⟨name, hmem, rfl⟩ := List.mem_map.mp hrow
      obtain rfl := eq_of_mem_nvsKeys hmem hname
      rw [hv, Option.some.injEq] at hv'
      rw [hv']
  · refine ⟨(name, v.shown), ?_, rfl⟩
    rw [writeCsv, List.mem_flatMap]
    refine ⟨k.configKey, configKey_mem k, ?_⟩
    simp only [csvRowsOf, hv]
    exact List.mem_map.mpr ⟨name, hname, rfl⟩

/-- The configuration of a device whose flash holds what the tool wrote and nothing else. -/
def provisioned (build : AppConfig) (config : PyDict) : AppConfig :=
  build.load (some (flashed (writeCsv config deriveMappings)))

lemma provisioned_text {build : AppConfig} {config : PyDict} {k : TextKey} {v : PyValue}
    (hv : config k.spec.key = some v) :
    (provisioned build config).text k =
      if strLen v.shown ≤ maxStringLen then v.shown else build.text k := by
  have hne : k.nvsKeys ≠ [] := by cases k <;> decide
  have hstored := storedValue_of_forall some hne fun name hname =>
    flashed_writeCsv (k := .text k) hv hname
  simp only [provisioned, AppConfig.load, clampRanges_text, AppConfig.applyNvs, replace, hstored]
  split_ifs <;> rfl

lemma provisioned_int {build : AppConfig} {config : PyDict} {k : IntKey} {n : ℤ}
    (hv : config k.spec.key = some (.int n)) (hin : k.InRange n) :
    (provisioned build config).int k =
      if k = .pcStatusPort ∧ n = 0 then defaultStatusPort else n := by
  have hne : k.nvsKeys ≠ [] := by cases k <;> decide
  have hstored := storedValue_of_forall k.spec.ty.parse hne fun name hname =>
    flashed_writeCsv (k := .int k) hv hname
  have hparse := IntTy.parse_toString hin.1
  simp only [PyValue.shown, if_pos (IntTy.strLen_toString_le hin.1), hparse] at hstored
  rw [provisioned, load_int, IntKey.stored, Option.bind_some, hstored, Option.getD_some]
  exact clampedInt_of_inRange hin

/-! ### The round trip -/

/-- The device works with what the file says: every integer, where the port 0 stands for the
default, and every text. -/
def RoundTrip (build : AppConfig) (data config : PyDict) : Prop :=
  (∀ (k : IntKey) (v : PyValue), (Key.int k).configKey.configured data = some v →
    ∃ n, v = .int n ∧ (provisioned build config).int k =
      if k = .pcStatusPort ∧ n = 0 then defaultStatusPort else n) ∧
  ∀ (k : TextKey) (v : PyValue), (Key.text k).configKey.configured data = some v →
    (provisioned build config).text k = v.shown

/-- Every file that the tool accepts makes the round trip, over every build. -/
def Provisions : Prop :=
  ∀ (build : AppConfig) (data config : PyDict), loadConfig data deriveMappings = .ok config →
    RoundTrip build data config

/-- A file makes the round trip exactly when each of its texts, with the terminating NUL, is
short enough to be read back, or is the text of the build anyway. -/
theorem roundTrip_iff {data config : PyDict} (hload : loadConfig data deriveMappings = .ok config)
    (build : AppConfig) :
    RoundTrip build data config ↔
      ∀ (k : TextKey) (v : PyValue), (Key.text k).configKey.configured data = some v →
        strLen v.shown ≤ maxStringLen ∨ v.shown = build.text k := by
  obtain ⟨rfl, hcheck⟩ := loadConfig_ok hload
  have hconfig : ∀ k : Key, applyTomlAliases data deriveMappings k.configKey.tomlKey =
      k.configKey.configured data := applyTomlAliases_configKey data
  constructor
  · rintro ⟨-, htext⟩ k v hv
    have hread := htext k v hv
    rw [provisioned_text ((hconfig (.text k)).trans hv)] at hread
    by_cases hlen : strLen v.shown ≤ maxStringLen
    · exact .inl hlen
    · rw [if_neg hlen] at hread
      exact .inr hread.symm
  · intro hshort
    constructor
    · intro k v hv
      have hkey := (hconfig (.int k)).trans hv
      obtain ⟨n, rfl, hin⟩ := inRange_of_checkIntKey (hcheck (.int k)) hkey
      exact ⟨n, rfl, provisioned_int hkey hin⟩
    · intro k v hv
      rw [provisioned_text ((hconfig (.text k)).trans hv)]
      split_ifs with hlen
      · rfl
      · rcases hshort k v hv with hle | hsame
        · exact absurd hle hlen
        · exact hsame.symm

section Example

def exampleData : PyDict := fun key => (exampleTable key).map fun
  | .str s => .str s
  | .integer n => .int n
  | .other => .other ""

lemma loadConfig_exampleData :
    loadConfig exampleData deriveMappings = .ok (applyTomlAliases exampleData deriveMappings) := by
  rfl

/-- A build with no configuration of its own. -/
def emptyBuild : AppConfig := ⟨fun _ => "", fun _ => 0⟩

theorem roundTrip_exampleData :
    RoundTrip emptyBuild exampleData (applyTomlAliases exampleData deriveMappings) :=
  (roundTrip_iff loadConfig_exampleData emptyBuild).mpr (by
    intro k v hv
    left
    cases k <;> cases hv <;> decide)

/-- The example with another secret. -/
def secretData (secret : String) : PyDict := fun key =>
  if key = "bridge_shared_secret" then some (.str secret) else exampleData key

/-- The example has every key that has an old name under its new one. -/
lemma isSome_exampleData {key : ConfigKey} (hkey : key ∈ deriveMappings)
    (halias : key.tomlAlias ≠ none) : (exampleData key.tomlKey).isSome = true := by
  have hkeys : ∀ key ∈ deriveMappings, key.tomlAlias ≠ none →
      (exampleData key.tomlKey).isSome = true := by decide
  exact hkeys key hkey halias

lemma applyTomlAliases_exampleData : applyTomlAliases exampleData deriveMappings = exampleData :=
  applyTomlAliases_eq_self fun _ hkey halias => isSome_exampleData hkey halias

lemma applyTomlAliases_secretData (secret : String) :
    applyTomlAliases (secretData secret) deriveMappings = secretData secret := by
  apply applyTomlAliases_eq_self
  intro key hkey halias
  unfold secretData
  split_ifs with hsecret
  · rfl
  · exact isSome_exampleData hkey halias

lemma loadConfig_secretData {secret : String} (h : strip secret ≠ "") :
    loadConfig (secretData secret) deriveMappings = .ok (secretData secret) := by
  refine loadConfig_eq_ok.mpr ⟨(applyTomlAliases_secretData secret).symm, fun key hkey => ?_⟩
  have hexample : KeyAccepted exampleData key := by
    have haccepted := (loadConfig_eq_ok.mp loadConfig_exampleData).2 key hkey
    rwa [applyTomlAliases_exampleData] at haccepted
  by_cases hsecret : key.tomlKey = "bridge_shared_secret"
  · have hv : secretData secret key.tomlKey = some (.str secret) := if_pos hsecret
    have htext : ∀ key ∈ deriveMappings, key.tomlKey = "bridge_shared_secret" →
        key.intTy = none := by decide
    refine ⟨by simp [hv], by simp [hv, PyValue.shown, h], ?_⟩
    simp [checkIntKey, htext key hkey hsecret]
  · have hsame : exampleData key.tomlKey = secretData secret key.tomlKey := (if_neg hsecret).symm
    exact hexample.congr hsame

def secretOfLength (n : ℕ) : String := String.ofList (List.replicate n 'x')

lemma strip_secretOfLength (n : ℕ) : strip (secretOfLength n) = secretOfLength n := by
  have hx : isSpace 'x' = false := by decide
  simp [strip, secretOfLength, List.rdropWhile, hx]

lemma strLen_secretOfLength (n : ℕ) : strLen (secretOfLength n) = n + 1 := by
  have hascii : ∀ c ∈ List.replicate n 'x', c.toNat < 128 := by
    intro c hc
    rw [List.eq_of_mem_replicate hc]
    decide
  rw [strLen, secretOfLength, Text.utf8_ofList_of_ascii hascii, List.length_map,
    List.length_replicate]

/-- A secret of 512 bytes is accepted, and the device works with that of the build. -/
theorem not_provisions : ¬ Provisions := by
  intro h
  obtain ⟨secret, hstrip, hlen⟩ : ∃ secret, strip secret = secret ∧ strLen secret = 513 :=
    ⟨secretOfLength 512, strip_secretOfLength 512, strLen_secretOfLength 512⟩
  have hne : secret ≠ "" := by
    rintro rfl
    exact absurd hlen (by decide)
  have hload : loadConfig (secretData secret) deriveMappings = .ok (secretData secret) :=
    loadConfig_secretData (by rwa [hstrip])
  have hv : secretData secret "bridge_shared_secret" = some (.str secret) := by
    simp [secretData]
  have hconfigured : (Key.text .bridgeSharedSecret).configKey.configured (secretData secret) =
      some (.str secret) := by
    simp [ConfigKey.configured, Key.configKey, TextSpec.configKey, TextKey.spec, hv]
  have hread := (h exampleBuild _ _ hload).2 .bridgeSharedSecret _ hconfigured
  have hlong : ¬ strLen secret ≤ maxStringLen := by
    rw [hlen]
    decide
  have htext : (provisioned exampleBuild (secretData secret)).text .bridgeSharedSecret =
      exampleBuild.text .bridgeSharedSecret :=
    (provisioned_text (k := .bridgeSharedSecret) hv).trans (if_neg hlong)
  have hlength := congrArg strLen (htext.symm.trans hread)
  rw [PyValue.shown, hlen] at hlength
  exact absurd hlength (by decide)

end Example

end PcRemote.Config
