import PcRemote.FirmwareManifest
import PcRemote.OtaActivation
import PcRemote.OtaProgress

/-! An update from the bridge's files to the spare slot: when a confirmed update ends in a restart,
and what has been written by then. The files may be replaced between the two requests. -/
namespace PcRemote.Firmware
open Text Signing OtaUpdate

structure Answer where
  status : ℕ
  body : List UInt8

/-- The answer to an authenticated request for the manifest; the task that builds it may fail. -/
def firmwareManifest (encode : OtaManifest → List UInt8)
    (outcome : Option (Except ManifestError OtaManifest)) : Answer :=
  match outcome with
  | some (.ok m) => ⟨200, encode m⟩
  | some (.error (.io .notFound)) => ⟨404, utf8 "firmware not found"⟩
  | some (.error (.io .other)) => ⟨500, utf8 "failed to read firmware"⟩
  | some (.error .format) => ⟨500, utf8 "failed to build firmware manifest"⟩
  | none => ⟨500, utf8 "firmware manifest task failed"⟩

/-- The answer to an authenticated request for the image. -/
def firmwareBinary (outcome : Option (Except IoError Image)) : Answer :=
  match outcome with
  | some (.ok image) => ⟨200, image.bytes⟩
  | some (.error .notFound) => ⟨404, utf8 "firmware not found"⟩
  | some (.error .other) => ⟨500, utf8 "failed to read firmware"⟩
  | none => ⟨500, utf8 "firmware download task failed"⟩

/-- The response that arrives has the status of the answer, and its reads join to the body. -/
def Carries (answer : Answer) (fetch : Fetch) : Prop :=
  ∃ reads, fetch = .response answer.status reads ∧ streamBytes reads = answer.body ∧
    streamEnds reads = true

lemma Carries.body_eq_ok {answer : Answer} {fetch : Fetch} (h : Carries answer fetch)
    {endpoint : String} {reads : List Read} (hbody : fetch.body endpoint = .ok reads) :
    answer.status = 200 ∧ streamBytes reads = answer.body ∧ streamEnds reads = true := by
  obtain ⟨reads', rfl, hbytes, hends⟩ := h
  have hresponse := Fetch.body_eq_ok.mp hbody
  simp only [Fetch.response.injEq] at hresponse
  obtain ⟨hstatus, rfl⟩ := hresponse
  exact ⟨hstatus, hbytes, hends⟩

lemma firmwareManifest_served {encode : OtaManifest → List UInt8}
    {outcome : Option (Except ManifestError OtaManifest)}
    (h : (firmwareManifest encode outcome).status = 200) :
    ∃ m, outcome = some (.ok m) := by
  unfold firmwareManifest at h
  split at h <;> simp_all

lemma firmwareBinary_served {outcome : Option (Except IoError Image)}
    (h : (firmwareBinary outcome).status = 200) : ∃ image, outcome = some (.ok image) := by
  unfold firmwareBinary at h
  split at h <;> simp_all

/-- A body that ends is read whole, as long as it is not too large. -/
lemma readManifest_of_ends {reads : List Read} {body : List UInt8} (hends : streamEnds reads = true)
    (hbody : body.length ≤ manifestMaxBytes) :
    readManifest reads body =
      if manifestMaxBytes < body.length + (streamBytes reads).length then .error .responseTooLarge
      else .ok (body ++ streamBytes reads) := by
  induction reads generalizing body with
  | nil => simp [readManifest, streamBytes, Nat.not_lt.mpr hbody]
  | cons read rest ih =>
    cases read with
    | error reason => simp [streamEnds] at hends
    | bytes chunk =>
      by_cases hchunk : chunk = []
      · simp [readManifest, streamBytes, hchunk, Nat.not_lt.mpr hbody]
      · have hrest : streamEnds rest = true := by simpa [streamEnds, hchunk] using hends
        simp only [readManifest, streamBytes, if_neg hchunk, List.length_append]
        by_cases hlarge : manifestMaxBytes < body.length + chunk.length
        · rw [if_pos hlarge, if_pos (by omega)]
        · have hlength : (body ++ chunk).length ≤ manifestMaxBytes := by
            rw [List.length_append]
            omega
          rw [if_neg hlarge, ih hrest hlength, List.length_append, List.append_assoc,
            Nat.add_assoc]

section Update
variable {C : Crypto} {τ : Type} {rfc3339 : τ → Option String} {secret : List UInt8}
  {encode : OtaManifest → List UInt8} {decode : List UInt8 → Except String OtaManifest}
  {files : Files τ}

/-- An image of no bytes is announced with a size that the device refuses. -/
lemma Built.empty {m : OtaManifest} (h : Built C rfc3339 files secret m) {image : Image}
    (hbin : files.bin = .ok image) (hempty : image.bytes = []) :
    m.checkManifestFields ≠ .ok () := by
  obtain ⟨image', hbin', hsize, -⟩ := h.image
  obtain rfl : image = image' := Except.ok.inj (hbin.symm.trans hbin')
  have hzero : m.size = 0 := by simpa [hempty] using hsize
  unfold OtaManifest.checkManifestFields
  split_ifs <;> simp

/-- The device takes the manifest that was built, for an image of at least one byte. -/
lemma fetchVerifiedManifest_carried
    (hcodec : ∀ m, buildManifest C rfc3339 files secret = .ok m → decode (encode m) = .ok m)
    (htime : ∀ t s, rfc3339 t = some s → IsRfc3339Text s)
    (hsha : ∀ bytes, (C.sha256 bytes).length = 32)
    (hmac : ∀ message, C.hmacSha256 secret message ≠ []) {fetch : Fetch}
    (h : Carries (firmwareManifest encode (some (buildManifest C rfc3339 files secret))) fetch)
    {m : OtaManifest} :
    fetchVerifiedManifest C decode secret fetch = .ok m ↔
      buildManifest C rfc3339 files secret = .ok m ∧ (encode m).length ≤ manifestMaxBytes ∧
        ∃ image, files.bin = .ok image ∧ image.bytes ≠ [] := by
  constructor
  · intro hfetch
    obtain ⟨reads, body, hresponse, hread, hparse, -⟩ :=
      fetchVerifiedManifest_eq_ok C decode hfetch
    have hbody : fetch.body manifestPath = .ok reads := Fetch.body_eq_ok.mpr hresponse
    obtain ⟨hstatus, hbytes, hends⟩ := h.body_eq_ok hbody
    obtain ⟨built, hbuild⟩ := firmwareManifest_served hstatus
    rw [Option.some.injEq] at hbuild
    rw [hbuild] at hbytes ⊢
    rw [readManifest_of_ends hends (Nat.zero_le _), hbytes] at hread
    simp only [firmwareManifest, List.length_nil, Nat.zero_add, List.nil_append] at hread
    split_ifs at hread with hlarge
    rw [Except.ok.injEq] at hread
    rw [← hread, OtaManifest.parseManifestJson, hcodec _ hbuild] at hparse
    cases hcheck : built.checkManifestFields with
    | error e => simp [hcheck, Except.map] at hparse
    | ok =>
      obtain rfl : built = m := by simpa [hcheck, Except.map] using hparse
      have hbuilt := built_of_buildManifest hbuild
      obtain ⟨image, hbin, -, -⟩ := hbuilt.image
      exact ⟨rfl, Nat.not_lt.mp hlarge, image, hbin, fun hempty => hbuilt.empty hbin hempty hcheck⟩
  · rintro ⟨hbuild, hshort, image, hbin, hne⟩
    obtain ⟨reads, hfetch, hbytes, hends⟩ := h
    rw [hbuild] at hfetch hbytes
    obtain ⟨hcheck, hverify⟩ := (built_of_buildManifest hbuild).checks htime hsha hmac hbin hne
    have hread : readManifest reads [] = .ok (encode m) := by
      rw [readManifest_of_ends hends (Nat.zero_le _), hbytes]
      simpa [firmwareManifest] using hshort
    have hparse : OtaManifest.parseManifestJson decode (encode m) = .ok m := by
      simp [OtaManifest.parseManifestJson, hcodec m hbuild, hcheck, Except.map]
    have hbody : fetch.body manifestPath = .ok reads := Fetch.body_eq_ok.mpr hfetch
    simp [fetchVerifiedManifest, hbody, hread, hparse, hverify]

end Update

section Download
variable {C : Crypto} {m : OtaManifest} {slot : Slot} {fetch : Fetch}

lemma activate_eq_ok {d : Download} :
    (activate C m slot d).2 = .ok () ↔
      d.received = m.size ∧ hexEncode (C.sha256 d.hashing) = m.sha256 ∧
        slot.complete = .ok () := by
  unfold activate OtaManifest.verifyOtaImage
  by_cases hsize : d.received = m.size
  · by_cases hsha : hexEncode (C.sha256 d.hashing) = m.sha256
    · cases hcomplete : slot.complete <;> simp [hsize, hsha]
    · simp [hsize, hsha]
  · simp [hsize]

lemma writtenBytes_activate (d : Download) : writtenBytes (activate C m slot d).1 = [] := by
  unfold activate
  split
  · rfl
  · split <;> rfl

/-- A download succeeds exactly for a whole stream that fits the manifest and that the slot
takes. -/
lemma downloadAndFlash_eq_ok (hchunked : Chunked fetch.image) :
    (downloadAndFlash C m slot fetch).2 = .ok () ↔ Delivered m slot fetch ∧
      (streamBytes fetch.image).length = m.size.toNat ∧
      hexEncode (C.sha256 (streamBytes fetch.image)) = m.sha256 ∧ slot.complete = .ok () := by
  unfold downloadAndFlash
  cases hinitiate : slot.initiate with
  | error reason =>
    refine ⟨by simp, fun h => ?_⟩
    simpa [hinitiate] using h.1.initiated
  | ok =>
    cases hbody : fetch.body firmwarePath with
    | error e =>
      refine ⟨by simp, fun h => ?_⟩
      obtain ⟨reads, rfl⟩ := h.1.answered
      simp [Fetch.body] at hbody
    | ok reads =>
      have himage : fetch.image = reads := by simp [Fetch.image, hbody]
      have hlooped := looped_receive (within_start m slot) (himage ▸ hchunked)
      have hreceived := received_receive m slot reads .start
      have hdelivered := delivered_iff hinitiate hbody hlooped
      cases hr : (receive m slot reads .start).2 with
      | error e => simp [hr, hdelivered]
      | ok d =>
        obtain ⟨hsound, hd⟩ := hreceived.sound sound_start hr
        have hstream : d.written = streamBytes fetch.image := by
          rw [hd, hlooped.complete d hr, himage]
          rfl
        simp only [hr, hdelivered, activate_eq_ok, ← UInt64.toNat_inj, hsound.received,
          hsound.hashing, hstream, Except.ok.injEq, exists_eq', true_and]

/-- What a successful download has written is the whole stream. -/
lemma writtenBytes_downloadAndFlash (hchunked : Chunked fetch.image)
    (h : (downloadAndFlash C m slot fetch).2 = .ok ()) :
    writtenBytes (downloadAndFlash C m slot fetch).1 = streamBytes fetch.image := by
  obtain ⟨hdelivered, -⟩ := (downloadAndFlash_eq_ok hchunked).mp h
  obtain ⟨reads, hresponse⟩ := hdelivered.answered
  have hbody : fetch.body firmwarePath = .ok reads := Fetch.body_eq_ok.mpr hresponse
  have himage : fetch.image = reads := by simp [Fetch.image, hbody]
  have hlooped := looped_receive (within_start m slot) (himage ▸ hchunked)
  obtain ⟨d, hr⟩ := (delivered_iff hdelivered.initiated hbody hlooped).mp hdelivered
  have hevents : (downloadAndFlash C m slot fetch).1 =
      [.initiate, .signedGet firmwarePath fetch] ++ (receive m slot reads .start).1 ++
        ([.progress d.received] ++ (activate C m slot d).1) := by
    simp [downloadAndFlash, hdelivered.initiated, hbody, hr]
  rw [hevents, writtenBytes_append, writtenBytes_append, writtenBytes_append,
    writtenBytes_activate, hlooped.complete d hr, himage]
  simp [writtenBytes]

end Download

/-! ### The confirmed update -/

section Confirmed
variable {C : Crypto} {τ : Type} {rfc3339 : τ → Option String} {config : Telegram.ClientConfig}
  {encode : OtaManifest → List UInt8} {decode : List UInt8 → Except String OtaManifest}
  {files files' : Files τ} {env : Telegram.Env} {c : Telegram.Client} {chatId : ℤ}
  {version : String}

/-- A confirmed update restarts the device exactly if its download succeeds. -/
lemma restart_mem_executeConfirmedOtaUpdate :
    .restart ∈ Telegram.executeConfirmedOtaUpdate C decode config env c chatId version ↔
      ∃ m, Telegram.fetchManifest C decode config env = .ok m ∧ m.version = version ∧
        (downloadAndFlash C m env.slot env.image).2 = .ok () := by
  have hloud : .restart ∈ Telegram.executeConfirmedOtaUpdate C decode config env c chatId version ↔
      .restart ∈ Telegram.loud
        (Telegram.executeConfirmedOtaUpdate C decode config env c chatId version) :=
    ⟨fun h => Telegram.mem_loud h rfl, List.mem_of_mem_filter⟩
  rw [hloud, Telegram.loud_executeConfirmedOtaUpdate]
  cases hfetch : Telegram.fetchManifest C decode config env with
  | error e => simp
  | ok m =>
    by_cases hversion : m.version = version
    · cases hresult : (downloadAndFlash C m env.slot env.image).2 <;>
        simp [hversion, Telegram.loud_executeOtaUpdate, hresult]
    · simp [hversion]

lemma otaEvents_executeConfirmedOtaUpdate {m : OtaManifest}
    (hfetch : Telegram.fetchManifest C decode config env = .ok m) (hversion : m.version = version) :
    Telegram.otaEvents (Telegram.executeConfirmedOtaUpdate C decode config env c chatId version) =
      (downloadAndFlash C m env.slot env.image).1 := by
  rw [← Telegram.otaEvents_executeOtaUpdate env chatId m]
  simp only [Telegram.executeConfirmedOtaUpdate, hfetch, hversion, if_true]
  rfl

variable (C rfc3339 config encode files files' env) in
/-- The device's requests are answered from the bridge's files, as they are at each request. -/
structure Served : Prop where
  manifest : Carries (firmwareManifest encode
    (some (buildManifest C rfc3339 files (utf8 config.bridgeSharedSecret)))) env.manifest
  image : Carries (firmwareBinary (some (readBin files'))) env.image
  chunked : Chunked env.image.image

variable (C) in
/-- Different images that no manifest tells apart. -/
structure Collision (served offered : Image) : Prop where
  differ : served.bytes ≠ offered.bytes
  length : served.bytes.length = offered.bytes.length
  sha256 : C.sha256 served.bytes = C.sha256 offered.bytes

variable (C files files') in
/-- The image that is served is the one that was offered, as far as a manifest can tell. -/
structure SameImage (offered served : Image) : Prop where
  offered_bin : files.bin = .ok offered
  served_bin : files'.bin = .ok served
  nonempty : offered.bytes ≠ []
  length : served.bytes.length = offered.bytes.length
  sha256 : C.sha256 served.bytes = C.sha256 offered.bytes

variable (C rfc3339 config encode files files' env version) in
/-- What an update takes: a manifest that fits the device and has the version that was confirmed,
the image it describes, and a slot that takes it. -/
structure Installs : Prop where
  announced : ∃ m, buildManifest C rfc3339 files (utf8 config.bridgeSharedSecret) = .ok m ∧
    (encode m).length ≤ manifestMaxBytes
  confirmed : readVersion files.version = version
  image : ∃ offered served, SameImage C files files' offered served
  initiated : env.slot.initiate = .ok ()
  taken : slotTakes env.slot env.image.image [] = true
  completed : env.slot.complete = .ok ()

lemma hexEncode_injective : Function.Injective hexEncode := by
  intro a b h
  have hdecoded := congrArg hexDecode h
  simpa only [hexDecode_encode, Option.some.injEq] using hdecoded

/-- The image that arrives, and that its stream is its bytes. -/
lemma Served.image_of_answered (h : Served C rfc3339 config encode files files' env)
    {reads : List Read} (hresponse : env.image = .response 200 reads) :
    ∃ served, files'.bin = .ok served ∧ streamBytes env.image.image = served.bytes := by
  have hbody : env.image.body firmwarePath = .ok reads := Fetch.body_eq_ok.mpr hresponse
  have himage : env.image.image = reads := by simp [Fetch.image, hbody]
  obtain ⟨hstatus, hbytes, -⟩ := h.image.body_eq_ok hbody
  obtain ⟨served, hserved⟩ := firmwareBinary_served hstatus
  have hbin : files'.bin = .ok served := Option.some.inj hserved
  refine ⟨served, hbin, ?_⟩
  rw [himage, hbytes, hserved]
  rfl

/-- What a served image's stream is like. -/
lemma Served.stream_of_bin (h : Served C rfc3339 config encode files files' env) {served : Image}
    (hbin : files'.bin = .ok served) :
    (∃ reads, env.image = .response 200 reads) ∧ streamEnds env.image.image = true ∧
      streamBytes env.image.image = served.bytes := by
  obtain ⟨reads, hfetch, hbytes, hends⟩ := h.image
  rw [readBin, hbin] at hfetch hbytes
  have hbody : env.image.body firmwarePath = .ok reads := Fetch.body_eq_ok.mpr hfetch
  have himage : env.image.image = reads := by simp [Fetch.image, hbody]
  rw [himage]
  exact ⟨⟨reads, hfetch⟩, hends, hbytes⟩

lemma SameImage.bytes {offered served : Image} (h : SameImage C files files' offered served) :
    served.bytes = offered.bytes ∨ Collision C served offered := by
  by_cases heq : served.bytes = offered.bytes
  · exact .inl heq
  · exact .inr ⟨heq, h.length, h.sha256⟩

/-- The download of what is served, measured against the manifest of what was offered. -/
lemma Served.downloadAndFlash_eq_ok (h : Served C rfc3339 config encode files files' env)
    {m : OtaManifest} {offered : Image} (hbin : files.bin = .ok offered)
    (hne : offered.bytes ≠ [])
    (hbuilt : Built C rfc3339 files (utf8 config.bridgeSharedSecret) m) :
    (downloadAndFlash C m env.slot env.image).2 = .ok () ↔
      (∃ served, SameImage C files files' offered served) ∧ env.slot.initiate = .ok () ∧
        slotTakes env.slot env.image.image [] = true ∧ env.slot.complete = .ok () := by
  obtain ⟨image, hbin', hsize, hsha⟩ := hbuilt.image
  obtain rfl : offered = image := Except.ok.inj (hbin.symm.trans hbin')
  have hlength : m.size.toNat = offered.bytes.length := by
    rw [hsize, UInt64.toNat_ofNat_of_lt' offered.fits]
  rw [Firmware.downloadAndFlash_eq_ok h.chunked, hlength, hsha, bodySha256Hex,
    hexEncode_injective.eq_iff]
  constructor
  · rintro ⟨hdelivered, hsame, hdigest, hcomplete⟩
    obtain ⟨reads, hresponse⟩ := hdelivered.answered
    obtain ⟨served, hserved, hstream⟩ := h.image_of_answered hresponse
    rw [hstream] at hsame hdigest
    exact ⟨⟨served, hbin, hserved, hne, hsame, hdigest⟩, hdelivered.initiated, hdelivered.taken,
      hcomplete⟩
  · rintro ⟨⟨served, hsame⟩, hinitiate, htaken, hcomplete⟩
    obtain ⟨hanswered, hends, hstream⟩ := h.stream_of_bin hsame.served_bin
    rw [hstream]
    exact ⟨⟨hinitiate, hanswered, hends, htaken, by rw [hstream, hsame.length, hlength]⟩,
      hsame.length, hsame.sha256, hcomplete⟩

/-- A confirmed update ends in a restart exactly if the bridge's files announce the version that
was confirmed, the image served is the one offered and the slot takes it. The slot then holds the
image that was served, which is the one offered unless their hashes collide. -/
theorem update_installs_served (hcodec : ∀ m,
      buildManifest C rfc3339 files (utf8 config.bridgeSharedSecret) = .ok m →
      decode (encode m) = .ok m)
    (htime : ∀ t s, rfc3339 t = some s → IsRfc3339Text s)
    (hsha : ∀ bytes, (C.sha256 bytes).length = 32)
    (hmac : ∀ message, C.hmacSha256 (utf8 config.bridgeSharedSecret) message ≠ [])
    (hserved : Served C rfc3339 config encode files files' env) :
    (.restart ∈ Telegram.executeConfirmedOtaUpdate C decode config env c chatId version ↔
      Installs C rfc3339 config encode files files' env version) ∧
    (.restart ∈ Telegram.executeConfirmedOtaUpdate C decode config env c chatId version →
      ∃ offered served, files.bin = .ok offered ∧ files'.bin = .ok served ∧
        writtenBytes (Telegram.otaEvents
          (Telegram.executeConfirmedOtaUpdate C decode config env c chatId version)) =
            served.bytes ∧
        (served.bytes = offered.bytes ∨ Collision C served offered)) := by
  have hfetched : ∀ {m}, Telegram.fetchManifest C decode config env = .ok m ↔
      buildManifest C rfc3339 files (utf8 config.bridgeSharedSecret) = .ok m ∧
        (encode m).length ≤ manifestMaxBytes ∧
        ∃ image, files.bin = .ok image ∧ image.bytes ≠ [] :=
    fetchVerifiedManifest_carried hcodec htime hsha hmac hserved.manifest
  refine ⟨restart_mem_executeConfirmedOtaUpdate.trans ⟨?_, ?_⟩, ?_⟩
  · rintro ⟨m, hfetch, hversion, hresult⟩
    obtain ⟨hbuild, hshort, offered, hbin, hne⟩ := hfetched.mp hfetch
    have hbuilt := built_of_buildManifest hbuild
    obtain ⟨⟨served, hsame⟩, hinitiate, htaken, hcomplete⟩ :=
      (hserved.downloadAndFlash_eq_ok hbin hne hbuilt).mp hresult
    exact ⟨⟨m, hbuild, hshort⟩, hbuilt.version.symm.trans hversion, ⟨offered, served, hsame⟩,
      hinitiate, htaken, hcomplete⟩
  · rintro ⟨⟨m, hbuild, hshort⟩, hversion, ⟨offered, served, hsame⟩, hinitiate, htaken, hcomplete⟩
    have hbuilt := built_of_buildManifest hbuild
    have hresult := (hserved.downloadAndFlash_eq_ok hsame.offered_bin hsame.nonempty hbuilt).mpr
      ⟨⟨served, hsame⟩, hinitiate, htaken, hcomplete⟩
    exact ⟨m, hfetched.mpr ⟨hbuild, hshort, offered, hsame.offered_bin, hsame.nonempty⟩,
      hbuilt.version.trans hversion, hresult⟩
  · intro hrestart
    obtain ⟨m, hfetch, hversion, hresult⟩ := restart_mem_executeConfirmedOtaUpdate.mp hrestart
    obtain ⟨hbuild, -, offered, hbin, hne⟩ := hfetched.mp hfetch
    obtain ⟨⟨served, hsame⟩, -⟩ :=
      (hserved.downloadAndFlash_eq_ok hbin hne (built_of_buildManifest hbuild)).mp hresult
    refine ⟨offered, served, hbin, hsame.served_bin, ?_, hsame.bytes⟩
    rw [otaEvents_executeConfirmedOtaUpdate hfetch hversion,
      writtenBytes_downloadAndFlash hserved.chunked hresult,
      (hserved.stream_of_bin hsame.served_bin).2.2]

end Confirmed

section Replaced

/-- The manifest as its texts stand, which here need no escapes. -/
def plainJson (m : OtaManifest) : List UInt8 :=
  utf8 ("\x7b\"version\":\"" ++ m.version ++ "\",\"size\":" ++ toString m.size ++
    ",\"sha256\":\"" ++ m.sha256 ++ "\",\"created_at\":\"" ++ m.createdAt ++
    "\",\"signature\":\"" ++ m.signature ++ "\"\x7d")

def builtManifest : OtaManifest where
  version := "0.2.0"
  size := 3
  sha256 := bodySha256Hex .standard [1, 2, 3]
  createdAt := epochText
  signature := OtaManifest.signManifest .standard (utf8 "secret") "0.2.0" 3
    (bodySha256Hex .standard [1, 2, 3]) epochText

def decodePlain (body : List UInt8) : Except String OtaManifest :=
  if body = plainJson builtManifest then .ok builtManifest else .error "line 1 column 0"

lemma buildManifest_built :
    buildManifest .standard rfc3339Epoch offeredFiles (utf8 "secret") = .ok builtManifest := by
  have hversion : readVersion offeredFiles.version = "0.2.0" := by decide
  simp only [buildManifest, hversion]
  rfl

/-- The same image once more, under a version that was raised after the manifest was sent. -/
def renamedFiles : Files ℕ := { offeredFiles with version := some (utf8 "0.3.0\n") }

def servedEnv : Telegram.Env :=
  { Telegram.envAt 7 with
    manifest := .response 200 [.bytes (plainJson builtManifest)]
    slot := blankSlot
    image := .response 200 [.bytes [1, 2], .bytes [3]] }

lemma length_plainJson : 1 ≤ (plainJson builtManifest).length ∧
    (plainJson builtManifest).length ≤ manifestMaxBytes := by
  have hsha256 : (utf8 builtManifest.sha256).length = 64 := by
    rw [builtManifest, bodySha256Hex, length_utf8_hexEncode]
    exact congrArg (2 * ·) (Sha256.length_digest _)
  have hsignature : (utf8 builtManifest.signature).length = 64 := by
    rw [builtManifest, OtaManifest.signManifest, length_utf8_hexEncode]
    exact congrArg (2 * ·) (Sha256.length_digest _)
  have hliteral : 1 ≤ (utf8 "\x7b\"version\":\"").length ∧
      (utf8 "\x7b\"version\":\"").length ≤ 100 ∧ (utf8 "\",\"size\":").length ≤ 100 ∧
      (utf8 ",\"sha256\":\"").length ≤ 100 ∧ (utf8 "\",\"created_at\":\"").length ≤ 100 ∧
      (utf8 "\",\"signature\":\"").length ≤ 100 ∧ (utf8 "\"\x7d").length ≤ 100 := by
    decide
  have hfields : (utf8 builtManifest.version).length ≤ 100 ∧
      (utf8 (toString builtManifest.size)).length ≤ 100 ∧
      (utf8 builtManifest.createdAt).length ≤ 100 := by
    decide
  simp only [plainJson, utf8_append, List.length_append, hsha256, hsignature, manifestMaxBytes]
  omega

lemma served_renamed : Served .standard rfc3339Epoch Telegram.ownerConfig plainJson offeredFiles
    renamedFiles servedEnv where
  manifest := by
    have hne : plainJson builtManifest ≠ [] := List.length_pos_iff.mp length_plainJson.1
    have hbuild := buildManifest_built
    refine ⟨[.bytes (plainJson builtManifest)], ?_, ?_, ?_⟩
    · simp only [servedEnv, Telegram.ownerConfig, hbuild]
      rfl
    · simp only [Telegram.ownerConfig, hbuild, firmwareManifest, streamBytes, if_neg hne,
        List.append_nil]
    · simp [streamEnds]
  image := ⟨[.bytes [1, 2], .bytes [3]], rfl, rfl, rfl⟩
  chunked := by
    intro chunk hchunk
    simp only [servedEnv, Fetch.image, Fetch.body, if_true, List.mem_cons, List.not_mem_nil,
      Read.bytes.injEq, or_false] at hchunk
    rcases hchunk with rfl | rfl <;> decide

/-- The version file changes between the requests; the update goes on with the manifest fetched. -/
theorem update_installs_served_renamed :
    .restart ∈ Telegram.executeConfirmedOtaUpdate .standard decodePlain Telegram.ownerConfig
      servedEnv (.new Telegram.initialSettings) 42 "0.2.0" := by
  refine (update_installs_served ?_ rfc3339Epoch_text Sha256.length_digest
    ?_ served_renamed).1.mpr ?_
  · intro m hm
    obtain rfl : builtManifest = m := Except.ok.inj (buildManifest_built.symm.trans hm)
    exact if_pos rfl
  · intro message h
    have hlength := congrArg List.length h
    rw [show (Crypto.standard.hmacSha256 _ message).length = 32 from Sha256.length_digest _]
      at hlength
    simp at hlength
  · exact ⟨⟨builtManifest, buildManifest_built, length_plainJson.2⟩, by decide,
      ⟨_, _, rfl, rfl, by decide, rfl, rfl⟩, rfl, by decide, rfl⟩

end Replaced

end PcRemote.Firmware
