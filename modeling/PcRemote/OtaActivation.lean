import PcRemote.ConfirmationProtocol
import PcRemote.OtaDownload

/-! The boot slot is switched only for what was confirmed: the manifest whose version agrees with
the confirmation is the one fetched after it, the one verified, and the one that the written
bytes match. -/
namespace PcRemote.Telegram
open Text Signing OtaUpdate Transition

def otaEvent : Effect → Option OtaEvent
  | .ota event => some event
  | _ => none

def otaEvents (effects : List Effect) : List OtaEvent := effects.filterMap otaEvent

lemma otaEvent_of_not_loud (e : Effect) (h : e.isLoud = false) : otaEvent e = none := by
  cases e <;> first | rfl | simp [Effect.isLoud] at h

section Activation
variable {C : Crypto} {decode : List UInt8 → Except String OtaManifest} {config : ClientConfig}

/-- The effects that only a confirmed firmware update has. -/
def Effect.updates : Effect → Bool
  | .executeConfirmedOta _ | .ota _ | .restart => true
  | _ => false

/-- What belongs to an update happens only where a pending update is redeemed. -/
lemma Handled.updates {env : Env} {c c' : Client} {request : Request} {effects : List Effect}
    (h : Handled C decode config env c request c' effects) {effect : Effect}
    (hmem : effect ∈ effects) (hupdates : effect.updates = true) :
    ∃ before p version chatId, Redeems env c request p ∧ p.kind = .firmwareUpdate version ∧
      loud before = [] ∧
      effects = before ++ executeConfirmedOtaUpdate C decode config env c' chatId version := by
  have hoperates : effect.operates = true := by
    cases effect <;> first | rfl | simp [Effect.updates] at hupdates
  rcases h.operation hmem hoperates with ⟨p, hp, hl, he, hkind⟩ | hupdated
  · cases effect with
    | executeConfirmedOta version => exact absurd (Option.some.inj he).symm (hkind version)
    | ota event => simp [Effect.executes] at he
    | restart => simp [Effect.executes] at he
    | _ => simp [Effect.updates] at hupdates
  · exact hupdated

lemma otaEvents_executeOtaUpdate (env : Env) (chatId : ℤ) (m : OtaManifest) :
    otaEvents (executeOtaUpdate C env chatId m) = (downloadAndFlash C m env.slot env.image).1 := by
  have hevents : otaEvent ∘ Effect.ota = some := rfl
  rw [otaEvents, ← filterMap_loud otaEvent_of_not_loud, loud_executeOtaUpdate,
    List.filterMap_append, List.filterMap_map, hevents, List.filterMap_some]
  split <;> simp [otaEvent]

lemma otaEvents_of_loud_nil {effects : List Effect} (h : loud effects = []) :
    otaEvents effects = [] := by
  rw [otaEvents, ← filterMap_loud otaEvent_of_not_loud, h]
  rfl

/-- Where an update gets as far as the switch, its manifest has been fetched, is of the confirmed
version and describes what was written. -/
lemma complete_of_executeConfirmedOtaUpdate {env : Env} {c : Client} {chatId : ℤ}
    {version : String} {before after : List Effect} {b : Bool}
    (h : executeConfirmedOtaUpdate C decode config env c chatId version =
      before ++ .ota (.complete b) :: after) :
    ∃ m rest, fetchManifest C decode config env = .ok m ∧ m.version = version ∧
      Matches C m (otaEvents before) ∧
      before = .executeConfirmedOta version ::
        .fetchManifest c.settings.pcIpAddress env.manifest :: rest := by
  unfold executeConfirmedOtaUpdate at h
  rcases before with _ | ⟨x, _ | ⟨y, rest⟩⟩
  · simp at h
  · simp at h
  · simp only [List.cons_append, List.cons.injEq] at h
    obtain ⟨rfl, rfl, h⟩ := h
    have hmem : Effect.ota (.complete b) ∈ rest ++ .ota (.complete b) :: after := by simp
    rw [← h] at hmem
    cases hfetch : fetchManifest C decode config env with
    | error e => simp [hfetch] at hmem
    | ok m =>
      by_cases hversion : m.version = version
      · simp only [hfetch, hversion, if_true] at h
        have hevents := congrArg otaEvents h
        rw [otaEvents_executeOtaUpdate] at hevents
        have hmatches : Matches C m (otaEvents rest) := by
          apply (flashed_downloadAndFlash env.slot env.image).matches
          rw [hevents, otaEvents, List.filterMap_append]
          rfl
        exact ⟨m, rest, rfl, hversion, hmatches, rfl⟩
      · simp [hfetch, hversion] at hmem

/-- What a switch of the boot slot presupposes. -/
structure Activated (C : Crypto) (decode : List UInt8 → Except String OtaManifest)
    (config : ClientConfig) (c : Client) (e : Event) (before : List Effect) (p : Pending)
    (m : OtaManifest) : Prop where
  redeemed : Redeems e.env c (requestOf config e.update) p
  kind : p.kind = .firmwareUpdate m.version
  fetched_after : ∃ earlier pcIpAddress later, before = earlier ++
    .executeConfirmedOta m.version :: .fetchManifest pcIpAddress e.env.manifest :: later
  parsed : ∃ reads body, e.env.manifest = .response 200 reads ∧ readManifest reads [] = .ok body ∧
    OtaManifest.parseManifestJson decode body = .ok m
  verified : OtaManifest.verifyManifest C m (utf8 config.bridgeSharedSecret) = .ok ()
  length : (writtenBytes (otaEvents before)).length = m.size.toNat
  sha256 : hexEncode (C.sha256 (writtenBytes (otaEvents before))) = m.sha256

lemma activated_of_complete {env : Env} {update : Json} {c c' : Client} {effects : List Effect}
    (h : Handled C decode config env c (requestOf config update) c' effects)
    {before after : List Effect} {b : Bool}
    (heffects : effects = before ++ .ota (.complete b) :: after) :
    ∃ p m, Activated C decode config c ⟨env, update, effects⟩ before p m := by
  have hmem : Effect.ota (.complete b) ∈ effects := by simp [heffects]
  obtain ⟨earlier, p, version, chatId, hp, hkind, hquiet, hupdated⟩ := h.updates hmem rfl
  have hnot : Effect.ota (.complete b) ∉ earlier := by
    intro hearlier
    have hloud := mem_loud hearlier rfl
    simp [hquiet] at hloud
  obtain ⟨own, hbefore, hown⟩ : ∃ own, before = earlier ++ own ∧
      executeConfirmedOtaUpdate C decode config env c' chatId version =
        own ++ .ota (.complete b) :: after := by
    rcases List.append_eq_append_iff.mp (hupdated.symm.trans heffects) with
      ⟨own, hbefore, hown⟩ | ⟨rest, hearlier, hrest⟩
    · exact ⟨own, hbefore, hown⟩
    · cases rest with
      | nil => exact ⟨[], by simpa using hearlier.symm, by simpa using hrest.symm⟩
      | cons x rest =>
        have hx : x = .ota (.complete b) := (List.cons.inj hrest).1.symm
        simp [hearlier, hx] at hnot
  obtain ⟨m, later, hfetch, rfl, hmatches, hstart⟩ := complete_of_executeConfirmedOtaUpdate hown
  obtain ⟨reads, body, hresponse, hread, hparse, hverify⟩ :=
    fetchVerifiedManifest_eq_ok C decode hfetch
  have hevents : otaEvents before = otaEvents own := by
    rw [hbefore, otaEvents, List.filterMap_append]
    exact congrArg (· ++ _) (otaEvents_of_loud_nil hquiet)
  refine ⟨p, m, hp, hkind, ?_, ⟨reads, body, hresponse, hread, hparse⟩, hverify, ?_, ?_⟩
  · exact ⟨earlier, _, later, by rw [hbefore, hstart]⟩
  · rw [hevents, hmatches.length]
  · rw [hevents, hmatches.sha256]

variable (C decode config) in
/-- Why an update confirmed for a version comes to nothing. -/
inductive UpdateFails (env : Env) (version : String) : Prop
  | notFetched {error : OtaError} (h : fetchManifest C decode config env = .error error)
  | otherVersion {m : OtaManifest} (h : fetchManifest C decode config env = .ok m)
      (hversion : m.version ≠ version)
  | notFlashed {m : OtaManifest} {error : OtaError} (h : fetchManifest C decode config env = .ok m)
      (hresult : (downloadAndFlash C m env.slot env.image).2 = .error error)

lemma mem_of_mem_otaEvents {effects : List Effect} {event : OtaEvent}
    (h : event ∈ otaEvents effects) : .ota event ∈ effects := by
  obtain ⟨e, he, hevent⟩ := List.mem_filterMap.mp h
  unfold otaEvent at hevent
  split at hevent
  · rw [Option.some.injEq] at hevent
    exact hevent ▸ he
  · simp at hevent

/-- An update that does not switch the boot slot fails, and does not restart the device. -/
lemma updateFails_of_not_switched {env : Env} {c : Client} {chatId : ℤ} {version : String}
    (h : .ota (.complete true) ∉ executeConfirmedOtaUpdate C decode config env c chatId version) :
    .restart ∉ executeConfirmedOtaUpdate C decode config env c chatId version ∧
      UpdateFails C decode config env version := by
  unfold executeConfirmedOtaUpdate at h ⊢
  cases hfetch : fetchManifest C decode config env with
  | error e => exact ⟨by simp, .notFetched hfetch⟩
  | ok m =>
    by_cases hversion : m.version = version
    · simp only [hfetch, hversion, if_true] at h ⊢
      have hevents : .complete true ∉ (downloadAndFlash C m env.slot env.image).1 := by
        rw [← otaEvents_executeOtaUpdate env chatId m]
        intro hmem
        exact h (List.mem_cons_of_mem _ (List.mem_cons_of_mem _ (mem_of_mem_otaEvents hmem)))
      obtain ⟨error, hresult⟩ :=
        (flashed_downloadAndFlash env.slot env.image).error_of_not_switched hevents
      refine ⟨?_, .notFlashed hfetch hresult⟩
      intro hrestart
      have hmem := mem_loud hrestart rfl
      simp [Effect.isLoud, loud_executeOtaUpdate, hresult] at hmem
    · exact ⟨by simp [hversion], .otherVersion hfetch hversion⟩

lemma Handled.fails_of_not_switched {env : Env} {c c' : Client} {request : Request}
    {effects : List Effect} (h : Handled C decode config env c request c' effects)
    (hnot : .ota (.complete true) ∉ effects) :
    .restart ∉ effects ∧ ∀ version, .executeConfirmedOta version ∈ effects →
      UpdateFails C decode config env version := by
  constructor
  · intro hrestart
    obtain ⟨before, p, version, chatId, -, -, hquiet, rfl⟩ := h.updates hrestart rfl
    rcases List.mem_append.mp hrestart with hbefore | hupdate
    · have hloud := mem_loud hbefore rfl
      simp [hquiet] at hloud
    · exact (updateFails_of_not_switched fun hmem => hnot (List.mem_append_right _ hmem)).1 hupdate
  · intro version hmem
    obtain ⟨before, p, confirmedVersion, chatId, -, -, hquiet, rfl⟩ := h.updates hmem rfl
    have hversion : version = confirmedVersion := by
      have hcollected : PendingKind.firmwareUpdate version ∈ _ :=
        List.mem_filterMap.mpr ⟨_, hmem, (rfl : Effect.executes _ = _)⟩
      simpa [executes_updated hquiet] using hcollected
    subst hversion
    exact (updateFails_of_not_switched fun hmem => hnot (List.mem_append_right _ hmem)).2

/-- The boot slot is switched only for what was confirmed, which was issued last and for this very
version; in every other case the update fails and the device does not restart. -/
theorem ota_activation {settings : RuntimeSettings} {es : List Event} {u t : Session} {e : Event}
    (h : (session C decode config).Run (.start settings) es u) (hst : Step C decode config u e t) :
    (∀ before b after, e.effects = before ++ .ota (.complete b) :: after →
      ∃ p m, Activated C decode config u.client e before p m ∧
        Presupposed config es e (.firmwareUpdate m.version)) ∧
    (.ota (.complete true) ∉ e.effects → .restart ∉ e.effects ∧
      ∀ version, .executeConfirmedOta version ∈ e.effects →
        UpdateFails C decode config e.env version) := by
  have handled := handled_of_step hst
  constructor
  · intro before b after heffects
    obtain ⟨p, m, hactivated⟩ := activated_of_complete handled heffects
    have hconfirmed : .executeConfirmedOta m.version ∈ e.effects := by
      obtain ⟨earlier, pcIpAddress, later, hbefore⟩ := hactivated.fetched_after
      simp [heffects, hbefore]
    exact ⟨p, m, hactivated, presupposed_of_executes (h.append (.one hst)) hconfirmed rfl⟩
  · exact handled.fails_of_not_switched

end Activation

section Completed
variable (C : Crypto)

def offeredImage : List UInt8 := [0xe9, 1, 2, 3, 4]

def offeredManifest : OtaManifest where
  version := "0.18.0"
  size := 5
  sha256 := hexEncode (C.sha256 offeredImage)
  createdAt := "2026-01-01T00:00:00Z"
  signature := OtaManifest.signManifest C (utf8 ownerConfig.bridgeSharedSecret) "0.18.0" 5
    (hexEncode (C.sha256 offeredImage)) "2026-01-01T00:00:00Z"

def offeredBody : List UInt8 :=
  utf8 ("\x7b\"version\":\"0.18.0\",\"size\":5,\"sha256\":\"" ++ (offeredManifest C).sha256 ++
    "\",\"created_at\":\"2026-01-01T00:00:00Z\",\"signature\":\"" ++
    (offeredManifest C).signature ++ "\"\x7d")

def decodeOffered (body : List UInt8) : Except String OtaManifest :=
  if body = offeredBody C then .ok (offeredManifest C) else .error "line 1 column 0"

def spareSlot : Slot where
  size := 4096
  initiate := .ok ()
  write written chunk :=
    if written.length + chunk.length ≤ 4096 then .ok () else .error "out of the slot"
  complete := .ok ()
  write_bounded written chunk h := by
    split_ifs at h with hbound
    exact hbound

def updateEnv (now : Instant) : Env :=
  { envAt now with
    manifest := .response 200 [.bytes (offeredBody C)]
    slot := spareSlot
    image := .response 200 [.bytes offeredImage] }

def updateAt (c : Client) (now : Instant) (text : String) : Outcome :=
  processUpdate C (decodeOffered C) ownerConfig (updateEnv C now) c (ownerMessage text)

def updateEventAt (c : Client) (now : Instant) (text : String) : Event :=
  ⟨updateEnv C now, ownerMessage text, (updateAt C c now text).2⟩

lemma step_updateEventAt (c : Client) (now : Instant) (text : String) :
    Step C (decodeOffered C) ownerConfig ⟨c, false⟩ (updateEventAt C c now text)
      ⟨(updateAt C c now text).1, decide (Effect.restart ∈ (updateAt C c now text).2)⟩ :=
  .update c (updateEnv C now) (ownerMessage text)

def askedUpdate : Outcome := updateAt C (.new initialSettings) 5 "/update"

def askedSession : Session := ⟨(askedUpdate C).1, false⟩

def confirmedUpdate : Event := updateEventAt C (askedUpdate C).1 7 "/confirm_update 222222"

lemma step_confirmedUpdate :
    ∃ t, Step C (decodeOffered C) ownerConfig (askedSession C) (confirmedUpdate C) t :=
  ⟨_, step_updateEventAt C (askedUpdate C).1 7 "/confirm_update 222222"⟩

section Dispatch
variable (decode : List UInt8 → Except String OtaManifest) (env : Env) (p : Option Pending)
  (i : Option PendingInput) (settings : RuntimeSettings) (alerts : AlertThrottle)

lemma processUpdate_update :
    processUpdate C decode ownerConfig env ⟨p, i, false, settings, alerts⟩
        (ownerMessage "/update") =
      handleUpdateCommand C decode ownerConfig env ⟨p, i, false, settings, alerts⟩ 42 := by
  rfl

lemma processUpdate_confirm :
    processUpdate C decode ownerConfig env ⟨p, i, false, settings, alerts⟩
        (ownerMessage "/confirm_update 222222") =
      handleUpdateConfirmation C decode ownerConfig env ⟨p, i, false, settings, alerts⟩ 42
        "222222" := by
  rfl

end Dispatch

variable {C}

lemma fetchManifest_offered (hsha : ∀ bytes, (C.sha256 bytes).length = 32)
    (hmac : ∀ key bytes, (C.hmacSha256 key bytes).length = 32) (now : Instant) :
    fetchManifest C (decodeOffered C) ownerConfig (updateEnv C now) = .ok (offeredManifest C) := by
  have hsha256 : (utf8 (offeredManifest C).sha256).length = 64 := by
    rw [offeredManifest, length_utf8_hexEncode, hsha]
  have hsignature : (utf8 (offeredManifest C).signature).length = 64 := by
    rw [offeredManifest, OtaManifest.signManifest, length_utf8_hexEncode, hmac]
  have hbody : 128 ≤ (offeredBody C).length ∧ (offeredBody C).length ≤ manifestMaxBytes := by
    have hliteral : (utf8 "\x7b\"version\":\"0.18.0\",\"size\":5,\"sha256\":\"").length ≤ 100 ∧
        (utf8 "\",\"created_at\":\"2026-01-01T00:00:00Z\",\"signature\":\"").length ≤ 100 ∧
        (utf8 "\"\x7d").length ≤ 100 := by
      decide
    simp only [offeredBody, utf8_append, List.length_append, hsha256, hsignature, manifestMaxBytes]
    omega
  have hread : readManifest [.bytes (offeredBody C)] [] = .ok (offeredBody C) := by
    have hne : offeredBody C ≠ [] := by
      intro h
      simp [h] at hbody
    simp [readManifest, hne, hbody.2]
  have hfields : (offeredManifest C).checkManifestFields = .ok () := by
    have hversion : (offeredManifest C).version ≠ "" := by simp [offeredManifest]
    have hsize : (offeredManifest C).size ≠ 0 := by simp [offeredManifest]
    have hdecode : hexDecode (offeredManifest C).sha256 ≠ none := by
      simp [offeredManifest, hexDecode_encode]
    have hcreated : (offeredManifest C).createdAt ≠ "" := by simp [offeredManifest]
    have hne : (offeredManifest C).signature ≠ "" := by
      intro h
      simp [h, utf8] at hsignature
    simp [OtaManifest.checkManifestFields, hversion, hsize, hsha256, hdecode, hcreated, hne]
  have hparse : OtaManifest.parseManifestJson (decodeOffered C) (offeredBody C) =
      .ok (offeredManifest C) := by
    simp [OtaManifest.parseManifestJson, decodeOffered, hfields, Except.map]
  have hverify : OtaManifest.verifyManifest C (offeredManifest C)
      (utf8 ownerConfig.bridgeSharedSecret) = .ok () :=
    if_pos (OtaManifest.verifyManifestSignature_signManifest ..)
  simp [fetchManifest, fetchVerifiedManifest, updateEnv, Fetch.body, hread, hparse, hverify]

lemma downloadAndFlash_offered (now : Instant) :
    (downloadAndFlash C (offeredManifest C) (updateEnv C now).slot (updateEnv C now).image).2 =
      .ok () := by
  have hreceived : (receive (offeredManifest C) spareSlot [.bytes offeredImage] .start).2 =
      .ok ⟨offeredImage, offeredImage, 5, 100⟩ := by
    have hsize : (offeredManifest C).size = 5 := rfl
    simp [receive, hsize, spareSlot, Download.start, Download.take, Download.due, offeredImage,
      ConfigValidation.otaReceivedTooLarge, OtaManifest.otaProgressPercent,
      OtaManifest.otaProgressStepPercent]
  have hverify : OtaManifest.verifyOtaImage (offeredManifest C) 5
      (hexEncode (C.sha256 offeredImage)) = .ok () := by
    simp [OtaManifest.verifyOtaImage, offeredManifest]
  have hactivate : (activate C (offeredManifest C) spareSlot
      ⟨offeredImage, offeredImage, 5, 100⟩).2 = .ok () := by
    simp only [activate, hverify]
    rfl
  simp only [downloadAndFlash, updateEnv, Fetch.body, if_true, hreceived, hactivate]
  rfl

lemma not_updateFails_offered (hsha : ∀ bytes, (C.sha256 bytes).length = 32)
    (hmac : ∀ key bytes, (C.hmacSha256 key bytes).length = 32) (now : Instant) :
    ¬ UpdateFails C (decodeOffered C) ownerConfig (updateEnv C now) "0.18.0" := by
  intro hfails
  have hfetch := fetchManifest_offered hsha hmac now
  cases hfails with
  | notFetched h => simp [hfetch] at h
  | otherVersion h hversion =>
    rw [hfetch, Except.ok.injEq] at h
    simp [← h, offeredManifest] at hversion
  | notFlashed h hresult =>
    rw [hfetch, Except.ok.injEq] at h
    simp [← h, downloadAndFlash_offered] at hresult

lemma askedUpdate_spec (hsha : ∀ bytes, (C.sha256 bytes).length = 32)
    (hmac : ∀ key bytes, (C.hmacSha256 key bytes).length = 32) :
    (askedUpdate C).1 = ⟨some ⟨.firmwareUpdate "0.18.0", "222222", 5 + fromSecs 60⟩, none, false,
      initialSettings, .default⟩ ∧ Effect.restart ∉ (askedUpdate C).2 := by
  have hcommand : askedUpdate C = handleUpdateCommand C (decodeOffered C) ownerConfig
      (updateEnv C 5) (.new initialSettings) 42 := processUpdate_update ..
  have hshows : (FirmwareVersion.compareVersions FirmwareVersion.firmwareVersion
      (offeredManifest C).version).showsConfirmButton = true := by
    change (FirmwareVersion.compareVersions _ "0.18.0").showsConfirmButton = true
    decide
  rw [hcommand, handleUpdateCommand, fetchManifest_offered hsha hmac]
  simp only [hshows, not_true_eq_false, if_false]
  exact ⟨rfl, by simp [Client.store, confirmButtons]⟩

lemma run_askedUpdate (hsha : ∀ bytes, (C.sha256 bytes).length = 32)
    (hmac : ∀ key bytes, (C.hmacSha256 key bytes).length = 32) :
    (session C (decodeOffered C) ownerConfig).Run (.start initialSettings)
      [updateEventAt C (.new initialSettings) 5 "/update"] (askedSession C) := by
  have hstep := step_updateEventAt C (.new initialSettings) 5 "/update"
  rw [← askedUpdate, decide_eq_false (askedUpdate_spec hsha hmac).2] at hstep
  exact .one hstep

lemma confirmedUpdate_effects (hsha : ∀ bytes, (C.sha256 bytes).length = 32)
    (hmac : ∀ key bytes, (C.hmacSha256 key bytes).length = 32) :
    .executeConfirmedOta "0.18.0" ∈ (confirmedUpdate C).effects := by
  have hconsumed : (Client.consumePending (updateEnv C 7) (askedUpdate C).1 "222222").2 =
      some (.firmwareUpdate "0.18.0") := by
    rw [(askedUpdate_spec hsha hmac).1]
    rfl
  have hconfirm : updateAt C (askedUpdate C).1 7 "/confirm_update 222222" =
      handleUpdateConfirmation C (decodeOffered C) ownerConfig (updateEnv C 7) (askedUpdate C).1 42
        "222222" := by
    rw [updateAt, (askedUpdate_spec hsha hmac).1]
    exact processUpdate_confirm ..
  simp only [confirmedUpdate, updateEventAt, hconfirm, handleUpdateConfirmation, hconsumed,
    executeConfirmedOtaUpdate]
  exact List.mem_cons_self

end Completed

/-- The offered update, confirmed and carried through to the switch of the boot slot. -/
theorem ota_activation_offered : ∃ before after p m,
    (confirmedUpdate .standard).effects = before ++ .ota (.complete true) :: after ∧
    Activated .standard (decodeOffered .standard) ownerConfig (askedSession .standard).client
      (confirmedUpdate .standard) before p m := by
  have hsha : ∀ bytes, (Crypto.standard.sha256 bytes).length = 32 := Sha256.length_digest
  have hmac : ∀ key bytes, (Crypto.standard.hmacSha256 key bytes).length = 32 :=
    fun _ _ => Sha256.length_digest _
  obtain ⟨t, hconfirmed⟩ := step_confirmedUpdate .standard
  obtain ⟨hswitched, hfailed⟩ := ota_activation (run_askedUpdate hsha hmac) hconfirmed
  have hmem : Effect.ota (.complete true) ∈ (confirmedUpdate .standard).effects := by
    by_contra hnot
    exact not_updateFails_offered hsha hmac 7
      ((hfailed hnot).2 "0.18.0" (confirmedUpdate_effects hsha hmac))
  obtain ⟨before, after, heffects⟩ := List.append_of_mem hmem
  obtain ⟨p, m, hactivated, -⟩ := hswitched before true after heffects
  exact ⟨before, after, p, m, heffects, hactivated⟩

end PcRemote.Telegram
