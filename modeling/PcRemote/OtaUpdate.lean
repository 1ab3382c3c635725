import PcRemote.OtaManifest

/-! The firmware update: the manifest fetched and verified, then the image streamed into the
spare slot, compared with the manifest, and the boot slot switched. -/
namespace PcRemote.OtaUpdate
open Text Signing OtaManifest

def manifestPath : String := "/firmware/manifest"
def firmwarePath : String := "/firmware"
def manifestMaxBytes : ℕ := 4096

inductive OtaError
  | clockNotSynced
  | transport (reason : String)
  | unexpectedStatus (endpoint : String) (status : ℕ)
  | responseTooLarge
  | manifest (error : OtaManifestError)
  | image (error : OtaImageError)
  | ota (reason : String)
  deriving DecidableEq, Repr

def OtaError.userMessage : OtaError → String
  | .clockNotSynced => "時刻同期がまだ完了していません。少し待ってからやり直してください。"
  | .transport _ => "PCへの接続に失敗しました。PCがオンでbridgeが動いているか確認してください。"
  | .unexpectedStatus endpoint status =>
      "PCが " ++ endpoint ++ " に " ++ toString status ++ " を返しました。"
  | .responseTooLarge => "manifestが大きすぎます。"
  | .manifest _ => "manifestの検証に失敗しました。配信中のfirmwareを確認してください。"
  | .image _ => "ダウンロードしたfirmwareが壊れています。更新は中止しました。"
  | .ota _ => "firmwareの書き込みに失敗しました。更新は中止しました。"

/-- One read of a response body. No bytes mean its end. -/
inductive Read
  | bytes (chunk : List UInt8)
  | error (reason : String)
  deriving DecidableEq, Repr

/-- The bytes of a stream up to its end, or up to the error that breaks it off. -/
def streamBytes : List Read → List UInt8
  | [] => []
  | .error _ :: _ => []
  | .bytes chunk :: rest => if chunk = [] then [] else chunk ++ streamBytes rest

/-- No read fails before the end of the stream. -/
def streamEnds : List Read → Bool
  | [] => true
  | .error _ :: _ => false
  | .bytes chunk :: rest => chunk = [] || streamEnds rest

/-- How a signed GET turns out: the clock may not be synchronised, the connection may fail, or
there is a status and a body to read. -/
inductive Fetch
  | clockNotSynced
  | transport (reason : String)
  | response (status : ℕ) (reads : List Read)
  deriving DecidableEq, Repr

/-- The body of a response with status 200, to be read by the caller. -/
def Fetch.body (endpoint : String) : Fetch → Except OtaError (List Read)
  | .clockNotSynced => .error .clockNotSynced
  | .transport reason => .error (.transport reason)
  | .response status reads =>
      if status = 200 then .ok reads else .error (.unexpectedStatus endpoint status)

lemma Fetch.body_eq_ok {endpoint : String} {fetch : Fetch} {reads : List Read} :
    fetch.body endpoint = .ok reads ↔ fetch = .response 200 reads := by
  cases fetch with
  | clockNotSynced => simp [body]
  | transport reason => simp [body]
  | response status reads' =>
    by_cases hstatus : status = 200 <;> simp [body, hstatus]

def readManifest : List Read → List UInt8 → Except OtaError (List UInt8)
  | [], body => .ok body
  | .error reason :: _, _ => .error (.transport reason)
  | .bytes chunk :: rest, body =>
      if chunk = [] then .ok body
      else if manifestMaxBytes < body.length + chunk.length then .error .responseTooLarge
      else readManifest rest (body ++ chunk)

section Manifest
variable (C : Crypto) (decode : List UInt8 → Except String OtaManifest)

def fetchVerifiedManifest (secret : List UInt8) (fetch : Fetch) : Except OtaError OtaManifest :=
  match fetch.body manifestPath with
  | .error e => .error e
  | .ok reads =>
      match readManifest reads [] with
      | .error e => .error e
      | .ok body =>
          match parseManifestJson decode body with
          | .error e => .error (.manifest e)
          | .ok m =>
              match verifyManifest C m secret with
              | .error e => .error (.manifest e)
              | .ok () => .ok m

/-- A manifest that comes back was in the body of this response, parsed and verified. -/
lemma fetchVerifiedManifest_eq_ok {secret : List UInt8} {fetch : Fetch} {m : OtaManifest}
    (h : fetchVerifiedManifest C decode secret fetch = .ok m) :
    ∃ reads body, fetch = .response 200 reads ∧ readManifest reads [] = .ok body ∧
      parseManifestJson decode body = .ok m ∧ verifyManifest C m secret = .ok () := by
  unfold fetchVerifiedManifest at h
  cases hbody : fetch.body manifestPath with
  | error e => simp [hbody] at h
  | ok reads =>
    cases hread : readManifest reads [] with
    | error e => simp [hbody, hread] at h
    | ok body =>
      cases hparse : parseManifestJson decode body with
      | error e => simp [hbody, hread, hparse] at h
      | ok m' =>
        cases hverify : verifyManifest C m' secret with
        | error e => simp [hbody, hread, hparse, hverify] at h
        | ok =>
          simp only [hbody, hread, hparse, hverify, Except.ok.injEq] at h
          subst h
          exact ⟨reads, body, Fetch.body_eq_ok.mp hbody, hread, hparse, hverify⟩

end Manifest

/-- The spare slot, as the flash driver presents it: each operation may fail, and a write
beyond its end does. -/
structure Slot where
  size : UInt32
  initiate : Except String Unit
  write : List UInt8 → List UInt8 → Except String Unit
  complete : Except String Unit
  write_bounded : ∀ written chunk, write written chunk = .ok () →
    written.length + chunk.length ≤ size.toNat

/-- What an update does, in order. -/
inductive OtaEvent
  | signedGet (path : String) (fetch : Fetch)
  | initiate
  | write (chunk : List UInt8)
  | progress (received : UInt64)
  | complete (switched : Bool)
  | applying
  | abort
  deriving DecidableEq, Repr

/-- The state of the download loop. -/
structure Download where
  hashing : List UInt8
  written : List UInt8
  received : UInt64
  reportedPercent : ℕ
  deriving DecidableEq, Repr

def Download.start : Download := ⟨[], [], 0, 0⟩

def Download.due (d : Download) (percent : ℕ) : Bool :=
  min 255 (d.reportedPercent + otaProgressStepPercent) ≤ percent

def Download.take (d : Download) (chunk : List UInt8) (received : UInt64) (percent : ℕ) :
    Download :=
  ⟨d.hashing ++ chunk, d.written ++ chunk, received,
    if d.due percent then percent else d.reportedPercent⟩

/-- Reads the image into the slot. What exceeds the announced size is not written. -/
def receive (m : OtaManifest) (slot : Slot) :
    List Read → Download → List OtaEvent × Except OtaError Download
  | [], d => ([], .ok d)
  | .error reason :: _, _ => ([], .error (.transport reason))
  | .bytes chunk :: rest, d =>
      if chunk = [] then ([], .ok d)
      else
        let incoming := d.received + UInt64.ofNat chunk.length
        if ConfigValidation.otaReceivedTooLarge incoming m.size then
          ([], .error (.image (.sizeMismatch m.size incoming)))
        else
          match slot.write d.written chunk with
          | .error reason => ([.write chunk], .error (.ota reason))
          | .ok () =>
              let percent := otaProgressPercent incoming m.size
              let report := if d.due percent then [OtaEvent.progress incoming] else []
              let r := receive m slot rest (d.take chunk incoming percent)
              (.write chunk :: report ++ r.1, r.2)

variable (C : Crypto)

/-- Compare the image with the manifest, and only then switch the boot slot. -/
def activate (m : OtaManifest) (slot : Slot) (d : Download) :
    List OtaEvent × Except OtaError Unit :=
  match verifyOtaImage m d.received (hexEncode (C.sha256 d.hashing)) with
  | .error e => ([.abort], .error (.image e))
  | .ok () =>
      match slot.complete with
      | .error reason => ([.complete false], .error (.ota reason))
      | .ok () => ([.complete true, .applying], .ok ())

/-- An early return drops the update handle, which aborts the update. -/
def downloadAndFlash (m : OtaManifest) (slot : Slot) (fetch : Fetch) :
    List OtaEvent × Except OtaError Unit :=
  match slot.initiate with
  | .error reason => ([], .error (.ota reason))
  | .ok () =>
      match fetch.body firmwarePath with
      | .error e => ([.initiate, .signedGet firmwarePath fetch, .abort], .error e)
      | .ok reads =>
          let r := receive m slot reads .start
          match r.2 with
          | .error e => (.initiate :: .signedGet firmwarePath fetch :: r.1 ++ [.abort], .error e)
          | .ok d =>
              let a := activate C m slot d
              (.initiate :: .signedGet firmwarePath fetch :: r.1 ++ .progress d.received :: a.1,
                a.2)

end PcRemote.OtaUpdate
