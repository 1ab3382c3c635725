import PcRemote.SignatureBinding

/-! The firmware as the bridge offers it. The manifest is built from three files' worth of
input: the image, the operator's version file, and the image's modification time. Each of its
fields is one line, which is what makes the signature over the joined lines mean its fields. -/
namespace PcRemote.Firmware
open Text Signing

def unknownVersion : String := "unknown"

inductive IoError
  | notFound
  | other
  deriving DecidableEq, Repr

inductive ManifestError
  | io (e : IoError)
  | format
  deriving DecidableEq, Repr

/-- A file's bytes, whose number is a machine integer. -/
structure Image where
  bytes : List UInt8
  fits : bytes.length < UInt64.size

/-- What reading each file gives; the version file counts as absent when it cannot be read. -/
structure Files (τ : Type) where
  bin : Except IoError Image
  version : Option (List UInt8)
  modified : Except IoError τ

/-- The first of the lines of a text, without its line ending. -/
def firstLine (text : String) : Option String :=
  match splitOnce '\n' text with
  | some (line, _) =>
      if line.toList.getLast? = some '\r' then some (String.ofList line.toList.dropLast)
      else some line
  | none => if text = "" then none else some text

/-- The bytes must be UTF-8 to be read as a text. -/
def readVersion (version : Option (List UInt8)) : String :=
  let text := version.bind fun bytes => String.fromUTF8? bytes.toByteArray
  let line := text.bind fun text => (firstLine text).map trim
  (line.filter (· ≠ "")).getD unknownVersion

variable (C : Crypto) {τ : Type} (rfc3339 : τ → Option String)

def readBin (files : Files τ) : Except IoError Image := files.bin

/-- Formatting a modification time as RFC 3339 may fail. -/
def buildManifest (files : Files τ) (secret : List UInt8) : Except ManifestError OtaManifest := do
  let image ← (readBin files).mapError ManifestError.io
  let size := UInt64.ofNat image.bytes.length
  let sha256 := bodySha256Hex C image.bytes
  let version := readVersion files.version
  let modified ← files.modified.mapError ManifestError.io
  let createdAt ← match rfc3339 modified with
    | some text => .ok text
    | none => .error .format
  let signature := OtaManifest.signManifest C secret version size sha256 createdAt
  return { version, size, sha256, createdAt, signature }

example : readVersion (some (utf8 "  0.2.0\r\nnotes")) = "0.2.0" ∧
    readVersion (some []) = "unknown" := by
  decide

lemma mem_of_mem_trim {s : String} {c : Char} (h : c ∈ (trim s).toList) : c ∈ s.toList := by
  rw [trim, String.toList_ofList] at h
  exact (List.dropWhile_sublist _).subset ((List.rdropWhile_prefix _ _).subset h)

lemma newline_notMem_firstLine {text line : String} (h : firstLine text = some line) :
    '\n' ∉ line.toList := by
  unfold firstLine splitOnce at h
  by_cases hn : '\n' ∈ text.toList
  · have hbefore : '\n' ∉ text.toList.takeWhile (· != '\n') := fun hmem => by
      simpa using List.mem_takeWhile_imp hmem
    simp only [hn, if_true, String.toList_ofList] at h
    split_ifs at h
    · rw [← Option.some.inj h, String.toList_ofList]
      exact fun hmem => hbefore ((List.dropLast_sublist _).subset hmem)
    · rw [← Option.some.inj h, String.toList_ofList]
      exact hbefore
  · simp only [hn, if_false] at h
    split_ifs at h
    exact Option.some.inj h ▸ hn

lemma readVersion_spec (version : Option (List UInt8)) :
    readVersion version ≠ "" ∧ '\n' ∉ (readVersion version).toList := by
  simp only [readVersion]
  generalize (version.bind fun bytes => String.fromUTF8? bytes.toByteArray) = text
  cases hline : text.bind fun text => (firstLine text).map trim with
  | none => decide
  | some v =>
    obtain ⟨text, -, hv⟩ := Option.bind_eq_some_iff.mp hline
    obtain ⟨first, hfirst, rfl⟩ := Option.map_eq_some_iff.mp hv
    by_cases hempty : trim first = ""
    · simp only [Option.filter_some, hempty, ne_eq, not_true, decide_false]
      decide
    · have hkept :
          (some (trim first)).filter (fun line => decide (line ≠ "")) = some (trim first) := by
        simp [Option.filter_some, hempty]
      rw [hkept, Option.getD_some]
      exact ⟨hempty, fun hmem => newline_notMem_firstLine hfirst (mem_of_mem_trim hmem)⟩

/-- Where each field of a built manifest comes from. -/
structure Built (files : Files τ) (secret : List UInt8) (m : OtaManifest) : Prop where
  image : ∃ image, files.bin = .ok image ∧ m.size = UInt64.ofNat image.bytes.length ∧
    m.sha256 = bodySha256Hex C image.bytes
  version : m.version = readVersion files.version
  createdAt : ∃ modified, rfc3339 modified = some m.createdAt
  signature : m.signature =
    OtaManifest.signManifest C secret m.version m.size m.sha256 m.createdAt

variable {C rfc3339}

lemma built_of_buildManifest {files : Files τ} {secret : List UInt8} {m : OtaManifest}
    (h : buildManifest C rfc3339 files secret = .ok m) : Built C rfc3339 files secret m := by
  unfold buildManifest readBin at h
  cases hbin : files.bin with
  | error e => rw [hbin] at h; cases h
  | ok image =>
    cases hmod : files.modified with
    | error e => rw [hbin, hmod] at h; cases h
    | ok modified =>
      cases htime : rfc3339 modified with
      | none =>
        rw [hbin, hmod] at h
        simp only [Except.mapError, bind, Except.bind, htime] at h
        cases h
      | some createdAt =>
        rw [hbin, hmod] at h
        simp only [Except.mapError, bind, Except.bind, htime, pure, Except.pure] at h
        cases h
        exact ⟨⟨image, hbin, rfl, rfl⟩, rfl, ⟨modified, htime⟩, rfl⟩

/-- A text in the characters of the RFC 3339 grammar. -/
def IsRfc3339Text (s : String) : Prop :=
  s ≠ "" ∧ ∀ c ∈ s.toList, c.isDigit = true ∨ c ∈ ['T', 'Z', '-', ':', '.', '+']

lemma newline_notMem_of_isRfc3339Text {s : String} (h : IsRfc3339Text s) : '\n' ∉ s.toList := by
  intro hmem
  rcases h.2 _ hmem with hdigit | hmark
  · exact absurd hdigit (by decide)
  · exact absurd hmark (by decide)

lemma toList_toString_uint64 (n : UInt64) : (toString n).toList = Nat.toDigits 10 n.toNat :=
  Nat.toList_repr

lemma toString_uint64_injective : Function.Injective (toString : UInt64 → String) := by
  intro a b h
  have hdigits := congrArg (fun s => parseDigits s.toList) h
  simp only [toList_toString_uint64, parseDigits_toDigits, Option.some.injEq] at hdigits
  exact UInt64.toNat_inj.mp hdigits

lemma verified_signature {secret : List UInt8} {m : OtaManifest}
    (h : m.verifyManifest C secret = .ok ()) :
    hexDecode m.signature = some (C.hmacSha256 secret
      (utf8 (OtaManifest.canonicalString m.version m.size m.sha256 m.createdAt))) := by
  unfold OtaManifest.verifyManifest at h
  split_ifs at h with hv
  exact OtaManifest.verifyManifestSignature_iff.mp hv

section Evidence
variable {files : Files τ} {secret : List UInt8} {m : OtaManifest}

lemma Built.createdAt_text (h : Built C rfc3339 files secret m)
    (htime : ∀ t s, rfc3339 t = some s → IsRfc3339Text s) : IsRfc3339Text m.createdAt := by
  obtain ⟨modified, hcreated⟩ := h.createdAt
  exact htime _ _ hcreated

lemma Built.sha256_hex (h : Built C rfc3339 files secret m) :
    ∃ bytes, m.sha256 = hexEncode (C.sha256 bytes) := by
  obtain ⟨image, -, -, hsha⟩ := h.image
  exact ⟨image.bytes, hsha⟩

/-- The lines of a built manifest are its fields. -/
lemma Built.free (h : Built C rfc3339 files secret m)
    (htime : ∀ t s, rfc3339 t = some s → IsRfc3339Text s) :
    Delimited.Free '\n' [OtaManifest.tag.toList, m.version.toList, (toString m.size).toList,
      m.sha256.toList, m.createdAt.toList] := by
  obtain ⟨bytes, hsha⟩ := h.sha256_hex
  have hversion : '\n' ∉ m.version.toList := h.version ▸ (readVersion_spec files.version).2
  have hsize : '\n' ∉ (toString m.size).toList := by
    rw [toList_toString_uint64]
    exact newline_notMem_toDigits _
  have hdigest : '\n' ∉ m.sha256.toList := hsha ▸ newline_notMem_hexEncode _
  have hcreated := newline_notMem_of_isRfc3339Text (h.createdAt_text htime)
  simp only [Delimited.Free.cons]
  exact ⟨by decide, hversion, hsize, hdigest, hcreated, by simp [Delimited.Free]⟩

/-- No other fields join to the text that a built manifest signs. -/
lemma Built.fields_eq (h : Built C rfc3339 files secret m)
    (htime : ∀ t s, rfc3339 t = some s → IsRfc3339Text s) {m' : OtaManifest}
    (heq : OtaManifest.canonicalString m.version m.size m.sha256 m.createdAt =
      OtaManifest.canonicalString m'.version m'.size m'.sha256 m'.createdAt) :
    m'.version = m.version ∧ m'.size = m.size ∧ m'.sha256 = m.sha256 ∧
      m'.createdAt = m.createdAt := by
  have hlines := congrArg String.toList heq
  rw [OtaManifest.toList_canonicalString, OtaManifest.toList_canonicalString] at hlines
  have hfields := Delimited.eq_of_join_free (by rfl) (h.free htime) hlines
  simp only [List.cons.injEq, String.toList_inj, and_true, true_and] at hfields
  obtain ⟨hversion, hsize, hsha, hcreated⟩ := hfields
  exact ⟨hversion.symm, (toString_uint64_injective hsize).symm, hsha.symm, hcreated.symm⟩

lemma Built.checks (h : Built C rfc3339 files secret m)
    (htime : ∀ t s, rfc3339 t = some s → IsRfc3339Text s)
    (hsha : ∀ bytes, (C.sha256 bytes).length = 32)
    (hmac : ∀ message, C.hmacSha256 secret message ≠ [])
    {image : Image} (hbin : files.bin = .ok image) (hne : image.bytes ≠ []) :
    m.checkManifestFields = .ok () ∧ m.verifyManifest C secret = .ok () := by
  obtain ⟨image', hbin', hsize, hdigest⟩ := h.image
  obtain rfl : image = image' := Except.ok.inj (hbin.symm.trans hbin')
  have hversion : m.version ≠ "" := h.version ▸ (readVersion_spec files.version).1
  have hsize0 : m.size ≠ 0 := by
    intro h0
    have hlen := congrArg UInt64.toNat (hsize.symm.trans h0)
    rw [UInt64.toNat_ofNat_of_lt' image.fits] at hlen
    exact hne (List.length_eq_zero_iff.mp hlen)
  have hhex : (utf8 m.sha256).length = 64 ∧ hexDecode m.sha256 = some (C.sha256 image.bytes) := by
    rw [hdigest, bodySha256Hex, length_utf8_hexEncode, hsha, hexDecode_encode]
    exact ⟨rfl, rfl⟩
  have hcreated := (h.createdAt_text htime).1
  have hsigned : m.signature ≠ "" := by
    intro h0
    have hlen := congrArg (fun s : String => s.toList.length) (h.signature.symm.trans h0)
    rw [OtaManifest.signManifest, length_hexEncode] at hlen
    have hmacLen := (Nat.mul_eq_zero.mp hlen).resolve_left (by decide)
    exact hmac _ (List.length_eq_zero_iff.mp hmacLen)
  constructor
  · simp [OtaManifest.checkManifestFields, hversion, hsize0, hhex, hcreated, hsigned]
  · rw [OtaManifest.verifyManifest, h.signature]
    simp [OtaManifest.verifyManifestSignature_signManifest]

end Evidence

/-- A built manifest passes the firmware's checks, and whatever else passes them under the same
signature bytes says the same of the firmware. -/
theorem manifest_tamper_evident (C : Crypto) (rfc3339 : τ → Option String) (files : Files τ)
    (secret : List UInt8) {image : Image} {m : OtaManifest}
    (htime : ∀ t s, rfc3339 t = some s → IsRfc3339Text s)
    (hsha : ∀ bytes, (C.sha256 bytes).length = 32)
    (hmac : ∀ message, C.hmacSha256 secret message ≠ [])
    (hinjective : Function.Injective (C.hmacSha256 secret))
    (hbin : files.bin = .ok image) (hne : image.bytes ≠ [])
    (hbuild : buildManifest C rfc3339 files secret = .ok m) :
    m.checkManifestFields = .ok () ∧ m.verifyManifest C secret = .ok () ∧
      ∀ m' : OtaManifest, m'.checkManifestFields = .ok () → m'.verifyManifest C secret = .ok () →
        hexDecode m'.signature = hexDecode m.signature →
        m'.version = m.version ∧ m'.size = m.size ∧ m'.sha256 = m.sha256 ∧
          m'.createdAt = m.createdAt := by
  have hbuilt := built_of_buildManifest hbuild
  obtain ⟨hcheck, hverify⟩ := hbuilt.checks htime hsha hmac hbin hne
  refine ⟨hcheck, hverify, ?_⟩
  intro m' _ hverify' hsignature
  have hsigned := verified_signature hverify
  have hsigned' := verified_signature hverify'
  rw [hsignature, hsigned] at hsigned'
  exact hbuilt.fields_eq htime (utf8_injective (hinjective (Option.some.inj hsigned')))

section Offered

def epochText : String := "1970-01-01T00:00:00Z"

/-- Three bytes of firmware, last modified at the epoch. -/
def offeredFiles : Files ℕ where
  bin := .ok ⟨[1, 2, 3], by decide⟩
  version := some (utf8 "0.2.0\n")
  modified := .ok 0

def rfc3339Epoch (t : ℕ) : Option String := if t = 0 then some epochText else none

def offeredCrypto : Crypto := .fixing
  (utf8 (OtaManifest.canonicalString "0.2.0" 3 (bodySha256Hex .standard [1, 2, 3]) epochText))

def offeredManifest : OtaManifest where
  version := "0.2.0"
  size := 3
  sha256 := bodySha256Hex offeredCrypto [1, 2, 3]
  createdAt := epochText
  signature := OtaManifest.signManifest offeredCrypto [7] "0.2.0" 3
    (bodySha256Hex offeredCrypto [1, 2, 3]) epochText

lemma rfc3339Epoch_text (t : ℕ) (s : String) (h : rfc3339Epoch t = some s) : IsRfc3339Text s := by
  unfold rfc3339Epoch at h
  split_ifs at h
  rw [← Option.some.inj h]
  have hchars : (epochText.toList.all fun c =>
      c.isDigit || ['T', 'Z', '-', ':', '.', '+'].contains c) = true := by decide
  refine ⟨by decide, fun c hc => ?_⟩
  simpa only [Bool.or_eq_true, List.contains_iff_mem] using List.all_eq_true.mp hchars c hc

lemma buildManifest_offered :
    buildManifest offeredCrypto rfc3339Epoch offeredFiles [7] = .ok offeredManifest := by
  have hversion : readVersion offeredFiles.version = "0.2.0" := by decide
  simp only [buildManifest, hversion]
  rfl

theorem manifest_tamper_evident_offered :
    offeredManifest.checkManifestFields = .ok () ∧
      offeredManifest.verifyManifest offeredCrypto [7] = .ok () ∧
      offeredManifest.createdAt = epochText := by
  obtain ⟨hcheck, hverify, hsame⟩ := manifest_tamper_evident offeredCrypto rfc3339Epoch
    offeredFiles [7] rfc3339Epoch_text Sha256.length_digest (Crypto.fixing_ne_nil _ _)
    (Crypto.fixing_injective _ _) rfl (by decide) buildManifest_offered
  exact ⟨hcheck, hverify, (hsame offeredManifest hcheck hverify rfl).2.2.2⟩

end Offered

end PcRemote.Firmware
