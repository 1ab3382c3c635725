import PcRemote.BridgeServer
import PcRemote.Json
import PcRemote.OtaUpdate

/-! The requests of the firmware, and that the bridge accepts them. The two programs share the
canonical text of a signature and nothing else: headers, decimal timestamps, nonces, bodies and
routes are written by one and read by the other. -/
namespace PcRemote
open Text Signing BridgeAuth BridgeServer

def minValidUnixTime : ℤ := 1700000000

def isNtpSynced (unixSeconds : ℤ) : Bool := minValidUnixTime ≤ unixSeconds

/-- A request as it is handed to the HTTP client, which splits the URL into host and path. -/
structure ClientRequest where
  method : String
  path : String
  headers : List (String × String)
  body : List UInt8

namespace BridgeClient

def body : String := "\x7b\"confirm\":true\x7d"

def unixNow (secs : UInt64) : Except String UInt64 :=
  if ¬ isNtpSynced secs.toInt64.toInt then .error "system clock is not NTP-synced yet" else .ok secs

/-- Hexadecimal shows a negative integer as its two's complement. -/
def nonce (random : UInt32) (uptime : Int64) : String :=
  toHex random.toNat ++ "-" ++ toHex uptime.toUInt64.toNat

def sendCommand (C : Crypto) (action : PowerAction) (bridgeSharedSecret : String) (secs : UInt64)
    (random : UInt32) (uptime : Int64) : Except String ClientRequest := do
  let path := action.path
  let timestamp ← unixNow secs
  let requestNonce := nonce random uptime
  let signature := signRequest C (utf8 bridgeSharedSecret) "POST" path timestamp.toInt64.toInt
    requestNonce (utf8 body)
  let timestampText := toString timestamp
  let contentLength := toString (utf8 body).length
  return {
    method := "POST"
    path
    headers := [("Content-Type", "application/json"), ("Content-Length", contentLength),
      ("X-Timestamp", timestampText), ("X-Nonce", requestNonce), ("X-Signature", signature)]
    body := utf8 body }

end BridgeClient

namespace OtaUpdate
open BridgeClient

def withSignedGet (C : Crypto) (bridgeSharedSecret path : String) (secs : UInt64)
    (random : UInt32) (uptime : Int64) : Except OtaError ClientRequest := do
  let timestamp ← (unixNow secs).mapError fun _ => OtaError.clockNotSynced
  let requestNonce := nonce random uptime
  let signature := signRequest C (utf8 bridgeSharedSecret) "GET" path timestamp.toInt64.toInt
    requestNonce []
  let timestampText := toString timestamp
  return {
    method := "GET"
    path
    headers := [("X-Timestamp", timestampText), ("X-Nonce", requestNonce),
      ("X-Signature", signature)]
    body := [] }

end OtaUpdate

/-- A request as the bridge receives it: header names do not depend on case, and the HTTP client
puts headers of its own in front. -/
def ClientRequest.transmit (own : List (String × List UInt8)) (r : ClientRequest) :
    HttpRequest where
  method := r.method
  path := r.path
  headers := own ++ r.headers.map fun h => (toAsciiLowercase h.1, utf8 h.2)
  body := r.body

namespace BridgeServer

def verifyHeaders (C : Crypto) (config : AuthConfig) (nonces : NonceStore) (r : HttpRequest)
    (body : List UInt8) (now : ℤ) : NonceStore × Except AuthError Unit :=
  match authRequest r body with
  | .error e => (nonces, .error e)
  | .ok request => verifyRequest C config nonces request now

structure CommandRequest where
  confirm : Bool
  deriving DecidableEq, Repr

/-- No field may be missing, unknown or repeated; an array of the fields is read too. -/
def CommandRequest.ofJson : Json → Option CommandRequest
  | .obj [(field, .bool b)] => if field = "confirm" then some ⟨b⟩ else none
  | .arr [.bool b] => some ⟨b⟩
  | _ => none

/-- Reading the body of a command, given a JSON decoder. -/
def commandRequest (decode : List UInt8 → Option Json) (body : List UInt8) : Option Bool :=
  ((decode body).bind CommandRequest.ofJson).map fun request => request.confirm

end BridgeServer

section Agreement

lemma wellFormedNonce_of_chars {s : String} (hlen : s.toList.length ≤ 64)
    (h : ∀ c ∈ s.toList, isLowerHex c = true ∨ c = '-') : wellFormedNonce s = true := by
  have hrange : ∀ c ∈ s.toList, c.toNat < 128 ∧
      (isAsciiAlphanumeric (UInt8.ofNat c.toNat) || UInt8.ofNat c.toNat == 45) = true := by
    intro c hc
    rcases h c hc with hex | rfl
    · simp only [isLowerHex, Bool.or_eq_true, Bool.and_eq_true, decide_eq_true_eq] at hex
      have hnat : (48 ≤ c.toNat ∧ c.toNat ≤ 57) ∨ (97 ≤ c.toNat ∧ c.toNat ≤ 102) := hex
      have hbyte : (UInt8.ofNat c.toNat).toNat = c.toNat := by
        rw [UInt8.toNat_ofNat', Nat.mod_eq_of_lt (by omega)]
      refine ⟨by omega, ?_⟩
      simp only [isAsciiAlphanumeric, Bool.or_eq_true, Bool.and_eq_true, decide_eq_true_eq,
        UInt8.le_iff_toNat_le, hbyte]
      left
      rcases hnat with hdigit | hletter
      · exact .inl (.inl hdigit)
      · exact .inr ⟨hletter.1, hletter.2.trans (by decide)⟩
    · decide
  have hbytes := utf8_ofList_of_ascii fun c hc => (hrange c hc).1
  rw [String.ofList_toList] at hbytes
  rw [wellFormedNonce, hbytes, List.length_map, List.all_map]
  simp only [Bool.and_eq_true, decide_eq_true_eq, List.all_eq_true, Function.comp_apply]
  refine ⟨hlen, fun c hc => ?_⟩
  simp only [(hrange c hc).2, Bool.true_or]

lemma nonce_chars {random : UInt32} {uptime : Int64} {c : Char}
    (h : c ∈ (BridgeClient.nonce random uptime).toList) : isLowerHex c = true ∨ c = '-' := by
  have hdash : "-".toList = ['-'] := by decide
  simp only [BridgeClient.nonce, String.toList_append, List.mem_append, hdash,
    List.mem_singleton] at h
  rcases h with (h | h) | h
  · exact .inl (isLowerHex_of_mem_toHex h)
  · exact .inr h
  · exact .inl (isLowerHex_of_mem_toHex h)

/-- Eight digits, a dash and sixteen digits at most, of the 64 bytes the bridge allows. -/
lemma wellFormedNonce_nonce (random : UInt32) (uptime : Int64) :
    wellFormedNonce (BridgeClient.nonce random uptime) = true := by
  have hrandom := length_toHex_uint32 random
  have huptime := length_toHex_uint64 uptime.toUInt64
  have hdash : "-".toList.length = 1 := by decide
  refine wellFormedNonce_of_chars ?_ fun c hc => nonce_chars hc
  rw [BridgeClient.nonce, String.toList_append, String.toList_append, List.length_append,
    List.length_append, hdash]
  omega

lemma isGraphic_of_mem_nonce {random : UInt32} {uptime : Int64} {c : Char}
    (h : c ∈ (BridgeClient.nonce random uptime).toList) : isGraphic c = true := by
  rcases nonce_chars h with hex | rfl
  · simp only [isLowerHex, Bool.or_eq_true, Bool.and_eq_true, decide_eq_true_eq] at hex
    have hnat : (48 ≤ c.toNat ∧ c.toNat ≤ 57) ∨ (97 ≤ c.toNat ∧ c.toNat ≤ 102) := hex
    simp only [isGraphic, Bool.and_eq_true, decide_eq_true_eq]
    omega
  · decide

lemma nonce_ne_empty (random : UInt32) (uptime : Int64) :
    BridgeClient.nonce random uptime ≠ "" := by
  intro h
  have hlen := congrArg (fun s : String => s.toList.length) h
  simp [BridgeClient.nonce] at hlen

lemma toInt_toInt64 {n : UInt64} (h : (n.toNat : ℤ) ≤ i64Max) : n.toInt64.toInt = n.toNat := by
  have hval : n.toInt64.toBitVec.toInt = n.toBitVec.toNat := by
    rw [UInt64.toBitVec_toInt64]
    apply BitVec.toInt_eq_toNat_of_lt
    rw [UInt64.toNat_toBitVec]
    unfold i64Max at h
    omega
  exact hval

/-- The timestamp is written as an unsigned integer and read back as a signed one. -/
lemma parseI64_timestamp {secs : UInt64} (h : (secs.toNat : ℤ) ≤ i64Max) :
    parseI64 (toString secs) = some (secs.toNat : ℤ) := by
  have htext : toString secs = toString (secs.toNat : ℤ) := rfl
  rw [htext]
  exact parseSigned_toString (by unfold i64Min; omega) h

lemma isGraphic_of_mem_timestamp {secs : UInt64} {c : Char} (h : c ∈ (toString secs).toList) :
    isGraphic c = true :=
  isGraphic_of_isDigit (Nat.isDigit_of_mem_toDigits (by decide) (by decide)
    (Nat.toList_repr (n := secs.toNat) ▸ h))

lemma timestamp_ne_empty (secs : UInt64) : toString secs ≠ "" := Nat.repr_ne_empty

lemma headerStr_append {own headers : List (String × List UInt8)} {name : String}
    (h : ∀ header ∈ own, header.1 ≠ name) :
    headerStr (own ++ headers) name = headerStr headers name := by
  induction own with
  | nil => rfl
  | cons header own ih =>
    rw [List.cons_append, headerStr_cons_of_ne (h header List.mem_cons_self)]
    exact ih fun header' h' => h header' (List.mem_cons_of_mem _ h')

section Signed
variable {C : Crypto} {secret path method : String} {secs : UInt64} {random : UInt32}
  {uptime : Int64} {body signed : List UInt8} {others : List (String × List UInt8)}

/-- The three headers of a signed request, behind headers of other names. -/
def signedHeaders (C : Crypto) (secret method path : String) (secs : UInt64) (random : UInt32)
    (uptime : Int64) (body : List UInt8) : List (String × List UInt8) :=
  [("x-timestamp", utf8 (toString secs)), ("x-nonce", utf8 (BridgeClient.nonce random uptime)),
    ("x-signature", utf8 (signRequest C (utf8 secret) method path secs.toInt64.toInt
      (BridgeClient.nonce random uptime) body))]

/-- Names that the signed headers do not have. -/
def Unsigned (headers : List (String × List UInt8)) : Prop :=
  ∀ name ∈ ["x-timestamp", "x-nonce", "x-signature"], ∀ header ∈ headers, header.1 ≠ name

def signedRequest (C : Crypto) (secret method path : String) (secs : UInt64) (random : UInt32)
    (uptime : Int64) (body : List UInt8) : Request :=
  ⟨method, path, secs.toNat, BridgeClient.nonce random uptime, body,
    signRequest C (utf8 secret) method path secs.toInt64.toInt (BridgeClient.nonce random uptime)
      body⟩

lemma signRequest_ne_empty (hmac : ∀ key message, (C.hmacSha256 key message).length = 32)
    (key : List UInt8) (timestamp : ℤ) (nonce : String) :
    signRequest C key method path timestamp nonce body ≠ "" := by
  intro h
  have hlen := congrArg (fun s : String => s.toList.length) h
  rw [signRequest, length_hexEncode, hmac] at hlen
  simp at hlen

lemma authRequest_signed (hmac : ∀ key message, (C.hmacSha256 key message).length = 32)
    (hothers : Unsigned others) (hi64 : (secs.toNat : ℤ) ≤ i64Max) :
    authRequest
      ⟨method, path, others ++ signedHeaders C secret method path secs random uptime signed, body⟩
      signed = .ok (signedRequest C secret method path secs random uptime signed) := by
  have htimestamp : headerStr
      (others ++ signedHeaders C secret method path secs random uptime signed) "x-timestamp" =
        .ok (toString secs) := by
    rw [headerStr_append (hothers _ (by simp)), signedHeaders]
    exact headerStr_cons_self (fun c hc => isGraphic_of_mem_timestamp hc) (timestamp_ne_empty secs)
  have hnonce : headerStr
      (others ++ signedHeaders C secret method path secs random uptime signed) "x-nonce" =
        .ok (BridgeClient.nonce random uptime) := by
    rw [headerStr_append (hothers _ (by simp)), signedHeaders, headerStr_cons_of_ne (by decide)]
    exact headerStr_cons_self (fun c hc => isGraphic_of_mem_nonce hc) (nonce_ne_empty random uptime)
  have hsignature : headerStr
      (others ++ signedHeaders C secret method path secs random uptime signed) "x-signature" =
        .ok (signedRequest C secret method path secs random uptime signed).signatureHex := by
    rw [headerStr_append (hothers _ (by simp)), signedHeaders, headerStr_cons_of_ne (by decide),
      headerStr_cons_of_ne (by decide)]
    exact headerStr_cons_self (fun c hc => isGraphic_of_mem_hexEncode hc)
      (signRequest_ne_empty hmac _ _ _)
  simp only [authRequest, htimestamp, hnonce, hsignature, bind, Except.bind,
    parseI64_timestamp hi64]
  rfl

lemma signatureValid_signed {config : AuthConfig} (hsecret : config.secret = utf8 secret)
    (hi64 : (secs.toNat : ℤ) ≤ i64Max) :
    signatureValid C config (signedRequest C secret method path secs random uptime body) = true := by
  simp only [signatureValid, signedRequest, hsecret, toInt_toInt64 hi64]
  exact verifySignature_signRequest ..

/-- The signed headers are accepted by a bridge whose clock is near and whose store has room. -/
lemma verifyHeaders_signed (hmac : ∀ key message, (C.hmacSha256 key message).length = 32)
    {config : AuthConfig} (hsecret : config.secret = utf8 secret) (hothers : Unsigned others)
    (hi64 : (secs.toNat : ℤ) ≤ i64Max) {now : ℤ}
    (hskew : (now - secs.toNat).natAbs ≤ config.allowedSkewSeconds) {nonces : NonceStore}
    (hfresh : nonces.lookup (BridgeClient.nonce random uptime) = none)
    (hroom : nonces.size < maxEntries) :
    (verifyHeaders C config nonces
      ⟨method, path, others ++ signedHeaders C secret method path secs random uptime signed, body⟩
      signed now).2 = .ok () := by
  have hwithin : withinSkew config.allowedSkewSeconds now secs.toNat = true := by
    rw [withinSkew_iff]
    omega
  have hvalid : signatureValid C config
      (signedRequest C secret method path secs random uptime signed) = true :=
    signatureValid_signed hsecret hi64
  have hinserted := insertOnce_fresh (wellFormedNonce_nonce random uptime) hfresh hroom
    secs.toNat now config.allowedSkewSeconds
  simp only [verifyHeaders, authRequest_signed hmac hothers hi64, verifyRequest, hvalid,
    not_true_eq_false, if_false]
  simp only [signedRequest, hwithin, not_true_eq_false, if_false, hinserted, if_true]

end Signed

end Agreement

section Together
variable {C : Crypto} {secret : String} {secs : UInt64} {random : UInt32} {uptime : Int64}

lemma unixNow_synced (hsynced : minValidUnixTime ≤ secs.toNat) (hi64 : (secs.toNat : ℤ) ≤ i64Max) :
    BridgeClient.unixNow secs = .ok secs := by
  have hntp : isNtpSynced secs.toInt64.toInt = true := by
    rw [toInt_toInt64 hi64, isNtpSynced]
    exact decide_eq_true hsynced
  simp [BridgeClient.unixNow, hntp]

lemma lowercase_commandHeaders :
    ["Content-Type", "Content-Length", "X-Timestamp", "X-Nonce", "X-Signature"].map
      toAsciiLowercase =
    ["content-type", "content-length", "x-timestamp", "x-nonce", "x-signature"] := by decide

lemma unsigned_append {own headers : List (String × List UInt8)} (hown : Unsigned own)
    (hheaders : Unsigned headers) : Unsigned (own ++ headers) := by
  intro name hname header hmem
  rcases List.mem_append.mp hmem with h | h
  · exact hown name hname header h
  · exact hheaders name hname header h

/-- A command goes out with two headers about its body in front of the signed ones. -/
lemma transmit_sendCommand (C : Crypto) (secret : String) (random : UInt32) (uptime : Int64)
    (hsynced : minValidUnixTime ≤ secs.toNat)
    (hi64 : (secs.toNat : ℤ) ≤ i64Max) (action : PowerAction)
    (own : List (String × List UInt8)) :
    ∃ r, BridgeClient.sendCommand C action secret secs random uptime = .ok r ∧
      r.transmit own = ⟨"POST", action.path,
        (own ++ [("content-type", utf8 "application/json"),
          ("content-length", utf8 (toString (utf8 BridgeClient.body).length))]) ++
        signedHeaders C secret "POST" action.path secs random uptime (utf8 BridgeClient.body),
        utf8 BridgeClient.body⟩ := by
  have hnames := lowercase_commandHeaders
  simp only [List.map_cons, List.map_nil, List.cons.injEq, and_true] at hnames
  obtain ⟨htype, hlength, htimestamp, hnonce, hsignature⟩ := hnames
  refine ⟨{
    method := "POST"
    path := action.path
    headers := [("Content-Type", "application/json"),
      ("Content-Length", toString (utf8 BridgeClient.body).length),
      ("X-Timestamp", toString secs), ("X-Nonce", BridgeClient.nonce random uptime),
      ("X-Signature", signRequest C (utf8 secret) "POST" action.path secs.toInt64.toInt
        (BridgeClient.nonce random uptime) (utf8 BridgeClient.body))]
    body := utf8 BridgeClient.body }, ?_, ?_⟩
  · rw [BridgeClient.sendCommand, unixNow_synced hsynced hi64]
    rfl
  · simp only [ClientRequest.transmit, List.map_cons, List.map_nil, htype, hlength, htimestamp,
      hnonce, hsignature, signedHeaders, List.append_assoc, List.cons_append, List.nil_append]

lemma transmit_withSignedGet (C : Crypto) (secret : String) (random : UInt32) (uptime : Int64)
    (hsynced : minValidUnixTime ≤ secs.toNat)
    (hi64 : (secs.toNat : ℤ) ≤ i64Max) (path : String) (own : List (String × List UInt8)) :
    ∃ r, OtaUpdate.withSignedGet C secret path secs random uptime = .ok r ∧
      r.transmit own =
        ⟨"GET", path, own ++ signedHeaders C secret "GET" path secs random uptime [], []⟩ := by
  have hnames := lowercase_commandHeaders
  simp only [List.map_cons, List.map_nil, List.cons.injEq, and_true] at hnames
  obtain ⟨-, -, htimestamp, hnonce, hsignature⟩ := hnames
  refine ⟨{
    method := "GET"
    path
    headers := [("X-Timestamp", toString secs), ("X-Nonce", BridgeClient.nonce random uptime),
      ("X-Signature", signRequest C (utf8 secret) "GET" path secs.toInt64.toInt
        (BridgeClient.nonce random uptime) [])]
    body := [] }, ?_, ?_⟩
  · rw [OtaUpdate.withSignedGet, unixNow_synced hsynced hi64]
    rfl
  · simp only [ClientRequest.transmit, List.map_cons, List.map_nil, htimestamp, hnonce, hsignature,
      signedHeaders]

/-- Every command and every firmware request of a firmware whose clock is set is routed,
authenticated and, where it has a body, read as confirmed. -/
theorem client_requests_accepted (C : Crypto)
    (hmac : ∀ key message, (C.hmacSha256 key message).length = 32)
    (decode : List UInt8 → Option Json)
    (hdecode : decode (utf8 "\x7b\"confirm\":true\x7d") = some (.obj [("confirm", .bool true)]))
    (secret : String) (config : AuthConfig) (hsecret : config.secret = utf8 secret)
    (secs : UInt64) (hsynced : 1700000000 ≤ secs.toNat) (hi64 : (secs.toNat : ℤ) ≤ i64Max)
    (random : UInt32) (uptime : Int64) (own : List (String × List UInt8)) (hown : Unsigned own)
    (now : ℤ) (hskew : (now - secs.toNat).natAbs ≤ config.allowedSkewSeconds) (nonces : NonceStore)
    (hfresh : nonces.lookup (toHex random.toNat ++ "-" ++ toHex uptime.toUInt64.toNat) = none)
    (hroom : nonces.size < 10000) :
    (∀ action, ∃ r, BridgeClient.sendCommand C action secret secs random uptime = .ok r ∧
      dispatch (r.transmit own) = .inr (.command action) ∧
      (verifyHeaders C config nonces (r.transmit own) (r.transmit own).body now).2 = .ok () ∧
      commandRequest decode (r.transmit own).body = some true) ∧
    ∀ path route, (path, route) ∈
        [("/firmware", Route.firmware), ("/firmware/manifest", Route.firmwareManifest)] →
      ∃ r, OtaUpdate.withSignedGet C secret path secs random uptime = .ok r ∧
        dispatch (r.transmit own) = .inr route ∧
        (verifyHeaders C config nonces (r.transmit own) [] now).2 = .ok () := by
  have hsynced' : minValidUnixTime ≤ secs.toNat := by
    unfold minValidUnixTime
    omega
  constructor
  · intro action
    obtain ⟨r, hr, htransmit⟩ := transmit_sendCommand C secret random uptime hsynced' hi64
      action own
    have hothers : Unsigned (own ++ [("content-type", utf8 "application/json"),
        ("content-length", utf8 (toString (utf8 BridgeClient.body).length))]) :=
      unsigned_append hown (by simp [Unsigned])
    refine ⟨r, hr, ?_⟩
    rw [htransmit]
    refine ⟨?_, verifyHeaders_signed hmac hsecret hothers hi64 hskew hfresh hroom, ?_⟩
    · cases action <;> rfl
    · simp only [commandRequest, BridgeClient.body, hdecode]
      rfl
  · intro path route hroute
    obtain ⟨r, hr, htransmit⟩ := transmit_withSignedGet C secret random uptime hsynced' hi64
      path own
    refine ⟨r, hr, ?_⟩
    rw [htransmit]
    refine ⟨?_, verifyHeaders_signed hmac hsecret hown hi64 hskew hfresh hroom⟩
    simp only [List.mem_cons, Prod.mk.injEq, List.not_mem_nil, or_false] at hroute
    obtain ⟨rfl, rfl⟩ | ⟨rfl, rfl⟩ := hroute <;> rfl

/-- A JSON decoder on the one body that commands have. -/
def decodeConfirmed (bytes : List UInt8) : Option Json :=
  if bytes = utf8 BridgeClient.body then some (.obj [("confirm", .bool true)]) else none

theorem client_requests_accepted_reboot :
    ∃ r, BridgeClient.sendCommand .standard .reboot "key" 1700000000 255 16 = .ok r ∧
      dispatch (r.transmit []) = .inr (.command .reboot) ∧
      (verifyHeaders .standard ⟨utf8 "key", 60⟩ ∅ (r.transmit []) (r.transmit []).body
        1700000060).2 = .ok () ∧
      commandRequest decodeConfirmed (r.transmit []).body = some true :=
  (client_requests_accepted .standard (fun _ _ => Sha256.length_digest _) decodeConfirmed
    (if_pos rfl) "key" ⟨utf8 "key", 60⟩ rfl 1700000000 (by decide) (by decide) 255 16 []
    (by simp [Unsigned]) 1700000060 (by decide) ∅ rfl (by decide)).1 .reboot

end Together

end PcRemote
