import PcRemote.OtaUpdate

/-! What a download does: whatever the response, the boot slot is switched only after all that
was written has the size and the hash of the manifest. -/
namespace PcRemote.OtaUpdate
open Text Signing OtaManifest

/-- The bytes written to the slot. -/
def writtenBytes (events : List OtaEvent) : List UInt8 :=
  events.flatMap fun
    | .write chunk => chunk
    | _ => []

@[simp] lemma writtenBytes_nil : writtenBytes [] = [] := rfl

@[simp] lemma writtenBytes_cons_write (chunk : List UInt8) (events : List OtaEvent) :
    writtenBytes (.write chunk :: events) = chunk ++ writtenBytes events := rfl

@[simp] lemma writtenBytes_append (xs ys : List OtaEvent) :
    writtenBytes (xs ++ ys) = writtenBytes xs ++ writtenBytes ys := List.flatMap_append ..

def OtaEvent.isComplete : OtaEvent → Bool
  | .complete _ => true
  | _ => false

/-- What was hashed is what was written, and the counter is its length. -/
structure Download.Sound (d : Download) : Prop where
  hashing : d.hashing = d.written
  received : d.received.toNat = d.written.length

lemma sound_start : Download.start.Sound := ⟨rfl, rfl⟩

/-- A write within the slot cannot wrap the counter. -/
lemma Download.Sound.take {slot : Slot} {d : Download} (h : d.Sound) {chunk : List UInt8}
    (hwrite : slot.write d.written chunk = .ok ()) (percent : ℕ) :
    (d.take chunk (d.received + UInt64.ofNat chunk.length) percent).Sound where
  hashing := congrArg (· ++ chunk) h.hashing
  received := by
    have hbound := slot.write_bounded _ _ hwrite
    have hsize := slot.size.toNat_lt
    have hreceived := h.received
    simp only [Download.take, UInt64.toNat_add, UInt64.toNat_ofNat', List.length_append]
    omega

/-- What the loop does with a response: each chunk is written and perhaps reported, until the
response ends or something fails. -/
inductive Received (slot : Slot) : Download → List OtaEvent → Except OtaError Download → Prop
  | ended (d : Download) : Received slot d [] (.ok d)
  | failed (d : Download) (error : OtaError) : Received slot d [] (.error error)
  | refused (d : Download) (chunk : List UInt8) (error : OtaError) :
      Received slot d [.write chunk] (.error error)
  | wrote {d : Download} {chunk : List UInt8} {percent : ℕ} {report events : List OtaEvent}
      {result : Except OtaError Download} (hwrite : slot.write d.written chunk = .ok ())
      (hreport : report = [] ∨ ∃ received, report = [.progress received])
      (h : Received slot (d.take chunk (d.received + UInt64.ofNat chunk.length) percent) events
        result) :
      Received slot d (.write chunk :: report ++ events) result

lemma received_receive (m : OtaManifest) (slot : Slot) (reads : List Read) (d : Download) :
    Received slot d (receive m slot reads d).1 (receive m slot reads d).2 := by
  induction reads generalizing d with
  | nil => exact .ended d
  | cons read rest ih =>
    cases read with
    | error reason => exact .failed d (.transport reason)
    | bytes chunk =>
      simp only [receive]
      split_ifs with hend hlarge
      · exact .ended d
      · exact .failed d _
      · cases hwrite : slot.write d.written chunk with
        | error reason => exact .refused d chunk (.ota reason)
        | ok => exact .wrote hwrite (Or.inr ⟨_, rfl⟩) (ih _)
      · cases hwrite : slot.write d.written chunk with
        | error reason => exact .refused d chunk (.ota reason)
        | ok => exact .wrote hwrite (Or.inl rfl) (ih _)

/-- The loop itself never switches the boot slot. -/
lemma Received.silent {slot : Slot} {d : Download} {events : List OtaEvent}
    {result : Except OtaError Download} (h : Received slot d events result) :
    ∀ event ∈ events, event.isComplete = false := by
  induction h with
  | ended => simp
  | failed => simp
  | refused => simp [OtaEvent.isComplete]
  | wrote hwrite hreport h ih =>
    rcases hreport with rfl | ⟨received, rfl⟩
    · simpa [OtaEvent.isComplete] using ih
    · simpa [OtaEvent.isComplete] using ih

/-- A download that comes to its end has hashed and counted what it wrote. -/
lemma Received.sound {slot : Slot} {d : Download} {events : List OtaEvent}
    {result : Except OtaError Download} (h : Received slot d events result) (hd : d.Sound)
    {d' : Download} (hok : result = .ok d') :
    d'.Sound ∧ d'.written = d.written ++ writtenBytes events := by
  induction h with
  | ended d =>
    have heq : d = d' := Except.ok.inj hok
    simp [← heq, hd]
  | failed => simp at hok
  | refused => simp at hok
  | wrote hwrite hreport h ih =>
    obtain ⟨hsound, hwritten⟩ := ih (hd.take hwrite _) hok
    refine ⟨hsound, hwritten.trans ?_⟩
    rcases hreport with rfl | ⟨received, rfl⟩
    · simp [Download.take]
    · simp [Download.take, writtenBytes]

section Activate
variable (C : Crypto) (m : OtaManifest)

/-- What was written so far is the image that the manifest describes. -/
structure Matches (events : List OtaEvent) : Prop where
  silent : ∀ event ∈ events, event.isComplete = false
  length : (writtenBytes events).length = m.size.toNat
  sha256 : hexEncode (C.sha256 (writtenBytes events)) = m.sha256

/-- How a download ends. Only the last way switches the boot slot, and only it succeeds. -/
inductive Flashed : List OtaEvent → Except OtaError Unit → Prop
  | refused (reason : String) : Flashed [] (.error (.ota reason))
  | aborted {events : List OtaEvent} (error : OtaError)
      (h : ∀ event ∈ events, event.isComplete = false) :
      Flashed (events ++ [.abort]) (.error error)
  | unswitched {events : List OtaEvent} (reason : String) (h : Matches C m events) :
      Flashed (events ++ [.complete false]) (.error (.ota reason))
  | switched {events : List OtaEvent} (h : Matches C m events) :
      Flashed (events ++ [.complete true, .applying]) (.ok ())

variable {C m}

lemma flashed_activate {slot : Slot} {d : Download} {events : List OtaEvent}
    (hsilent : ∀ event ∈ events, event.isComplete = false) (hsound : d.Sound)
    (hwritten : d.written = writtenBytes events) :
    Flashed C m (events ++ (activate C m slot d).1) (activate C m slot d).2 := by
  unfold activate
  cases hverify : verifyOtaImage m d.received (hexEncode (C.sha256 d.hashing)) with
  | error e => exact .aborted (.image e) hsilent
  | ok =>
    obtain ⟨hsize, hsha⟩ := verifyOtaImage_eq_ok hverify
    have hmatches : Matches C m events := by
      refine ⟨hsilent, ?_, ?_⟩
      · rw [← hwritten, ← hsound.received, hsize]
      · rw [← hwritten, ← hsound.hashing, hsha]
    cases slot.complete with
    | error reason => exact .unswitched reason hmatches
    | ok => exact .switched hmatches

theorem flashed_downloadAndFlash (slot : Slot) (fetch : Fetch) :
    Flashed C m (downloadAndFlash C m slot fetch).1 (downloadAndFlash C m slot fetch).2 := by
  have hopening : ∀ event ∈ [OtaEvent.initiate, .signedGet firmwarePath fetch],
      event.isComplete = false := by
    simp [OtaEvent.isComplete]
  unfold downloadAndFlash
  cases slot.initiate with
  | error reason => exact .refused reason
  | ok =>
    cases fetch.body firmwarePath with
    | error e => exact .aborted e hopening
    | ok reads =>
      have hreceived := received_receive m slot reads .start
      cases hr : (receive m slot reads .start).2 with
      | error e =>
        simp only [hr]
        have hevents : ∀ event ∈ [OtaEvent.initiate, .signedGet firmwarePath fetch] ++
            (receive m slot reads .start).1, event.isComplete = false :=
          List.forall_mem_append.mpr ⟨hopening, hreceived.silent⟩
        exact .aborted e hevents
      | ok d =>
        obtain ⟨hsound, hwritten⟩ := hreceived.sound sound_start hr
        have hprogress : ∀ event ∈ [OtaEvent.progress d.received], event.isComplete = false := by
          simp [OtaEvent.isComplete]
        have hevents : ∀ event ∈ [OtaEvent.initiate, .signedGet firmwarePath fetch] ++
            (receive m slot reads .start).1 ++ [.progress d.received],
              event.isComplete = false :=
          List.forall_mem_append.mpr
            ⟨List.forall_mem_append.mpr ⟨hopening, hreceived.silent⟩, hprogress⟩
        have hflashed : Flashed C m (_ ++ (activate C m slot d).1) (activate C m slot d).2 :=
          flashed_activate hevents hsound (hwritten.trans (by simp [writtenBytes, Download.start]))
        simpa [hr] using hflashed

/-- A distinguished element that occurs nowhere else fixes what comes before it. -/
lemma eq_of_only {α : Type*} {marked : α → Bool} {xs ys zs ws : List α} {a b : α}
    (h : xs ++ a :: ys = zs ++ b :: ws) (ha : marked a = true) (hzs : ∀ z ∈ zs, marked z = false)
    (hws : ∀ w ∈ ws, marked w = false) : xs = zs := by
  rcases List.append_eq_append_iff.mp h with ⟨as, hz, hr⟩ | ⟨cs, hx, hr⟩
  · cases as with
    | nil => simpa using hz.symm
    | cons x as =>
      have hmem : a ∈ zs := by simp [hz, (List.cons.inj hr).1]
      simp [hzs a hmem] at ha
  · cases cs with
    | nil => simpa using hx
    | cons x cs =>
      have hmem : a ∈ ws := by simp [(List.cons.inj hr).2]
      simp [hws a hmem] at ha

/-- Whenever the switch is reached, the image written so far is the one described. -/
lemma Flashed.matches {events xs ys : List OtaEvent} {result : Except OtaError Unit} {b : Bool}
    (h : Flashed C m events result) (hevents : events = xs ++ .complete b :: ys) :
    Matches C m xs := by
  cases h with
  | refused => simp at hevents
  | aborted error hsilent =>
    have hmem : OtaEvent.complete b ∈ xs ++ .complete b :: ys := by simp
    rw [← hevents, List.mem_append] at hmem
    rcases hmem with hmem | hmem
    · simpa [OtaEvent.isComplete] using hsilent _ hmem
    · simp at hmem
  | unswitched reason hmatches =>
    have heq := eq_of_only hevents.symm (rfl : (OtaEvent.complete b).isComplete = true)
      hmatches.silent (by simp)
    exact heq ▸ hmatches
  | switched hmatches =>
    have heq := eq_of_only hevents.symm (rfl : (OtaEvent.complete b).isComplete = true)
      hmatches.silent (by simp [OtaEvent.isComplete])
    exact heq ▸ hmatches

lemma Flashed.error_of_not_switched {events : List OtaEvent} {result : Except OtaError Unit}
    (h : Flashed C m events result) (hnot : .complete true ∉ events) :
    ∃ error, result = .error error := by
  cases h with
  | refused reason => exact ⟨_, rfl⟩
  | aborted error hsilent => exact ⟨_, rfl⟩
  | unswitched reason hmatches => exact ⟨_, rfl⟩
  | switched hmatches => simp at hnot

end Activate

end PcRemote.OtaUpdate
