import Mathlib.Data.List.Chain
import PcRemote.OtaDownload

/-! The download loop over whole streams: what is written of them, what is reported, and when the
boot slot is switched. -/
namespace PcRemote.OtaUpdate
open Text Signing OtaManifest

/-- The loop reads at most this many bytes at a time. -/
def otaChunkSize : ℕ := 1024

/-- The slot takes every chunk of the stream, after what is written already. -/
def slotTakes (slot : Slot) : List Read → List UInt8 → Bool
  | [], _ => true
  | .error _ :: _, _ => true
  | .bytes chunk :: rest, written =>
      chunk = [] || (slot.write written chunk = .ok () && slotTakes slot rest (written ++ chunk))

/-- Each read fills at most the buffer. -/
def Chunked (reads : List Read) : Prop :=
  ∀ chunk, Read.bytes chunk ∈ reads → chunk.length ≤ otaChunkSize

lemma Chunked.tail {read : Read} {rest : List Read} (h : Chunked (read :: rest)) : Chunked rest :=
  fun chunk hchunk => h chunk (List.mem_cons_of_mem _ hchunk)

/-- The totals reported while the image comes in. -/
def progressed (events : List OtaEvent) : List UInt64 :=
  events.filterMap fun
    | .progress received => some received
    | _ => none

lemma progressed_append (xs ys : List OtaEvent) :
    progressed (xs ++ ys) = progressed xs ++ progressed ys := List.filterMap_append ..

/-- The percentages reported. -/
def percents (m : OtaManifest) (received : List UInt64) : List ℕ :=
  received.map fun r => otaProgressPercent r m.size

lemma otaProgressPercent_le (received total : UInt64) :
    otaProgressPercent received total ≤ 100 := by
  unfold otaProgressPercent
  split_ifs with hzero
  · exact Nat.zero_le _
  · exact Nat.div_le_of_le_mul (Nat.mul_le_mul_right 100 (Nat.min_le_right _ _))

/-- What grows by a step each time, and stays below a bound, grows a bounded number of times. -/
lemma length_of_spaced {step bound : ℕ} {values : List ℕ} {start : ℕ}
    (h : (start :: values).IsChain fun p q => p + step ≤ q) (hstart : start ≤ bound)
    (hvalues : ∀ v ∈ values, v ≤ bound) : start + step * values.length ≤ bound := by
  induction values generalizing start with
  | nil => simpa using hstart
  | cons v values ih =>
    rw [List.isChain_cons_cons] at h
    have hrest := ih h.2 (hvalues v (by simp)) fun w hw => hvalues w (by simp [hw])
    rw [List.length_cons, Nat.mul_add]
    omega

/-- A download that has not yet gone past the manifest. -/
structure Download.Within (m : OtaManifest) (slot : Slot) (d : Download) : Prop where
  sound : d.Sound
  fits : d.written.length ≤ slot.size.toNat
  announced : d.written.length ≤ m.size.toNat
  reported : d.reportedPercent ≤ 100

lemma within_start (m : OtaManifest) (slot : Slot) : Download.start.Within m slot where
  sound := sound_start
  fits := Nat.zero_le _
  announced := Nat.zero_le _
  reported := Nat.zero_le _

/-- Counting a chunk cannot wrap around, so that too large is too large. -/
lemma Download.Within.tooLarge_iff {m : OtaManifest} {slot : Slot} {d : Download}
    (h : d.Within m slot) {chunk : List UInt8} (hchunk : chunk.length ≤ otaChunkSize) :
    ConfigValidation.otaReceivedTooLarge (d.received + UInt64.ofNat chunk.length) m.size = true ↔
      m.size.toNat < d.written.length + chunk.length := by
  have hfits := h.fits
  have hsize := slot.size.toNat_lt
  have hincoming : (d.received + UInt64.ofNat chunk.length).toNat =
      d.written.length + chunk.length := by
    unfold otaChunkSize at hchunk
    simp only [UInt64.toNat_add, UInt64.toNat_ofNat', h.sound.received]
    omega
  simp only [ConfigValidation.otaReceivedTooLarge, decide_eq_true_eq, UInt64.lt_iff_toNat_lt,
    hincoming]

lemma Download.Within.take {m : OtaManifest} {slot : Slot} {d : Download} (h : d.Within m slot)
    {chunk : List UInt8} (hsmall : d.written.length + chunk.length ≤ m.size.toNat)
    (hwrite : slot.write d.written chunk = .ok ()) :
    (d.take chunk (d.received + UInt64.ofNat chunk.length)
      (otaProgressPercent (d.received + UInt64.ofNat chunk.length) m.size)).Within m slot where
  sound := h.sound.take hwrite _
  fits := by
    simpa [Download.take] using slot.write_bounded _ _ hwrite
  announced := by
    simpa [Download.take] using hsmall
  reported := by
    simp only [Download.take]
    split_ifs
    · exact otaProgressPercent_le _ _
    · exact h.reported

/-- What the loop makes of a stream, from some point on. -/
structure Looped (m : OtaManifest) (slot : Slot) (reads : List Read) (d : Download)
    (events : List OtaEvent) (result : Except OtaError Download) : Prop where
  written : writtenBytes events <+: streamBytes reads
  announced : d.written.length + (writtenBytes events).length ≤ m.size.toNat
  ended : (∃ d', result = .ok d') ↔ streamEnds reads = true ∧
    slotTakes slot reads d.written = true ∧
    d.written.length + (streamBytes reads).length ≤ m.size.toNat
  complete : ∀ d', result = .ok d' → writtenBytes events = streamBytes reads
  spaced : (d.reportedPercent :: percents m (progressed events)).IsChain
    fun p q => p + otaProgressStepPercent ≤ q

/-- The percentage last reported is at most 100, so that the sum does not saturate. -/
lemma Download.Within.due_iff {m : OtaManifest} {slot : Slot} {d : Download} (h : d.Within m slot)
    (percent : ℕ) :
    d.due percent = true ↔ d.reportedPercent + otaProgressStepPercent ≤ percent := by
  have hreported := h.reported
  have hmin : min 255 (d.reportedPercent + otaProgressStepPercent) =
      d.reportedPercent + otaProgressStepPercent := by
    unfold otaProgressStepPercent
    omega
  rw [Download.due, hmin, decide_eq_true_iff]

/-- A chunk written, and reported when it is due, before the rest of the stream. -/
lemma Looped.wrote {m : OtaManifest} {slot : Slot} {rest : List Read} {d : Download}
    {events : List OtaEvent} {result : Except OtaError Download} (hd : d.Within m slot)
    {chunk : List UInt8} (hne : chunk ≠ [])
    (hwrite : slot.write d.written chunk = .ok ())
    (h : Looped m slot rest (d.take chunk (d.received + UInt64.ofNat chunk.length)
      (otaProgressPercent (d.received + UInt64.ofNat chunk.length) m.size)) events result) :
    Looped m slot (.bytes chunk :: rest) d
      (.write chunk ::
        (if d.due (otaProgressPercent (d.received + UInt64.ofNat chunk.length) m.size) then
          [OtaEvent.progress (d.received + UInt64.ofNat chunk.length)] else []) ++ events)
      result := by
  have hbytes : ∀ report : List OtaEvent, (report = [] ∨ ∃ r, report = [.progress r]) →
      writtenBytes (.write chunk :: report ++ events) = chunk ++ writtenBytes events := by
    rintro report (rfl | ⟨r, rfl⟩) <;> simp [writtenBytes]
  have hreport : ∀ (due : Bool) (r : UInt64), (if due then [OtaEvent.progress r] else []) = [] ∨
      ∃ r', (if due then [OtaEvent.progress r] else []) = [.progress r'] := by
    intro due r
    cases due <;> simp
  have htake := h.announced
  simp only [Download.take, List.length_append] at htake
  have hended := h.ended
  simp only [Download.take, List.length_append] at hended
  refine ⟨?_, ?_, ?_, ?_, ?_⟩
  · rw [hbytes _ (hreport _ _), streamBytes, if_neg hne, List.prefix_append_right_inj]
    exact h.written
  · rw [hbytes _ (hreport _ _), List.length_append]
    omega
  · rw [hended]
    simp [streamEnds, slotTakes, streamBytes, hne, hwrite, Nat.add_assoc]
  · intro d' hok
    rw [hbytes _ (hreport _ _), streamBytes, if_neg hne, h.complete d' hok]
  · have hspaced := h.spaced
    simp only [Download.take] at hspaced
    by_cases hdue :
        d.due (otaProgressPercent (d.received + UInt64.ofNat chunk.length) m.size) = true
    · simp only [hdue, if_true] at hspaced ⊢
      exact List.isChain_cons_cons.mpr ⟨(hd.due_iff _).mp hdue, hspaced⟩
    · simp only [hdue] at hspaced ⊢
      exact hspaced

lemma Looped.ended_here {m : OtaManifest} {slot : Slot} {reads : List Read} {d : Download}
    (hd : d.Within m slot) (hbytes : streamBytes reads = []) (hends : streamEnds reads = true)
    (htakes : slotTakes slot reads d.written = true) : Looped m slot reads d [] (.ok d) where
  written := List.nil_prefix
  announced := hd.announced
  ended := by simp [hbytes, hends, htakes, hd.announced]
  complete := by simp [hbytes]
  spaced := .singleton _

lemma Looped.failed {m : OtaManifest} {slot : Slot} {reads : List Read} {d : Download}
    {events : List OtaEvent} {error : OtaError}
    (hwritten : writtenBytes events <+: streamBytes reads)
    (hannounced : d.written.length + (writtenBytes events).length ≤ m.size.toNat)
    (hnot : ¬ (streamEnds reads = true ∧ slotTakes slot reads d.written = true ∧
      d.written.length + (streamBytes reads).length ≤ m.size.toNat))
    (hquiet : progressed events = []) : Looped m slot reads d events (.error error) where
  written := hwritten
  announced := hannounced
  ended := ⟨by simp, fun h => absurd h hnot⟩
  complete := by simp
  spaced := hquiet ▸ .singleton _

theorem looped_receive {m : OtaManifest} {slot : Slot} {reads : List Read} {d : Download}
    (hd : d.Within m slot) (hreads : Chunked reads) :
    Looped m slot reads d (receive m slot reads d).1 (receive m slot reads d).2 := by
  induction reads generalizing d with
  | nil => exact .ended_here hd rfl rfl rfl
  | cons read rest ih =>
    cases read with
    | error reason =>
      exact .failed List.nil_prefix hd.announced (by simp [streamEnds]) rfl
    | bytes chunk =>
      have hchunk := hreads chunk List.mem_cons_self
      by_cases hend : chunk = []
      · rw [receive, if_pos hend]
        exact .ended_here hd (by simp [streamBytes, hend]) (by simp [streamEnds, hend])
          (by simp [slotTakes, hend])
      · simp only [receive, if_neg hend]
        by_cases hlarge : m.size.toNat < d.written.length + chunk.length
        · rw [if_pos ((hd.tooLarge_iff hchunk).mpr hlarge)]
          refine .failed List.nil_prefix hd.announced ?_ rfl
          rintro ⟨-, -, hle⟩
          rw [streamBytes, if_neg hend, List.length_append] at hle
          omega
        · rw [if_neg (mt (hd.tooLarge_iff hchunk).mp hlarge)]
          have hsmall := Nat.le_of_not_lt hlarge
          cases hwrite : slot.write d.written chunk with
          | ok => exact .wrote hd hend hwrite (ih (hd.take hsmall hwrite) hreads.tail)
          | error reason =>
            have hbytes : writtenBytes [.write chunk] = chunk := by simp
            refine .failed ?_ (hbytes.symm ▸ hsmall) (by simp [slotTakes, hend, hwrite]) rfl
            rw [hbytes, streamBytes, if_neg hend]
            exact List.prefix_append chunk _

/-- The reads that the response to the image request offers. -/
def Fetch.image (fetch : Fetch) : List Read :=
  match fetch.body firmwarePath with
  | .ok reads => reads
  | .error _ => []

/-- The stream comes to its end without an error, and without going past the manifest. -/
structure Delivered (m : OtaManifest) (slot : Slot) (fetch : Fetch) : Prop where
  initiated : slot.initiate = .ok ()
  answered : ∃ reads, fetch = .response 200 reads
  ends : streamEnds fetch.image = true
  taken : slotTakes slot fetch.image [] = true
  announced : (streamBytes fetch.image).length ≤ m.size.toNat

/-- What an update does with the stream it is offered. -/
structure Streams (C : Crypto) (m : OtaManifest) (slot : Slot) (fetch : Fetch)
    (events : List OtaEvent) (result : Except OtaError Unit) : Prop where
  written : writtenBytes events <+: streamBytes fetch.image
  announced : (writtenBytes events).length ≤ m.size.toNat
  complete_once : events.countP OtaEvent.isComplete ≤ 1
  complete_iff : (∃ switched, .complete switched ∈ events) ↔ Delivered m slot fetch ∧
    (streamBytes fetch.image).length = m.size.toNat ∧
    hexEncode (C.sha256 (streamBytes fetch.image)) = m.sha256
  applying : ∀ before after, events = before ++ .applying :: after → .complete true ∈ before
  ok_iff : result = .ok () ↔ .complete true ∈ events
  reports : ∃ loop : List UInt64,
    (0 :: percents m loop).IsChain (fun p q => p + otaProgressStepPercent ≤ q) ∧
    (∀ percent ∈ percents m loop, percent ≤ 100) ∧ loop.length ≤ 20 ∧
    (Delivered m slot fetch → ∃ total : UInt64,
      total.toNat = (streamBytes fetch.image).length ∧ progressed events = loop ++ [total]) ∧
    (¬ Delivered m slot fetch → progressed events = loop)

/-- Events of the download loop, and those around it that are neither a switch nor its notice. -/
def OtaEvent.isQuiet : OtaEvent → Bool
  | .complete _ | .applying => false
  | _ => true

def OtaEvent.isApplying : OtaEvent → Bool
  | .applying => true
  | _ => false

lemma isComplete_of_isQuiet {event : OtaEvent} (h : event.isQuiet = true) :
    event.isComplete = false := by
  cases event <;> simp_all [OtaEvent.isQuiet, OtaEvent.isComplete]

lemma isApplying_of_isQuiet {event : OtaEvent} (h : event.isQuiet = true) :
    event.isApplying = false := by
  cases event <;> simp_all [OtaEvent.isQuiet, OtaEvent.isApplying]

lemma Received.quiet {slot : Slot} {d : Download} {events : List OtaEvent}
    {result : Except OtaError Download} (h : Received slot d events result) :
    ∀ event ∈ events, event.isQuiet = true := by
  induction h with
  | ended => simp
  | failed => simp
  | refused => simp [OtaEvent.isQuiet]
  | wrote hwrite hreport h ih =>
    rcases hreport with rfl | ⟨received, rfl⟩
    · simpa [OtaEvent.isQuiet] using ih
    · simpa [OtaEvent.isQuiet] using ih

lemma percents_le (m : OtaManifest) (received : List UInt64) :
    ∀ percent ∈ percents m received, percent ≤ 100 := by
  intro percent hpercent
  obtain ⟨r, -, rfl⟩ := List.mem_map.mp hpercent
  exact otaProgressPercent_le r m.size

/-- The percentages grow by five from nothing, so that there are at most twenty. -/
lemma length_reports {m : OtaManifest} {received : List UInt64}
    (h : (0 :: percents m received).IsChain fun p q => p + otaProgressStepPercent ≤ q) :
    received.length ≤ 20 := by
  have hlength := length_of_spaced h (Nat.zero_le 100) (percents_le m received)
  rw [percents, List.length_map] at hlength
  unfold otaProgressStepPercent at hlength
  omega

/-- An update that fails before it compares the image. -/
lemma Streams.failed {C : Crypto} {m : OtaManifest} {slot : Slot} {fetch : Fetch}
    {events : List OtaEvent} {error : OtaError}
    (hwritten : writtenBytes events <+: streamBytes fetch.image)
    (hannounced : (writtenBytes events).length ≤ m.size.toNat)
    (hquiet : ∀ event ∈ events, event.isQuiet = true) (hnot : ¬ Delivered m slot fetch)
    (hspaced : (0 :: percents m (progressed events)).IsChain
      fun p q => p + otaProgressStepPercent ≤ q) :
    Streams C m slot fetch events (.error error) where
  written := hwritten
  announced := hannounced
  complete_once := by
    have hnone : events.countP OtaEvent.isComplete = 0 :=
      List.countP_eq_zero.mpr fun event hevent => by
        simp [isComplete_of_isQuiet (hquiet event hevent)]
    rw [hnone]
    exact Nat.zero_le 1
  complete_iff := by
    refine ⟨?_, fun h => absurd h.1 hnot⟩
    rintro ⟨switched, hmem⟩
    simpa [OtaEvent.isQuiet] using hquiet _ hmem
  applying := by
    intro before after h
    simpa [OtaEvent.isQuiet] using hquiet .applying (by simp [h])
  ok_iff := by
    refine ⟨by simp, fun hmem => ?_⟩
    simpa [OtaEvent.isQuiet] using hquiet _ hmem
  reports := ⟨_, hspaced, percents_le m _, length_reports hspaced, fun h => absurd h hnot,
    fun _ => rfl⟩

/-- The closing of an update that came to the end of its stream. -/
inductive Closing (matched : Prop) : List OtaEvent → Except OtaError Unit → Prop
  | aborted (error : OtaError) (h : ¬ matched) : Closing matched [.abort] (.error error)
  | unswitched (error : OtaError) (h : matched) : Closing matched [.complete false] (.error error)
  | switched (h : matched) : Closing matched [.complete true, .applying] (.ok ())

lemma closing_activate (C : Crypto) (m : OtaManifest) (slot : Slot) (d : Download) :
    Closing (d.received = m.size ∧ hexEncode (C.sha256 d.hashing) = m.sha256)
      (activate C m slot d).1 (activate C m slot d).2 := by
  unfold activate
  by_cases hsize : d.received = m.size
  · by_cases hsha : hexEncode (C.sha256 d.hashing) = m.sha256
    · have hverify : verifyOtaImage m d.received (hexEncode (C.sha256 d.hashing)) = .ok () := by
        simp [verifyOtaImage, hsize, hsha]
      rw [hverify]
      cases slot.complete with
      | error reason => exact .unswitched _ ⟨hsize, hsha⟩
      | ok => exact .switched ⟨hsize, hsha⟩
    · have hverify : verifyOtaImage m d.received (hexEncode (C.sha256 d.hashing)) =
          .error .shaMismatch := by
        simp [verifyOtaImage, hsize, hsha]
      rw [hverify]
      exact .aborted _ fun h => hsha h.2
  · have hverify : verifyOtaImage m d.received (hexEncode (C.sha256 d.hashing)) =
        .error (.sizeMismatch m.size d.received) := by
      simp [verifyOtaImage, hsize]
    rw [hverify]
    exact .aborted _ fun h => hsize h.1

/-- The notice of a switch comes right after it, and nowhere else. -/
lemma eq_of_applying {loop before after : List OtaEvent} {total : UInt64}
    (hquiet : ∀ event ∈ loop, event.isQuiet = true)
    (h : loop ++ .progress total :: [.complete true, .applying] = before ++ .applying :: after) :
    before = loop ++ [.progress total, .complete true] := by
  have hsplit : before ++ .applying :: after =
      (loop ++ [.progress total, .complete true]) ++ .applying :: [] := by
    rw [← h]
    simp
  refine eq_of_only hsplit (rfl : OtaEvent.applying.isApplying = true) ?_ (by simp)
  intro event hevent
  rcases List.mem_append.mp hevent with hevent | hevent
  · exact isApplying_of_isQuiet (hquiet event hevent)
  · simp only [List.mem_cons, List.not_mem_nil, or_false] at hevent
    rcases hevent with rfl | rfl <;> rfl

/-- An update that gets as far as the end of its stream. -/
lemma Streams.delivered {C : Crypto} {m : OtaManifest} {slot : Slot} {fetch : Fetch}
    {loop closing : List OtaEvent} {total : UInt64} {result : Except OtaError Unit}
    (hdelivered : Delivered m slot fetch)
    (hquiet : ∀ event ∈ loop, event.isQuiet = true)
    (hwritten : writtenBytes loop = streamBytes fetch.image)
    (htotal : total.toNat = (streamBytes fetch.image).length)
    (hspaced : (0 :: percents m (progressed loop)).IsChain
      fun p q => p + otaProgressStepPercent ≤ q)
    (hclosing : Closing ((streamBytes fetch.image).length = m.size.toNat ∧
      hexEncode (C.sha256 (streamBytes fetch.image)) = m.sha256) closing result) :
    Streams C m slot fetch (loop ++ .progress total :: closing) result := by
  have hbytes : writtenBytes (loop ++ .progress total :: closing) = streamBytes fetch.image := by
    rw [writtenBytes_append, hwritten]
    cases hclosing <;> simp [writtenBytes]
  have hloop : ∀ switched, .complete switched ∉ loop := fun switched hmem => by
    simpa [OtaEvent.isQuiet] using hquiet _ hmem
  have happlying : OtaEvent.applying ∉ loop := fun hmem => by
    simpa [OtaEvent.isQuiet] using hquiet _ hmem
  have hcount : loop.countP OtaEvent.isComplete = 0 :=
    List.countP_eq_zero.mpr fun event hevent => by
      simp [isComplete_of_isQuiet (hquiet event hevent)]
  have hprogressed :
      progressed (loop ++ .progress total :: closing) = progressed loop ++ [total] := by
    rw [progressed_append]
    cases hclosing <;> rfl
  refine ⟨hbytes ▸ List.prefix_refl _, hbytes ▸ hdelivered.announced, ?_, ?_, ?_, ?_,
    ⟨progressed loop, hspaced, percents_le m _, length_reports hspaced,
      fun _ => ⟨total, htotal, hprogressed⟩, fun h => absurd hdelivered h⟩⟩
  · rw [List.countP_append, hcount]
    cases hclosing <;> simp [OtaEvent.isComplete, List.countP_cons]
  · cases hclosing with
    | aborted error h => simp [hloop, h]
    | unswitched error h => simp [hloop, hdelivered, h]
    | switched h => simp [hloop, hdelivered, h]
  · intro before after h
    have hmem : OtaEvent.applying ∈ loop ++ .progress total :: closing := by simp [h]
    cases hclosing with
    | aborted error hnot => simp [happlying] at hmem
    | unswitched error hmatched => simp [happlying] at hmem
    | switched hmatched => simp [eq_of_applying hquiet h]
  · cases hclosing with
    | aborted error h => simp [hloop]
    | unswitched error h => simp [hloop]
    | switched h => simp

/-- The stream is delivered exactly when the download loop comes to its end. -/
lemma delivered_iff {m : OtaManifest} {slot : Slot} {fetch : Fetch} {reads : List Read}
    (hinitiate : slot.initiate = .ok ()) (hbody : fetch.body firmwarePath = .ok reads)
    (hlooped : Looped m slot reads .start (receive m slot reads .start).1
      (receive m slot reads .start).2) :
    Delivered m slot fetch ↔ ∃ d, (receive m slot reads .start).2 = .ok d := by
  have himage : fetch.image = reads := by simp [Fetch.image, hbody]
  rw [hlooped.ended, ← himage]
  refine ⟨fun h => ⟨h.ends, h.taken, ?_⟩, fun h => ?_⟩
  · simpa [Download.start] using h.announced
  · exact ⟨hinitiate, ⟨reads, Fetch.body_eq_ok.mp hbody⟩, h.1, h.2.1,
      by simpa [Download.start] using h.2.2⟩

/-- For every stream offered and whatever the slot does: what is written is a prefix of the stream
and fits the manifest, the boot slot is switched at most once and exactly for the image described,
and the reports come in steps of five percent. -/
theorem downloadAndFlash_streams (C : Crypto) (m : OtaManifest) (slot : Slot) (fetch : Fetch)
    (hchunked : Chunked fetch.image) :
    Streams C m slot fetch (downloadAndFlash C m slot fetch).1
      (downloadAndFlash C m slot fetch).2 := by
  unfold downloadAndFlash
  cases hinitiate : slot.initiate with
  | error reason =>
    refine .failed List.nil_prefix (Nat.zero_le _) (by simp) (fun h => ?_) (.singleton _)
    simpa [hinitiate] using h.initiated
  | ok =>
    cases hbody : fetch.body firmwarePath with
    | error e =>
      refine .failed List.nil_prefix (Nat.zero_le _) (by simp [OtaEvent.isQuiet]) (fun h => ?_)
        (.singleton _)
      obtain ⟨reads, rfl⟩ := h.answered
      simp [Fetch.body] at hbody
    | ok reads =>
      have himage : fetch.image = reads := by simp [Fetch.image, hbody]
      have hlooped := looped_receive (within_start m slot) (himage ▸ hchunked)
      have hreceived := received_receive m slot reads .start
      have hwritten : writtenBytes (receive m slot reads .start).1 <+: streamBytes fetch.image :=
        himage ▸ hlooped.written
      have hannounced : (writtenBytes (receive m slot reads .start).1).length ≤ m.size.toNat := by
        simpa [Download.start] using hlooped.announced
      have hdelivered := delivered_iff hinitiate hbody hlooped
      have hquiet : ∀ event ∈ [OtaEvent.initiate, .signedGet firmwarePath fetch] ++
          (receive m slot reads .start).1, event.isQuiet = true :=
        List.forall_mem_append.mpr ⟨by simp [OtaEvent.isQuiet], hreceived.quiet⟩
      cases hr : (receive m slot reads .start).2 with
      | error e =>
        have hbytes : writtenBytes ([OtaEvent.initiate, .signedGet firmwarePath fetch] ++
            (receive m slot reads .start).1 ++ [.abort]) =
            writtenBytes (receive m slot reads .start).1 := by
          simp [writtenBytes]
        have hprogressed : progressed ([OtaEvent.initiate, .signedGet firmwarePath fetch] ++
            (receive m slot reads .start).1 ++ [.abort]) =
            progressed (receive m slot reads .start).1 := by
          simp [progressed]
        simp only [hr]
        refine .failed (hbytes ▸ hwritten) (hbytes ▸ hannounced) ?_ (by simp [hdelivered, hr])
          (hprogressed ▸ hlooped.spaced)
        exact List.forall_mem_append.mpr ⟨hquiet, by simp [OtaEvent.isQuiet]⟩
      | ok d =>
        obtain ⟨hsound, hd⟩ := hreceived.sound sound_start hr
        have hstream : d.written = streamBytes fetch.image := by
          rw [hd, hlooped.complete d hr, himage]
          rfl
        have hclosing := closing_activate C m slot d
        rw [← UInt64.toNat_inj, hsound.received, hsound.hashing, hstream] at hclosing
        have hstreams : Streams C m slot fetch (([.initiate, .signedGet firmwarePath fetch] ++
            (receive m slot reads .start).1) ++ .progress d.received :: (activate C m slot d).1)
            (activate C m slot d).2 :=
          .delivered (hdelivered.mpr ⟨d, hr⟩) hquiet (hstream ▸ hd.symm)
            (hsound.received.trans (congrArg List.length hstream)) hlooped.spaced hclosing
        simpa [hr] using hstreams

def blankSlot : Slot where
  size := 65536
  initiate := .ok ()
  write written chunk :=
    if written.length + chunk.length ≤ 65536 then .ok () else .error "out of the slot"
  complete := .ok ()
  write_bounded written chunk h := by
    split_ifs at h with hbound
    exact hbound

def threeBytes : OtaManifest where
  version := "0.18.0"
  size := 3
  sha256 := hexEncode (Crypto.standard.sha256 [0xe9, 1, 2])
  createdAt := "2026-01-01T00:00:00Z"
  signature := ""

def twoReads : Fetch := .response 200 [.bytes [0xe9, 1], .bytes [2]]

/-- An image of three bytes, read in two chunks. -/
theorem downloadAndFlash_streams_two :
    Streams .standard threeBytes blankSlot twoReads
      (downloadAndFlash .standard threeBytes blankSlot twoReads).1
      (downloadAndFlash .standard threeBytes blankSlot twoReads).2 ∧
    Delivered threeBytes blankSlot twoReads := by
  have hchunked : Chunked twoReads.image := by
    intro chunk hchunk
    simp only [twoReads, Fetch.image, Fetch.body, if_true, List.mem_cons, List.not_mem_nil,
      Read.bytes.injEq, or_false] at hchunk
    rcases hchunk with rfl | rfl <;> decide
  exact ⟨downloadAndFlash_streams .standard threeBytes blankSlot twoReads hchunked,
    ⟨rfl, ⟨_, rfl⟩, by decide, by decide, by decide⟩⟩

end PcRemote.OtaUpdate
