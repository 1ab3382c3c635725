import PcRemote.Json
import PcRemote.OtaUpdate
import PcRemote.UpdateDelivery

/-! One poll of getUpdates: the answer is read up to a limit and parsed, and only then the
offset moves. An answer beyond the limit leaves the offset where it was. -/
namespace PcRemote.UpdateDelivery
open Text Transition OtaUpdate

/-- The most bytes of an answer that are read. -/
def getUpdatesMaxBytes : ℕ := 32768

/-- What a poll is answered: the request may fail, or there is a status and a body to read. -/
inductive Answer
  | failed (reason : String)
  | response (status : ℕ) (reads : List Read)
  deriving DecidableEq, Repr

def readUpdates : List Read → List UInt8 → Except String (List UInt8)
  | [], body => .ok body
  | .error reason :: _, _ => .error reason
  | .bytes chunk :: rest, body =>
      if chunk = [] then .ok body
      else if getUpdatesMaxBytes < body.length + chunk.length then
        .error ("getUpdates response exceeds " ++ toString getUpdatesMaxBytes ++ " bytes")
      else readUpdates rest (body ++ chunk)

def updateId (item : Json) : ℤ := (item.index "update_id").i64OrDefault

section Poll
variable (parse : List UInt8 → Except String Json)

/-- The cursor moves for all updates of an answer; they are dispatched once it is synced. -/
def processUpdates (c : UpdateCursor) (results : List Json) : UpdateCursor × List Json :=
  let r := c.advance (results.map updateId)
  (r.1, if r.2 then results else [])

/-- The cursor after a poll, and the updates dispatched or why there are none. -/
def pollOnce (c : UpdateCursor) (answer : Answer) : UpdateCursor × Except String (List Json) :=
  match answer with
  | .failed reason => (c, .error reason)
  | .response status reads =>
      if status ≠ 200 then (c, .error ("getUpdates failed: " ++ toString status))
      else
        match readUpdates reads [] with
        | .error e => (c, .error e)
        | .ok body =>
            match parse body with
            | .error e => (c, .error e)
            | .ok parsed =>
                match (parsed.index "result").asArray with
                | none => (c, .error "getUpdates response has no result array")
                | some results =>
                    let r := processUpdates c results
                    (r.1, .ok r.2)

/-- A body is read exactly when it comes to its end within the limit. -/
theorem readUpdates_eq {reads : List Read} (hends : streamEnds reads = true) (body : List UInt8)
    (hbody : body.length ≤ getUpdatesMaxBytes) :
    readUpdates reads body =
      if body.length + (streamBytes reads).length ≤ getUpdatesMaxBytes
      then .ok (body ++ streamBytes reads)
      else .error ("getUpdates response exceeds " ++ toString getUpdatesMaxBytes ++ " bytes") := by
  induction reads generalizing body with
  | nil => simp [readUpdates, streamBytes, hbody]
  | cons read rest ih =>
    cases read with
    | error reason => simp [streamEnds] at hends
    | bytes chunk =>
      by_cases hend : chunk = []
      · simp [readUpdates, streamBytes, hend, hbody]
      · simp only [streamEnds, Bool.or_eq_true, decide_eq_true_eq, hend, false_or] at hends
        simp only [readUpdates, streamBytes, if_neg hend, List.length_append]
        by_cases hover : getUpdatesMaxBytes < body.length + chunk.length
        · rw [if_pos hover, if_neg (by omega)]
        · have hmore := ih hends (body ++ chunk) (by simpa using hover)
          rw [if_neg hover, hmore, List.length_append, List.append_assoc]
          simp only [Nat.add_assoc]

variable {parse}

/-- A poll that fails leaves the cursor alone; one that succeeds moves it by what was answered. -/
lemma pollOnce_cases (c : UpdateCursor) (answer : Answer) :
    (∃ e, pollOnce parse c answer = (c, .error e)) ∨
      ∃ results, pollOnce parse c answer =
        ((processUpdates c results).1, .ok (processUpdates c results).2) := by
  unfold pollOnce
  split
  · exact .inl ⟨_, rfl⟩
  · split_ifs
    · exact .inl ⟨_, rfl⟩
    · split
      · exact .inl ⟨_, rfl⟩
      · split
        · exact .inl ⟨_, rfl⟩
        · split
          · exact .inl ⟨_, rfl⟩
          · exact .inr ⟨_, rfl⟩

/-- What the answer says, where it is read in full. -/
lemma pollOnce_of_read {c : UpdateCursor} {reads : List Read} {parsed : Json} {results : List Json}
    (hends : streamEnds reads = true) (hparse : parse (streamBytes reads) = .ok parsed)
    (hresults : (parsed.index "result").asArray = some results) :
    pollOnce parse c (.response 200 reads) =
      if (streamBytes reads).length ≤ getUpdatesMaxBytes then
        ((processUpdates c results).1, .ok (processUpdates c results).2)
      else
        (c, .error ("getUpdates response exceeds " ++ toString getUpdatesMaxBytes ++ " bytes")) := by
  have hread := readUpdates_eq hends [] (Nat.zero_le _)
  simp only [List.length_nil, Nat.zero_add, List.nil_append] at hread
  by_cases hsmall : (streamBytes reads).length ≤ getUpdatesMaxBytes
  · rw [if_pos hsmall] at hread ⊢
    simp [pollOnce, hread, hparse, hresults]
  · rw [if_neg hsmall] at hread ⊢
    simp [pollOnce, hread]

/-- The end of a poll is a step of the delivery: a failure, or the receipt of what was answered. -/
theorem step_pollOnce (s : State) (answer : Answer) :
    (∃ e, pollOnce parse s.cursor answer = (s.cursor, .error e) ∧
      ∀ ids, s.phase = .answered ids → Step s .fail { s with phase := .idle }) ∨
    ∃ results, pollOnce parse s.cursor answer =
        ((processUpdates s.cursor results).1, .ok (processUpdates s.cursor results).2) ∧
      (s.phase = .answered (results.map updateId) → Step s .receive
        { s with
          cursor := (pollOnce parse s.cursor answer).1
          phase := dispatchPhase (s.cursor.advance (results.map updateId)).2
            (results.map updateId) }) := by
  rcases pollOnce_cases s.cursor answer with ⟨e, he⟩ | ⟨results, hr⟩
  · exact .inl ⟨e, he, fun ids hp => .fail (.inr ⟨ids, hp⟩)⟩
  · refine .inr ⟨results, hr, fun hp => ?_⟩
    rw [hr]
    exact .receive hp

/-- A poll answered with one update that is due moves the offset past it exactly when the body is
within the limit. -/
theorem pollOnce_passes_iff {c : UpdateCursor} {reads : List Read} {parsed item : Json} {u : ℤ}
    (hends : streamEnds reads = true) (hparse : parse (streamBytes reads) = .ok parsed)
    (hresult : (parsed.index "result").asArray = some [item])
    (hid : (item.index "update_id").asI64 = some u) (hdue : c.nextOffset ≤ u) (hmax : u < i64Max) :
    u < (pollOnce parse c (.response 200 reads)).1.nextOffset ↔
      (streamBytes reads).length ≤ getUpdatesMaxBytes := by
  have hmin : i64Min ≤ u := by
    unfold Json.asI64 at hid
    split at hid
    · split_ifs at hid with hrange
      exact Option.some.inj hid ▸ hrange.1
    all_goals cases hid
  have hadvance : (processUpdates c [item]).1.nextOffset = u + 1 := by
    have hupdate : updateId item = u := by simp [updateId, Json.i64OrDefault, hid]
    simp [processUpdates, hupdate, UpdateCursor.advance_single hmin hmax hdue]
  rw [pollOnce_of_read hends hparse hresult]
  split_ifs with hsmall
  · simp only [hadvance, hsmall, iff_true]
    omega
  · simp only [hsmall, iff_false]
    omega

/-- As long as every answer is beyond the limit, the cursor stays where it is. -/
theorem cursor_stuck {c : UpdateCursor} {answers : List Answer}
    (h : ∀ answer ∈ answers, ∃ reads, answer = .response 200 reads ∧ streamEnds reads = true ∧
      getUpdatesMaxBytes < (streamBytes reads).length) :
    (feed (pollOnce parse) c answers).2 = c := by
  induction answers with
  | nil => rfl
  | cons answer answers ih =>
    obtain ⟨reads, rfl, hends, hover⟩ := h answer List.mem_cons_self
    have hread := readUpdates_eq hends [] (Nat.zero_le _)
    simp only [List.length_nil, Nat.zero_add, if_neg (Nat.not_le.mpr hover)] at hread
    have hpoll : (pollOnce parse c (.response 200 reads)).1 = c := by simp [pollOnce, hread]
    rw [feed, hpoll]
    exact ih fun a ha => h a (List.mem_cons_of_mem _ ha)

end Poll

/-- A message that replies to another, both of the same text. -/
def replyUpdate (text : String) : Json :=
  .obj [("update_id", .int 7), ("message", .obj [("message_id", .int 2), ("text", .str text),
    ("reply_to_message", .obj [("message_id", .int 1), ("text", .str text)])])]

/-- A text of 85 characters for each unit of length, and its escapes in units of 510 bytes. -/
def longText (n : ℕ) : String := String.ofList (List.replicate (85 * n) 'あ')

def copies (n : ℕ) (bytes : List UInt8) : List UInt8 := (List.replicate n bytes).flatten

def escapes : List UInt8 := copies 85 (utf8 "\\u3042")

def replyReads (n : ℕ) : List Read :=
  .bytes (utf8 "\x7b\"ok\":true,\"result\":[\x7b\"update_id\":7,\"message\":") ::
    .bytes (utf8 "\x7b\"message_id\":2,\"text\":\"") ::
    (List.replicate n (.bytes escapes) ++
      .bytes (utf8 "\",\"reply_to_message\":\x7b\"message_id\":1,\"text\":\"") ::
      (List.replicate n (.bytes escapes) ++ [.bytes (utf8 "\"\x7d\x7d\x7d]\x7d")]))

/-- A parser that knows the body of these replies. -/
def parseReply (n : ℕ) (body : List UInt8) : Except String Json :=
  if body = streamBytes (replyReads n) then
    .ok (.obj [("ok", .bool true), ("result", .arr [replyUpdate (longText n)])])
  else .error "expected value at line 1 column 1"

lemma length_copies (n : ℕ) (bytes : List UInt8) : (copies n bytes).length = n * bytes.length := by
  induction n with
  | zero => simp [copies]
  | succ n ih =>
    rw [copies, List.replicate_succ, List.flatten_cons, List.length_append, ← copies, ih,
      Nat.succ_mul, Nat.add_comm]

lemma length_escapes : escapes.length = 510 := length_copies 85 _

lemma streamBytes_bytes {chunk : List UInt8} (hchunk : chunk ≠ []) (rest : List Read) :
    streamBytes (.bytes chunk :: rest) = chunk ++ streamBytes rest := if_neg hchunk

lemma streamBytes_replicate {chunk : List UInt8} (hchunk : chunk ≠ []) (n : ℕ) (rest : List Read) :
    streamBytes (List.replicate n (.bytes chunk) ++ rest) = copies n chunk ++ streamBytes rest := by
  induction n with
  | zero => rfl
  | succ n ih => simp [List.replicate_succ, streamBytes_bytes hchunk, ih, copies]

lemma streamEnds_replicate {chunk : List UInt8} (n : ℕ) {rest : List Read}
    (h : streamEnds rest = true) : streamEnds (List.replicate n (.bytes chunk) ++ rest) = true := by
  induction n with
  | zero => exact h
  | succ n ih => simp [List.replicate_succ, streamEnds, ih]

lemma streamEnds_replyReads (n : ℕ) : streamEnds (replyReads n) = true := by
  simp only [replyReads, streamEnds]
  rw [streamEnds_replicate n (by simp [streamEnds, streamEnds_replicate])]
  simp

lemma length_replyReads (n : ℕ) : 1020 * n ≤ (streamBytes (replyReads n)).length := by
  have hne : escapes ≠ [] := fun h => by simpa [h] using length_escapes
  have hlength : (copies n escapes).length = n * 510 := by rw [length_copies, length_escapes]
  rw [replyReads, streamBytes_bytes (by decide), streamBytes_bytes (by decide),
    streamBytes_replicate hne, streamBytes_bytes (by decide), streamBytes_replicate hne]
  simp only [List.length_append, hlength]
  omega

lemma parse_replyReads (n : ℕ) : parseReply n (streamBytes (replyReads n)) =
    .ok (.obj [("ok", .bool true), ("result", .arr [replyUpdate (longText n)])]) :=
  if_pos rfl

/-- A reply of two texts of 4080 characters each is beyond the limit: however often it is polled,
the offset does not move. -/
theorem reply_not_passed :
    streamEnds (replyReads 48) = true ∧
    parseReply 48 (streamBytes (replyReads 48)) =
      .ok (.obj [("ok", .bool true), ("result", .arr [replyUpdate (longText 48)])]) ∧
    ((replyUpdate (longText 48)).index "update_id").asI64 = some 7 ∧
    (longText 48).toList.length = 4080 ∧
    ∀ n, ¬ 7 < (feed (pollOnce (parseReply 48)) .new
      (List.replicate n (.response 200 (replyReads 48)))).2.nextOffset := by
  refine ⟨streamEnds_replyReads 48, parse_replyReads 48, rfl, ?_, fun n => ?_⟩
  · rw [longText, String.toList_ofList, List.length_replicate]
  · have hover : getUpdatesMaxBytes < (streamBytes (replyReads 48)).length :=
      lt_of_lt_of_le (by decide) (length_replyReads 48)
    rw [cursor_stuck fun answer hanswer => ⟨_, List.eq_of_mem_replicate hanswer,
      streamEnds_replyReads 48, hover⟩]
    decide

/-- A reply of two texts of 85 characters each is passed. -/
theorem pollOnce_passes_iff_short :
    7 < (pollOnce (parseReply 1) .new (.response 200 (replyReads 1))).1.nextOffset :=
  (pollOnce_passes_iff (streamEnds_replyReads 1) (parse_replyReads 1) rfl rfl (by decide)
    (by decide)).mpr (by decide +kernel)

end PcRemote.UpdateDelivery
