import PcRemote.ClientBridge
import PcRemote.Frame
import PcRemote.PollOnce

/-! The thread that polls Telegram, with the queue of updates at the other end. After a failed poll
it waits, twice as long each time up to a minute; after a poll that went well it goes on at once.
However the polls turn out, the updates come through in their order and once. -/
namespace PcRemote.PollThread
open Text Transition UpdateDelivery OtaUpdate Ui

/-- Durations are in milliseconds. -/
def backoffMin : ℕ := 5000
def backoffMax : ℕ := 60000
def pollPause : ℕ := 50
def ntpSyncWait : ℕ := 2000

/-- The thread between two polls, with the state that it shows the display. -/
structure Poller where
  cursor : UpdateCursor
  backoff : ℕ
  shown : TelegramState
  deriving DecidableEq

def Poller.start : Poller := ⟨.new, backoffMin, .polling⟩

/-- What came of a poll, and how long the thread sleeps after it. -/
structure Polled where
  result : Except String (List Json)
  pause : ℕ

def Polled.failed (p : Polled) : Bool := !p.result.isOk

/-- The clock is read again and again until it has been set, or the time is over; each reading
comes with the time since the first. -/
def waitForTimeSync (timeout : ℕ) : List (ℤ × ℕ) → Option Bool
  | [] => none
  | (unix, elapsed) :: rest =>
      if isNtpSynced unix then some true
      else if timeout ≤ elapsed then some false
      else waitForTimeSync timeout rest

section Loop
variable (parse : List UInt8 → Except String Json)

def poll (p : Poller) (answer : Answer) : Poller × Polled :=
  match pollOnce parse p.cursor answer with
  | (cursor, .ok results) => (⟨cursor, backoffMin, .polling⟩, ⟨.ok results, pollPause⟩)
  | (cursor, .error e) => (⟨cursor, min (p.backoff * 2) backoffMax, .error⟩, ⟨.error e, p.backoff⟩)

/-- The thread with its answers: without the root certificates it ends at once, and whether the
clock has been set makes no difference to it. -/
def run (rootCa : Except String Unit) (readings : List (ℤ × ℕ)) (answers : List Answer) :
    Option (TelegramState × List (Answer × Polled)) :=
  match rootCa with
  | .error _ => some (.error, [])
  | .ok () => (waitForTimeSync ntpSyncWait readings).map fun _ =>
      let r := feed (poll parse) .start answers
      (r.2.shown, r.1)

/-- The readings are 250 ms apart at least. -/
def Spaced (readings : List (ℤ × ℕ)) : Prop :=
  readings.IsChain fun r r' => r.2 + 250 ≤ r'.2

lemma waitForTimeSync_isSome {timeout : ℕ} {readings : List (ℤ × ℕ)} (hne : readings ≠ [])
    (hspaced : Spaced readings)
    (hlong : ∀ r ∈ readings.head?, timeout + 250 ≤ r.2 + 250 * readings.length) :
    (waitForTimeSync timeout readings).isSome := by
  induction readings with
  | nil => exact absurd rfl hne
  | cons r rest ih =>
    have hr := hlong r rfl
    rw [waitForTimeSync]
    split_ifs with hsynced hover
    · rfl
    · rfl
    · cases rest with
      | nil =>
        rw [List.length_singleton] at hr
        omega
      | cons r' rest =>
        obtain ⟨hspace, hrest⟩ := List.isChain_cons_cons.mp hspaced
        refine ih (List.cons_ne_nil _ _) hrest fun r'' hr'' => ?_
        obtain rfl : r' = r'' := by simpa using hr''
        calc timeout + 250 ≤ r.2 + 250 * (rest.length + 1 + 1) := hr
          _ = r.2 + 250 + 250 * (rest.length + 1) := by rw [Nat.mul_succ]; ac_rfl
          _ ≤ r'.2 + 250 * (rest.length + 1) := Nat.add_le_add_right hspace _

/-- The updates of an answer, or why there are none to be had. -/
def received (answer : Answer) : Except String (List Json) :=
  match answer with
  | .failed reason => .error reason
  | .response status reads =>
      if status ≠ 200 then .error ("getUpdates failed: " ++ toString status)
      else
        match readUpdates reads [] with
        | .error e => .error e
        | .ok body =>
            match parse body with
            | .error e => .error e
            | .ok parsed =>
                match (parsed.index "result").asArray with
                | none => .error "getUpdates response has no result array"
                | some results => .ok results

/-- A poll is no more than what its answer says. -/
lemma poll_eq (p : Poller) (answer : Answer) :
    (∃ e, received parse answer = .error e ∧ poll parse p answer =
      (⟨p.cursor, min (p.backoff * 2) backoffMax, .error⟩, ⟨.error e, p.backoff⟩)) ∨
    ∃ results, received parse answer = .ok results ∧ poll parse p answer =
      (⟨(processUpdates p.cursor results).1, backoffMin, .polling⟩,
        ⟨.ok (processUpdates p.cursor results).2, pollPause⟩) := by
  unfold poll pollOnce received
  cases answer with
  | failed reason => exact .inl ⟨reason, rfl, rfl⟩
  | response status reads =>
    by_cases hstatus : status = 200
    · simp only [hstatus, ne_eq, not_true_eq_false, if_false]
      cases readUpdates reads [] with
      | error e => exact .inl ⟨e, rfl, rfl⟩
      | ok body =>
        dsimp only
        cases parse body with
        | error e => exact .inl ⟨e, rfl, rfl⟩
        | ok parsed =>
          dsimp only
          cases (parsed.index "result").asArray with
          | none => exact .inl ⟨_, rfl, rfl⟩
          | some results => exact .inr ⟨results, rfl, rfl⟩
    · simp only [ne_eq, hstatus, not_false_eq_true, if_true]
      exact .inl ⟨_, rfl, rfl⟩

/-- The failures since the last poll that went well. -/
def failures (es : List (Answer × Polled)) : ℕ :=
  (es.reverse.takeWhile fun e => e.2.failed).length

/-- How long the thread sleeps after one more failure. -/
def backoffAfter (failures : ℕ) : ℕ := min (backoffMin * 2 ^ failures) backoffMax

/-- The pause that belongs to how a poll went, given what went before. -/
def pauseOf (before : List (Answer × Polled)) (e : Answer × Polled) : ℕ :=
  if e.2.failed then backoffAfter (failures before) else pollPause

/-- The pauses are as the failures have them, and the display shows how the last poll went. -/
structure Paced (es : List (Answer × Polled)) (p : Poller) : Prop where
  backoff : p.backoff = backoffAfter (failures es)
  shown : p.shown = if es.getLast?.any (fun e => e.2.failed) then .error else .polling
  pauses : ∀ before e later, es = before ++ e :: later → e.2.pause = pauseOf before e

lemma backoffAfter_succ (k : ℕ) : min (backoffAfter k * 2) backoffMax = backoffAfter (k + 1) := by
  have hpow : backoffMin * 2 ^ (k + 1) = backoffMin * 2 ^ k * 2 := by
    rw [Nat.pow_succ, Nat.mul_assoc]
  unfold backoffAfter
  rw [hpow]
  omega

lemma failures_snoc (es : List (Answer × Polled)) (e : Answer × Polled) :
    failures (es ++ [e]) = if e.2.failed then failures es + 1 else 0 := by
  unfold failures
  rw [List.reverse_append, List.reverse_singleton, List.singleton_append]
  cases hfailed : e.2.failed <;> simp [hfailed]

lemma Paced.start : Paced [] .start where
  backoff := by decide
  shown := rfl
  pauses := by simp

/-- What a poll does to the thread, by whether it failed. -/
lemma poll_failed (p : Poller) (answer : Answer) :
    let r := poll parse p answer
    (r.2.failed = true ∧ r.1.backoff = min (p.backoff * 2) backoffMax ∧ r.1.shown = .error ∧
      r.2.pause = p.backoff) ∨
    (r.2.failed = false ∧ r.1.backoff = backoffMin ∧ r.1.shown = .polling ∧
      r.2.pause = pollPause) := by
  rcases poll_eq parse p answer with ⟨e, -, he⟩ | ⟨results, -, hr⟩
  · rw [he]
    exact .inl ⟨rfl, rfl, rfl, rfl⟩
  · rw [hr]
    exact .inr ⟨rfl, rfl, rfl, rfl⟩

variable {parse}

lemma Paced.poll {es : List (Answer × Polled)} {p : Poller} (h : Paced es p) (answer : Answer) :
    Paced (es ++ [(answer, (poll parse p answer).2)]) (poll parse p answer).1 := by
  have hlast : ∀ e : Answer × Polled, (es ++ [e]).getLast? = some e := fun e => by simp
  have hpauses : ∀ e : Answer × Polled, e.2.pause = pauseOf es e →
      ∀ before e' later, es ++ [e] = before ++ e' :: later → e'.2.pause = pauseOf before e' := by
    intro e he before e' later heq
    rcases List.eq_nil_or_concat later with rfl | ⟨later, last, rfl⟩
    · obtain ⟨rfl, hcons⟩ := List.append_inj' heq rfl
      obtain rfl := List.singleton_inj.mp hcons
      exact he
    · rw [List.concat_eq_append, ← List.cons_append, ← List.append_assoc] at heq
      exact h.pauses before e' later (List.append_inj' heq rfl).1
  rcases poll_failed parse p answer with ⟨hfailed, hbackoff, hshown, hpause⟩ |
    ⟨hfailed, hbackoff, hshown, hpause⟩
  · refine ⟨?_, ?_, hpauses _ ?_⟩
    · rw [failures_snoc, if_pos hfailed, ← backoffAfter_succ, ← h.backoff, hbackoff]
    · rw [hlast, hshown, Option.any_some, if_pos hfailed]
    · rw [hpause, pauseOf, if_pos hfailed, h.backoff]
  · have hnot : ¬ (PollThread.poll parse p answer).2.failed = true := by simp [hfailed]
    refine ⟨?_, ?_, hpauses _ ?_⟩
    · rw [failures_snoc, if_neg hnot, hbackoff]
      rfl
    · rw [hlast, hshown, Option.any_some, if_neg hnot]
    · rw [hpause, pauseOf, if_neg hnot]

/-! ### The queue at the other end -/

/-- The updates that are queued, and the thread that polls for them. -/
structure World where
  pending : List ℤ
  lastId : ℤ
  poller : Poller

/-- One turn of the loop: the updates that arrive before the request gets there, if it does, and
what comes back. -/
structure Turn where
  arrivals : List ℤ
  reached : Bool
  answer : Answer

variable (parse) in
/-- Nothing but what is queued above the offset is ever answered. -/
def Turn.Honest (t : Turn) (pending : List ℤ) (offset : ℤ) : Prop :=
  ∀ results, received parse t.answer = .ok results →
    t.reached = true ∧ results.map updateId = UpdateDelivery.answer pending offset

variable (parse) in
inductive WorldStep : World → Turn × Polled → World → Prop
  | turn {w : World} {t : Turn} (harrive : (w.lastId :: t.arrivals).IsChain (· < ·))
      (hmax : ∀ id ∈ t.arrivals, id < i64Max)
      (hhonest : t.Honest parse (w.pending ++ t.arrivals) w.poller.cursor.nextOffset) :
      WorldStep w (t, (poll parse w.poller t.answer).2)
        ⟨if t.reached then forget (w.pending ++ t.arrivals) w.poller.cursor.nextOffset
            else w.pending ++ t.arrivals,
          (w.lastId :: t.arrivals).getLast (List.cons_ne_nil _ _),
          (poll parse w.poller t.answer).1⟩

variable (parse) in
def polling : System World (Turn × Polled) := ⟨WorldStep parse⟩

/-- A world between two polls, as the delivery sees it. -/
def World.delivery (w : World) : State := ⟨w.pending, w.lastId, w.poller.cursor, .idle⟩

def answers (es : List (Turn × Polled)) : List (Answer × Polled) :=
  es.map fun e => (e.1.answer, e.2)

/-- The updates a poll has dispatched. -/
def Polled.dispatched (p : Polled) : List ℤ :=
  match p.result with
  | .ok results => results.map updateId
  | .error _ => []

def dispatchedIds (es : List (Turn × Polled)) : List ℤ := es.flatMap fun e => e.2.dispatched

/-- How many polls went well. -/
def successes (es : List (Turn × Polled)) : ℕ := es.countP fun e => !e.2.failed

/-- Updates that arrive one after another. -/
lemma arrive_run {ids : List ℤ} {s : State} (hchain : (s.lastId :: ids).IsChain (· < ·))
    (hmax : ∀ id ∈ ids, id < i64Max) :
    delivery.Run s (ids.map .arrive) { s with
      pending := s.pending ++ ids
      lastId := (s.lastId :: ids).getLast (List.cons_ne_nil _ _) } := by
  induction ids generalizing s with
  | nil => simpa using System.Run.nil (S := delivery) s
  | cons id ids ih =>
    obtain ⟨hlt, hrest⟩ := List.isChain_cons_cons.mp hchain
    obtain ⟨hid, hids⟩ := List.forall_mem_cons.mp hmax
    have hrun := ih (s := { s with pending := s.pending ++ [id], lastId := id }) hrest hids
    rw [List.append_assoc, List.singleton_append] at hrun
    rw [List.getLast_cons (List.cons_ne_nil _ _)]
    exact .cons (.arrive hlt hid) hrun

/-- Updates that are dispatched one after another. -/
lemma dispatch_run {ids : List ℤ} {s : State} (hphase : s.phase = dispatchPhase true ids) :
    delivery.Run s (ids.map .dispatch) { s with phase := .idle } := by
  induction ids generalizing s with
  | nil =>
    have hidle : s.phase = .idle := by simpa [dispatchPhase] using hphase
    rw [← hidle]
    exact .nil s
  | cons id ids ih =>
    have hdispatching : s.phase = .dispatching (id :: ids) := by
      simpa [dispatchPhase] using hphase
    exact .cons (.dispatch hdispatching) (ih (s := { s with phase := dispatchPhase true ids }) rfl)

lemma dispatched_map_dispatch (ids : List ℤ) : dispatched (ids.map .dispatch) = ids := by
  rw [dispatched, List.filterMap_map]
  exact List.filterMap_some

lemma receives_map_dispatch (ids : List ℤ) : receives (ids.map .dispatch) = 0 :=
  List.count_eq_zero.mpr (by simp)

lemma dispatched_append (es fs : List Event) :
    dispatched (es ++ fs) = dispatched es ++ dispatched fs := List.filterMap_append

lemma receives_append (es fs : List Event) : receives (es ++ fs) = receives es + receives fs :=
  List.count_append

/-- One turn of the loop, seen as the steps of the delivery it consists of. -/
lemma turn_run {w w' : World} {t : Turn} {polled : Polled}
    (h : WorldStep parse w (t, polled) w') : ∃ rest,
      delivery.Run ⟨w.pending ++ t.arrivals, w'.lastId, w.poller.cursor, .idle⟩ rest w'.delivery ∧
      dispatched rest = polled.dispatched ∧
      receives rest = (if polled.failed then 0 else 1) ∧ .restart ∉ rest := by
  cases h with
  | turn harrive hmax hhonest =>
    rcases poll_eq parse w.poller t.answer with ⟨e, -, hpoll⟩ | ⟨results, hresults, hpoll⟩
    · rw [World.delivery, hpoll]
      cases t.reached with
      | false =>
        refine ⟨[.send, .fail], ?_, rfl, rfl, by simp⟩
        exact .cons (.send rfl) (.one (.fail (.inl ⟨_, rfl⟩)))
      | true =>
        refine ⟨[.send, .serve, .fail], ?_, rfl, rfl, by simp⟩
        exact .cons (.send rfl) (.cons (.serve rfl) (.one (.fail (.inr ⟨_, rfl⟩))))
    · obtain ⟨hreached, hids⟩ := hhonest results hresults
      rw [World.delivery, hpoll, hreached, if_pos rfl]
      have hreceive : delivery.Run
          ⟨w.pending ++ t.arrivals, (w.lastId :: t.arrivals).getLast (List.cons_ne_nil _ _),
            w.poller.cursor, .idle⟩ [.send, .serve, .receive]
          ⟨forget (w.pending ++ t.arrivals) w.poller.cursor.nextOffset,
            (w.lastId :: t.arrivals).getLast (List.cons_ne_nil _ _),
            (w.poller.cursor.advance (results.map updateId)).1,
            dispatchPhase (w.poller.cursor.advance (results.map updateId)).2
              (results.map updateId)⟩ := by
        rw [hids]
        exact .cons (.send rfl) (.cons (.serve rfl) (.one (.receive rfl)))
      cases hsynced : (w.poller.cursor.advance (results.map updateId)).2 with
      | false =>
        rw [hsynced] at hreceive
        refine ⟨[.send, .serve, .receive], hreceive, ?_, rfl, by simp⟩
        simp [processUpdates, Polled.dispatched, hsynced, dispatched, Event.dispatched]
      | true =>
        rw [hsynced] at hreceive
        refine ⟨[.send, .serve, .receive] ++ (results.map updateId).map .dispatch,
          hreceive.append (dispatch_run rfl), ?_, ?_, ?_⟩
        · rw [dispatched_append, dispatched_map_dispatch]
          simp [processUpdates, Polled.dispatched, hsynced, dispatched, Event.dispatched]
        · rw [receives_append, receives_map_dispatch]
          rfl
        · simp

lemma dispatched_map_arrive (ids : List ℤ) : dispatched (ids.map .arrive) = [] :=
  List.filterMap_eq_nil_iff.mpr (by simp [Event.dispatched])

lemma receives_map_arrive (ids : List ℤ) : receives (ids.map .arrive) = 0 :=
  List.count_eq_zero.mpr (by simp)

/-- A run of the thread is a run of the delivery, poll by poll. -/
lemma world_run {w w' : World} {es : List (Turn × Polled)} (h : (polling parse).Run w es w') :
    ∃ steps, delivery.Run w.delivery steps w'.delivery ∧ dispatched steps = dispatchedIds es ∧
      receives steps = successes es ∧ .restart ∉ steps := by
  induction h with
  | nil w => exact ⟨[], .nil _, rfl, rfl, by simp⟩
  | @cons w v w' e es hs _ ih =>
    obtain ⟨t, polled⟩ := e
    obtain ⟨rest, hrest, hdispatched, hreceives, hrestart⟩ := turn_run hs
    obtain ⟨steps, hsteps, hdispatched', hreceives', hrestart'⟩ := ih
    refine ⟨t.arrivals.map .arrive ++ (rest ++ steps), ?_, ?_, ?_, ?_⟩
    · cases hs with
      | turn harrive hmax hhonest =>
        exact (arrive_run (s := w.delivery) harrive hmax).append (hrest.append hsteps)
    · rw [dispatched_append, dispatched_append, dispatched_map_arrive, hdispatched, hdispatched']
      rfl
    · rw [receives_append, receives_append, receives_map_arrive, hreceives, hreceives']
      cases hfailed : polled.failed <;> simp [successes, hfailed, Nat.add_comm]
    · simp [hrestart, hrestart']

lemma paced_run {w w' : World} {es : List (Turn × Polled)} (h : (polling parse).Run w es w')
    (hstart : w.poller = .start) : Paced (answers es) w'.poller := by
  refine h.history (J := fun es w => Paced (answers es) w.poller) ?_ (hstart ▸ .start)
  intro es w e w' hs hpaced
  cases hs with
  | turn =>
    rw [answers, List.map_append, ← answers]
    exact hpaced.poll _

lemma arrive_run_inv {ids : List ℤ} {s t : State} (h : delivery.Run s (ids.map .arrive) t) :
    t.pending = s.pending ++ ids ∧ t.cursor = s.cursor := by
  induction ids generalizing s with
  | nil =>
    cases h
    exact ⟨(List.append_nil _).symm, rfl⟩
  | cons id ids ih =>
    cases h with
    | cons hs hrest =>
      cases hs with
      | arrive =>
        obtain ⟨hpending, hcursor⟩ := ih hrest
        exact ⟨by rw [hpending, List.append_assoc, List.singleton_append], hcursor⟩

/-- In the world the thread does what it does alone, fed the same answers. -/
lemma feed_of_run {w w' : World} {es : List (Turn × Polled)} (h : (polling parse).Run w es w') :
    feed (poll parse) w.poller (es.map fun e => e.1.answer) = (answers es, w'.poller) := by
  induction h with
  | nil => rfl
  | cons hs _ ih =>
    cases hs with
    | turn =>
      rw [List.map_cons, feed, ih]
      rfl

/-- An update that arrives while the thread is in step is dispatched once enough polls have gone
well: one for each update in the queue, and two more. -/
lemma dispatched_of_successes {u w : World} (hu : WellFormed u.delivery)
    (hsynced : u.poller.cursor.synced = true) {e : Turn × Polled} {after : List (Turn × Polled)}
    (h : (polling parse).Run u (e :: after) w) {id : ℤ} (hid : id ∈ e.1.arrivals)
    (henough : u.pending.length + e.1.arrivals.length + 1 < successes (e :: after)) :
    id ∈ dispatchedIds (e :: after) := by
  obtain ⟨t, polled⟩ := e
  cases h with
  | cons hs hafter =>
    obtain ⟨rest, hrest, hdispatched, hreceives, hrestart⟩ := turn_run hs
    obtain ⟨steps, hsteps, hdispatched', hreceives', hrestart'⟩ := world_run hafter
    obtain ⟨ids, ids', harrivals⟩ := List.append_of_mem hid
    cases hs with
    | turn harrive hmax hhonest =>
      -- the steps of the turn, cut where the update arrives
      have hturn := arrive_run (s := u.delivery) harrive hmax
      dsimp only at harrivals henough
      have hevents : t.arrivals.map Event.arrive =
          ids.map .arrive ++ .arrive id :: ids'.map .arrive := by
        rw [harrivals, List.map_append, List.map_cons]
      rw [hevents] at hturn
      obtain ⟨s, s', hbefore, hstep, hlater⟩ := hturn.split
      have hpost := hlater.append (hrest.append hsteps)
      obtain ⟨hpending, hcursor⟩ := arrive_run_inv hbefore
      have hsynced' : s'.cursor.synced = true := by
        cases hstep with
        | arrive => exact (congrArg UpdateCursor.synced hcursor).trans hsynced
      have hcount : receives (ids'.map .arrive ++ (rest ++ steps)) =
          successes ((t, (poll parse u.poller t.answer).2) :: after) := by
        rw [receives_append, receives_append, receives_map_arrive, hreceives, hreceives']
        cases hfailed : (poll parse u.poller t.answer).2.failed <;>
          simp [successes, hfailed, Nat.add_comm]
      have hroom : s.pending.length + 2 < receives (ids'.map .arrive ++ (rest ++ steps)) := by
        rw [hcount, hpending, List.length_append]
        rw [harrivals, List.length_append, List.length_cons] at henough
        have hqueue : u.delivery.pending.length = u.pending.length := rfl
        omega
      have hdone := dispatched_of_receives (wellFormed_run hbefore hu) hstep hpost (.inl hsynced')
        (by simp [hrestart, hrestart']) hroom
      rw [dispatched_append, dispatched_append, dispatched_map_arrive, hdispatched,
        hdispatched'] at hdone
      exact hdone

/-- However the polls turn out: with the root certificates in place polling begins, whether the
clock gets set or not; the pause after the k-th failure in a row is 5 s, doubled k - 1 times, up to
a minute; and the display shows how the last poll went. Updates are dispatched in
their order, none of those that the thread found in the queue; and one that comes in while it is
in step is dispatched exactly once, as soon as enough polls have gone well. -/
theorem updates_come_through {pending : List ℤ} {lastId : ℤ}
    (hqueue : WellFormed ⟨pending, lastId, .new, .idle⟩) {es : List (Turn × Polled)} {w : World}
    (h : (polling parse).Run ⟨pending, lastId, .start⟩ es w) :
    (∀ readings, Spaced readings → 9 ≤ readings.length →
      run parse (.ok ()) readings (es.map fun e => e.1.answer) =
        some (w.poller.shown, answers es)) ∧
    Paced (answers es) w.poller ∧ (dispatchedIds es).Pairwise (· < ·) ∧
    (∀ id ∈ dispatchedIds es, lastId < id) ∧
    ∀ before e after u, es = before ++ e :: after →
      (polling parse).Run ⟨pending, lastId, .start⟩ before u →
      (polling parse).Run u (e :: after) w → u.poller.cursor.synced = true →
      ∀ id ∈ e.1.arrivals,
        u.pending.length + e.1.arrivals.length + 1 < successes (e :: after) →
        (dispatchedIds es).count id = 1 := by
  obtain ⟨steps, hsteps, hdispatched, -, -⟩ := world_run h
  obtain ⟨habove, hsorted⟩ := dispatched_above hsteps hqueue (above_lastId rfl rfl)
  rw [hdispatched] at habove hsorted
  refine ⟨fun readings hspaced hlong => ?_, paced_run h rfl, hsorted, habove, ?_⟩
  · have hwait : (waitForTimeSync ntpSyncWait readings).isSome :=
      waitForTimeSync_isSome (List.ne_nil_of_length_pos (by omega)) hspaced fun r _ => by
        unfold ntpSyncWait
        omega
    obtain ⟨synced, hsynced⟩ := Option.isSome_iff_exists.mp hwait
    have hfeed := feed_of_run h
    simp only [run, hsynced, Option.map_some, hfeed]
  rintro before e after u rfl hbefore hrest hsynced id hid henough
  obtain ⟨steps', hsteps', -, -, -⟩ := world_run hbefore
  have hmem := dispatched_of_successes (wellFormed_run hsteps' hqueue) hsynced hrest hid henough
  have hnodup : (dispatchedIds (before ++ e :: after)).Nodup := hsorted.imp fun hlt => hlt.ne
  refine List.count_eq_one_of_mem hnodup ?_
  rw [dispatchedIds, List.flatMap_append]
  exact List.mem_append_right _ hmem

lemma honest_of_received {t : Turn} {pending : List ℤ} {offset : ℤ} {results : List Json}
    (h : received parse t.answer = .ok results) (hreached : t.reached = true)
    (hids : results.map updateId = UpdateDelivery.answer pending offset) :
    t.Honest parse pending offset := by
  intro results' h'
  obtain rfl := Except.ok.inj (h.symm.trans h')
  exact ⟨hreached, hids⟩

end Loop

def probeParse (body : List UInt8) : Except String Json :=
  if body = utf8 "[]" then .ok (.obj [("result", .arr [])])
  else if body = utf8 "[7]" then .ok (.obj [("result", .arr [.obj [("update_id", .int 7)]])])
  else .error "expected value at line 1 column 1"

def probeAnswer (body : String) : Answer := .response 200 [.bytes (utf8 body)]

def emptyTurn : Turn := ⟨[], true, probeAnswer "[]"⟩

def lostTurn : Turn := ⟨[], false, .failed "ESP_ERR_HTTP_CONNECT"⟩

def updateTurn : Turn := ⟨[7], true, probeAnswer "[7]"⟩

def wentWell (results : List Json) : Polled := ⟨.ok results, 50⟩

def outage : List (Turn × Polled) :=
  [(emptyTurn, wentWell []), (lostTurn, ⟨.error "ESP_ERR_HTTP_CONNECT", 5000⟩),
    (updateTurn, wentWell [.obj [("update_id", .int 7)]]), (emptyTurn, wentWell []),
    (emptyTurn, wentWell [])]

lemma received_empty : received probeParse emptyTurn.answer = .ok [] := rfl

lemma received_update :
    received probeParse updateTurn.answer = .ok [.obj [("update_id", .int 7)]] := rfl

lemma run_outage : (polling probeParse).Run ⟨[], 0, .start⟩ (outage.take 2)
      ⟨[], 0, ⟨⟨0, true⟩, 10000, .error⟩⟩ ∧
    (polling probeParse).Run ⟨[], 0, ⟨⟨0, true⟩, 10000, .error⟩⟩ (outage.drop 2)
      ⟨[], 7, ⟨⟨8, true⟩, 5000, .polling⟩⟩ := by
  have hempty : (polling probeParse).step ⟨[], 0, .start⟩ (emptyTurn, wentWell [])
      ⟨[], 0, ⟨⟨0, true⟩, 5000, .polling⟩⟩ :=
    .turn (by decide) (by decide) (honest_of_received received_empty rfl rfl)
  have hlost : (polling probeParse).step ⟨[], 0, ⟨⟨0, true⟩, 5000, .polling⟩⟩
      (lostTurn, ⟨.error "ESP_ERR_HTTP_CONNECT", 5000⟩) ⟨[], 0, ⟨⟨0, true⟩, 10000, .error⟩⟩ :=
    .turn (by decide) (by decide) nofun
  have hupdate : (polling probeParse).step ⟨[], 0, ⟨⟨0, true⟩, 10000, .error⟩⟩
      (updateTurn, wentWell [.obj [("update_id", .int 7)]])
      ⟨[7], 7, ⟨⟨8, true⟩, 5000, .polling⟩⟩ :=
    .turn (by decide) (by decide) (honest_of_received received_update rfl rfl)
  have hforget : (polling probeParse).step ⟨[7], 7, ⟨⟨8, true⟩, 5000, .polling⟩⟩
      (emptyTurn, wentWell []) ⟨[], 7, ⟨⟨8, true⟩, 5000, .polling⟩⟩ :=
    .turn (by decide) (by decide) (honest_of_received received_empty rfl rfl)
  have hagain : (polling probeParse).step ⟨[], 7, ⟨⟨8, true⟩, 5000, .polling⟩⟩
      (emptyTurn, wentWell []) ⟨[], 7, ⟨⟨8, true⟩, 5000, .polling⟩⟩ :=
    .turn (by decide) (by decide) (honest_of_received received_empty rfl rfl)
  exact ⟨.cons hempty (.one hlost), .cons hupdate (.cons hforget (.one hagain))⟩

theorem updates_come_through_outage : (dispatchedIds outage).count 7 = 1 := by
  have hqueue : WellFormed ⟨[], 0, .new, .idle⟩ := wellFormed_start
  obtain ⟨hbefore, hafter⟩ := run_outage
  exact (updates_come_through hqueue (hbefore.append hafter)).2.2.2.2 (outage.take 2) _ _ _ rfl
    hbefore hafter rfl 7 (by decide) (by decide)

end PcRemote.PollThread
