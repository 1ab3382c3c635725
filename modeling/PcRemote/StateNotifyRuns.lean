import Mathlib.Data.List.Induction
import PcRemote.StateNotify

/-! What the PC's state notifications amount to over whole runs, whatever is observed and
whenever a wait or a suppression is begun. -/
namespace PcRemote.StateNotify
open Transition Transition.System WakeCheck

/-- A wake success is only ever decided on an online observation. -/
def Sane (s : State) : Prop :=
  ∀ nowOnline, s.ui = .noticed nowOnline (some .succeeded) → nowOnline = true

lemma wakeNotice_succeeded {started : Option Instant} {nowOnline : Bool} {now : Instant}
    (h : wakeNotice started nowOnline now = some .succeeded) : nowOnline = true := by
  cases nowOnline with
  | true => rfl
  | false =>
    unfold wakeNotice at h
    split at h
    · simp at h
    · unfold WakeWatch.poll at h
      split_ifs at h <;> simp_all

lemma sane_step (s : State) (e : Event) (t : State) (h : Step s e t) (hs : Sane s) : Sane t := by
  intro nowOnline ht
  cases h with
  | beginWake => exact hs _ ht
  | beginSleep => exact hs _ ht
  | read hp => simp at ht
  | pollWake hp =>
    simp only [StatusPhase.noticed.injEq] at ht
    exact ht.1 ▸ wakeNotice_succeeded ht.2
  | settle hp => simp [State.settle] at ht

lemma suppress_offline {w : SleepWatch} {pcOnline : Bool} (h : (w.poll pcOnline).2 = true) :
    pcOnline = false := by
  cases pcOnline with
  | false => rfl
  | true =>
    unfold SleepWatch.poll at h
    split at h
    · simp at h
    · split_ifs at h
      all_goals simp_all
    · simp at h

/-- A poll reports a wake success, suppresses an off, or leaves the word to the debounced
notification. -/
lemma settle_cases {s t : State} {p : StatusPoll} (h : Step s (.settle p) t) (hs : Sane s) :
    t.sleep = (s.sleep.poll p.nowOnline).1 ∧ p.suppressed = (s.sleep.poll p.nowOnline).2 ∧
    ((p.wakeSucceeded = true ∧ p.nowOnline = true ∧ p.suppressed = false ∧ p.notify = false ∧
        t.stable = ⟨some true, 0⟩) ∨
      (p.suppressed = true ∧ p.nowOnline = false ∧ p.wakeSucceeded = false ∧ p.notify = false ∧
        t.stable = ⟨some false, 0⟩) ∨
      (p.wakeSucceeded = false ∧ p.suppressed = false ∧
        s.stable.poll p.nowOnline false false = (t.stable, p.notify))) := by
  cases h with
  | @settle nowOnline notice hp =>
    refine ⟨rfl, rfl, ?_⟩
    by_cases hsucceeded : notice = some .succeeded
    · subst hsucceeded
      obtain rfl := hs _ hp
      have hquiet : (s.sleep.poll true).2 = false := by
        cases hsup : (s.sleep.poll true).2 with
        | false => rfl
        | true => exact absurd (suppress_offline hsup) (by simp)
      exact .inl ⟨rfl, rfl, hquiet, by simp [State.settle, StableNotify.poll],
        by simp [State.settle, StableNotify.poll]⟩
    · have hnotice : (notice == some WakeNotice.succeeded) = false := by simpa using hsucceeded
      cases hsup : (s.sleep.poll nowOnline).2 with
      | true =>
        have hoff := suppress_offline hsup
        subst hoff
        refine .inr (.inl ⟨hsup, rfl, hnotice, ?_, ?_⟩) <;>
          simp [State.settle, StableNotify.poll, hnotice, hsup]
      | false =>
        refine .inr (.inr ⟨hnotice, hsup, ?_⟩)
        simp [State.settle, hnotice, hsup]

lemma Event.eq_settle {e : Event} {p : StatusPoll} (h : e.poll? = some p) : e = .settle p := by
  cases e with
  | settle q => rw [Option.some.inj h]
  | beginWake => simp [Event.poll?] at h
  | beginSleep => simp [Event.poll?] at h
  | read => simp [Event.poll?] at h
  | pollWake => simp [Event.poll?] at h

/-- The state that an event leads to, where it can happen. -/
def State.next (s : State) : Event → State
  | .beginWake pcOnline now => { s with slot := beginWakeWatch pcOnline now }
  | .beginSleep => { s with sleep := s.sleep.begin }
  | .read nowOnline => { s with ui := .observed nowOnline s.slot }
  | .pollWake now =>
      match s.ui with
      | .observed nowOnline started =>
          { s with
            slot := if (wakeNotice started nowOnline now).isSome then none else s.slot
            ui := .noticed nowOnline (wakeNotice started nowOnline now) }
      | .idle | .noticed .. => s
  | .settle _ =>
      match s.ui with
      | .noticed nowOnline notice => (s.settle nowOnline notice).1
      | .idle | .observed .. => s

lemma eq_next (s : State) (e : Event) (t : State) (h : Step s e t) : t = s.next e := by
  cases h with
  | beginWake => rfl
  | beginSleep => rfl
  | read hp => rfl
  | pollWake hp => simp [State.next, hp]
  | settle hp => simp [State.next, hp]

/-- The steps that are no end of a poll leave the debounced notification alone. -/
lemma stable_of_not_settle {s t : State} {e : Event} (h : Step s e t) (he : e.poll? = none) :
    t.stable = s.stable := by
  cases h with
  | beginWake => rfl
  | beginSleep => rfl
  | read hp => rfl
  | pollWake hp => rfl
  | settle hp => simp [Event.poll?] at he

/-- The sleep suppression moves only with polls and with sleep instructions. -/
lemma sleep_of_not_settle {s t : State} {e : Event} (h : Step s e t) (he : e.poll? = none)
    (hsleep : e ≠ .beginSleep) : t.sleep = s.sleep := by
  cases h with
  | beginWake => rfl
  | beginSleep => exact absurd rfl hsleep
  | read hp => rfl
  | pollWake hp => rfl
  | settle hp => simp [Event.poll?] at he

namespace StableNotify

lemma poll_of_none {n : StableNotify} (h : n.notifiedOnline = none) (nowOnline : Bool) :
    n.poll nowOnline false false = (⟨some nowOnline, n.notifyStreak⟩, false) := by
  simp [poll, h]

lemma poll_of_same {n : StableNotify} {nowOnline : Bool} (h : n.notifiedOnline = some nowOnline) :
    n.poll nowOnline false false = (⟨some nowOnline, 0⟩, false) := by
  simp [poll, h]

/-- A notification moves the baseline to what is observed; nothing else leaves a baseline. -/
lemma poll_of_differs {n : StableNotify} {nowOnline prev : Bool}
    (h : n.notifiedOnline = some prev) (hne : prev ≠ nowOnline) :
    n.poll nowOnline false false = (⟨some nowOnline, 0⟩, true) ∧ 1 ≤ n.notifyStreak ∨
      n.poll nowOnline false false = (⟨some prev, 1⟩, false) ∧ n.notifyStreak = 0 := by
  by_cases hz : n.notifyStreak = 0
  · exact .inr ⟨by simp [poll, h, hne, hz, stablePolls], hz⟩
  · refine .inl ⟨?_, by omega⟩
    have hstreak : stablePolls ≤ min (n.notifyStreak + 1) 255 := by
      unfold stablePolls
      omega
    simp [poll, h, hne, hstreak]

/-- What a run of offline observations makes of it. -/
def offlineFlags (n : StableNotify) : ℕ → List Bool
  | 0 => []
  | k + 1 =>
      let next := n.poll false false false
      next.2 :: next.1.offlineFlags k

lemma offlineFlags_off {n : StableNotify} (h : n.notifiedOnline = some false) (k : ℕ) :
    n.offlineFlags k = List.replicate k false := by
  induction k generalizing n with
  | zero => rfl
  | succ k ih =>
    rw [offlineFlags, poll_of_same h, List.replicate_succ, ih rfl]

lemma offlineFlags_on (k : ℕ) :
    offlineFlags ⟨some true, 0⟩ (k + 2) = false :: true :: List.replicate k false := by
  have hrest := offlineFlags_off (n := ⟨some false, 0⟩) rfl k
  simp [offlineFlags, poll, stablePolls, hrest]

end StableNotify

lemma off_step {s t : State} {e : Event} (h : Step s e t) (hs : Sane s)
    (hoff : s.stable.notifiedOnline = some false)
    (he : ¬ ∃ p, e = .settle p ∧ p.nowOnline = true) : t.stable.notifiedOnline = some false := by
  cases hp : e.poll? with
  | none => rwa [stable_of_not_settle h hp]
  | some p =>
    obtain rfl := Event.eq_settle hp
    obtain ⟨-, -, hcases⟩ := settle_cases h hs
    have hnow : p.nowOnline = false := by simpa using fun ho => he ⟨p, rfl, ho⟩
    obtain ⟨-, ho, -⟩ | ⟨-, -, -, -, ht⟩ | ⟨-, -, ht⟩ := hcases
    · exact absurd ho (by simp [hnow])
    · rw [ht]
    · rw [hnow, StableNotify.poll_of_same hoff] at ht
      rw [← (Prod.mk.inj ht).1]

lemma off_refuses {s t : State} {e : Event} (h : Step s e t) (hs : Sane s)
    (hoff : s.stable.notifiedOnline = some false) : ¬ ∃ p, e = .settle p ∧ p.stopped = true := by
  rintro ⟨p, rfl, hp⟩
  simp only [StatusPoll.stopped, Bool.and_eq_true, Bool.not_eq_true'] at hp
  obtain ⟨-, -, hcases⟩ := settle_cases h hs
  obtain ⟨-, -, -, hn, -⟩ | ⟨-, -, -, hn, -⟩ | ⟨-, -, ht⟩ := hcases
  · exact absurd hp.1 (by simp [hn])
  · exact absurd hp.1 (by simp [hn])
  · rw [hp.2, StableNotify.poll_of_same hoff] at ht
    exact absurd hp.1 (by simp [← (Prod.mk.inj ht).2])

lemma on_step {s t : State} {e : Event} (h : Step s e t) (hs : Sane s)
    (hon : s.stable.notifiedOnline = some true)
    (he : ¬ ∃ p, e = .settle p ∧ (p.stopped = true ∨ p.suppressed = true)) :
    t.stable.notifiedOnline = some true := by
  cases hp : e.poll? with
  | none => rwa [stable_of_not_settle h hp]
  | some p =>
    obtain rfl := Event.eq_settle hp
    obtain ⟨-, -, hcases⟩ := settle_cases h hs
    obtain ⟨-, -, -, -, ht⟩ | ⟨hsup, -⟩ | ⟨-, -, ht⟩ := hcases
    · rw [ht]
    · exact absurd ⟨p, rfl, .inr hsup⟩ he
    · cases hnow : p.nowOnline with
      | true =>
        rw [hnow, StableNotify.poll_of_same hon] at ht
        rw [← (Prod.mk.inj ht).1]
      | false =>
        rw [hnow] at ht
        obtain ⟨hnotify, -⟩ | ⟨hwait, -⟩ :=
          StableNotify.poll_of_differs hon (by decide : true ≠ false)
        · rw [hnotify] at ht
          have hstopped : p.stopped = true := by
            simp [StatusPoll.stopped, hnow, ← (Prod.mk.inj ht).2]
          exact absurd ⟨p, rfl, .inl hstopped⟩ he
        · rw [hwait] at ht
          rw [← (Prod.mk.inj ht).1]

lemma on_refuses {s t : State} {e : Event} (h : Step s e t) (hs : Sane s)
    (hon : s.stable.notifiedOnline = some true) : ¬ ∃ p, e = .settle p ∧ p.started = true := by
  rintro ⟨p, rfl, hp⟩
  simp only [StatusPoll.started, Bool.and_eq_true] at hp
  obtain ⟨-, -, hcases⟩ := settle_cases h hs
  obtain ⟨-, -, -, hn, -⟩ | ⟨-, -, -, hn, -⟩ | ⟨-, -, ht⟩ := hcases
  · exact absurd hp.1 (by simp [hn])
  · exact absurd hp.1 (by simp [hn])
  · rw [hp.2, StableNotify.poll_of_same hon] at ht
    exact absurd hp.1 (by simp [← (Prod.mk.inj ht).2])

lemma off_of_suppressed {s t : State} {p : StatusPoll} (h : Step s (.settle p) t) (hs : Sane s)
    (hp : p.suppressed = true) : t.stable.notifiedOnline = some false ∧ p.stopped = false := by
  obtain ⟨-, -, ⟨-, -, hno, -⟩ | ⟨-, -, -, hn, ht⟩ | ⟨-, hno, -⟩⟩ := settle_cases h hs
  · exact absurd hp (by simp [hno])
  · exact ⟨by rw [ht], by simp [StatusPoll.stopped, hn]⟩
  · exact absurd hp (by simp [hno])

/-- A start that is reported, by either machine, is the baseline from then on. -/
lemma on_of_reported {s t : State} {p : StatusPoll} (h : Step s (.settle p) t) (hs : Sane s)
    (hp : p.wakeSucceeded = true ∨ p.started = true) : t.stable.notifiedOnline = some true := by
  simp only [StatusPoll.started, Bool.and_eq_true] at hp
  obtain ⟨-, -, ⟨-, -, -, -, ht⟩ | ⟨-, hoff, hno, -, -⟩ | ⟨hno, -, ht⟩⟩ := settle_cases h hs
  · rw [ht]
  · rcases hp with hw | ⟨-, ho⟩
    · exact absurd hw (by simp [hno])
    · exact absurd ho (by simp [hoff])
  · rcases hp with hw | ⟨hn, ho⟩
    · exact absurd hw (by simp [hno])
    · rw [ho] at ht
      cases hbase : s.stable.notifiedOnline with
      | none => simp [StableNotify.poll, hbase, hn] at ht
      | some prev =>
        cases prev with
        | true =>
          rw [StableNotify.poll_of_same hbase] at ht
          exact absurd hn (by simp [← (Prod.mk.inj ht).2])
        | false =>
          obtain ⟨hnotify, -⟩ | ⟨hwait, -⟩ :=
            StableNotify.poll_of_differs hbase (by decide : false ≠ true)
          · rw [hnotify] at ht
            rw [← (Prod.mk.inj ht).1]
          · rw [hwait] at ht
            exact absurd hn (by simp [← (Prod.mk.inj ht).2])

lemma polls_cons (e : Event) (es : List Event) : polls (e :: es) = e.poll?.toList ++ polls es := by
  unfold polls
  cases h : e.poll? <;> simp [h]

lemma polls_snoc (es : List Event) (e : Event) :
    polls (es ++ [e]) = polls es ++ e.poll?.toList := by
  have hone : polls [e] = e.poll?.toList := by rw [polls_cons]; simp [polls]
  rw [← hone]
  exact List.filterMap_append

/-- Without a sleep instruction an idle suppression stays idle and suppresses nothing. -/
lemma idle_step {s t : State} {e : Event} (h : Step s e t) (hs : Sane s)
    (hidle : s.sleep = .idle) (he : e ≠ .beginSleep) :
    t.sleep = .idle ∧ ∀ p, e = .settle p → p.suppressed = false := by
  cases hp : e.poll? with
  | none =>
    refine ⟨by rw [sleep_of_not_settle h hp he, hidle], ?_⟩
    rintro p rfl
    simp [Event.poll?] at hp
  | some p =>
    obtain rfl := Event.eq_settle hp
    obtain ⟨hsleep, hsup, -⟩ := settle_cases h hs
    rw [hidle] at hsleep hsup
    refine ⟨hsleep, ?_⟩
    rintro q hq
    obtain rfl := Event.settle.inj hq
    exact hsup

lemma idle_run {s t : State} {es : List Event} (h : loop.Run s es t) (hs : Sane s)
    (hidle : s.sleep = .idle) (hes : .beginSleep ∉ es) :
    t.sleep = .idle ∧ ∀ p ∈ polls es, p.suppressed = false := by
  induction h with
  | nil => exact ⟨hidle, by simp [polls]⟩
  | @cons s t u e es hst hr ih =>
    rw [List.mem_cons, not_or] at hes
    obtain ⟨hidle', hfirst⟩ := idle_step hst hs hidle (Ne.symm hes.1)
    obtain ⟨hend, hrest⟩ := ih (sane_step _ _ _ hst hs) hidle' hes.2
    refine ⟨hend, ?_⟩
    intro p hp
    rw [polls_cons, List.mem_append] at hp
    rcases hp with hp | hp
    · exact hfirst p (Event.eq_settle (by simpa using hp))
    · exact hrest p hp

lemma offline_run {s t : State} {es : List Event} (h : loop.Run s es t) (hs : Sane s)
    (hidle : s.sleep = .idle) (hes : .beginSleep ∉ es)
    (hoff : ∀ p ∈ polls es, p.nowOnline = false) :
    (polls es).map StatusPoll.stopped = s.stable.offlineFlags (polls es).length := by
  induction h with
  | nil => rfl
  | @cons s t u e es hst hr ih =>
    rw [List.mem_cons, not_or] at hes
    have hsane := sane_step _ _ _ hst hs
    obtain ⟨hidle', hquiet⟩ := idle_step hst hs hidle (Ne.symm hes.1)
    rw [polls_cons] at hoff ⊢
    have hrest := ih hsane hidle' hes.2 fun p hp => hoff p (List.mem_append_right _ hp)
    cases hp : e.poll? with
    | none => rw [← stable_of_not_settle hst hp]; simpa [hp] using hrest
    | some p =>
      obtain rfl := Event.eq_settle hp
      have hnow : p.nowOnline = false := hoff p (by simp [hp])
      obtain ⟨-, -, hcases⟩ := settle_cases hst hs
      obtain ⟨-, ho, -⟩ | ⟨hsup, -⟩ | ⟨-, -, ht⟩ := hcases
      · exact absurd ho (by simp [hnow])
      · exact absurd hsup (by simp [hquiet p rfl])
      · rw [hnow] at ht
        have hstopped : p.stopped = p.notify := by simp [StatusPoll.stopped, hnow]
        have hflags : s.stable.offlineFlags ((polls es).length + 1) =
            p.notify :: t.stable.offlineFlags (polls es).length := by
          rw [StableNotify.offlineFlags, ht]
        simp only [Option.toList_some, List.singleton_append, List.map_cons, List.length_cons,
          hflags, hrest, hstopped]

/-- After an online observation the streak of an online baseline is empty. -/
def Settled (es : List Event) (s : State) : Prop :=
  (s.stable.notifiedOnline = none → s.stable.notifyStreak = 0) ∧
    ∀ p, (polls es).getLast? = some p → p.nowOnline = true →
      s.stable.notifiedOnline = some true → s.stable.notifyStreak = 0

lemma settled_step {es : List Event} {s t : State} {e : Event} (h : Step s e t) (hs : Sane s)
    (hset : Settled es s) : Settled (es ++ [e]) t := by
  unfold Settled
  rw [polls_snoc]
  cases hp : e.poll? with
  | none =>
    rw [stable_of_not_settle h hp, Option.toList_none, List.append_nil]
    exact hset
  | some p =>
    obtain rfl := Event.eq_settle hp
    rw [Option.toList_some]
    obtain ⟨-, -, hcases⟩ := settle_cases h hs
    obtain ⟨-, -, -, -, ht⟩ | ⟨-, -, -, -, ht⟩ | ⟨-, -, ht⟩ := hcases
    · simp [ht]
    · simp [ht]
    · cases hbase : s.stable.notifiedOnline with
      | none =>
        rw [StableNotify.poll_of_none hbase, hset.1 hbase] at ht
        simp [← (Prod.mk.inj ht).1]
      | some prev =>
        by_cases hsame : prev = p.nowOnline
        · rw [← hsame, StableNotify.poll_of_same hbase] at ht
          simp [← (Prod.mk.inj ht).1]
        · obtain ⟨hnotify, -⟩ | ⟨hwait, -⟩ := StableNotify.poll_of_differs hbase hsame
          · rw [hnotify] at ht
            simp [← (Prod.mk.inj ht).1]
          · rw [hwait] at ht
            refine ⟨by simp [← (Prod.mk.inj ht).1], ?_⟩
            intro q hq hnow hon
            obtain rfl : p = q := by simpa using hq
            have hprev : prev = true := by simpa [← (Prod.mk.inj ht).1] using hon
            exact absurd (hprev.trans hnow.symm) hsame

lemma sane_settled_run {t : State} {es : List Event} (h : loop.Run .start es t) :
    Sane t ∧ Settled es t := by
  refine h.history (J := fun es s => Sane s ∧ Settled es s) ?_ ?_
  · rintro es s e t hst ⟨hs, hset⟩
    exact ⟨sane_step _ _ _ hst hs, settled_step hst hs hset⟩
  · exact ⟨fun _ hp => by simp [State.start] at hp, fun _ => rfl, by simp [polls]⟩

/-- The suppression after a number of polls. -/
def SleepWatch.after (w : SleepWatch) (ps : List StatusPoll) : SleepWatch :=
  ps.foldl (fun w p => (w.poll p.nowOnline).1) w

/-- Without a sleep instruction the suppression is driven by the polls alone. -/
lemma sleep_run {s t : State} {es : List Event} (h : loop.Run s es t) (hs : Sane s)
    (hes : .beginSleep ∉ es) :
    t.sleep = s.sleep.after (polls es) := by
  induction h with
  | nil => rfl
  | @cons s t u e es hst hr ih =>
    rw [List.mem_cons, not_or] at hes
    rw [ih (sane_step _ _ _ hst hs) hes.2, polls_cons]
    cases hp : e.poll? with
    | none => simp [sleep_of_not_settle hst hp (Ne.symm hes.1)]
    | some p =>
      obtain rfl := Event.eq_settle hp
      rw [(settle_cases hst hs).1]
      rfl

lemma idle_of_online {ps : List StatusPoll} (hon : ∀ p ∈ ps, p.nowOnline = true) :
    SleepWatch.idle.after ps = .idle := by
  induction ps with
  | nil => rfl
  | cons p ps ih => exact ih fun q hq => hon q (List.mem_cons_of_mem _ hq)

lemma idle_of_armed {ps : List StatusPoll} (hon : ∀ p ∈ ps, p.nowOnline = true) {k : ℕ}
    (hk : k < sleepArmMaxPolls) (hlen : sleepArmMaxPolls ≤ k + ps.length) :
    SleepWatch.after ⟨.armed k⟩ ps = .idle := by
  induction ps generalizing k with
  | nil =>
    rw [List.length_nil] at hlen
    omega
  | cons p ps ih =>
    have hrest : ∀ q ∈ ps, q.nowOnline = true := fun q hq => hon q (List.mem_cons_of_mem _ hq)
    rw [List.length_cons] at hlen
    have hstep : SleepWatch.after ⟨.armed k⟩ (p :: ps) =
        (if sleepArmMaxPolls ≤ k + 1 then SleepWatch.idle else ⟨.armed (k + 1)⟩).after ps := by
      simp only [SleepWatch.after, List.foldl_cons, hon p List.mem_cons_self, SleepWatch.poll,
        not_true_eq_false, if_false, apply_ite Prod.fst]
    rw [hstep]
    split_ifs with hlast
    · exact idle_of_online hrest
    · exact ih hrest (by omega) (by omega)

def Event.beginsWake : Event → Bool
  | .beginWake .. => true
  | .beginSleep | .read _ | .pollWake _ | .settle _ => false

/-- The last wake instruction of these events has begun a wait, at this time. -/
def Waits (es : List Event) (start : Instant) : Prop :=
  ∃ before after, es = before ++ .beginWake false start :: after ∧
    ∀ e ∈ after, e.beginsWake = false

/-- The wait that the wake instructions of these events have left. -/
def begun (es : List Event) : Option Instant :=
  es.foldl (fun slot e =>
    match e with
    | .beginWake pcOnline now => beginWakeWatch pcOnline now
    | .beginSleep | .read _ | .pollWake _ | .settle _ => slot) none

lemma begun_snoc_beginWake (es : List Event) (pcOnline : Bool) (now : Instant) :
    begun (es ++ [.beginWake pcOnline now]) = beginWakeWatch pcOnline now := by
  rw [begun, List.foldl_append]
  rfl

lemma begun_snoc {es : List Event} {e : Event} (h : e.beginsWake = false) :
    begun (es ++ [e]) = begun es := by
  rw [begun, List.foldl_append]
  cases e with
  | beginWake => cases h
  | _ => rfl

/-- The last event is the wake instruction, or it comes after it. -/
lemma waits_snoc {es : List Event} {e : Event} {start : Instant} :
    Waits (es ++ [e]) start ↔
      e = .beginWake false start ∨ e.beginsWake = false ∧ Waits es start := by
  constructor
  · rintro ⟨before, after, heq, hlast⟩
    rcases List.eq_nil_or_concat after with rfl | ⟨after, e', rfl⟩
    · exact .inl (List.singleton_inj.mp (List.append_inj' heq rfl).2)
    · rw [List.concat_eq_append, ← List.cons_append, ← List.append_assoc] at heq
      obtain ⟨rfl, hlast'⟩ := List.append_inj' heq rfl
      obtain rfl : e = e' := List.singleton_inj.mp hlast'
      simp only [List.concat_eq_append, List.forall_mem_append, List.forall_mem_singleton] at hlast
      exact .inr ⟨hlast.2, before, after, rfl, hlast.1⟩
  · rintro (rfl | ⟨he, before, after, rfl, hlast⟩)
    · exact ⟨es, [], rfl, by simp⟩
    · refine ⟨before, after ++ [e], by simp, ?_⟩
      exact List.forall_mem_append.mpr ⟨hlast, List.forall_mem_singleton.mpr he⟩

lemma begun_eq_some {es : List Event} {start : Instant} :
    begun es = some start ↔ Waits es start := by
  induction es using List.reverseRecOn with
  | nil => exact ⟨nofun, fun ⟨before, after, heq, _⟩ => by simp at heq⟩
  | append_singleton es e ih =>
    rw [waits_snoc, ← ih]
    cases hbegins : e.beginsWake with
    | false =>
      have hne : e ≠ .beginWake false start := by
        rintro rfl
        cases hbegins
      simp [begun_snoc hbegins, hne]
    | true =>
      cases e with
      | beginWake pcOnline now =>
        rw [begun_snoc_beginWake]
        cases pcOnline <;> simp [beginWakeWatch, WakeWatch.begin]
      | _ => cases hbegins

/-- Where the first poll is: what it has read is the wait that was begun before it. -/
def FirstPoll (es : List Event) (s : State) : Prop :=
  s.stable = .new ∧
    match s.ui with
    | .idle => s.slot = begun es
    | .observed nowOnline started =>
        ∃ before after, es = before ++ .read nowOnline :: after ∧ started = begun before
    | .noticed nowOnline notice =>
        ∃ before mid now after, es = before ++ .read nowOnline :: (mid ++ .pollWake now :: after) ∧
          notice = wakeNotice (begun before) nowOnline now

lemma firstPoll_step {es : List Event} {s t : State} {e : Event} (h : Step s e t)
    (hf : polls es = [] → FirstPoll es s) (hempty : polls (es ++ [e]) = []) :
    FirstPoll (es ++ [e]) t := by
  rw [polls_snoc, List.append_eq_nil_iff] at hempty
  have hp : e.poll? = none := by simpa using hempty.2
  obtain ⟨hstable, hphase⟩ := hf hempty.1
  refine ⟨(stable_of_not_settle h hp).trans hstable, ?_⟩
  cases h with
  | beginWake pcOnline now =>
    dsimp only
    cases hui : s.ui with
    | idle => exact (begun_snoc_beginWake es pcOnline now).symm
    | observed nowOnline started =>
      rw [hui] at hphase
      obtain ⟨before, after, rfl, hstarted⟩ := hphase
      exact ⟨before, after ++ [.beginWake pcOnline now], by simp, hstarted⟩
    | noticed nowOnline notice =>
      rw [hui] at hphase
      obtain ⟨before, mid, decidedAt, after, rfl, hnotice⟩ := hphase
      exact ⟨before, mid, decidedAt, after ++ [.beginWake pcOnline now], by simp, hnotice⟩
  | beginSleep =>
    dsimp only
    cases hui : s.ui with
    | idle =>
      rw [hui] at hphase
      exact hphase.trans (begun_snoc rfl).symm
    | observed nowOnline started =>
      rw [hui] at hphase
      obtain ⟨before, after, rfl, hstarted⟩ := hphase
      exact ⟨before, after ++ [.beginSleep], by simp, hstarted⟩
    | noticed nowOnline notice =>
      rw [hui] at hphase
      obtain ⟨before, mid, decidedAt, after, rfl, hnotice⟩ := hphase
      exact ⟨before, mid, decidedAt, after ++ [.beginSleep], by simp, hnotice⟩
  | read hui =>
    rw [hui] at hphase
    exact ⟨es, [], rfl, hphase⟩
  | @pollWake nowOnline started now hui =>
    rw [hui] at hphase
    obtain ⟨before, after, rfl, rfl⟩ := hphase
    exact ⟨before, after, now, [], by simp, rfl⟩
  | settle => cases hp

lemma firstPoll_run {t : State} {es : List Event} (h : loop.Run .start es t) :
    polls es = [] → FirstPoll es t :=
  h.history (J := fun es s => polls es = [] → FirstPoll es s)
    (fun _ _ _ _ hst hf => firstPoll_step hst hf) fun _ => ⟨rfl, rfl⟩

/-! ### All of it, for every run -/

/-- What is sent over a run, in terms of the ends of its polls. -/
structure Notifies (es : List Event) : Prop where
  /-- A poll that suppresses reports no stop, nor does a later one before the PC is seen online. -/
  quiet_until_online : ∀ pre p rest, es = pre ++ .settle p :: rest → p.suppressed = true →
    p.stopped = false ∧ ∀ mid q post, rest = mid ++ .settle q :: post → q.stopped = true →
      ∃ r, .settle r ∈ mid ∧ r.nowOnline = true
  /-- After a reported start the next one follows a reported stop or a suppressed off. -/
  started_once : ∀ pre p mid q post, es = pre ++ .settle p :: (mid ++ .settle q :: post) →
    p.wakeSucceeded = true ∨ p.started = true → q.started = true →
      ∃ r, .settle r ∈ mid ∧ (r.stopped = true ∨ r.suppressed = true)
  /-- An offline run that no sleep instruction accounts for is reported once, at its second poll. -/
  stopped_once : ∀ pre seg post s p, es = pre ++ seg ++ post → loop.Run .start pre s →
    s.stable.notifiedOnline = some true → (polls pre).getLast? = some p → p.nowOnline = true →
    s.sleep = .idle → .beginSleep ∉ seg → (∀ q ∈ polls seg, q.nowOnline = false) →
    2 ≤ (polls seg).length →
      (polls seg).map StatusPoll.stopped =
        false :: true :: List.replicate ((polls seg).length - 2) false
  /-- Six online polls after a sleep instruction end the suppression until the next one. -/
  released : ∀ pre seg s rest, es = pre ++ .beginSleep :: seg ++ rest →
    loop.Run .start (pre ++ .beginSleep :: seg) s → .beginSleep ∉ seg →
    (∀ p ∈ polls seg, p.nowOnline = true) → 6 ≤ (polls seg).length →
      s.sleep = .idle ∧ ∀ mid post, rest = mid ++ post → .beginSleep ∉ mid →
        ∀ p ∈ polls mid, p.suppressed = false
  /-- The first observation reports neither a start nor a stop. What it sends is the outcome of the
  wait that the last wake instruction before it has begun; without one it sends nothing. -/
  first_silent : ∀ pre p post, es = pre ++ .settle p :: post → polls pre = [] →
    p.notify = false ∧
      ∃ before mid now after, pre = before ++ .read p.nowOnline :: (mid ++ .pollWake now :: after) ∧
        (∀ start, Waits before start → p.notice = wakeNotice (some start) p.nowOnline now) ∧
        ((∀ start, ¬ Waits before start) → p.notice = none)

theorem state_notifications {es : List Event} {t : State} (h : loop.Run .start es t) :
    Notifies es where
  quiet_until_online := by
    rintro pre p rest rfl hp
    obtain ⟨s, s', hpre, hst, hrest⟩ := h.split
    have hsane := (sane_settled_run hpre).1
    obtain ⟨hoff, hstopped⟩ := off_of_suppressed hst hsane hp
    refine ⟨hstopped, ?_⟩
    rintro mid q post rfl hq
    obtain ⟨e, hmem, r, rfl, hr⟩ := Run.released sane_step (fun s e t hs hI => off_step hs hI)
      (fun s e t hs hI => off_refuses hs hI) hrest (sane_step _ _ _ hst hsane) hoff ⟨q, rfl, hq⟩
    exact ⟨r, hmem, hr⟩
  started_once := by
    rintro pre p mid q post rfl hp hq
    obtain ⟨s, s', hpre, hst, hrest⟩ := h.split
    have hsane := (sane_settled_run hpre).1
    obtain ⟨e, hmem, r, rfl, hr⟩ := Run.released sane_step (fun s e t hs hI => on_step hs hI)
      (fun s e t hs hI => on_refuses hs hI) hrest (sane_step _ _ _ hst hsane)
      (on_of_reported hst hsane hp) ⟨q, rfl, hq⟩
    exact ⟨r, hmem, hr⟩
  stopped_once := by
    rintro pre seg post s p rfl hpre hon hlast hnow hidle hseg hoff hlen
    obtain ⟨u, hu, -⟩ := h.append_inv
    obtain ⟨s', hpre', hrun⟩ := hu.append_inv
    obtain rfl := hpre.unique eq_next hpre'
    obtain ⟨hsane, -, hsettled⟩ := sane_settled_run hpre
    have hbase : s.stable = ⟨some true, 0⟩ := by
      rw [← hon, ← hsettled p hlast hnow hon]
    obtain ⟨k, hk⟩ := Nat.exists_eq_add_of_le' hlen
    rw [offline_run hrun hsane hidle hseg hoff, hbase, hk, StableNotify.offlineFlags_on]
    rfl
  released := by
    rintro pre seg s rest rfl hseg' hseg hon hlen
    obtain ⟨s', hs', hrest⟩ := h.append_inv
    obtain rfl := hseg'.unique eq_next hs'
    obtain ⟨u, u', hu, hst, hrun⟩ := hseg'.split
    have hsane := (sane_settled_run hu).1
    have hbegun : u'.sleep = ⟨.armed 0⟩ := by
      cases hst
      rfl
    have hidle : s.sleep = .idle := by
      rw [sleep_run hrun (sane_step _ _ _ hst hsane) hseg, hbegun]
      exact idle_of_armed hon (by decide) (by unfold sleepArmMaxPolls; omega)
    refine ⟨hidle, ?_⟩
    rintro mid post rfl hmid
    obtain ⟨v, hv, -⟩ := hrest.append_inv
    exact (idle_run hv (sane_settled_run hseg').1 hidle hmid).2
  first_silent := by
    rintro pre p post rfl hempty
    obtain ⟨s, s', hpre, hst, -⟩ := h.split
    obtain ⟨hnew, hphase⟩ := firstPoll_run hpre hempty
    have hsane := (sane_settled_run hpre).1
    refine ⟨?_, ?_⟩
    · obtain ⟨-, -, ⟨-, -, -, hn, -⟩ | ⟨-, -, -, hn, -⟩ | ⟨-, -, ht⟩⟩ := settle_cases hst hsane
      · exact hn
      · exact hn
      · rw [hnew, StableNotify.poll_of_none rfl] at ht
        exact (Prod.mk.inj ht).2.symm
    · cases hst with
      | @settle nowOnline notice hui =>
        rw [hui] at hphase
        obtain ⟨before, mid, now, after, hsplit, rfl⟩ := hphase
        refine ⟨before, mid, now, after, hsplit, fun start hwaits => ?_, fun hnever => ?_⟩
        · rw [← begun_eq_some.mpr hwaits]
          rfl
        · have hnone : begun before = none :=
            Option.eq_none_iff_forall_ne_some.mpr fun start hstart =>
              hnever start (begun_eq_some.mp hstart)
          rw [hnone]
          rfl

/-- The events of a poll that finds the UI loop idle, and the state they lead to. -/
def State.wholePoll (s : State) (nowOnline : Bool) (now : Instant) : List Event × State :=
  let read := s.next (.read nowOnline)
  let decided := read.next (.pollWake now)
  let settled := decided.settle nowOnline (wakeNotice s.slot nowOnline now)
  ([.read nowOnline, .pollWake now, .settle settled.2], settled.1)

lemma run_wholePoll {s : State} (h : s.ui = .idle) (nowOnline : Bool) (now : Instant) :
    loop.Run s (s.wholePoll nowOnline now).1 (s.wholePoll nowOnline now).2 :=
  .cons (.read h) (.cons (.pollWake rfl) (.one (.settle rfl)))

/-- The PC is seen online, then twice offline. -/
def seenOnline : List Event × State := State.start.wholePoll true 0
def seenOffline : List Event × State := seenOnline.2.wholePoll false 10000000000
def stillOffline : List Event × State := seenOffline.2.wholePoll false 20000000000

theorem state_notifications_offline :
    (polls (seenOffline.1 ++ stillOffline.1)).map StatusPoll.stopped = [false, true] :=
  (state_notifications ((run_wholePoll rfl true 0).append
    ((run_wholePoll rfl false 10000000000).append
      (run_wholePoll rfl false 20000000000)))).stopped_once seenOnline.1
    (seenOffline.1 ++ stillOffline.1) [] seenOnline.2 ⟨true, none, false, false⟩ (by simp; rfl)
    (run_wholePoll rfl true 0) rfl rfl rfl rfl (by decide) (by decide) (by decide)

/-- Nothing at all is sent on the first observation after boot. -/
def FirstObservationSilent : Prop :=
  ∀ es t, loop.Run .start es t → ∀ pre p post, es = pre ++ .settle p :: post → polls pre = [] →
    p.notify = false ∧ p.notice = none

/-- The wake button is pressed before the first observation, and the PC is up by then. -/
theorem not_firstObservationSilent : ¬ FirstObservationSilent := by
  intro h
  let begun := State.start.next (.beginWake false 0)
  have hrun : loop.Run .start (.beginWake false 0 :: (begun.wholePoll true 8000000000).1)
      (begun.wholePoll true 8000000000).2 :=
    .cons (.beginWake _ false 0) (run_wholePoll rfl true 8000000000)
  have hsilent := h _ _ hrun [.beginWake false 0, .read true, .pollWake 8000000000]
    ⟨true, some .succeeded, false, false⟩ [] rfl rfl
  exact absurd hsilent.2 (by simp)

end PcRemote.StateNotify
