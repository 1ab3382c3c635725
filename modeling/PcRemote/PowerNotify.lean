import Mathlib.Data.List.Chain
import PcRemote.Debounce
import PcRemote.Transition

/-! The notifications that the power supply was lost or came back: one for each change that
lasts for five observations. -/
namespace PcRemote.Battery
open Transition Transition.System Debounce

def powerNotifyStablePolls : ℕ := 5

structure PowerNotify where
  notified : Option Bool
  streak : ℕ
  deriving DecidableEq, Repr

def PowerNotify.new : PowerNotify := ⟨none, 0⟩

/-- The streak is a byte that saturates. -/
def PowerNotify.poll (p : PowerNotify) (observed : Bool) : PowerNotify × Bool :=
  match p.notified with
  | none => (⟨some observed, 0⟩, false)
  | some prev =>
      if prev = observed then (⟨some prev, 0⟩, false)
      else
        let streak := min (p.streak + 1) 255
        if powerNotifyStablePolls ≤ streak then (⟨some observed, 0⟩, true)
        else (⟨some prev, streak⟩, false)

/-- The polls of a list of observations, each with whether it notifies. -/
def polls (observations : List Bool) : List (Bool × Bool) :=
  (feed PowerNotify.poll .new observations).1

/-- The state the observations leave behind. -/
def after (observations : List Bool) : PowerNotify :=
  (feed PowerNotify.poll .new observations).2

/-- The flag holds the stable value, and the counter the observations that differ from it. -/
def PowerNotify.Follows (p : PowerNotify) (history : List Bool) : Prop :=
  p.notified = stable powerNotifyStablePolls history ∧
    p.streak = (unsettled powerNotifyStablePolls history).length

lemma PowerNotify.Follows.streak_lt {p : PowerNotify} {history : List Bool}
    (h : p.Follows history) : p.streak < powerNotifyStablePolls := by
  rw [h.2]
  exact unsettled_lt (by decide) history

/-- A poll keeps the flag and the counter right, and notifies when the stable value changes. -/
theorem PowerNotify.Follows.poll {p : PowerNotify} {history : List Bool} (h : p.Follows history)
    (observed : Bool) : (p.poll observed).1.Follows (observed :: history) ∧
      ((p.poll observed).2 = true ↔ Changes powerNotifyStablePolls history observed) := by
  have hlt := h.streak_lt
  obtain ⟨hnotified, hstreak⟩ := h
  cases hs : stable powerNotifyStablePolls history with
  | none =>
    have hstable := stable_first hs observed
    simp [PowerNotify.poll, Follows, hnotified, hs, hstable, unsettled_of_head hstable,
      not_changes_first hs]
  | some prev =>
    by_cases heq : prev = observed
    · subst heq
      have hstable := stable_same hs
      simp [PowerNotify.poll, Follows, hnotified, hs, hstable, unsettled_of_head hstable,
        changes_iff hs]
    · have hcount := stable_count hs (Ne.symm heq)
      rw [← hstreak] at hcount
      have hmin : min (p.streak + 1) 255 = p.streak + 1 := by
        unfold powerNotifyStablePolls at hlt
        omega
      split_ifs at hcount with hle
      · simp [PowerNotify.poll, Follows, hnotified, hs, heq, hmin, hle, hcount,
          unsettled_of_head hcount, changes_iff hs, Ne.symm heq]
      · simp [PowerNotify.poll, Follows, hnotified, hs, heq, hmin, hle, hcount,
          unsettled_kept hs hcount (Ne.symm heq), changes_iff hs, ← hstreak]

/-- The observations polled so far, newest first. -/
def seen (events : List (Bool × Bool)) : List Bool := (events.map Prod.fst).reverse

@[simp] lemma seen_append (events : List (Bool × Bool)) (e : Bool × Bool) :
    seen (events ++ [e]) = e.1 :: seen events := by
  simp [seen]

/-- The values that the stable value was notified to have changed to. -/
def announced (events : List (Bool × Bool)) : List Bool :=
  (events.filter Prod.snd).map Prod.fst

lemma run_polls (observations : List Bool) :
    Run (component PowerNotify.poll) .new (polls observations) (after observations) :=
  feed_run PowerNotify.poll .new observations

lemma follows_run {events : List (Bool × Bool)} {p : PowerNotify}
    (h : Run (component PowerNotify.poll) .new events p) : p.Follows (seen events) := by
  refine component_history (J := fun events p => p.Follows (seen events)) ?_ h ⟨rfl, rfl⟩
  intro events p observed hp
  rw [seen_append]
  exact (hp.poll observed).1

/-- Each notification differs from the one before it, the first one from the value that was
taken in first. -/
def Alternating (events : List (Bool × Bool)) (p : PowerNotify) : Prop :=
  ∀ first, (events.map Prod.fst).head? = some first →
    (first :: announced events).IsChain (· ≠ ·) ∧
      p.notified = (first :: announced events).getLast?

lemma announced_append (events : List (Bool × Bool)) (e : Bool × Bool) :
    announced (events ++ [e]) = announced events ++ if e.2 then [e.1] else [] := by
  cases h : e.2 <;> simp [announced, h]

/-- A poll that notifies changes what is notified to the observation; any other keeps it once
there is something notified. -/
lemma PowerNotify.poll_cases {p : PowerNotify} {prev : Bool} (h : p.notified = some prev)
    (observed : Bool) :
    ((p.poll observed).2 = false ∧ (p.poll observed).1.notified = some prev) ∨
      ((p.poll observed).2 = true ∧ (p.poll observed).1.notified = some observed ∧
        prev ≠ observed) := by
  simp only [PowerNotify.poll, h]
  split_ifs with heq hle
  · exact .inl ⟨rfl, rfl⟩
  · exact .inr ⟨rfl, rfl, heq⟩
  · exact .inl ⟨rfl, rfl⟩

lemma alternating_run {events : List (Bool × Bool)} {p : PowerNotify}
    (h : Run (component PowerNotify.poll) .new events p) : Alternating events p := by
  suffices hJ : (events = [] → p.notified = none) ∧ Alternating events p from hJ.2
  refine component_history (J := fun events p =>
    (events = [] → p.notified = none) ∧ Alternating events p) ?_ h
    ⟨fun _ => rfl, by simp [Alternating]⟩
  rintro events p observed ⟨hnil, halt⟩
  refine ⟨by simp, fun first hfirst => ?_⟩
  rw [announced_append]
  cases events with
  | nil =>
    obtain rfl : observed = first := by simpa using hfirst
    simp [PowerNotify.poll, hnil rfl, announced]
  | cons e events =>
    obtain ⟨hchain, hlast⟩ := halt first (by simpa using hfirst)
    obtain ⟨prev, hprev⟩ : ∃ prev, p.notified = some prev := by
      rw [hlast, List.getLast?_cons]
      exact ⟨_, rfl⟩
    rcases p.poll_cases hprev observed with ⟨hquiet, hkept⟩ | ⟨hfires, hchanged, hne⟩
    · simp only [hquiet, Bool.false_eq_true, if_false, List.append_nil]
      exact ⟨hchain, by rw [hkept, ← hprev, hlast]⟩
    · simp only [hfires, if_true, ← List.cons_append]
      constructor
      · refine List.isChain_append.mpr ⟨hchain, by simp, fun x hx y hy => ?_⟩
        rw [← hlast, hprev] at hx
        simp only [Option.mem_def, Option.some.injEq, List.head?_cons] at hx hy
        exact hx ▸ hy ▸ hne
      · rw [hchanged, List.getLast?_append_of_ne_nil _ (by simp)]
        simp

/-- What polling a list of observations comes to: it notifies exactly where the stable value
changes, each time after five equal observations, and notifications alternate. The flag holds the
stable value, and the counter is the length of the trailing run that differs from it. -/
structure Debounces (observations : List Bool) (events : List (Bool × Bool)) (p : PowerNotify) :
    Prop where
  polled : events.map Prod.fst = observations
  notifies : ∀ before observed notify later, events = before ++ (observed, notify) :: later →
    (notify = true ↔ Changes powerNotifyStablePolls (seen before) observed)
  after_five : ∀ before observed later, events = before ++ (observed, true) :: later →
    List.replicate powerNotifyStablePolls observed <+: observed :: seen before
  notified : p.notified = stable powerNotifyStablePolls observations.reverse
  streak : p.streak = (unsettled powerNotifyStablePolls observations.reverse).length
  streak_lt : p.streak < powerNotifyStablePolls
  alternates : ∀ first, observations.head? = some first →
    (first :: announced events).IsChain (· ≠ ·)

/-- A poll in the middle of a run notifies exactly when the stable value changes there. -/
lemma changes_of_polls {observations : List Bool} {before : List (Bool × Bool)} {observed : Bool}
    {notify : Bool} {later : List (Bool × Bool)}
    (h : polls observations = before ++ (observed, notify) :: later) :
    notify = true ↔ Changes powerNotifyStablePolls (seen before) observed := by
  have hrun := run_polls observations
  rw [h] at hrun
  obtain ⟨q, hbefore, rfl⟩ := component_split hrun
  exact ((follows_run hbefore).poll observed).2

/-- Polling debounces any list of observations. -/
theorem power_notify_debounces (observations : List Bool) :
    Debounces observations (polls observations) (after observations) := by
  have hinputs : (polls observations).map Prod.fst = observations := feed_inputs _ _ _
  have hfollows := follows_run (run_polls observations)
  rw [seen, hinputs] at hfollows
  refine
    { polled := hinputs
      notifies := fun before observed notify later h => changes_of_polls h
      after_five := fun before observed later h => ((changes_of_polls h).mp rfl).run.1
      notified := hfollows.1
      streak := hfollows.2
      streak_lt := hfollows.streak_lt
      alternates := fun first hfirst => ?_ }
  have halternating := alternating_run (run_polls observations)
  exact (halternating first (by rwa [hinputs])).1

end PcRemote.Battery
