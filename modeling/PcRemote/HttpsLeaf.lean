import PcRemote.FirmwareLocks
import PcRemote.LockLeaf

/-! The mutex of the HTTPS connection is meant to be a leaf lock. It is one but for the progress
messages of a firmware update, which are edited while the power lock is held. -/
namespace PcRemote.FirmwareLocks
open LockOrder LockOrder.Prog

lemma exec_postJson {t : List (Event Mutex)} {x : Exit} (h : Exec postJson t x) :
    t = [] ∧ x = .panic ∨ ∃ u, t = .acquire .https :: u := by
  cases h with
  | call h =>
    cases h with
    | guard | guardStop => exact .inr ⟨_, rfl⟩
    | panic => exact .inl ⟨rfl, rfl⟩
  | panic => exact .inl ⟨rfl, rfl⟩

lemma exec_editMessageText {t : List (Event Mutex)} {x : Exit} (h : Exec editMessageText t x) :
    t = [] ∧ x = .panic ∨ ∃ u, t = .acquire .https :: u := by
  cases h with
  | call h =>
    rcases exec_postJson h with ⟨rfl, rfl⟩ | hsends
    · exact .inl ⟨rfl, rfl⟩
    · exact .inr hsends
  | panic => exact .inl ⟨rfl, rfl⟩

/-- It returns at once, or it panics, or it takes the mutex of the connection first. -/
lemma exec_editProgressMessage {t : List (Event Mutex)} {x : Exit}
    (h : Exec editProgressMessage t x) :
    t = [] ∧ (x = .done ∨ x = .panic) ∨ ∃ u, t = .acquire .https :: u := by
  cases h with
  | panic => exact .inl ⟨rfl, .inr rfl⟩
  | call h =>
    cases h with
    | panic => exact .inl ⟨rfl, .inr rfl⟩
    | seqExit hquestion =>
      cases hquestion with
      | panic => exact .inl ⟨rfl, .inr rfl⟩
      | left h =>
        cases h with
        | ret => exact .inl ⟨rfl, .inl rfl⟩
        | panic => exact .inl ⟨rfl, .inr rfl⟩
      | right h => cases h <;> simp_all [Exit.returned]
    | seq hquestion hrest =>
      cases hquestion with
      | left h => cases h
      | right h =>
        cases h with
        | skip =>
          cases hrest with
          | panic => exact .inl ⟨rfl, .inr rfl⟩
          | seqExit hedit =>
            rcases exec_editMessageText hedit with ⟨rfl, rfl⟩ | hsends
            · exact .inl ⟨rfl, .inr rfl⟩
            · exact .inr hsends
          | seq hedit hskip =>
            rcases exec_editMessageText hedit with ⟨rfl, hpanic⟩ | ⟨u, rfl⟩
            · cases hpanic
            · exact .inr ⟨_, rfl⟩

/-- Under the power lock it can do nothing, where the mutex of the connection is a leaf. -/
lemma exec_skip_of_leaf {held : List Mutex} {t : List (Event Mutex)} {x : Exit}
    (hpower : .power ∈ held) (h : Exec editProgressMessage t x)
    (ht : Respects (LeafAllowed .https) held t) : Exec .skip t x := by
  rcases exec_editProgressMessage h with ⟨rfl, rfl | rfl⟩ | ⟨u, rfl⟩
  · exact .skip
  · exact .panic _
  · exact absurd ((ht.1 .power hpower).mpr rfl) (by decide)

/-- The progress message is edited under the power lock only. -/
lemma program_callsUnder (i : Thread) :
    editProgressMessage.callsUnder .power (program i) = true := by
  cases i <;> decide

lemma program_leaf (i : Thread) :
    (editProgressMessage.skipping (program i)).check (enterLeaf .https) [] = true := by
  cases i <;> decide

/-- No thread takes a mutex that it holds. -/
lemma program_free {i : Thread} {t : List (Event Mutex)} {x : Exit} (h : Exec (program i) t x) :
    Respects (fun held l => l ∉ held) [] t := by
  have hordered := h.ordered (program_ordered i) fun k hk => absurd hk List.not_mem_nil
  apply (ordered_iff.mp hordered).mono
  intro held l hbelow hl
  exact Nat.lt_irrefl _ (hbelow l hl)

/-- The mutex of the HTTPS connection is a leaf lock, whatever the threads do and however they
interleave, exactly if no progress message is edited in the course of a firmware update. -/
theorem https_leaf_iff {traces : Thread → List (Event Mutex)}
    (hexec : ∀ i, ∃ x, Exec (program i) (traces i) x) :
    (∀ es s, (threads Thread Mutex).Run (start traces) es s → Leaf .https s) ↔
      ∀ i, ∃ x, Exec (editProgressMessage.skipping (program i)) (traces i) x := by
  rw [leaf_iff fun i => (hexec i).elim fun _ hx => program_free hx]
  constructor
  · intro h i
    obtain ⟨x, hx⟩ := hexec i
    exact ⟨x, hx.skipping exec_skip_of_leaf (.inl (program_callsUnder i)) (h i)⟩
  · intro h i
    obtain ⟨x, hx⟩ := h i
    exact hx.respects (enterLeaf_sound .https) (program_leaf i) rfl

def used (m : Mutex) : List (Event Mutex) := [.acquire m, .release m]

lemma exec_past {p q r : Prog Mutex} {t : List (Event Mutex)} (h : Exec p t .panic) :
    Exec (.seq (.choice q .skip) (.seq p r)) t .panic :=
  .seq (.right .skip) (.seqExit h (by decide))

lemma exec_rootCaUsed : Exec ensureRootCa (used .rootCa) .done :=
  .call (.guard (.seq (.right .skip) (.seq (.right .skip) .skip)) (by decide))

lemma exec_postJsonUsed : Exec postJson (used .https) .panic :=
  .call (.guard (.panic _) (by decide))

/-- The notifier sends a message, and the polling thread asks for the root certificates. -/
def sendingTraces : Thread → List (Event Mutex)
  | .ui => []
  | .polling => used .rootCa
  | .notifier => used .rootCa ++ used .https

lemma exec_sendingTraces (i : Thread) : ∃ x, Exec (program i) (sendingTraces i) x := by
  cases i with
  | ui | polling => exact exec_waitingTraces _
  | notifier =>
    have hbody : Exec (block [question, option pcIpAddress, ensureRootCa, option .next,
        option sendMessage, dueReport, option sendMessage])
        ([] ++ ([] ++ (used .rootCa ++ used .https))) .panic :=
      .seq (.right .skip) (.seq (.right .skip) (.seq exec_rootCaUsed
        (exec_past (.left (.call exec_postJsonUsed)))))
    exact ⟨_, .call (.loopExit hbody (by decide))⟩

def sendingState : Thread → ThreadState Mutex :=
  Function.update (start sendingTraces) .notifier ⟨[.https], [.release .https]⟩

lemma run_sendingState : (threads Thread Mutex).Run (start sendingTraces)
    ((used .rootCa ++ [Event.acquire Mutex.https]).map (Prod.mk .notifier)) sendingState := by
  obtain ⟨x, hx⟩ := exec_sendingTraces .notifier
  have hfree : Respects (fun held l => l ∉ held) []
      ((used .rootCa ++ [.acquire .https]) ++ [.release .https]) := program_free hx
  exact lone_run rfl (fun j _ => rfl) (respects_append.mp hfree).1

/-- The mutex of the connection is a leaf lock while the notifier sends. -/
theorem https_leaf_iff_sending : Leaf .https sendingState := by
  refine (https_leaf_iff exec_sendingTraces).mpr (fun i => ?_) _ _ run_sendingState
  obtain ⟨x, hx⟩ := exec_sendingTraces i
  have hleaf : Respects (LeafAllowed .https) [] (sendingTraces i) := by
    cases i <;> simp [sendingTraces, used, Respects, LeafAllowed]
  exact ⟨x, hx.skipping exec_skip_of_leaf (.inl (program_callsUnder i)) hleaf⟩

/-! The polling thread reports the progress of an update that was confirmed with a message. -/

def updating : List (Event Mutex) :=
  .acquire .power :: (used .settings ++ (used .https ++ [.release .power]))

lemma exec_pcIpAddress : Exec pcIpAddress (used .settings) .done :=
  .call (.guard .skip (by decide))

lemma exec_onProgress : Exec onProgress (used .https) .panic := by
  have hedit : Exec editProgressMessage (used .https) .panic :=
    .call (exec_past (.call exec_postJsonUsed))
  exact .call (exec_past hedit)

lemma exec_runOtaUpdate : Exec runOtaUpdate updating .panic := by
  have hread : Exec (.loop (block [question, option onProgress])) (used .https) .panic :=
    .loopExit (exec_past (.left exec_onProgress)) (by decide)
  have hdownload : Exec (downloadAndFlash onProgress onApplying) (used .https) .panic :=
    .call (exec_past (.call (exec_past hread)))
  have hota : Exec (Ota.runOtaUpdate onProgress onApplying) (used .https) .panic :=
    .call (.seqExit hdownload (by decide))
  exact .call (.guard (.seq exec_pcIpAddress (.seqExit hota (by decide))) (by decide))

lemma exec_executeConfirmedOtaUpdate :
    Exec executeConfirmedOtaUpdate (used .settings ++ (used .https ++ updating)) .panic := by
  have hsend : Exec sendMessageReturningId (used .https) .done :=
    .call (.guard (.seq (.right .skip) (.seq .loopEnd (.seq (.right .skip) .skip))) (by decide))
  have hexecute : Exec executeOtaUpdate (used .https ++ updating) .panic :=
    .call (.seq (.left hsend) (.seqExit exec_runOtaUpdate (by decide)))
  exact .call (.seq exec_pcIpAddress (.seqExit (.left hexecute) (by decide)))

lemma exec_handleMessage :
    Exec handleMessage (used .settings ++ (used .https ++ updating)) .panic := by
  have hconfirmation : Exec handleUpdateConfirmation
      (used .settings ++ (used .https ++ updating)) .panic :=
    .call (exec_past exec_executeConfirmedOtaUpdate)
  have hdispatch : Exec dispatchCommand (used .settings ++ (used .https ++ updating)) .panic :=
    .call (exec_past (.right (.right (.right (.right (.right (.right (.right (.right
      (.left hconfirmation))))))))))
  exact .call (.seq (.right .skip) (.seq (.right .skip) (exec_past hdispatch)))

/-- What the polling thread does before the report, and the report. -/
def beforeReport : List (Event Mutex) :=
  used .rootCa ++ used .state ++ used .https ++ used .settings ++ used .https ++
    .acquire .power :: used .settings

def reportTraces : Thread → List (Event Mutex)
  | .ui | .notifier => []
  | .polling => beforeReport ++ .acquire .https :: [.release .https, .release .power]

lemma exec_reportTraces (i : Thread) : ∃ x, Exec (program i) (reportTraces i) x := by
  cases i with
  | ui | notifier => exact ⟨_, .panic _⟩
  | polling =>
    have hstate : Exec lockState (used .state) .done := .guard .skip (by decide)
    have hprocess : Exec processUpdates (used .settings ++ (used .https ++ updating)) .panic :=
      .call (exec_past (.loopExit (exec_past (.left exec_handleMessage)) (by decide)))
    have hreceive : Exec (.guard .https (block [question, .loop question])) (used .https) .done :=
      .guard (.seq (.right .skip) (.seq .loopEnd .skip)) (by decide)
    have hpoll : Exec pollOnce
        (used .https ++ (used .settings ++ (used .https ++ updating))) .panic :=
      .call (.seq hreceive (exec_past hprocess))
    have hloop : Exec (.loop (block [pollOnce, branch [lockState, lockState]]))
        (used .https ++ (used .settings ++ (used .https ++ updating))) .panic :=
      .loopExit (.seqExit hpoll (by decide)) (by decide)
    have hrun : Exec run (used .rootCa ++ (used .state ++
        (used .https ++ (used .settings ++ (used .https ++ updating))))) .panic :=
      .call (.seq exec_rootCaUsed (.seq (.right .skip) (.seq hstate (.seqExit hloop (by decide)))))
    exact ⟨_, hrun⟩

def reportState : Thread → ThreadState Mutex :=
  Function.update (start reportTraces) .polling
    ⟨[.power], .acquire .https :: [.release .https, .release .power]⟩

lemma reachable_reportState : Reachable program reportState := by
  refine ⟨reportTraces, beforeReport.map (Prod.mk .polling), exec_reportTraces, ?_⟩
  obtain ⟨x, hx⟩ := exec_reportTraces .polling
  exact lone_run rfl (fun j _ => rfl) (respects_append.mp (program_free hx)).1

/-- The progress of a firmware update is reported under the power lock. -/
theorem https_not_leaf : ¬ ∀ s, Reachable program s → Leaf .https s := by
  intro h
  have hleaf := h _ reachable_reportState .polling .https [.release .https, .release .power] rfl
    .power (by decide)
  exact absurd (hleaf.mpr rfl) (by decide)

end PcRemote.FirmwareLocks
