import PcRemote.BridgeServer

/-! From the request to the executor. Whatever the other requests, the audit log and the
executors do, an executor runs only for a command that was routed, verified, confirmed and
put on record first, and once. -/
namespace PcRemote.BridgeServer
open Text Signing BridgeAuth Transition

variable {ι : Type*} [DecidableEq ι]

def Event.executes (i : ι) : Event ι → Bool
  | .run j calls => j = i && !calls.isEmpty
  | _ => false

/-- The request an event belongs to. -/
def Event.owner : Event ι → ι
  | .route i | .missingHeader i | .verify i .. | .serve i _ | .audit i .. | .run i _
  | .crash i => i

/-- The executor that belongs to an action. -/
def executorCall : PowerAction → ExecutorCall
  | .reboot => .shutdown ["/r", "/t", "0"]
  | .shutdown => .shutdown ["/s", "/t", "0"]
  | .sleep => .suspend

lemma runPowerAction_calls (action : PowerAction) (dryRun : Bool)
    (executor : Except String Unit) : (runPowerAction action dryRun executor).1 =
      if dryRun then [] else [executorCall action] := by
  cases action <;> cases dryRun <;> rfl

lemma routeOf_command {path : String} {action : PowerAction}
    (h : routeOf path = some (.command action)) : path = action.path := by
  unfold routeOf at h
  split_ifs at h
  · simp at h
  · simp at h
  · simp at h
  · obtain ⟨a, ha, hroute⟩ := Option.map_eq_some_iff.mp h
    obtain rfl := Route.command.inj hroute
    have hfound := List.find?_some ha
    simpa using (beq_iff_eq.mp hfound).symm

/-- A command handler runs only for a POST to the path of its action. -/
lemma dispatch_command {r : HttpRequest} {action : PowerAction}
    (h : dispatch r = .inr (.command action)) : r.method = "POST" ∧ r.path = action.path := by
  unfold dispatch at h
  cases hroute : routeOf r.path with
  | none => simp [hroute] at h
  | some route =>
    by_cases hallows : route.allows r.method = true
    · simp only [hroute, hallows, not_true_eq_false, if_false] at h
      cases route with
      | command a =>
        dsimp only at h
        split_ifs at h
        obtain rfl := Route.command.inj (Sum.inr.inj h)
        exact ⟨by simpa [Route.allows] using hallows, routeOf_command hroute⟩
      | _ => simp at h
    · simp [hroute, hallows] at h

lemma authRequest_eq {r : HttpRequest} {body : List UInt8} {request : Request}
    (h : authRequest r body = .ok request) :
    request.method = r.method ∧ request.path = r.path ∧ request.body = body ∧
      headerStr r.headers "x-nonce" = .ok request.nonce := by
  unfold authRequest at h
  cases htimestamp : headerStr r.headers "x-timestamp" with
  | error e => simp [htimestamp, bind, Except.bind] at h
  | ok text =>
    cases hparse : parseI64 text with
    | none => simp [htimestamp, hparse, bind, Except.bind] at h
    | some t =>
      cases hnonce : headerStr r.headers "x-nonce" with
      | error e => simp [htimestamp, hparse, hnonce, bind, Except.bind] at h
      | ok nonce =>
        cases hsignature : headerStr r.headers "x-signature" with
        | error e => simp [htimestamp, hparse, hnonce, hsignature, bind, Except.bind] at h
        | ok signature =>
          simp only [htimestamp, hparse, hnonce, hsignature, bind, Except.bind, pure,
            Except.pure, Except.ok.injEq] at h
          subst h
          exact ⟨rfl, rfl, rfl, rfl⟩

section Trace
variable (C : Crypto) (commandRequest : List UInt8 → Option Bool) (config : ServerConfig)
  (req : ι → HttpRequest)

/-- The request is a confirmed command for the action. -/
def Confirmed (i : ι) (action : PowerAction) : Prop :=
  (req i).method = "POST" ∧ (req i).path = action.path ∧ commandRequest (req i).body = some true

/-- What was verified is the request itself, as a command for the action. -/
def Covers (i : ι) (action : PowerAction) (request : Request) : Prop :=
  request.method = "POST" ∧ request.path = action.path ∧ request.body = (req i).body

def Verified (i : ι) (action : PowerAction) (es : List (Event ι)) : Prop :=
  ∃ before request now after, es = before ++ .verify i request now (.ok ()) :: after ∧
    Covers req i action request

def Logged (i : ι) (action : PowerAction) (es : List (Event ι)) : Prop :=
  ∃ before request now middle after,
    es = before ++ .verify i request now (.ok ()) :: middle ++
      .audit i action.slug config.dryRun "accepted" true :: after ∧ Covers req i action request

/-- What must have happened for the task of a request to be where it is. -/
def Reached (es : List (Event ι)) (i : ι) : Task → Prop
  | .received | .serving => es.countP (Event.executes i) = 0
  | .routed route => es.countP (Event.executes i) = 0 ∧ dispatch (req i) = .inr route
  | .accepted action => es.countP (Event.executes i) = 0 ∧
      Confirmed commandRequest req i action ∧ Verified req i action es
  | .logged action => es.countP (Event.executes i) = 0 ∧
      Confirmed commandRequest req i action ∧ Logged config req i action es
  | .ran .. | .finished => es.countP (Event.executes i) ≤ 1

variable {C commandRequest config req}

lemma countP_executes_snoc (es : List (Event ι)) (e : Event ι) (i : ι) :
    (es ++ [e]).countP (Event.executes i) =
      es.countP (Event.executes i) + if e.executes i then 1 else 0 := by
  simp [List.countP_append]

lemma executes_of_owner_ne {e : Event ι} {i : ι} (h : e.owner ≠ i) : e.executes i = false := by
  cases e with
  | run j calls => simpa [Event.executes, Event.owner] using fun hj => absurd hj h
  | _ => rfl

omit [DecidableEq ι] in
lemma Verified.snoc {i : ι} {action : PowerAction} {es : List (Event ι)}
    (h : Verified req i action es) (e : Event ι) : Verified req i action (es ++ [e]) := by
  obtain ⟨before, request, now, after, rfl, hc⟩ := h
  exact ⟨before, request, now, after ++ [e], by simp, hc⟩

omit [DecidableEq ι] in
lemma Logged.snoc {i : ι} {action : PowerAction} {es : List (Event ι)}
    (h : Logged config req i action es) (e : Event ι) :
    Logged config req i action (es ++ [e]) := by
  obtain ⟨before, request, now, middle, after, rfl, hc⟩ := h
  exact ⟨before, request, now, middle, after ++ [e], by simp, hc⟩

/-- An event that runs no executor for the request leaves what it has reached. -/
lemma Reached.snoc {i : ι} {es : List (Event ι)} {task : Task} {e : Event ι}
    (h : Reached commandRequest config req es i task) (he : e.executes i = false) :
    Reached commandRequest config req (es ++ [e]) i task := by
  have hcount : (es ++ [e]).countP (Event.executes i) = es.countP (Event.executes i) := by
    rw [countP_executes_snoc, he]
    rfl
  cases task with
  | received => exact hcount.trans h
  | serving => exact hcount.trans h
  | routed route => exact ⟨hcount.trans h.1, h.2⟩
  | accepted action => exact ⟨hcount.trans h.1, h.2.1, h.2.2.snoc e⟩
  | logged action => exact ⟨hcount.trans h.1, h.2.1, h.2.2.snoc e⟩
  | ran action result => exact hcount.le.trans h
  | finished => exact hcount.le.trans h

lemma Reached.count_le {i : ι} {es : List (Event ι)} {task : Task}
    (h : Reached commandRequest config req es i task) : es.countP (Event.executes i) ≤ 1 := by
  cases task with
  | ran => exact h
  | finished => exact h
  | received => exact Nat.le_of_eq (h : _ = 0) |>.trans (by omega)
  | serving => exact Nat.le_of_eq (h : _ = 0) |>.trans (by omega)
  | routed => exact Nat.le_of_eq h.1 |>.trans (by omega)
  | accepted => exact Nat.le_of_eq h.1 |>.trans (by omega)
  | logged => exact Nat.le_of_eq h.1 |>.trans (by omega)

/-- A request whose task is not under way yet has run nothing, and stays so. -/
lemma Reached.finished_of_zero {i : ι} {es : List (Event ι)} {e : Event ι}
    (h : es.countP (Event.executes i) = 0) (he : e.executes i = false) :
    Reached commandRequest config req (es ++ [e]) i .finished := by
  have hcount := countP_executes_snoc es e i
  simp only [h, he] at hcount
  exact hcount.le.trans (Nat.zero_le 1)

lemma State.respond_task (s : State ι) (i : ι) (r : Response) :
    (s.respond i r).task = Function.update s.task i .finished := rfl

lemma State.become_task (s : State ι) (i : ι) (task : Task) :
    (s.become i task).task = Function.update s.task i task := rfl

/-- The tasks after an event: the owner's task may change, no other does. -/
lemma reached_update {es : List (Event ι)} {task : ι → Task} {next : Task} (e : Event ι)
    (h : ∀ j, Reached commandRequest config req es j (task j))
    (hnext : Reached commandRequest config req (es ++ [e]) e.owner next) (j : ι) :
    Reached commandRequest config req (es ++ [e]) j (Function.update task e.owner next j) := by
  by_cases hj : j = e.owner
  · subst hj
    rw [Function.update_self]
    exact hnext
  · rw [Function.update_of_ne hj]
    exact (h j).snoc (executes_of_owner_ne fun ho => hj ho.symm)

/-- Verification by itself runs nothing; it opens the way to the handler or ends the task. -/
lemma reached_afterVerify {es : List (Event ι)} {s : State ι} {i : ι} {route : Route}
    {request : Request} {now : ℤ} {result : Except AuthError Unit}
    (h : ∀ j, Reached commandRequest config req es j (s.task j))
    (hp : s.task i = .routed route)
    (hh : authRequest (req i) (route.signedBody (req i)) = .ok request) (j : ι) :
    Reached commandRequest config req (es ++ [.verify i request now result]) j
      ((afterVerify commandRequest s i (req i) route result).task j) := by
  have hi := h i
  rw [hp] at hi
  have hnone : Reached commandRequest config req (es ++ [.verify i request now result]) i
      .finished := Reached.finished_of_zero hi.1 rfl
  have hzero : (es ++ [Event.verify i request now result]).countP (Event.executes i) = 0 :=
    (countP_executes_snoc es _ i).trans hi.1
  have hserving : Reached commandRequest config req
      (es ++ [.verify i request now result]) i .serving := hzero
  cases result with
  | error e => exact reached_update (.verify i request now _) h hnone j
  | ok =>
    cases route with
    | command action =>
      simp only [afterVerify]
      cases hbody : commandRequest (req i).body with
      | none => exact reached_update (.verify i request now _) h hnone j
      | some confirm =>
        cases confirm with
        | false => exact reached_update (.verify i request now _) h hnone j
        | true =>
          have hdispatch := dispatch_command hi.2
          have hrequest := authRequest_eq hh
          apply reached_update (.verify i request now _) h
          refine ⟨hzero, ⟨hdispatch.1, hdispatch.2, hbody⟩, es, request, now, [], rfl, ?_⟩
          exact ⟨hrequest.1.trans hdispatch.1, hrequest.2.1.trans hdispatch.2, hrequest.2.2.1⟩
    | status => exact reached_update (.verify i request now _) h hserving j
    | firmwareManifest => exact reached_update (.verify i request now _) h hserving j
    | firmware => exact reached_update (.verify i request now _) h hserving j

/-- Only a written acceptance lets the command go on to its executor. -/
lemma reached_afterAudit {es : List (Event ι)} {s : State ι} {i : ι} {action : PowerAction}
    {written : Bool} (h : ∀ j, Reached commandRequest config req es j (s.task j))
    (hp : s.task i = .accepted action) (j : ι) :
    Reached commandRequest config req
      (es ++ [.audit i action.slug config.dryRun "accepted" written]) j
      ((afterAudit config.dryRun s i action written).task j) := by
  have hi := h i
  rw [hp] at hi
  obtain ⟨hzero, hconfirmed, before, request, now, after, hes, hcovers⟩ := hi
  have hnone : Reached commandRequest config req
      (es ++ [.audit i action.slug config.dryRun "accepted" written]) i .finished :=
    Reached.finished_of_zero hzero rfl
  cases written with
  | false => exact reached_update (.audit i _ _ _ _) h hnone j
  | true =>
    have hlogged : Reached commandRequest config req
        (es ++ [.audit i action.slug config.dryRun "accepted" true]) i (.logged action) := by
      refine ⟨(countP_executes_snoc es _ i).trans hzero, hconfirmed, before, request, now,
        after, [], ?_, hcovers⟩
      rw [hes]
    simp only [afterAudit, not_true_eq_false, if_false]
    by_cases hsleep : action = .sleep
    · subst hsleep
      simp only [if_true]
      cases hdry : config.dryRun with
      | true =>
        rw [hdry] at hnone
        exact reached_update (.audit i _ _ _ _) h hnone j
      | false =>
        rw [hdry] at hlogged
        simp only [Bool.false_eq_true, if_false, State.become_task, State.respond_task,
          Function.update_idem]
        exact reached_update (.audit i _ _ _ _) h hlogged j
    · simp only [hsleep, if_false]
      exact reached_update (.audit i _ _ _ _) h hlogged j

/-- One step: whatever the event, every request stays where its task says. -/
lemma reached_step {es : List (Event ι)} {s t : State ι} {e : Event ι}
    (hs : Step C commandRequest config req s e t)
    (h : ∀ j, Reached commandRequest config req es j (s.task j)) (j : ι) :
    Reached commandRequest config req (es ++ [e]) j (t.task j) := by
  cases hs with
  | @respond i response hp hd =>
    have hi := h i
    rw [hp] at hi
    have hzero : es.countP (Event.executes i) = 0 := hi
    exact reached_update (.route i) h (Reached.finished_of_zero hzero rfl) j
  | @route i route hp hd =>
    have hi := h i
    rw [hp] at hi
    have hrouted : Reached commandRequest config req (es ++ [.route i]) i (.routed route) :=
      ⟨(countP_executes_snoc es _ i).trans hi, hd⟩
    exact reached_update (.route i) h hrouted j
  | @missingHeader i route e hp hh =>
    have hi := h i
    rw [hp] at hi
    have hzero : es.countP (Event.executes i) = 0 := hi.1
    exact reached_update (.missingHeader i) h (Reached.finished_of_zero hzero rfl) j
  | @verify i route request now nonces result hp hh hv =>
    have h' : ∀ j, Reached commandRequest config req es j ({ s with nonces := nonces }.task j) := h
    exact reached_afterVerify h' hp hh j
  | @serve i outcome hp =>
    have hi := h i
    rw [hp] at hi
    have hzero : es.countP (Event.executes i) = 0 := hi
    exact reached_update (.serve i outcome) h (Reached.finished_of_zero hzero rfl) j
  | audit hp => exact reached_afterAudit h hp j
  | @run i action executor hp =>
    have hi := h i
    rw [hp] at hi
    apply reached_update (.run i _) h
    change (es ++ _).countP (Event.executes i) ≤ 1
    rw [countP_executes_snoc, hi.1]
    split <;> omega
  | @auditResult i action result written hp =>
    have hi : es.countP (Event.executes i) ≤ 1 := (h i).count_le
    apply reached_update (.audit i _ _ _ _) h
    exact (countP_executes_snoc es _ i).le.trans hi
  | @crash i hp =>
    have hi : es.countP (Event.executes i) ≤ 1 := (h i).count_le
    apply reached_update (.crash i) h
    exact (countP_executes_snoc es _ i).le.trans hi

theorem reached_run {es : List (Event ι)} {s : State ι}
    (h : (server C commandRequest config req).Run .start es s) (j : ι) :
    Reached commandRequest config req es j (s.task j) :=
  h.history (J := fun es (s : State ι) => ∀ j, Reached commandRequest config req es j (s.task j))
    (fun _ _ _ _ hst hJ => reached_step hst hJ) (fun _ => List.countP_nil) j

/-- An executor event is a single call of the executor of the command, not in a dry run. -/
lemma run_event {s t : State ι} {i : ι} {calls : List ExecutorCall}
    (h : Step C commandRequest config req s (.run i calls) t) (hne : calls ≠ []) :
    ∃ action, s.task i = .logged action ∧ config.dryRun = false ∧
      calls = [executorCall action] := by
  cases h with
  | @run _ action executor hp =>
    refine ⟨action, hp, ?_⟩
    rw [runPowerAction_calls] at hne ⊢
    cases hdry : config.dryRun with
    | true => simp [hdry] at hne
    | false => exact ⟨rfl, rfl⟩

/-- Executors run for authorised requests alone, one executor each, once. -/
theorem executors_authorised {es : List (Event ι)} {s : State ι}
    (h : (server C commandRequest config req).Run .start es s) :
    (∀ i, es.countP (Event.executes i) ≤ 1) ∧
    ∀ pre i calls post, es = pre ++ .run i calls :: post → calls ≠ [] →
      ∃ action, calls = [executorCall action] ∧ config.dryRun = false ∧
        (req i).method = "POST" ∧ (req i).path = action.path ∧
        commandRequest (req i).body = some true ∧
        ∃ before request now middle after u,
          pre = before ++ .verify i request now (.ok ()) :: middle ++
            .audit i action.slug config.dryRun "accepted" true :: after ∧
          request.method = "POST" ∧ request.path = action.path ∧
          request.body = (req i).body ∧
          (server C commandRequest config req).Run .start before u ∧
          (verifyRequest C config.auth u.nonces request now).2 = .ok () := by
  refine ⟨fun i => (reached_run h i).count_le, ?_⟩
  rintro pre i calls post rfl hne
  obtain ⟨t, t', hpre, hstep, hpost⟩ := h.split
  obtain ⟨action, htask, hdry, hcalls⟩ := run_event hstep hne
  have hreached := reached_run hpre i
  rw [htask] at hreached
  obtain ⟨hzero, ⟨hmethod, hpath, hbody⟩, before, request, now, middle, after, hes, hcovers⟩ :=
    hreached
  have hverified : pre = before ++
      .verify i request now (.ok ()) :: (middle ++
        .audit i action.slug config.dryRun "accepted" true :: after) := by
    rw [hes]
    simp
  rw [hverified] at hpre
  obtain ⟨u, u', hbefore, hverify, hrest⟩ := hpre.split
  have haccepted : (verifyRequest C config.auth u.nonces request now).2 = .ok () := by
    cases hverify with
    | verify hp hh hv => rw [hv]
  exact ⟨action, hcalls, hdry, hmethod, hpath, hbody, before, request, now, middle, after, u,
    hes, hcovers.1, hcovers.2.1, hcovers.2.2, hbefore, haccepted⟩

end Trace

section SignedReboot
variable (C : Crypto)

def rebootBody : List UInt8 := utf8 "\x7b\"confirm\":true\x7d"

def liveConfig : ServerConfig := ⟨⟨utf8 "secret", 60⟩, false⟩

def signedReboot : Request :=
  ⟨"POST", "/reboot", 100, "n1", rebootBody,
    signRequest C liveConfig.auth.secret "POST" "/reboot" 100 "n1" rebootBody⟩

def rebootRequest : HttpRequest where
  method := "POST"
  path := "/reboot"
  headers := [("x-timestamp", utf8 "100"), ("x-nonce", utf8 "n1"),
    ("x-signature", utf8 (signedReboot C).signatureHex)]
  body := rebootBody

def confirmsReboot (body : List UInt8) : Option Bool :=
  if body = rebootBody then some true else none

def rebootEvents : List (Event Unit) :=
  [.route (), .verify () (signedReboot C) 100 (.ok ()), .audit () "reboot" false "accepted" true,
    .run () [.shutdown ["/r", "/t", "0"]], .audit () "reboot" false "ok" true]

lemma authRequest_rebootRequest (C : Crypto) (hne : (signedReboot C).signatureHex ≠ "") :
    authRequest (rebootRequest C) rebootBody = .ok (signedReboot C) := by
  have htimestamp : headerStr (rebootRequest C).headers "x-timestamp" = .ok "100" :=
    headerStr_cons_self (by simp [isGraphic]) (by decide)
  have hnonce : headerStr (rebootRequest C).headers "x-nonce" = .ok "n1" := by
    rw [rebootRequest, headerStr_cons_of_ne (by decide)]
    exact headerStr_cons_self (by simp [isGraphic]) (by decide)
  have hsignature : headerStr (rebootRequest C).headers "x-signature" =
      .ok (signedReboot C).signatureHex := by
    rw [rebootRequest, headerStr_cons_of_ne (by decide), headerStr_cons_of_ne (by decide)]
    exact headerStr_cons_self (fun c hc => isGraphic_of_mem_hexEncode hc) hne
  simp only [authRequest, htimestamp, hnonce, hsignature]
  rfl

lemma verifyRequest_signedReboot (C : Crypto) :
    verifyRequest C liveConfig.auth ∅ (signedReboot C) 100 =
      (AList.insert "n1" 100 ∅, .ok ()) := by
  have hs : signatureValid C liveConfig.auth (signedReboot C) = true :=
    verifySignature_signRequest C _ _ _ _ _ _
  have hw : withinSkew liveConfig.auth.allowedSkewSeconds 100 (signedReboot C).timestamp =
      true := by
    change withinSkew 60 100 100 = true
    decide
  have hinsert : insertOnce ∅ (signedReboot C).nonce (signedReboot C).timestamp 100
      liveConfig.auth.allowedSkewSeconds = (AList.insert "n1" 100 ∅, true) := by
    change insertOnce ∅ "n1" 100 100 60 = (AList.insert "n1" 100 ∅, true)
    rfl
  simp only [verifyRequest, hw, hs, hinsert, not_true_eq_false, if_false, if_true]

lemma signedReboot_signatureHex_ne : (signedReboot .standard).signatureHex ≠ "" := by
  intro h
  have hlength : (signedReboot .standard).signatureHex.toList.length = 2 * 32 :=
    (length_hexEncode _).trans (congrArg (2 * ·) (Sha256.length_digest _))
  rw [h] at hlength
  simp at hlength

lemma run_rebootEvents : ∃ s, (server .standard confirmsReboot liveConfig
    fun _ => rebootRequest .standard).Run .start (rebootEvents .standard) s := by
  let routed : State Unit := State.start.become () (.routed (.command .reboot))
  let verified : State Unit := ⟨AList.insert "n1" 100 ∅, routed.task, routed.response⟩
  let step := Step .standard confirmsReboot liveConfig fun _ : Unit => rebootRequest .standard
  have hroute : step .start (.route ()) routed := .route rfl rfl
  have hverify : step routed (.verify () (signedReboot .standard) 100 (.ok ()))
      (verified.become () (.accepted .reboot)) := by
    have hv : step routed (.verify () (signedReboot .standard) 100 (.ok ()))
        (afterVerify confirmsReboot verified () (rebootRequest .standard) (.command .reboot)
          (.ok ())) :=
      .verify rfl (authRequest_rebootRequest .standard signedReboot_signatureHex_ne)
        (verifyRequest_signedReboot .standard)
    have hconfirm : confirmsReboot (rebootRequest .standard).body = some true := if_pos rfl
    rwa [afterVerify, hconfirm] at hv
  have haudit : step (verified.become () (.accepted .reboot))
      (.audit () "reboot" false "accepted" true)
      ((verified.become () (.accepted .reboot)).become () (.logged .reboot)) :=
    @Step.audit _ _ _ _ _ _ _ () .reboot true rfl
  have hrun : step ((verified.become () (.accepted .reboot)).become () (.logged .reboot))
      (.run () [.shutdown ["/r", "/t", "0"]]) _ :=
    @Step.run _ _ _ _ _ _ _ _ .reboot (.ok ()) rfl
  exact ⟨_, .cons hroute (.cons hverify (.cons haudit (.cons hrun (.one
    (@Step.auditResult _ _ _ _ _ _ _ _ .reboot (.ok _) true rfl)))))⟩

/-- A signed, confirmed reboot, which runs its executor once. -/
theorem executors_authorised_reboot :
    (∀ i, (rebootEvents .standard).countP (Event.executes i) ≤ 1) ∧
      ∃ before request now middle after u,
        (rebootEvents .standard).take 3 = before ++ .verify () request now (.ok ()) :: middle ++
          .audit () "reboot" false "accepted" true :: after ∧
        (server .standard confirmsReboot liveConfig fun _ => rebootRequest .standard).Run .start
          before u ∧
        (verifyRequest .standard liveConfig.auth u.nonces request now).2 = .ok () := by
  obtain ⟨s, hrun⟩ := run_rebootEvents
  have hauthorised := executors_authorised hrun
  refine ⟨hauthorised.1, ?_⟩
  obtain ⟨action, hcalls, -, -, -, -, before, request, now, middle, after, u, hpre, -, -, -,
    hbefore, haccepted⟩ := hauthorised.2 ((rebootEvents .standard).take 3) ()
      [.shutdown ["/r", "/t", "0"]] [.audit () "reboot" false "ok" true] rfl (by simp)
  have haction : action = .reboot := by
    revert hcalls
    cases action <;> decide
  subst haction
  exact ⟨before, request, now, middle, after, u, hpre, hbefore, haccepted⟩

end SignedReboot

end PcRemote.BridgeServer
