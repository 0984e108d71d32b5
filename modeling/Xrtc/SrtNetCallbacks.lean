import Xrtc.SrtNetHistory

/-!
# The callbacks of a session

Every callback belongs to the session that is running, and an object that has
been stopped calls nothing back.  A client session calls back about its own
socket only: messages first, and at most one report behind them.
-/

namespace SrtNet

/-! ## One session at a time -/

/-- The mode in which a callback is invoked. -/
def Event.mode : Event → Option Mode
  | .clientConnected _ _ => some .server
  | .received mode _ _ => some mode
  | .clientDisconnected mode _ _ => some mode
  | _ => none

/-- The mode of the newest session in a history. -/
def newestMode : List Event → Mode
  | [] => .unknown
  | .sessionStart mode :: _ => mode
  | _ :: rest => newestMode rest

/-- Every callback was invoked in the mode of the session before it. -/
def Bracketed : List Event → Prop
  | [] => True
  | e :: rest =>
      (∀ mode, e.mode = some mode → newestMode rest = mode ∧ mode ≠ .unknown) ∧ Bracketed rest

/-- The callbacks of a history. -/
def callbacksOf (trace : List Event) : List Event :=
  trace.filter (fun e => e.mode.isSome)

theorem Bracketed.split {later earlier : List Event} {e : Event} {mode : Mode}
    (h : Bracketed (later ++ e :: earlier)) (hmode : e.mode = some mode) :
    newestMode earlier = mode ∧ mode ≠ .unknown := by
  induction later with
  | nil => exact h.1 mode hmode
  | cons e' later ih => exact ih h.2

/-- The callbacks are bracketed, and the newest session is the running one. -/
structure InSession (σ : State) : Prop where
  bracketed : Bracketed σ.trace
  newest : σ.currentMode ≠ .unknown → newestMode σ.trace = σ.currentMode

section

variable {cb : Callbacks} {σ σ' : State} {t : Tid} {i : Input} {news : List Event}
  {ok : State → Tid × Input → Prop}

/-- A step calls back in the running mode only, and only the start of a session
changes which one is the newest. -/
theorem Written.bracketed (hw : Written cb σ t news) (h : InSession σ) :
    Bracketed (news ++ σ.trace) ∧
      (σ.currentMode ≠ .unknown → newestMode (news ++ σ.trace) = newestMode σ.trace) := by
  have hserver : σ.currentMode = .server → newestMode σ.trace = .server :=
    fun hmode => (h.newest (by rw [hmode]; simp)).trans hmode
  have hclient : σ.currentMode = .client → newestMode σ.trace = .client :=
    fun hmode => (h.newest (by rw [hmode]; simp)).trans hmode
  cases hw with
  | nothing => exact ⟨h.bracketed, fun _ => rfl⟩
  | session mode hmode => exact ⟨⟨by simp [Event.mode], h.bracketed⟩, fun hne => absurd hmode.1 hne⟩
  | retire a r ha hmode =>
      have hnewest := hserver hmode
      unfold reportOf
      split <;> simp [Bracketed, Event.mode, newestMode, hnewest, h.bracketed]
  | decide s c hstage hmode =>
      simp [Bracketed, Event.mode, newestMode, hserver hmode, h.bracketed]
  | deliver a ha hmode =>
      simp [Bracketed, Event.mode, newestMode, hserver hmode, h.bracketed]
  | clientData hp ht hmode =>
      simp [Bracketed, Event.mode, newestMode, hclient hmode, h.bracketed]
  | clientReport hp ht hmode =>
      simp [Bracketed, Event.mode, newestMode, hclient hmode, h.bracketed]
  | _ => exact ⟨⟨by simp [Event.mode], h.bracketed⟩, fun _ => rfl⟩

/-- Without a mode nothing is called back. -/
theorem Written.silent (hw : Written cb σ t news) (hmode : σ.currentMode = .unknown) :
    callbacksOf (news ++ σ.trace) = callbacksOf σ.trace := by
  cases hw with
  | decide s c hstage hserver => simp [hmode] at hserver
  | retire a r ha hserver => simp [hmode] at hserver
  | deliver a ha hserver => simp [hmode] at hserver
  | clientData hp ht hclient => simp [hmode] at hclient
  | clientReport hp ht hclient => simp [hmode] at hclient
  | _ => rfl

/-- The mode changes when a session starts and when it ends. -/
theorem Move.mode_cases (hl : Locks σ) (hlife : Lifecycle σ) (hm : Move cb σ t i σ') :
    σ'.currentMode = σ.currentMode ∨ σ'.currentMode = .unknown ∨
      newestMode σ'.trace = σ'.currentMode := by
  cases hm with
  | publishServer hp hfree => exact .inr (.inr rfl)
  | publishClient hp hfree => exact .inr (.inr rfl)
  | publishFault server client mode hp hjoinable =>
      exact absurd (hlife.at_publish hl hp).2 hjoinable
  | joinWorkerClient hp hmode hjoin => exact .inr (.inl rfl)
  | joinEvent hp hjoin => exact .inr (.inl rfl)
  | _ => exact .inl rfl

theorem inSession_reachable (h : (system cb).ReachableUnder ok σ) : InSession σ := by
  refine invariant_of_moves (P := InSession) ?_ ?_ h
  · exact ⟨trivial, fun hne => absurd rfl hne⟩
  · intro σ t i σ' hreach hs _ _ hm
    obtain ⟨news, htrace, hw⟩ := written_of_move hreach hm
    obtain ⟨hbracketed, hnewest⟩ := hw.bracketed hs
    refine ⟨htrace ▸ hbracketed, fun hne => ?_⟩
    rcases hm.mode_cases (locks_reachable hreach) (lifecycle_reachable hreach) with
      hsame | hunknown | hstarted
    · rw [hsame] at hne ⊢
      rw [htrace, hnewest hne, hs.newest hne]
    · exact absurd hunknown hne
    · exact hstarted

/-- **Callbacks belong to a session.**  Between two starts of a session every
callback is invoked in the mode of the first, never in the other mode; and as
long as an object has no mode no step of any thread calls anything back. -/
theorem callbacks_in_session (h : (system cb).Reachable σ) :
    (∀ later e earlier mode, σ.trace = later ++ e :: earlier → e.mode = some mode →
      newestMode earlier = mode ∧ mode ≠ .unknown) ∧
    (σ.currentMode = .unknown → ∀ t i σ', (system cb).step σ (t, i) = some σ' →
      callbacksOf σ'.trace = callbacksOf σ.trace) := by
  constructor
  · intro later e earlier mode htrace hmode
    have hbracketed := (inSession_reachable h).bracketed
    rw [htrace] at hbracketed
    exact hbracketed.split hmode
  · intro hmode t i σ' hstep
    obtain ⟨news, htrace, hw⟩ := written_of_move h (step_move hstep).2
    rw [htrace]
    exact hw.silent hmode

end

/-- Two sessions of one object: a server whose client is closed by `stop`, and
then a client that receives one message before its connection breaks. -/
def twoSessionsRun : List (Tid × Input) :=
  startServerRun (.app 0) (testServer 1) 5 ++ serverUpRun 1 3 ++
    schedule (.worker 1) [.tau, .answer 9, .candidate (some 3), .answer 0] ++
    schedule (.app 0) [.call .stop, .tau, .tau, .answer 0, .tau, .answer 0, .done, .tau] ++
    schedule (.worker 1) [.tau] ++ schedule (.event 1) [.tau, .answer 0] ++
    schedule (.app 0) [.tau, .tau, .tau] ++
    startClientRun (.app 0) (testClient 7) 6 ++
    schedule (.worker 2) [.tau, .answer 100, .done, .tau, .answer SRT_ERROR, .done]

/-- The callbacks of the two sessions do not mix. -/
theorem callbacks_in_session_two :
    ∃ σ, (system allCallbacks).Reachable σ ∧
      σ.trace.filterMap Event.mode = [.client, .client, .server, .server] ∧
      ∀ later e earlier mode, σ.trace = later ++ e :: earlier → e.mode = some mode →
        newestMode earlier = mode ∧ mode ≠ .unknown := by
  have hreach := StepSystem.reachable_get (M := system allCallbacks) twoSessionsRun rfl
  exact ⟨_, hreach, by decide, (callbacks_in_session hreach).1⟩

/-! ## The callbacks of a client session -/

/-- The callbacks about a socket, newest first. -/
def State.callbacks (σ : State) (s : SRTSOCKET) : List Event :=
  callbacksOf (σ.calls s)

/-- `n` messages, and perhaps the report behind them (newest first). -/
def clientCallbacks (c : Option Context) (s : SRTSOCKET) (n : ℕ) (reported : Bool) :
    List Event :=
  (if reported then [.clientDisconnected .client c s] else []) ++
    List.replicate n (.received .client c s)

/-- `clientWorker` receives no more. -/
def Pc.pastReport : Pc → Bool
  | .callback .clientReport _ | .clientWorker .exit | .finished => true
  | _ => false

/-- What the callbacks of a client session depend on. -/
structure ClientSide where
  currentMode : Mode
  context : SRTSOCKET
  clientContext : Option Context
  session : Nat
  created : List SRTSOCKET

/-- What the callbacks of a client session depend on. -/
def State.clientSide (σ : State) : ClientSide where
  currentMode := σ.currentMode
  context := σ.context
  clientContext := σ.clientContext
  session := σ.session
  created := σ.created

/-- Sockets that the object created are called back about in client sessions
only, in order, and the running session carries its own context. -/
structure ClientStory (σ : State) : Prop where
  created : ∀ s ∈ σ.created, ∃ c n reported, σ.callbacks s = clientCallbacks c s n reported
  running : σ.currentMode = .client → ∃ n reported,
    σ.callbacks σ.context = clientCallbacks σ.clientContext σ.context n reported ∧
      (reported = true → (σ.pc (.worker σ.session)).pastReport = true)
  starting : ∀ t, (σ.pc t).working = true → σ.callbacks σ.context = []

section

variable {cb : Callbacks} {σ σ' : State} {t : Tid} {i : Input} {news : List Event}
  {ok : State → Tid × Input → Prop}

/-- What is written elsewhere than in `clientWorker` is no callback about a
socket that the object created. -/
theorem Written.callbacks_eq (hw : Written cb σ t news) (hclients : Clients cb σ)
    (hsock : Sockets σ) (hregistry : Registry σ) (hne : σ.pc t ≠ .clientWorker .recv)
    (htrace : σ'.trace = news ++ σ.trace) :
    ∀ s ∈ σ.created, σ'.callbacks s = σ.callbacks s := by
  intro s hs
  have hother : ∀ s' ∈ σ.accepted, s' ≠ s := by
    intro s' hs' heq
    exact hsock.not_created hs' (heq ▸ hs)
  suffices hnone : callbacksOf (news.filter (fun e => e.socket = some s)) = [] by
    unfold State.callbacks
    rw [State.calls_of_trace htrace]
    unfold callbacksOf at hnone ⊢
    rw [List.filter_append, hnone, List.nil_append]
  unfold callbacksOf
  cases hw with
  | decide s' c hstage hmode =>
      have hs' := hother s' (hclients.known s' (by rw [hstage]; exact List.mem_singleton_self _))
      simp [Event.socket, hs']
  | retire a r ha hmode =>
      have hs' := hother a.1 (accepted_of_live hclients hregistry ha).2
      rw [List.filter_append, filter_reportOf, if_neg hs']
      simp [Event.socket, hs']
  | deliver a ha hmode =>
      have hs' := hother a.1 (accepted_of_live hclients hregistry ha).2
      simp [Event.socket, hs']
  | clientData hp ht hmode => exact absurd hp hne
  | clientReport hp ht hmode => exact absurd hp hne
  | nothing => rfl
  | _ => simp [List.filter_cons, Event.socket, Event.mode]

/-- Steps outside client sessions. -/
theorem ClientStory.elsewhere (h : ClientStory σ) (hsock : Sockets σ)
    (hmode : σ'.currentMode ≠ .client) (hcontext : σ'.context = σ.context)
    (hcreated : σ'.created = σ.created)
    (hcalls : ∀ s ∈ σ.created, σ'.callbacks s = σ.callbacks s)
    (hwork : ∀ u, (σ'.pc u).working = true → ∃ w, (σ.pc w).working = true) :
    ClientStory σ' := by
  refine ⟨?_, fun hm => absurd hm hmode, ?_⟩
  · intro s hs
    rw [hcreated] at hs
    rw [hcalls s hs]
    exact h.created s hs
  · intro u hu
    obtain ⟨w, hw⟩ := hwork u hu
    rw [hcontext, hcalls _ (hsock.context (.inr ⟨w, hw⟩))]
    exact h.starting w hw

/-- Steps that leave the object's own socket and its session alone. -/
theorem ClientStory.quiet (h : ClientStory σ) (hsock : Sockets σ) {p q : Pc} (hp : σ.pc t = p)
    (hpc : σ'.pc = Function.update σ.pc t q) (hside : σ'.clientSide = σ.clientSide)
    (hcalls : ∀ s ∈ σ.created, σ'.callbacks s = σ.callbacks s)
    (hwork : q.working = true → p.working = true)
    (hpast : p.pastReport = true → q.pastReport = true) : ClientStory σ' := by
  have hmode : σ'.currentMode = σ.currentMode := congrArg ClientSide.currentMode hside
  have hcontext : σ'.context = σ.context := congrArg ClientSide.context hside
  have hclient : σ'.clientContext = σ.clientContext := congrArg ClientSide.clientContext hside
  have hsession : σ'.session = σ.session := congrArg ClientSide.session hside
  have hcreated : σ'.created = σ.created := congrArg ClientSide.created hside
  refine ⟨?_, ?_, ?_⟩
  · intro s hs
    rw [hcreated] at hs
    rw [hcalls s hs]
    exact h.created s hs
  · intro hm
    rw [hmode] at hm
    obtain ⟨n, reported, hstory, hreported⟩ := h.running hm
    refine ⟨n, reported, ?_, fun hr => ?_⟩
    · rw [hcontext, hclient, hcalls _ (hsock.context (.inl (by rw [hm]; simp)))]
      exact hstory
    · rw [hpc, hsession]
      by_cases heq : Tid.worker σ.session = t
      · rw [heq, Function.update_self]
        exact hpast (hp ▸ heq ▸ hreported hr)
      · rw [Function.update_of_ne heq]
        exact hreported hr
  · intro u hu
    have hold : ∃ w, (σ.pc w).working = true := by
      rw [hpc] at hu
      rcases of_update (P := fun p => p.working = true) hu with ⟨-, hq⟩ | hold
      · exact ⟨t, hp ▸ hwork hq⟩
      · exact ⟨u, hold⟩
    obtain ⟨w, hw⟩ := hold
    rw [hcontext, hcalls _ (hsock.context (.inr ⟨w, hw⟩))]
    exact h.starting w hw

/-- The worker of a client session calls back. -/
theorem ClientStory.callback (h : ClientStory σ) (hl : Locks σ) (hlife : Lifecycle σ)
    (hp : σ.pc (.worker σ.session) = .clientWorker .recv) (hmode : σ.currentMode = .client)
    {e : Event} {q : Pc} (hq : q.working = false)
    (hpc : σ'.pc = Function.update σ.pc (.worker σ.session) q)
    (hside : σ'.clientSide = σ.clientSide) (htrace : σ'.trace = [e] ++ σ.trace)
    (hsocket : e.socket = some σ.context)
    (hevent : e = .received .client σ.clientContext σ.context ∨
      e = .clientDisconnected .client σ.clientContext σ.context ∧ q.pastReport = true) :
    ClientStory σ' := by
  have hmode' : σ'.currentMode = σ.currentMode := congrArg ClientSide.currentMode hside
  have hcontext : σ'.context = σ.context := congrArg ClientSide.context hside
  have hclient : σ'.clientContext = σ.clientContext := congrArg ClientSide.clientContext hside
  have hsession : σ'.session = σ.session := congrArg ClientSide.session hside
  have hcreated : σ'.created = σ.created := congrArg ClientSide.created hside
  obtain ⟨n, reported, hstory, hreported⟩ := h.running hmode
  -- the worker is in its loop, so nothing has been reported
  have hquiet : reported = false := by
    by_contra hr
    have hpast := hreported (by simpa using hr)
    rw [hp] at hpast
    cases hpast
  subst hquiet
  have hcalled : e.mode.isSome = true := by
    rcases hevent with rfl | ⟨rfl, -⟩ <;> rfl
  have hself : σ'.callbacks σ.context = e :: σ.callbacks σ.context := by
    unfold State.callbacks callbacksOf
    rw [State.calls_of_trace htrace]
    simp [hsocket, hcalled]
  have hothers : ∀ s, s ≠ σ.context → σ'.callbacks s = σ.callbacks s := by
    intro s hs
    unfold State.callbacks callbacksOf
    rw [State.calls_of_trace htrace]
    simp [hsocket, Ne.symm hs]
  have hnew : ∃ n' reported', σ'.callbacks σ.context =
      clientCallbacks σ.clientContext σ.context n' reported' ∧
        (reported' = true → q.pastReport = true) := by
    rw [hself, hstory]
    rcases hevent with rfl | ⟨rfl, hpast⟩
    · exact ⟨n + 1, false, by simp [clientCallbacks, List.replicate_succ], by simp⟩
    · exact ⟨n, true, by simp [clientCallbacks], fun _ => hpast⟩
  obtain ⟨n', reported', hcallbacks, hpast⟩ := hnew
  refine ⟨?_, ?_, ?_⟩
  · intro s hs
    rw [hcreated] at hs
    by_cases heq : s = σ.context
    · rw [heq]
      exact ⟨_, n', reported', hcallbacks⟩
    · rw [hothers s heq]
      exact h.created s hs
  · intro _
    rw [hcontext, hclient, hpc, hsession, Function.update_self]
    exact ⟨n', reported', hcallbacks, hpast⟩
  · intro u hu
    rw [hpc] at hu
    rcases of_update (P := fun p => p.working = true) hu with ⟨-, hnew⟩ | hold
    · simp [hq] at hnew
    · simp [hlife.working_mode hl hold] at hmode

theorem Silent.pastReport {p p' : Pc} (h : Silent p p') (hp : p.pastReport = true) :
    p'.pastReport = true := by
  cases h with
  | lockFree site => exact hp
  | clientReportDone => rfl
  | _ => cases hp

theorem callback_pastReport {site : CallbackSite} {pc pc' : CallbackPc}
    (h : (Pc.callback site pc).pastReport = true) : (Pc.callback site pc').pastReport = true := by
  cases site with
  | clientReport => rfl
  | _ => cases h

theorem ClientStory.move (h : ClientStory σ) (hl : Locks σ) (hlife : Lifecycle σ)
    (hsock : Sockets σ) (htold : Told cb σ)
    (hcalls : σ.pc t ≠ .clientWorker .recv → ∀ s ∈ σ.created, σ'.callbacks s = σ.callbacks s)
    (hm : Move cb σ t i σ') : ClientStory σ' := by
  cases hm with
  | silent hp hs =>
      exact h.quiet hsock hp rfl rfl (fun _ _ => rfl) (by rw [hs.working_eq]; exact id)
        hs.pastReport
  | enter c hp =>
      exact h.quiet hsock hp rfl rfl (fun _ _ => rfl) (by cases c <;> simp [Call.enter, Pc.working,
        StartPc.working]) (fun hpast => by cases hpast)
  | askStatistics hp =>
      exact h.quiet hsock hp rfl rfl (fun _ _ => rfl) (fun hq => by cases hq) callback_pastReport
  | takeNet hp hs hfree =>
      refine h.quiet hsock hp rfl rfl (fun _ _ => rfl)
        (fun hq => by cases hs <;> cases hq) (fun hpast => ?_)
      cases hs with
      | callback site => exact callback_pastReport hpast
      | _ => cases hpast
  | dropNet hp hs =>
      refine h.quiet hsock hp rfl rfl (fun _ _ => rfl)
        (fun hq => by cases hs <;> cases hq) (fun hpast => ?_)
      cases hs with
      | callback site => exact callback_pastReport hpast
      | _ => cases hpast
  | startCheck connection client hp hmode =>
      refine h.elsewhere hsock (by simp [hmode]) rfl rfl (fun _ _ => rfl) (fun u hu => ?_)
      rcases of_update (P := fun p => p.working = true) hu with ⟨-, hq⟩ | hold
      · cases hq
      · exact ⟨u, hold⟩
  | createFail hp =>
      obtain ⟨hmode, hwork⟩ := no_session_at_create hl hlife hp
      refine ⟨h.created, fun hm => absurd hm (by simp [hmode]), fun u hu => ?_⟩
      rcases of_update (P := fun p => p.working = true) hu with ⟨-, hq⟩ | hold
      · cases hq
      · simp [hwork u] at hold
  | create hp hpc hs =>
      rename_i call pc s
      obtain ⟨hmode, hwork⟩ := no_session_at_create hl hlife hp
      have hold := hcalls (by rw [hp]; simp)
      -- nothing has been called about the new socket
      have hnew : State.callbacks (({ σ with context := s }.emit (.srtCreateSocket s)).goto t
          (.start call pc)) s = [] := by
        have hcreated : s ∉ σ.created := fun hmem => hs.2 (State.mem_sockets.mpr (.inl hmem))
        obtain ⟨chapter, hchapter⟩ := htold s hcreated
        rw [Told.unknown hchapter hs.2] at hchapter
        have htrace : (({ σ with context := s }.emit (.srtCreateSocket s)).goto t
            (.start call pc)).trace = [.srtCreateSocket s] ++ σ.trace := rfl
        unfold State.callbacks callbacksOf
        rw [State.calls_of_trace htrace, hchapter]
        simp [Event.socket, Event.mode, Chapter.calls]
      refine ⟨?_, fun hm => absurd hm (by simp [hmode]), fun _ _ => hnew⟩
      intro s' hs'
      rcases List.mem_cons.mp hs' with rfl | hmem
      · exact ⟨none, 0, false, hnew⟩
      · rw [hold s' hmem]
        exact h.created s' hmem
  | publishServer hp hfree =>
      exact h.elsewhere hsock (by simp) rfl rfl (hcalls (by rw [hp]; simp))
        (fun _ _ => ⟨t, by rw [hp]; rfl⟩)
  | publishClient hp hfree =>
      have hstart := h.starting t (by rw [hp]; rfl)
      have hsame := hcalls (by rw [hp]; simp) _ (hsock.context (.inr ⟨t, by rw [hp]; rfl⟩))
      refine ⟨?_, fun _ => ⟨0, false, hsame.trans hstart, by simp⟩, fun _ _ => hsame.trans hstart⟩
      intro s hs
      rw [hcalls (by rw [hp]; simp) s hs]
      exact h.created s hs
  | publishFault server client mode hp hjoinable =>
      exact absurd (hlife.at_publish hl hp).2 hjoinable
  | stopClose hp hr =>
      rename_i mode _
      exact h.quiet hsock hp rfl rfl (hcalls (by rw [hp]; simp))
        (fun hq => by cases mode <;> cases hq) (fun hpast => by cases hpast)
  | stopSkipClose hp hcontext =>
      rename_i mode
      exact h.quiet hsock hp rfl rfl (fun _ _ => rfl)
        (fun hq => by cases mode <;> cases hq) (fun hpast => by cases hpast)
  | joinWorkerClient hp hmode hjoin =>
      refine h.elsewhere hsock (by simp) rfl rfl (fun _ _ => rfl) (fun u hu => ?_)
      rcases of_update (P := fun p => p.working = true) hu with ⟨-, hq⟩ | hold
      · cases hq
      · exact ⟨u, hold⟩
  | joinEvent hp hjoin =>
      refine h.elsewhere hsock (by simp) rfl rfl (fun _ _ => rfl) (fun u hu => ?_)
      rcases of_update (P := fun p => p.working = true) hu with ⟨-, hq⟩ | hold
      · cases hq
      · exact ⟨u, hold⟩
  | sweepClear hp =>
      rename_i caller
      exact h.quiet hsock hp rfl rfl (fun _ _ => rfl) (fun hq => by cases caller <;> cases hq)
        (fun hpast => by cases hpast)
  | spawnEvent ready hp hfree =>
      have hmode := hlife.accept_mode _ (by rw [hp]; rfl)
      refine h.elsewhere hsock (by simp [hmode]) rfl rfl (fun _ _ => rfl) (fun u hu => ?_)
      rcases of_update (P := fun p => p.working = true) hu with ⟨-, hq⟩ | hmid
      · cases hq
      · rcases of_update (P := fun p => p.working = true) hmid with ⟨-, hq⟩ | hold
        · cases hq
        · exact ⟨u, hold⟩
  | spawnFault => exact ⟨h.created, h.running, h.starting⟩
  | readEnd => exact ⟨h.created, h.running, h.starting⟩
  | clientReport hp hcb =>
      obtain rfl := hlife.client_session (by rw [hp]; rfl)
      exact h.callback hl hlife hp (hlife.client_worker hp).2 rfl rfl rfl rfl rfl
        (.inr ⟨rfl, rfl⟩)
  | clientQuiet hp hcb =>
      exact h.quiet hsock hp rfl rfl (fun _ _ => rfl) (fun hq => by cases hq)
        (fun hpast => by cases hpast)
  | clientData hp =>
      obtain rfl := hlife.client_session (by rw [hp]; rfl)
      exact h.callback hl hlife hp (hlife.client_worker hp).2 rfl rfl rfl rfl rfl (.inl rfl)
  | clientDone hp =>
      exact h.quiet hsock hp rfl rfl (fun _ _ => rfl) (fun hq => by cases hq) (fun _ => rfl)
  | _ =>
      exact h.quiet hsock (by assumption) rfl rfl (hcalls (by simp [*]))
        (fun hq => by cases hq) (fun hpast => by cases hpast)

theorem clientStory_reachable (h : (system cb).ReachableUnder ok σ) : ClientStory σ := by
  refine invariant_of_moves (P := ClientStory) ?_ ?_ h
  · exact ⟨fun s hs => (nomatch hs), fun hmode => (nomatch hmode), fun t ht => (nomatch ht)⟩
  · intro σ t i σ' hreach hs _ _ hm
    obtain ⟨news, htrace, hw⟩ := written_of_move hreach hm
    exact hs.move (locks_reachable hreach) (lifecycle_reachable hreach)
      (sockets_reachable hreach) (told_reachable hreach)
      (fun hne => hw.callbacks_eq (clients_reachable hreach) (sockets_reachable hreach)
        (registry_reachable hreach) hne htrace) hm

/-- **The callbacks of a client.**  The callbacks about a socket that a start
call created are messages, and at most one report behind them, all in client
mode and with one context; while the session runs it is the session's own, and
after the report `clientWorker` only finishes. -/
theorem client_session_callbacks (h : (system cb).Reachable σ) :
    (∀ s, .srtCreateSocket s ∈ σ.trace →
      ∃ c n reported, σ.callbacks s = clientCallbacks c s n reported) ∧
    (σ.currentMode = .client → ∃ n reported,
      σ.callbacks σ.context = clientCallbacks σ.clientContext σ.context n reported ∧
        (reported = true → (σ.pc (.worker σ.session)).pastReport = true)) := by
  have hstory := clientStory_reachable h
  exact ⟨fun s hs => hstory.created s (State.mem_created.mpr hs), hstory.running⟩

end

/-- The client session received one message and was reported. -/
theorem client_session_callbacks_second :
    ∃ σ, (system allCallbacks).Reachable σ ∧
      σ.callbacks 6 = clientCallbacks (some 7) 6 1 true ∧
      ∃ c n reported, σ.callbacks 6 = clientCallbacks c 6 n reported := by
  have hreach := StepSystem.reachable_get (M := system allCallbacks) twoSessionsRun rfl
  exact ⟨_, hreach, by decide, (client_session_callbacks hreach).1 6 (by decide)⟩

end SrtNet
